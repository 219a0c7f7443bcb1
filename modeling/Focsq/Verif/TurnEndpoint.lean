import Focsq.Backend.TurnEndpoint
import Focsq.Verif.Resolve

/-!
# URIs of TURN servers

An endpoint can be written as a URI, with the transport named or not and with other parameters
around it, and it is read again from there, whatever the case of the letters is. What is written for
the host and the port is what the resolver reads: an address stays one, and a name is looked up.
-/

namespace Focsq.Endpoint

section Writing

/-- The scheme for a transport. -/
def TurnWireTransport.scheme : TurnWireTransport → Text
  | .udp | .tcp => "turn:".toList
  | .tls => "turns:".toList

/-- The name of a transport in a URI. -/
def TurnWireTransport.uriTransport : TurnWireTransport → UriTransport
  | .udp => .udp
  | .tcp | .tls => .tcp

/-- The name of a transport. -/
def UriTransport.name : UriTransport → Text
  | .udp => "udp".toList
  | .tcp => "tcp".toList

/-- The mode in which a transport is used. -/
def TurnWireTransport.mode : TurnWireTransport → TurnTransportMode
  | .udp => .udp
  | .tcp | .tls => .tcpTls

/-- The URI of an endpoint, with parameters. -/
def TurnEndpoint.uri (endpoint : TurnEndpoint) (scheme : Text) (parameters : List Text) : Text :=
  scheme ++ (endpoint.socketAuthority ++ '?' :: ['&'].intercalate parameters)

/-- Whether a parameter names the transport. -/
def namesTransport (parameter : Text) : Bool :=
  Str.toAsciiLowercase (keyValue parameter).1 == "transport".toList

/-- A scheme and parameters as they can be written for a transport. -/
structure Written (transport : TurnWireTransport) (scheme : Text) (parameters : List Text) :
    Prop where
  /-- Letters of the scheme may be of either case. -/
  scheme : Str.toAsciiLowercase scheme = transport.scheme
  /-- Parameters do not contain what separates them. -/
  apart : ∀ parameter ∈ parameters, '&' ∉ parameter
  /-- They do not end with white space. -/
  dark : ∀ parameter ∈ parameters, parameter.getLast?.any Str.isWhitespace = false
  /-- The transport is named once at most. -/
  once : (parameters.filter namesTransport).length ≤ 1
  /-- No other transport is named. -/
  named : ∀ parameter ∈ parameters, namesTransport parameter = true →
    Str.toAsciiLowercase (keyValue parameter).2 = transport.uriTransport.name

/-- Whether a host is found again in what is written for it. -/
def Readable (host : Text) : Prop :=
  if ':' ∈ host then ¬[']', ':'] <:+: host else host.head? ≠ some '['

instance decidableReadable (host : Text) : Decidable (Readable host) :=
  inferInstanceAs (Decidable (if ':' ∈ host then ¬[']', ':'] <:+: host else host.head? ≠ some '['))

end Writing

section Authority

variable {host : Text} {port : UInt16}

/-- Digits are no separators. -/
theorem notMem_toDigits {char : Char} (other : char.isDigit = false) (value : Nat) :
    char ∉ Nat.toDigits 10 value := by
  intro member
  have digit := Nat.isDigit_of_mem_toDigits (by decide) (by decide) member
  rw [other] at digit
  cases digit

/-- A port is read as it was written. -/
theorem parsePort_toDigits (port : UInt16) :
    parsePort (Nat.toDigits 10 port.toNat) = .ok port := by
  rw [parsePort, Str.parseUnsigned_toDigits port.toNat_lt]
  exact congrArg Except.ok UInt16.ofNat_toNat

/-- A host in brackets is read if the brackets do not close in it. -/
theorem parseBracketed_append (free : ¬[']', ':'] <:+: host) (scheme : TurnScheme) :
    parseBracketed (host ++ ']' :: ':' :: Nat.toDigits 10 port.toNat) scheme =
      .ok (host, port) := by
  have behind : (host ++ ']' :: ':' :: Nat.toDigits 10 port.toNat).drop (host.length + 2) =
      Nat.toDigits 10 port.toNat := by
    rw [List.drop_length_add_append]
    rfl
  have split : Str.splitOnce [']', ':'] (host ++ ']' :: ':' :: Nat.toDigits 10 port.toNat) =
      some (host, Nat.toDigits 10 port.toNat) := by
    rw [Str.splitOnce, Str.indexOf_pair (by decide) free, Option.map_some, List.take_left]
    exact congrArg (fun rest => some (host, rest)) behind
  rw [parseBracketed, split]
  dsimp only
  rw [parsePort_toDigits]
  rfl

/-- What is read from brackets is in front of where they close. -/
theorem parseBracketed_host {rest front : Text} {index : Nat}
    (closes : Text.indexOf [']', ':'] rest = some index) {scheme : TurnScheme}
    (read : parseBracketed rest scheme = .ok (front, port)) : front = rest.take index := by
  rw [parseBracketed, Str.splitOnce, closes, Option.map_some] at read
  dsimp only at read
  cases parsed : parsePort (rest.drop (index + [']', ':'].length)) with
  | error reason =>
    rw [parsed] at read
    cases read
  | ok number =>
    rw [parsed] at read
    cases read
    rfl

/-- A host in which brackets close is not read again. -/
theorem parseBracketed_closed (closed : [']', ':'] <:+: host) (scheme : TurnScheme) :
    parseBracketed (host ++ ']' :: ':' :: Nat.toDigits 10 port.toNat) scheme ≠
      .ok (host, port) := by
  intro read
  obtain ⟨index, found⟩ := Option.isSome_iff_exists.mp ((Text.contains_iff _ _).mpr closed)
  have front := parseBracketed_host (Text.indexOf_extend found _) read
  obtain ⟨behind, starts⟩ := Text.drop_of_indexOf found
  have lengths := congrArg List.length starts
  have length := congrArg List.length front
  rw [List.length_drop, List.length_append, List.length_cons, List.length_cons] at lengths
  rw [List.length_take, List.length_append] at length
  omega

/-- A host that begins with a bracket and has no colon is not read again. -/
theorem parseBracketed_open {more : Text} (noColon : ':' ∉ more) (scheme : TurnScheme) :
    parseBracketed (more ++ ':' :: Nat.toDigits 10 port.toNat) scheme ≠
      .ok ('[' :: more, port) := by
  intro read
  have free : ':' ∉ '[' :: more := by simpa using noColon
  cases closes : Text.indexOf [']', ':'] (more ++ ':' :: Nat.toDigits 10 port.toNat) with
  | some index =>
    have front := parseBracketed_host closes read
    obtain ⟨behind, starts⟩ := Text.drop_of_indexOf closes
    have whole := List.take_append_drop index (more ++ ':' :: Nat.toDigits 10 port.toNat)
    rw [← front, starts] at whole
    have joined : '[' :: more ++ ([']', ':'] ++ behind) =
        ('[' :: more ++ [']']) ++ ':' :: behind := by simp
    have same := (Text.append_cons_inj_left (by simpa using noColon) noColon
      (joined.symm.trans whole)).1
    have length := congrArg List.length same
    rw [List.length_append, List.length_cons] at length
    omega
  | none =>
    rw [parseBracketed, Str.splitOnce, closes, Option.map_none] at read
    dsimp only at read
    unfold Str.stripSuffix at read
    by_cases ends : [']'].isSuffixOf (more ++ ':' :: Nat.toDigits 10 port.toNat) = true
    · rw [if_pos ends] at read
      have front : List.take _ _ = '[' :: more := congrArg Prod.fst (Except.ok.inj read)
      have last : (more ++ ':' :: Nat.toDigits 10 port.toNat).dropLast =
          more ++ ':' :: (Nat.toDigits 10 port.toNat).dropLast := by
        rw [List.dropLast_append_of_ne_nil (List.cons_ne_nil _ _),
          List.dropLast_cons_of_ne_nil Nat.toDigits_ne_nil]
      rw [List.length_singleton, ← List.dropLast_eq_take, last] at front
      exact free (front ▸ List.mem_append_right _ List.mem_cons_self)
    · rw [if_neg ends] at read
      cases read

/-- A host without colons is read in front of a port. -/
theorem parseAuthority_plain (nonempty : host ≠ []) (noColon : ':' ∉ host)
    (noBracket : host.head? ≠ some '[') (scheme : TurnScheme) :
    parseAuthority (host ++ ':' :: Nat.toDigits 10 port.toNat) scheme = .ok (host, port) := by
  have digits : ':' ∉ Nat.toDigits 10 port.toNat := notMem_toDigits rfl _
  have once : (host ++ ':' :: Nat.toDigits 10 port.toNat).count ':' = 1 := by
    rw [List.count_append, List.count_cons_self, List.count_eq_zero.mpr noColon,
      List.count_eq_zero.mpr digits]
  have unlike : Str.stripPrefix ['['] (host ++ ':' :: Nat.toDigits 10 port.toNat) = none := by
    cases host with
    | nil => exact absurd rfl nonempty
    | cons first more =>
      have other : '[' ≠ first := fun same => noBracket (same ▸ rfl)
      simp [Str.stripPrefix, other]
  rw [parseAuthority, unlike]
  dsimp only
  rw [once, if_neg (Nat.lt_irrefl 1), Str.rsplitOnce_append digits]
  dsimp only
  rw [List.isEmpty_eq_false_iff.mpr nonempty, if_neg Bool.false_ne_true, parsePort_toDigits]
  rfl

/-- What is written for a host and a port is read as them if and only if the host can be found
again. -/
theorem parseAuthority_socketAuthority (endpoint : TurnEndpoint) (nonempty : endpoint.host ≠ [])
    (scheme : TurnScheme) :
    parseAuthority endpoint.socketAuthority scheme = .ok (endpoint.host, endpoint.port) ↔
      Readable endpoint.host := by
  unfold TurnEndpoint.socketAuthority Readable
  dsimp only
  by_cases colon : ':' ∈ endpoint.host
  · rw [if_pos colon, if_pos colon]
    show parseBracketed (endpoint.host ++ ']' :: ':' :: _) scheme = _ ↔ _
    constructor
    · intro read closed
      exact parseBracketed_closed closed scheme read
    · exact fun free => parseBracketed_append free scheme
  · rw [if_neg colon, if_neg colon]
    constructor
    · intro read bracket
      cases shape : endpoint.host with
      | nil => exact nonempty shape
      | cons first more =>
        rw [shape] at bracket read colon
        cases bracket
        exact parseBracketed_open (fun member => colon (List.mem_cons_of_mem _ member)) scheme read
    · exact fun noBracket => parseAuthority_plain nonempty colon noBracket scheme

end Authority

section Parameters

variable {transport : TurnWireTransport} {parameters : List Text}

/-- A parameter that does not name a transport is passed over. -/
theorem readParameter_other {parameter : Text} (other : namesTransport parameter = false)
    (named : Option UriTransport) : readParameter named parameter = .ok named := by
  unfold readParameter
  dsimp only
  rw [if_neg (by simpa [namesTransport] using other)]
  rfl

/-- The transport is taken from a parameter that names it. -/
theorem readParameter_named {parameter : Text} {uriTransport : UriTransport}
    (names : namesTransport parameter = true)
    (value : Str.toAsciiLowercase (keyValue parameter).2 = uriTransport.name) :
    readParameter none parameter = .ok (some uriTransport) := by
  have parsed : readTransport (keyValue parameter).2 = .ok uriTransport := by
    rw [readTransport, value]
    cases uriTransport <;> rfl
  unfold readParameter
  dsimp only
  rw [if_pos (by simpa [namesTransport] using names), parsed]
  rfl

/-- Parameters that do not name a transport change nothing. -/
theorem foldlM_other (others : ∀ parameter ∈ parameters, namesTransport parameter = false)
    (named : Option UriTransport) : parameters.foldlM readParameter named = .ok named := by
  induction parameters with
  | nil => rfl
  | cons parameter rest ih =>
    rw [List.foldlM_cons, readParameter_other (others parameter List.mem_cons_self)]
    exact ih fun other member => others other (List.mem_cons_of_mem _ member)

/-- What parameters that name a transport once at most say. -/
def saidBy (transport : TurnWireTransport) (parameters : List Text) : Option UriTransport :=
  if (parameters.filter namesTransport).isEmpty then none else some transport.uriTransport

/-- The transport that is named once is found. -/
theorem foldlM_named (once : (parameters.filter namesTransport).length ≤ 1)
    (named : ∀ parameter ∈ parameters, namesTransport parameter = true →
      Str.toAsciiLowercase (keyValue parameter).2 = transport.uriTransport.name) :
    parameters.foldlM readParameter none = .ok (saidBy transport parameters) := by
  induction parameters with
  | nil => rfl
  | cons parameter rest ih =>
    have later := fun other member => named other (List.mem_cons_of_mem parameter member)
    rw [List.foldlM_cons]
    by_cases names : namesTransport parameter = true
    · rw [List.filter_cons_of_pos names, List.length_cons] at once
      have others : ∀ other ∈ rest, namesTransport other = false := by
        have none : rest.filter namesTransport = [] := List.length_eq_zero_iff.mp (by omega)
        simpa using List.filter_eq_nil_iff.mp none
      rw [readParameter_named names (named parameter List.mem_cons_self names), saidBy,
        List.filter_cons_of_pos names]
      exact foldlM_other others _
    · rw [List.filter_cons_of_neg names] at once
      rw [readParameter_other (Bool.not_eq_true _ ▸ names), saidBy, List.filter_cons_of_neg names]
      exact ih once later

/-- Parameters are read from where they are joined. -/
theorem foldlM_joined (apart : ∀ parameter ∈ parameters, '&' ∉ parameter)
    (once : (parameters.filter namesTransport).length ≤ 1)
    (named : ∀ parameter ∈ parameters, namesTransport parameter = true →
      Str.toAsciiLowercase (keyValue parameter).2 = transport.uriTransport.name) :
    (((['&'].intercalate parameters).splitOn '&').filter fun parameter =>
        !parameter.isEmpty).foldlM readParameter none = .ok (saidBy transport parameters) := by
  have pieces : ((['&'].intercalate parameters).splitOn '&').filter (fun parameter =>
      !parameter.isEmpty) = parameters.filter fun parameter => !parameter.isEmpty := by
    cases parameters with
    | nil => rfl
    | cons first rest => rw [List.splitOn_intercalate '&' apart (List.cons_ne_nil _ _)]
  have same : (parameters.filter fun parameter => !parameter.isEmpty).filter namesTransport =
      parameters.filter namesTransport := by
    rw [List.filter_filter]
    refine List.filter_congr fun parameter _ => ?_
    cases parameter with
    | nil => rfl
    | cons first rest => simp
  rw [pieces, foldlM_named (by rw [same]; exact once) fun parameter member =>
    named parameter (List.mem_of_mem_filter member), saidBy, same]
  rfl

end Parameters

section Uri

variable {transport : TurnWireTransport} {scheme : Text} {parameters : List Text}

/-- The scheme that is read for a transport. -/
def TurnWireTransport.turnScheme : TurnWireTransport → TurnScheme
  | .udp | .tcp => .turn
  | .tls => .turns

/-- The end of parameters that are joined behind a separator is not white. -/
theorem dark_joined {separator : Char} (black : Str.isWhitespace separator = false)
    (dark : ∀ parameter ∈ parameters, parameter.getLast?.any Str.isWhitespace = false)
    (char : Char)
    (last : (separator :: ['&'].intercalate parameters).getLast? = some char) :
    Str.isWhitespace char = false := by
  induction parameters generalizing separator with
  | nil =>
    cases last
    exact black
  | cons first rest ih =>
    cases rest with
    | nil =>
      rw [List.intercalate_singleton, List.getLast?_cons] at last
      cases ends : first.getLast? with
      | none =>
        rw [ends] at last
        cases last
        exact black
      | some final =>
        rw [ends] at last
        cases last
        have known := dark first List.mem_cons_self
        rwa [ends, Option.any_some] at known
    | cons second others =>
      have joined : separator :: ['&'].intercalate (first :: second :: others) =
          (separator :: first) ++ '&' :: ['&'].intercalate (second :: others) := by
        simp [List.intercalate]
      rw [joined, List.getLast?_append_of_ne_nil _ (List.cons_ne_nil _ _)] at last
      exact ih (by decide) (fun parameter member => dark parameter (List.mem_cons_of_mem _ member))
        last

/-- A scheme is recognised in any case, and taken off. -/
theorem readScheme_append (cased : Str.toAsciiLowercase scheme = transport.scheme) (rest : Text) :
    readScheme (scheme ++ rest) = (transport.turnScheme, rest) := by
  have length : scheme.length = transport.scheme.length := by
    rw [← cased, Str.toAsciiLowercase, List.length_map]
  have lower : Str.toAsciiLowercase (scheme ++ rest) =
      transport.scheme ++ Str.toAsciiLowercase rest := by
    rw [← cased, Str.toAsciiLowercase, Str.toAsciiLowercase, Str.toAsciiLowercase, List.map_append]
  have behind : (scheme ++ rest).drop transport.scheme.length = rest := by
    rw [← length, List.drop_left]
  unfold readScheme
  dsimp only
  rw [lower]
  cases transport with
  | udp | tcp =>
    have other :
        "turns:".toList.isPrefixOf ("turn:".toList ++ Str.toAsciiLowercase rest) = false := rfl
    have starts :
        "turn:".toList.isPrefixOf ("turn:".toList ++ Str.toAsciiLowercase rest) = true := rfl
    rw [TurnWireTransport.scheme, other, if_neg Bool.false_ne_true, if_pos starts]
    exact congrArg _ behind
  | tls =>
    have starts :
        "turns:".toList.isPrefixOf ("turns:".toList ++ Str.toAsciiLowercase rest) = true := rfl
    rw [TurnWireTransport.scheme, if_pos starts]
    exact congrArg _ behind

/-- A URI has no white space at its ends. -/
theorem trim_uri (endpoint : TurnEndpoint) (written : Written transport scheme parameters) :
    Str.trim (endpoint.uri scheme parameters) = endpoint.uri scheme parameters := by
  refine Str.trim_eq_self (fun char first => ?_) fun char last => ?_
  · have cased := written.scheme
    cases shape : scheme with
    | nil =>
      rw [shape] at cased
      cases transport <;> cases cased
    | cons letter rest =>
      rw [TurnEndpoint.uri, shape] at first
      cases first
      have lower : char.toLower = 't' := by
        rw [shape, Str.toAsciiLowercase, List.map_cons] at cased
        cases transport <;> exact (List.cons.inj cased).1
      by_contra white
      have white := Bool.not_eq_false _ ▸ white
      rw [Str.toLower_whitespace white] at lower
      rw [lower] at white
      cases white
  · have apart : endpoint.uri scheme parameters =
        (scheme ++ endpoint.socketAuthority) ++ '?' :: ['&'].intercalate parameters := by
      rw [TurnEndpoint.uri, List.append_assoc]
    rw [apart, List.getLast?_append_of_ne_nil _ (List.cons_ne_nil _ _)] at last
    exact dark_joined (by decide) written.dark char last

/-- The parts of a URI are found. -/
theorem parseTurnUri_uri (endpoint : TurnEndpoint) (free : '?' ∉ endpoint.host)
    (written : Written endpoint.transport scheme parameters) :
    parseTurnUri (endpoint.uri scheme parameters) =
      .ok (endpoint.transport.turnScheme, endpoint.socketAuthority,
        saidBy endpoint.transport parameters) := by
  have digits : '?' ∉ Nat.toDigits 10 endpoint.port.toNat := notMem_toDigits rfl _
  have clear : '?' ∉ endpoint.socketAuthority := by
    unfold TurnEndpoint.socketAuthority
    dsimp only
    split <;> simp [free, digits]
  have nonempty : endpoint.socketAuthority.isEmpty = false := by
    unfold TurnEndpoint.socketAuthority
    dsimp only
    split <;> simp
  have whole : (endpoint.uri scheme parameters).isEmpty = false := by
    rw [TurnEndpoint.uri]
    simp
  have consistent : ¬(endpoint.transport.turnScheme = .turns ∧
      saidBy endpoint.transport parameters = some .udp) := by
    rintro ⟨secure, udp⟩
    unfold saidBy at udp
    cases kind : endpoint.transport with
    | udp => rw [kind] at secure; cases secure
    | tcp => rw [kind] at secure; cases secure
    | tls =>
      rw [kind] at udp
      split at udp
      · cases udp
      · cases udp
  unfold parseTurnUri
  dsimp only
  rw [trim_uri endpoint written, whole, if_neg Bool.false_ne_true]
  rw [TurnEndpoint.uri, readScheme_append written.scheme]
  dsimp only
  rw [Str.splitOnce_append clear, Option.getD_some]
  dsimp only
  rw [nonempty, if_neg Bool.false_ne_true, foldlM_joined written.apart written.once written.named]
  exact if_neg consistent

/-- The transport that a URI is written for is the one that is used. -/
theorem wireTransports_said (transport : TurnWireTransport) (parameters : List Text) :
    wireTransports transport.mode transport.turnScheme (saidBy transport parameters) =
      .ok [transport] := by
  unfold saidBy
  split <;> cases transport <;> rfl

/-- A URI is resolved to the host and the port that are read from it. -/
theorem resolve_read (endpoint : TurnEndpoint) (free : '?' ∉ endpoint.host)
    (written : Written endpoint.transport scheme parameters) :
    resolveTurnEndpoints (endpoint.uri scheme parameters) none none endpoint.transport.mode =
      (parseAuthority endpoint.socketAuthority endpoint.transport.turnScheme).bind fun read =>
        if read.1.isEmpty then .error (.bail "TURN host is empty")
        else .ok [{ host := read.1, port := read.2, transport := endpoint.transport }] := by
  unfold resolveTurnEndpoints
  rw [parseTurnUri_uri endpoint free written]
  show (parseAuthority endpoint.socketAuthority endpoint.transport.turnScheme).bind _ = _
  cases parseAuthority endpoint.socketAuthority endpoint.transport.turnScheme with
  | error reason => rfl
  | ok read =>
    obtain ⟨host, port⟩ := read
    show (if host.isEmpty then _ else _) = if host.isEmpty then _ else _
    split
    · rfl
    · rw [wireTransports_said]
      rfl

/-- An endpoint is resolved from its URI, in letters of any case and with any other parameters, if
and only if its host can be found again. -/
theorem resolve_uri (endpoint : TurnEndpoint) (nonempty : endpoint.host ≠ [])
    (free : '?' ∉ endpoint.host) (written : Written endpoint.transport scheme parameters) :
    resolveTurnEndpoints (endpoint.uri scheme parameters) none none endpoint.transport.mode =
      .ok [endpoint] ↔ Readable endpoint.host := by
  rw [resolve_read endpoint free written, ← parseAuthority_socketAuthority endpoint nonempty
    endpoint.transport.turnScheme]
  cases parseAuthority endpoint.socketAuthority endpoint.transport.turnScheme with
  | error reason => exact iff_of_false (fun same => by cases same) fun same => by cases same
  | ok read =>
    obtain ⟨host, port⟩ := read
    show (if host.isEmpty then _ else _) = _ ↔ _
    constructor
    · intro same
      split at same
      · cases same
      · have equal := (List.cons.inj (Except.ok.inj same)).1
        rw [← equal]
    · intro same
      cases same
      rw [List.isEmpty_eq_false_iff.mpr nonempty, if_neg Bool.false_ne_true]

/-- A server that is talked to in TLS. -/
def relay : TurnEndpoint := ⟨"2001:db8::7".toList, 5349, .tls⟩

/-- A parameter that says so, and another one. -/
def relayParameters : List Text := ["key=?".toList, "Transport=TCP".toList]

/-- Its URI may be written like this. -/
theorem relay_written : Written relay.transport "TURNS:".toList relayParameters where
  scheme := by decide
  apart := by decide
  dark := by decide
  once := by decide
  named := by decide

/-- It is resolved from its URI. -/
theorem relay_resolved :
    resolveTurnEndpoints (relay.uri "TURNS:".toList relayParameters) none none .tcpTls =
      .ok [relay] :=
  (resolve_uri relay (by decide) (by decide) relay_written).mpr (by decide)

end Uri

section Reached

variable {parseUrl : Text → Option Dns.Url} (network : Dns.Network)

/-- An IPv4 address has the characters of an address, but no colon. -/
theorem chars_v4 {host : Text} {octets : Bytes.Octets 4}
    (parsed : Net.parseIpAddr host = some (.v4 octets)) :
    ∀ char ∈ host, Net.isAddressChar char = true ∧ char ≠ ':' := by
  have digits (char : Char) (digit : Reader.isDigit 10 char = true) :
      Net.isAddressChar char = true ∧ char ≠ ':' := by
    refine ⟨Net.isAddressChar_of_decimal digit, ?_⟩
    rintro rfl
    cases digit
  exact (Net.within_readIpv4Addr digits ⟨rfl, by decide⟩).parsed (Net.parse_readIpv4Addr parsed)

/-- What a host is that stands for something and has no brackets. -/
theorem readable_of_denotes {host : Text} {target : Dns.Target} (denotes : Dns.Denotes host target)
    (bare : host.head? ≠ some '[') : Readable host ∧ '?' ∉ host ∧ host ≠ [] := by
  have absent (char : Char) (address : Net.isAddressChar char = false)
      (name : Dns.isNameChar char = false) : char ∉ host := by
    intro member
    cases denotes with
    | literal parsed =>
      rename_i ip
      cases ip with
      | v4 octets =>
        have inside := (chars_v4 parsed char member).1
        rw [address] at inside
        cases inside
      | v6 octets =>
        have inside := (Net.ipv6Text_of_parse parsed).1 char member
        rw [address] at inside
        cases inside
    | bracketed parsed => exact bare rfl
    | name some chars named =>
      have inside := chars char member
      rw [name] at inside
      cases inside
  refine ⟨?_, absent '?' rfl rfl, ?_⟩
  · unfold Readable
    split
    · intro closes
      exact absent ']' rfl rfl (closes.mem List.mem_cons_self)
    · exact bare
  · rintro rfl
    cases denotes with
    | literal parsed => cases parsed
    | name some chars named => exact some rfl

/-- What is written for a host and a port is resolved to what the host stands for. -/
theorem resolveSocket_socketAuthority (documented : Dns.Documented parseUrl)
    (endpoint : TurnEndpoint) {target : Dns.Target}
    (denotes : Dns.Denotes endpoint.host target) (bare : endpoint.host.head? ≠ some '[')
    (positive : 0 < endpoint.port.toNat) :
    Dns.resolveSocket parseUrl network endpoint.socketAuthority =
      target.resolve network endpoint.port := by
  have small : endpoint.port.toNat < 2 ^ 16 := endpoint.port.toNat_lt
  have port : UInt16.ofNat endpoint.port.toNat = endpoint.port := UInt16.ofNat_toNat
  unfold TurnEndpoint.socketAuthority
  dsimp only
  generalize endpoint.host = host at denotes bare
  cases denotes with
  | literal parsed =>
    rename_i address
    cases address with
    | v4 octets =>
      have noColon : ':' ∉ host := fun member => (chars_v4 parsed ':' member).2 rfl
      rw [if_neg noColon, Dns.resolveSocket_parsed network (Net.parseSocketAddr_v4 parsed small),
        port]
      rfl
    | v6 octets =>
      have colon : ':' ∈ host := by
        have many := (Net.ipv6Text_of_parse parsed).2
        exact List.count_pos_iff.mp (by omega)
      rw [if_pos colon, Dns.resolveSocket_parsed network (Net.parseSocketAddr_v6 parsed small),
        port]
      rfl
  | bracketed parsed => exact absurd rfl bare
  | name some chars named =>
    have noColon : ':' ∉ host := fun member => by cases chars ':' member
    rw [if_neg noColon, Dns.resolveSocket_name network documented some chars named positive small,
      port]
    rfl

/-- Who has to prove its name in TLS. -/
theorem tlsServerName_iff (endpoint : TurnEndpoint) {target : Dns.Target}
    (denotes : Dns.Denotes endpoint.host target) (bare : endpoint.host.head? ≠ some '[') :
    endpoint.tlsServerName = .ok endpoint.host ↔
      endpoint.transport = .tls ∧ ∃ name, target = .name name := by
  unfold TurnEndpoint.tlsServerName
  by_cases secure : endpoint.transport = .tls
  · rw [if_neg (not_not.mpr secure)]
    generalize endpoint.host = host at denotes bare
    cases denotes with
    | literal parsed =>
      rw [parsed, if_pos (by rfl)]
      exact iff_of_false (fun same => by cases same) fun ⟨_, _, same⟩ => by cases same
    | bracketed parsed => exact absurd rfl bare
    | name some chars named =>
      rw [named]
      exact iff_of_true rfl ⟨secure, host, rfl⟩
  · rw [if_pos secure]
    exact iff_of_false (fun same => by cases same) fun both => secure both.1

/-- An endpoint is reached through its URI, wherever the resolver finds its host. An IPv6 address
needs no brackets in the host for it. -/
theorem uri_reaches (documented : Dns.Documented parseUrl) (endpoint : TurnEndpoint)
    {target : Dns.Target} (denotes : Dns.Denotes endpoint.host target)
    (bare : endpoint.host.head? ≠ some '[') (positive : 0 < endpoint.port.toNat) {scheme : Text}
    {parameters : List Text} (written : Written endpoint.transport scheme parameters) :
    ∃ resolved, resolveTurnEndpoints (endpoint.uri scheme parameters) none none
        endpoint.transport.mode = .ok [resolved] ∧
      Dns.resolveSocket parseUrl network resolved.socketAuthority =
        target.resolve network endpoint.port ∧
      (resolved.tlsServerName = .ok endpoint.host ↔
        endpoint.transport = .tls ∧ ∃ name, target = .name name) := by
  obtain ⟨readable, free, nonempty⟩ := readable_of_denotes denotes bare
  have read := parseAuthority_socketAuthority endpoint nonempty endpoint.transport.turnScheme
  refine ⟨endpoint, ?_, resolveSocket_socketAuthority network documented endpoint denotes bare
    positive, tlsServerName_iff endpoint denotes bare⟩
  rw [resolve_read endpoint free written, read.mpr readable]
  show (if endpoint.host.isEmpty then _ else _) = _
  rw [List.isEmpty_eq_false_iff.mpr nonempty, if_neg Bool.false_ne_true]

/-- A network in which every name stands for one address. -/
def relayNetwork : Dns.Network where
  queryId := 7
  replies := fun _ => ⟨none, none⟩
  tunnelActive := false
  lookupHost := fun _ => .ok [.v4 ⟨[192, 0, 2, 1], rfl⟩]

/-- A server that has a name. -/
def namedRelay : TurnEndpoint := ⟨"relay.example".toList, 443, .tcp⟩

/-- It is reached at the address of its name. -/
theorem namedRelay_reached : ∃ resolved,
    resolveTurnEndpoints (namedRelay.uri "turn:".toList []) none none .tcpTls = .ok [resolved] ∧
      Dns.resolveSocket Dns.plainUrl relayNetwork resolved.socketAuthority =
        .ok (.v4 ⟨[192, 0, 2, 1], rfl⟩ 443) ∧
      resolved.tlsServerName ≠ .ok namedRelay.host := by
  have written : Written namedRelay.transport "turn:".toList [] :=
    ⟨by decide, by decide, by decide, by decide, by decide⟩
  have denotes : Dns.Denotes namedRelay.host (.name namedRelay.host) :=
    .name (by decide) (List.all_eq_true.mp (by decide)) (by decide)
  obtain ⟨resolved, read, found, proof⟩ := uri_reaches relayNetwork Dns.plainUrl_documented
    namedRelay denotes (by decide) (by decide) written
  exact ⟨resolved, read, found.trans (by rfl), fun proved => by cases (proof.mp proved).1⟩

end Reached

end Focsq.Endpoint
