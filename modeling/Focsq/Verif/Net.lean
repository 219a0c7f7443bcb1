import Focsq.Backend.Net

/-!
# What the parser of addresses reads

Two kinds of facts are all that is needed of the parser. What is taken for an address consists of
few characters, and an IPv6 address has two colons at least. And an address is read the same in front
of a character that cannot be part of it.
-/

namespace Focsq.Net

open Reader Turn

/-- Whether a character can be part of an address. -/
def isAddressChar (char : Char) : Bool := isDigit 16 char || char == ':' || char == '.'

/-- A decimal digit is a hexadecimal one. -/
theorem isAddressChar_of_decimal {char : Char} (decimal : isDigit 10 char = true) :
    isAddressChar char = true := by
  unfold isDigit toDigit at decimal
  obtain ⟨value, kept⟩ := Option.isSome_iff_exists.mp decimal
  obtain ⟨read, small⟩ := Option.filter_eq_some_iff.mp kept
  have hexadecimal : isDigit 16 char = true := by
    unfold isDigit toDigit
    rw [read, Option.filter_some, if_pos (by simp only [decide_eq_true_eq] at small ⊢; omega)]
    rfl
  rw [isAddressChar, hexadecimal]
  rfl

section Takes

/-- An IPv4 address has digits and dots. -/
theorem within_readIpv4Addr {holds : Char → Prop}
    (digits : ∀ char, isDigit 10 char = true → holds char)
    (dot : holds '.') : Within holds readIpv4Addr := by
  have part : Within holds octet := within_number digits (some 3) false 256
  refine within_bind (within_separator dot 0 part) fun first => ?_
  refine within_bind (within_separator dot 1 part) fun second => ?_
  refine within_bind (within_separator dot 2 part) fun third => ?_
  exact within_bind (within_separator dot 3 part) fun fourth => within_pure _

/-- The groups that are read from an index on: they have the characters of an address, and a colon
in front of each but the first and the second half of an IPv4 address. -/
def GroupText (index : Nat) (taken : Text) (groups : List (List UInt8)) : Prop :=
  (∀ char ∈ taken, isAddressChar char = true) ∧
    groups.length + min index 1 ≤ taken.count ':' + 2

/-- Separators are characters of an address, and as many colons. -/
theorem separator_chars (index : Nat) {back : Text}
    (good : ∀ char ∈ back, isAddressChar char = true) :
    (∀ char ∈ List.replicate (min index 1) ':' ++ back, isAddressChar char = true) ∧
      (List.replicate (min index 1) ':' ++ back).count ':' = min index 1 + back.count ':' := by
  refine ⟨fun char member => ?_, ?_⟩
  · rcases List.mem_append.mp member with early | late
    · rw [List.eq_of_mem_replicate early]
      rfl
    · exact good char late
  · rw [List.count_append, List.count_replicate_self]

/-- An IPv4 address at the end makes two groups. -/
theorem takes_embedded (index left : Nat) :
    Takes (embedded index left) fun taken groups => GroupText index taken groups := by
  unfold embedded
  split
  · exact takes_failure
  · have address : Within (fun char => isAddressChar char = true) readIpv4Addr :=
      within_readIpv4Addr (fun _ => isAddressChar_of_decimal) rfl
    refine (takes_map (takes_separator index address) _).mono ?_
    rintro taken _ ⟨octets, ⟨back, rfl, good⟩, rfl⟩
    have chars := separator_chars index good
    refine ⟨chars.1, ?_⟩
    rw [chars.2]
    show 2 + min index 1 ≤ min index 1 + back.count ':' + 2
    omega

/-- The groups that are read have enough colons in between. -/
theorem takes_readGroups (index left : Nat) :
    Takes (readGroups index left) fun taken read => GroupText index taken read.1 := by
  have done (index : Nat) : Takes (pure (([] : List (List UInt8)), false)) fun taken read =>
      GroupText index taken read.1 :=
    takes_pure _ ⟨fun _ member => (by cases member), by
      show 0 + min index 1 ≤ 0 + 2
      omega⟩
  induction left generalizing index with
  | zero => exact done index
  | succ left ih =>
    unfold readGroups
    refine takes_orElse ?_ (takes_orElse ?_ (done index))
    · refine (takes_map (takes_embedded index left) fun groups => (groups, true)).mono ?_
      rintro taken _ ⟨groups, good, rfl⟩
      exact good
    · have one : Within (fun char => isAddressChar char = true) group :=
        within_number (fun char digit => by rw [isAddressChar, digit]; rfl) (some 4) true 65536
      refine (takes_bind (takes_separator index one) fun value =>
        takes_map (ih (index + 1)) fun later => (groupBytes value :: later.1, later.2)).mono ?_
      rintro taken _ ⟨_, late, value, rfl, ⟨back, rfl, good⟩, later, rest, rfl⟩
      have chars := separator_chars index good
      refine ⟨fun char member => ?_, ?_⟩
      · rcases List.mem_append.mp member with early | behind
        · exact chars.1 char early
        · exact rest.1 char behind
      · have count := rest.2
        rw [List.count_append, chars.2, List.length_cons]
        omega

/-- The text of an IPv6 address: characters of an address, two colons at least. -/
def Ipv6Text (taken : Text) : Prop :=
  (∀ char ∈ taken, isAddressChar char = true) ∧ 2 ≤ taken.count ':'

/-- Behind the front of an address there are two colons. -/
theorem takes_readTail (head : List (List UInt8)) :
    Takes (readTail head) fun taken _ => Ipv6Text taken := by
  refine (takes_bind (takes_givenChar ':') fun _ => takes_bind (takes_givenChar ':') fun _ =>
    takes_map (takes_readGroups 0 _) fun tail => joinGroups head tail.1).mono ?_
  rintro taken _ ⟨_, _, _, rfl, rfl, _, back, _, rfl, rfl, tail, good, rfl⟩
  refine ⟨fun char member => ?_, ?_⟩
  · rcases List.mem_cons.mp member with rfl | member
    · rfl
    · rcases List.mem_cons.mp member with rfl | late
      · rfl
      · exact good.1 char late
  · show 2 ≤ (':' :: ':' :: back).count ':'
    rw [List.count_cons_self, List.count_cons_self]
    omega

/-- What is taken for an IPv6 address. -/
theorem takes_readIpv6Addr : Takes readIpv6Addr fun taken _ => Ipv6Text taken := by
  have rest (read : List (List UInt8) × Bool) : Takes (readRest read.1 read.2) fun taken _ =>
      (taken = [] ∧ read.1.length = 8) ∨ Ipv6Text taken := by
    unfold readRest
    split
    · next full => exact takes_pure _ (.inl ⟨rfl, full⟩)
    · split
      · exact takes_failure
      · exact (takes_readTail read.1).mono fun taken _ good => .inr good
  refine (takes_bind (takes_readGroups 0 8) rest).mono ?_
  rintro taken _ ⟨front, back, read, rfl, good, ⟨rfl, full⟩ | fine⟩
  · have count := good.2
    rw [List.append_nil]
    exact ⟨good.1, by rw [full] at count; omega⟩
  · refine ⟨fun char member => ?_, ?_⟩
    · rcases List.mem_append.mp member with early | late
      · exact good.1 char early
      · exact fine.1 char late
    · have count := fine.2
      rw [List.count_append]
      omega

end Takes

section Stops

variable {stop : Char}

/-- An IPv4 address ends before what is no digit and no dot. -/
theorem stops_readIpv4Addr (noDigit : isDigit 10 stop = false) (noDot : stop ≠ '.') :
    Stops stop readIpv4Addr := by
  have part (index : Nat) : Stops stop (separator '.' index octet) :=
    stops_separator noDot index (stops_number noDigit (some 3) false 256)
  exact stops_bind (part 0) fun _ => stops_bind (part 1) fun _ => stops_bind (part 2) fun _ =>
    stops_bind (part 3) fun _ => stops_pure _

/-- The groups end before what cannot be part of an address. -/
theorem stops_readGroups (noChar : isAddressChar stop = false) (index left : Nat) :
    Stops stop (readGroups index left) := by
  have others : (isDigit 16 stop = false ∧ stop ≠ ':') ∧ stop ≠ '.' := by
    simpa [isAddressChar] using noChar
  have noDecimal : isDigit 10 stop = false := by
    by_contra decimal
    have char := isAddressChar_of_decimal (Bool.not_eq_false _ ▸ decimal)
    rw [noChar] at char
    cases char
  induction left generalizing index with
  | zero => exact stops_pure _
  | succ left ih =>
    have ending : Stops stop (embedded index left) := by
      unfold embedded
      split
      · exact stops_failure
      · exact stops_bind (stops_separator others.1.2 index
          (stops_readIpv4Addr noDecimal others.2)) fun _ => stops_pure _
    have one : Stops stop (separator ':' index group) :=
      stops_separator others.1.2 index (stops_number others.1.1 (some 4) true 65536)
    unfold readGroups
    exact stops_orElse (stops_bind ending fun _ => stops_pure _) (stops_orElse
      (stops_bind one fun _ => stops_bind (ih (index + 1)) fun _ => stops_pure _) (stops_pure _))

/-- An IPv6 address ends before what cannot be part of an address. -/
theorem stops_readIpv6Addr (noChar : isAddressChar stop = false) : Stops stop readIpv6Addr := by
  have noColon : stop ≠ ':' := by
    rintro rfl
    cases noChar
  refine stops_bind (stops_readGroups noChar 0 8) fun read => ?_
  show Stops stop (readRest read.1 read.2)
  unfold readRest
  split
  · exact stops_pure _
  · split
    · exact stops_failure
    · exact stops_bind (stops_givenChar noColon) fun _ => stops_bind (stops_givenChar noColon)
        fun _ => stops_bind (stops_readGroups noChar 0 _) fun _ => stops_pure _

end Stops

section Parsing

variable {host : Text}

/-- The texts of IPv4 addresses. -/
theorem parse_readIpv4Addr {octets : Bytes.Octets 4}
    (parsed : parseIpAddr host = some (.v4 octets)) : parseWith readIpv4Addr host = some octets := by
  rw [parseWith_eq_some]
  have read := parseWith_eq_some.mp parsed
  rw [readIpAddr, orElse_apply, bind_apply, bind_apply] at read
  cases first : readIpv4Addr host with
  | none =>
    rw [first] at read
    obtain ⟨_, -, other⟩ := Option.bind_eq_some_iff.mp read
    cases other
  | some found =>
    obtain ⟨octets, left⟩ := found
    rw [first] at read
    cases read
    rfl

/-- The texts of IPv6 addresses. -/
theorem parse_readIpv6Addr {octets : Bytes.Octets 16}
    (parsed : parseIpAddr host = some (.v6 octets)) : parseWith readIpv6Addr host = some octets := by
  rw [parseWith_eq_some]
  have read := parseWith_eq_some.mp parsed
  rw [readIpAddr, orElse_apply, bind_apply, bind_apply] at read
  cases first : readIpv4Addr host with
  | none =>
    rw [first] at read
    obtain ⟨⟨octets, left⟩, second, made⟩ := Option.bind_eq_some_iff.mp read
    cases made
    exact second
  | some found =>
    obtain ⟨octets, left⟩ := found
    rw [first] at read
    cases read

/-- The text of an IPv6 address is one. -/
theorem ipv6Text_of_parse {octets : Bytes.Octets 16}
    (parsed : parseIpAddr host = some (.v6 octets)) : Ipv6Text host :=
  takes_readIpv6Addr.parsed (parse_readIpv6Addr parsed)

/-- The port at the end of a text. -/
theorem readPort_toDigits {port : Nat} (small : port < 2 ^ 16) :
    readPort (':' :: Nat.toDigits 10 port) = some (.ofNat port, []) := by
  show (number 10 none true (2 ^ 16) (Nat.toDigits 10 port)).bind _ = _
  rw [number_toDigits small]
  rfl

/-- An IPv4 address with a port is read as it was written. -/
theorem parseSocketAddr_v4 {octets : Bytes.Octets 4} (parsed : parseIpAddr host = some (.v4 octets))
    {port : Nat} (small : port < 2 ^ 16) :
    parseSocketAddr (host ++ ':' :: Nat.toDigits 10 port) = some (.v4 octets (.ofNat port)) := by
  have front := (@stops_readIpv4Addr ':' rfl (by decide)).front
    (parse_readIpv4Addr parsed) (Nat.toDigits 10 port)
  rw [parseSocketAddr, parseWith_eq_some, orElse_apply, readSocketAddrV4, bind_apply, front,
    Option.bind_some, bind_apply, readPort_toDigits small]
  rfl

/-- What starts with a bracket has no IPv4 address in front. -/
theorem readSocketAddrV4_bracket (rest : Text) : readSocketAddrV4 ('[' :: rest) = none := rfl

/-- An IPv6 address in brackets with a port is read as it was written. -/
theorem parseSocketAddr_v6 {octets : Bytes.Octets 16}
    (parsed : parseIpAddr host = some (.v6 octets)) {port : Nat} (small : port < 2 ^ 16) :
    parseSocketAddr ('[' :: (host ++ ']' :: ':' :: Nat.toDigits 10 port)) =
      some (.v6 octets (.ofNat port) 0 0) := by
  have front := (@stops_readIpv6Addr ']' rfl).front
    (parse_readIpv6Addr parsed) (':' :: Nat.toDigits 10 port)
  rw [parseSocketAddr, parseWith_eq_some, orElse_apply, readSocketAddrV4_bracket]
  show (readIpv6Addr (host ++ ']' :: ':' :: Nat.toDigits 10 port)).bind _ = _
  rw [front]
  show (readPort (':' :: Nat.toDigits 10 port)).bind _ = _
  rw [readPort_toDigits small]
  rfl

/-- An IPv6 address with a port starts with a bracket. -/
theorem head_of_readSocketAddrV6 {text : Text} {read : SocketAddr × Text}
    (found : readSocketAddrV6 text = some read) : text.head? = some '[' := by
  rw [readSocketAddrV6, bind_apply] at found
  obtain ⟨given, bracket, -⟩ := Option.bind_eq_some_iff.mp found
  obtain ⟨taken, whole, rfl⟩ := takes_givenChar '[' text given.1 given.2 bracket
  rw [whole]
  rfl

/-- A port has a colon, and digits. -/
theorem takes_readPort : Takes readPort fun taken _ => ∃ digits, taken = ':' :: digits ∧
    ∀ char ∈ digits, isDigit 10 char = true := by
  refine (takes_bind (takes_givenChar ':') fun _ =>
    takes_map (takes_number 10 none true (2 ^ 16)) UInt16.ofNat).mono ?_
  rintro taken _ ⟨_, digits, _, rfl, rfl, value, ⟨-, decimal, -⟩, rfl⟩
  exact ⟨digits, rfl, decimal⟩

/-- An IPv4 address with a port has one colon. -/
theorem takes_readSocketAddrV4 : Takes readSocketAddrV4 fun taken _ => taken.count ':' = 1 := by
  have noDigit (char : Char) (digit : isDigit 10 char = true) : char ≠ ':' := by
    rintro rfl
    cases digit
  have plain : Within (fun char => char ≠ ':') readIpv4Addr := within_readIpv4Addr noDigit (by decide)
  refine (takes_bind plain fun octets => takes_map takes_readPort (SocketAddr.v4 octets)).mono ?_
  rintro taken _ ⟨front, back, octets, rfl, good, port, ⟨digits, rfl, decimal⟩, rfl⟩
  have none : front.count ':' = 0 := List.count_eq_zero.mpr fun member => good ':' member rfl
  have nowhere : digits.count ':' = 0 :=
    List.count_eq_zero.mpr fun member => noDigit ':' (decimal ':' member) rfl
  rw [List.count_append, List.count_cons_self, none, nowhere]

/-- An IPv6 address without brackets is not read in front of a port. -/
theorem parseSocketAddr_bare {octets : Bytes.Octets 16}
    (parsed : parseIpAddr host = some (.v6 octets)) (rest : Text) :
    parseSocketAddr (host ++ ':' :: rest) = none := by
  obtain ⟨chars, colons⟩ := ipv6Text_of_parse parsed
  rw [parseSocketAddr, Option.eq_none_iff_forall_ne_some]
  intro address found
  have read := parseWith_eq_some.mp found
  rw [orElse_apply, Option.orElse_eq_or, Option.or_eq_some_iff] at read
  rcases read with v4 | ⟨-, v6⟩
  · obtain ⟨taken, whole, one⟩ := takes_readSocketAddrV4 _ _ _ v4
    have count := congrArg (List.count ':') whole
    rw [List.append_nil, one, List.count_append, List.count_cons_self] at count
    omega
  · have bracket := head_of_readSocketAddrV6 v6
    cases host with
    | nil => cases colons
    | cons first more =>
      cases bracket
      cases chars '[' List.mem_cons_self

/-- A name is not read as an address in front of a port. -/
theorem parseSocketAddr_name (named : parseIpAddr host = none) (noColon : ':' ∉ host)
    (noBracket : '[' ∉ host) (rest : Text) : parseSocketAddr (host ++ ':' :: rest) = none := by
  rw [parseSocketAddr, Option.eq_none_iff_forall_ne_some]
  intro address found
  have read := parseWith_eq_some.mp found
  rw [orElse_apply, Option.orElse_eq_or, Option.or_eq_some_iff] at read
  rcases read with v4 | ⟨-, v6⟩
  · rw [readSocketAddrV4, bind_apply, @stops_readIpv4Addr ':' rfl (by decide)] at v4
    cases first : readIpv4Addr host with
    | none =>
      rw [first] at v4
      cases v4
    | some found =>
      obtain ⟨octets, left⟩ := found
      rw [first, Option.map_some, Option.bind_some, bind_apply] at v4
      obtain ⟨port, colon, -⟩ := Option.bind_eq_some_iff.mp v4
      obtain ⟨taken, whole, digits, rfl, -⟩ := takes_readPort _ _ _ colon
      cases left with
      | nil =>
        rw [parseIpAddr, Option.eq_none_iff_forall_ne_some] at named
        refine named (.v4 octets) (parseWith_eq_some.mpr ?_)
        rw [readIpAddr, orElse_apply, bind_apply, first]
        rfl
      | cons char more =>
        -- What is left of the name would start with a colon.
        have starts : char = ':' := (List.cons.inj whole).1
        obtain ⟨front, split, -⟩ := @within_readIpv4Addr (fun _ => True)
          (fun _ _ => trivial) trivial host octets _ first
        rw [split, starts] at noColon
        exact noColon (List.mem_append_right _ List.mem_cons_self)
  · have bracket := head_of_readSocketAddrV6 v6
    cases host with
    | nil => cases bracket
    | cons first more =>
      cases bracket
      exact noBracket List.mem_cons_self

end Parsing

end Focsq.Net
