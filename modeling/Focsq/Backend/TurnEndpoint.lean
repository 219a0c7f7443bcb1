import Focsq.Backend.Net
import Focsq.Backend.Packet
import Focsq.Lib.Str

/-!
# Endpoints of TURN servers

`turn_endpoint.rs` reads the URI of a TURN server and decides which transport is used for it. A
setting of the user may replace the host and the port of the URI.
-/

namespace Focsq.Endpoint

/-- `TurnTransportMode` — what the user wants. -/
inductive TurnTransportMode where
  /-- Datagrams. -/
  | udp
  /-- A stream. -/
  | tcpTls
  deriving DecidableEq, Repr

/-- `TurnTransportMode::parse`. -/
def TurnTransportMode.parse (value : Text) : Except Failure TurnTransportMode :=
  let lower := Str.toAsciiLowercase (Str.trim value)
  if lower = "udp".toList then .ok .udp
  else if lower = "tcp".toList ∨ lower = "tcp_tls".toList ∨ lower = "tcp-tls".toList ∨
      lower = "tcp/tls".toList then .ok .tcpTls
  else .error (.bail ("unsupported TURN transport mode " ++ (String.ofList lower).quote))

/-- `TurnTransportMode::as_str`. -/
def TurnTransportMode.asStr : TurnTransportMode → Text
  | .udp => "UDP".toList
  | .tcpTls => "TCP".toList

/-- `TurnWireTransport` — what is used. -/
inductive TurnWireTransport where
  /-- Datagrams. -/
  | udp
  /-- A bare stream. -/
  | tcp
  /-- A stream in TLS. -/
  | tls
  deriving DecidableEq, Repr

/-- `TurnEndpoint` — where a server is, and how it is talked to. -/
structure TurnEndpoint where
  /-- A name or an address. -/
  host : Text
  /-- The port. -/
  port : UInt16
  /-- The transport. -/
  transport : TurnWireTransport
  deriving DecidableEq

/-- `socket_authority` — what is looked up. -/
def TurnEndpoint.socketAuthority (endpoint : TurnEndpoint) : Text :=
  let port := Nat.toDigits 10 endpoint.port.toNat
  if ':' ∈ endpoint.host then '[' :: (endpoint.host ++ ']' :: ':' :: port)
  else endpoint.host ++ ':' :: port

/-- `tls_server_name` — the name that the server has to prove. -/
def TurnEndpoint.tlsServerName (endpoint : TurnEndpoint) : Except Failure Text :=
  if endpoint.transport ≠ .tls then .error (.bail "TURN endpoint is not TLS")
  else if (Net.parseIpAddr endpoint.host).isSome then
    .error (.bail "TURN TLS endpoint requires a DNS hostname")
  else .ok endpoint.host

/-- `TurnScheme`. -/
inductive TurnScheme where
  /-- `turn:`. -/
  | turn
  /-- `turns:`. -/
  | turns
  /-- No scheme. -/
  | bare
  deriving DecidableEq

/-- `UriTransport`. -/
inductive UriTransport where
  /-- `udp`. -/
  | udp
  /-- `tcp`. -/
  | tcp
  deriving DecidableEq

section Parsing

/-- `starts_with` of the text in lower case, and what is behind the scheme. -/
def readScheme (value : Text) : TurnScheme × Text :=
  let lower := Str.toAsciiLowercase value
  if "turns:".toList.isPrefixOf lower then (.turns, value.drop "turns:".length)
  else if "turn:".toList.isPrefixOf lower then (.turn, value.drop "turn:".length)
  else (.bare, value)

/-- The value of a parameter that names a transport. -/
def readTransport (value : Text) : Except Failure UriTransport :=
  let lower := Str.toAsciiLowercase value
  if lower = "udp".toList then .ok .udp
  else if lower = "tcp".toList then .ok .tcp
  else .error (.bail "TURN URI contains an unsupported transport")

/-- The key and the value of a parameter. -/
def keyValue (parameter : Text) : Text × Text :=
  (Str.splitOnce ['='] parameter).getD (parameter, [])

/-- A turn of the loop over the parameters, with the transport that was named before. -/
def readParameter (named : Option UriTransport) (parameter : Text) :
    Except Failure (Option UriTransport) :=
  let (key, value) := keyValue parameter
  if Str.toAsciiLowercase key = "transport".toList then do
    let parsed ← readTransport value
    if named.isSome then throw (.bail "TURN URI contains duplicate transport parameters")
    else return some parsed
  else return named

/-- `parse_turn_uri` — the scheme, the authority and the transport that is named. -/
def parseTurnUri (value : Text) : Except Failure (TurnScheme × Text × Option UriTransport) :=
  let value := Str.trim value
  if value.isEmpty then .error (.bail "TURN endpoint is empty")
  else
    let (scheme, value) := readScheme value
    let (authority, query) := (Str.splitOnce ['?'] value).getD (value, [])
    if authority.isEmpty then .error (.bail "TURN authority is empty")
    else do
      let parameters := (query.splitOn '&').filter fun parameter => !parameter.isEmpty
      let uriTransport ← parameters.foldlM readParameter none
      if scheme = .turns ∧ uriTransport = some .udp then throw (.bail "turns URI cannot use UDP")
      else return (scheme, authority, uriTransport)

/-- `is_supported_turn_uri`. -/
def isSupportedTurnUri (value : Text) : Bool := (parseTurnUri value).toBool

/-- `parse` of a port, with its context. -/
def parsePort (port : Text) : Except Failure UInt16 :=
  match Str.parseUnsigned 65536 port with
  | some port => .ok (.ofNat port)
  | none => .error (.bail "TURN port is invalid")

/-- The port of a URI that has none. -/
def defaultPort : TurnScheme → UInt16
  | .turns => 5349
  | .turn | .bare => 3478

/-- What is behind the bracket of an IPv6 address. -/
def parseBracketed (rest : Text) (scheme : TurnScheme) : Except Failure (Text × UInt16) :=
  match Str.splitOnce [']', ':'] rest with
  | some (host, port) => do
    let port ← parsePort port
    return (host, port)
  | none =>
    match Str.stripSuffix [']'] rest with
    | some host => .ok (host, defaultPort scheme)
    | none => .error (.bail "TURN IPv6 address is malformed")

/-- `parse_authority` — the host and the port. -/
def parseAuthority (value : Text) (scheme : TurnScheme) : Except Failure (Text × UInt16) :=
  match Str.stripPrefix ['['] value with
  | some rest => parseBracketed rest scheme
  | none =>
    if 1 < value.count ':' then .error (.bail "TURN IPv6 address must use brackets")
    else
      match Str.rsplitOnce ':' value with
      | some (host, port) =>
        if host.isEmpty then .error (.bail "TURN host is empty")
        else do
          let port ← parsePort port
          return (host, port)
      | none => .ok (value, defaultPort scheme)

end Parsing

section Resolving

/-- A setting that is not blank. -/
def givenSetting (setting : Option Text) : Option Text :=
  (setting.filter fun value => !(Str.trim value).isEmpty).map Str.trim

/-- The port of the user, or that of the URI. -/
def chosenPort (overridePort : Option Text) (originalPort : UInt16) : Except Failure UInt16 :=
  match givenSetting overridePort with
  | some port => parsePort port
  | none => .ok originalPort

/-- The transports for a mode. -/
def wireTransports (mode : TurnTransportMode) (scheme : TurnScheme)
    (uriTransport : Option UriTransport) : Except Failure (List TurnWireTransport) :=
  match mode with
  | .udp =>
    match scheme, uriTransport with
    | .turns, _ => .error (.bail "TURN TLS endpoint cannot be used in UDP mode")
    | _, some .tcp => .error (.bail "TURN TCP endpoint cannot be used in UDP mode")
    | _, _ => .ok [.udp]
  | .tcpTls =>
    match scheme, uriTransport with
    | _, some .udp => .error (.bail "TURN UDP endpoint cannot be used in TCP mode")
    | .turns, _ => .ok [.tls]
    | _, some .tcp => .ok [.tcp]
    | _, none => .ok [.tcp]

/-- `resolve_turn_endpoints`. -/
def resolveTurnEndpoints (value : Text) (overrideHost overridePort : Option Text)
    (mode : TurnTransportMode) : Except Failure (List TurnEndpoint) := do
  let (scheme, authority, uriTransport) ← parseTurnUri value
  let (originalHost, originalPort) ← parseAuthority authority scheme
  let host := (givenSetting overrideHost).getD originalHost
  let port ← chosenPort overridePort originalPort
  if host.isEmpty then throw (.bail "TURN host is empty")
  else do
    let transports ← wireTransports mode scheme uriTransport
    return transports.map fun transport => { host, port, transport }

end Resolving

/-- A server that is named twice over. -/
example :
    resolveTurnEndpoints "TURN:relay.example:3478?transport=tcp".toList none
      (some " 19302 ".toList) .tcpTls =
      .ok [⟨"relay.example".toList, 19302, .tcp⟩] := by decide +kernel

end Focsq.Endpoint
