import Focsq.Backend.TurnMessage
import Focsq.Lib.Reader

/-!
# Addresses as texts

The parser of the standard library for addresses and socket addresses, with which `dns.rs` reads
what it is given before it asks a server. It reads bytes; all that it takes is ASCII, so that
characters come to the same.
-/

namespace Focsq.Net

open Reader Turn

section Addresses

/-- A part of an IPv4 address. -/
def octet : Reader Nat := number 10 (some 3) false 256

/-- `read_ipv4_addr`. -/
def readIpv4Addr : Reader (Bytes.Octets 4) := do
  let first ← separator '.' 0 octet
  let second ← separator '.' 1 octet
  let third ← separator '.' 2 octet
  let fourth ← separator '.' 3 octet
  pure ⟨[UInt8.ofNat first, UInt8.ofNat second, UInt8.ofNat third, UInt8.ofNat fourth], rfl⟩

/-- A group of an IPv6 address. -/
def group : Reader Nat := number 16 (some 4) true 65536

/-- The bytes of a group. -/
def groupBytes (value : Nat) : List UInt8 := Bytes.be 2 value

/-- An IPv4 address at the end of the groups, if there is room for at least two. -/
def embedded (index left : Nat) : Reader (List (List UInt8)) :=
  if left = 0 then failure
  else do
    let octets ← separator ':' index readIpv4Addr
    pure [octets.val.take 2, octets.val.drop 2]

/-- `read_groups` from the group with this index on, with the number of groups there is room for;
the result is the bytes of the groups, and whether an IPv4 address was read. -/
def readGroups (index : Nat) : Nat → Reader (List (List UInt8) × Bool)
  | 0 => pure ([], false)
  | left + 1 =>
    (do
      let groups ← embedded index left
      pure (groups, true)) <|>
    (do
      let value ← separator ':' index group
      let (groups, ipv4) ← readGroups (index + 1) left
      pure (groupBytes value :: groups, ipv4)) <|>
    pure ([], false)

/-- The front and the back of an address, with zeroes in between. -/
def joinGroups (head tail : List (List UInt8)) : Bytes.Octets 16 :=
  .ofList (head ++ List.replicate (8 - head.length - tail.length) [0, 0] ++ tail).flatten

/-- The back of an address, behind `::`. -/
def readTail (head : List (List UInt8)) : Reader (Bytes.Octets 16) := do
  givenChar ':'
  givenChar ':'
  let (tail, _) ← readGroups 0 (8 - (head.length + 1))
  pure (joinGroups head tail)

/-- `read_ipv6_addr` behind the first groups. No IPv4 address is allowed before `::`. -/
def readRest (head : List (List UInt8)) (ipv4 : Bool) : Reader (Bytes.Octets 16) :=
  if head.length = 8 then pure (joinGroups head [])
  else if ipv4 then failure
  else readTail head

/-- `read_ipv6_addr`. -/
def readIpv6Addr : Reader (Bytes.Octets 16) := do
  let (head, ipv4) ← readGroups 0 8
  readRest head ipv4

/-- `read_ip_addr`. -/
def readIpAddr : Reader IpAddr :=
  (do
    let octets ← readIpv4Addr
    pure (.v4 octets)) <|>
  (do
    let octets ← readIpv6Addr
    pure (.v6 octets))

/-- `parse::<IpAddr>`. -/
def parseIpAddr (text : Text) : Option IpAddr := parseWith readIpAddr text

end Addresses

section SocketAddresses

/-- `read_port`. -/
def readPort : Reader UInt16 := do
  givenChar ':'
  let port ← number 10 none true (2 ^ 16)
  pure (.ofNat port)

/-- `read_scope_id`. -/
def readScopeId : Reader UInt32 := do
  givenChar '%'
  let scopeId ← number 10 none true (2 ^ 32)
  pure (.ofNat scopeId)

/-- `read_socket_addr_v4`. -/
def readSocketAddrV4 : Reader SocketAddr := do
  let octets ← readIpv4Addr
  let port ← readPort
  pure (.v4 octets port)

/-- `read_socket_addr_v6`. -/
def readSocketAddrV6 : Reader SocketAddr := do
  givenChar '['
  let octets ← readIpv6Addr
  let scopeId ← readScopeId <|> pure 0
  givenChar ']'
  let port ← readPort
  pure (.v6 octets port 0 scopeId)

/-- `parse::<SocketAddr>`. -/
def parseSocketAddr (text : Text) : Option SocketAddr :=
  parseWith (readSocketAddrV4 <|> readSocketAddrV6) text

end SocketAddresses

end Focsq.Net
