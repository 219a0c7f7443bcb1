import Focsq.Backend.Net
import Focsq.Backend.TunLinux
import Focsq.Lib.Str
import Focsq.Lib.Tlv

/-!
# Requests for routes, and the table of routes

`tun_linux.rs` writes the requests that add and delete a route as netlink messages, and reads the
table of routes from `/proc/net/route`. The bytes of a request are what `send_all` sends. The
number of a message, the text of the table and the number of an interface come from outside.
-/

namespace Focsq.TunLinux

/-- An address of IPv4, by its octets. -/
abbrev Ipv4Addr : Type := Bytes.Octets 4

/-- The address as a number, with its first octet highest. -/
def Ipv4Addr.toU32 (address : Ipv4Addr) : UInt32 := .ofNat (Bytes.fromBe address.val)

/-- The address with this number. -/
def Ipv4Addr.ofU32 (value : UInt32) : Ipv4Addr := ⟨Bytes.be 4 value.toNat, Bytes.length_be 4 _⟩

section Cidr

/-- `parse_cidr`. -/
def parseCidr (cidr : Text) : Except Text (Ipv4Addr × Nat) :=
  match Str.splitOnce "/".toList cidr with
  | none => .error "CIDR без префикса".toList
  | some (address, length) =>
    match Reader.parseWith Net.readIpv4Addr address with
    | none => .error ("некорректный IP: ".toList ++ address)
    | some network =>
      match Str.parseUnsigned 256 length with
      | none => .error ("некорректный префикс: ".toList ++ length)
      | some length =>
        if 32 < length then
          .error ("префикс /".toList ++ Nat.toDigits 10 length ++ " больше 32".toList)
        else .ok (network, length)

/-- `prefix_mask`. -/
def prefixMask (length : Nat) : UInt32 :=
  if length = 0 then 0 else 0xffffffff <<< UInt32.ofNat (32 - length)

/-- `tun_gateway`. -/
def tunGateway (address : Ipv4Addr) : Ipv4Addr :=
  .ofList [address.val.getD 0 0, address.val.getD 1 0, address.val.getD 2 0, 1]

end Cidr

section Requests

/-- `RtMsg`. -/
structure RtMsg where
  /-- `family`. -/
  family : UInt8
  /-- `dst_len`. -/
  dstLen : UInt8
  /-- `src_len`. -/
  srcLen : UInt8
  /-- `tos`. -/
  tos : UInt8
  /-- `table`. -/
  table : UInt8
  /-- `protocol`. -/
  protocol : UInt8
  /-- `scope`. -/
  scope : UInt8
  /-- `kind`. -/
  kind : UInt8
  /-- `flags`. -/
  flags : UInt32
  deriving DecidableEq

/-- `RTA_DST`. -/
def rtaDst : UInt16 := 1
/-- `RTA_OIF`. -/
def rtaOif : UInt16 := 4
/-- `RTA_GATEWAY`. -/
def rtaGateway : UInt16 := 5
/-- `RT_SCOPE_UNIVERSE`. -/
def rtScopeUniverse : UInt8 := 0
/-- `RT_SCOPE_LINK` of the system. -/
def rtScopeLink : UInt8 := 253
/-- `RT_SCOPE_NOWHERE` of the system. -/
def rtScopeNowhere : UInt8 := 255
/-- `RT_PROTOCOL_STATIC`. -/
def rtProtocolStatic : UInt8 := 4
/-- `RTN_UNICAST`. -/
def rtnUnicast : UInt8 := 1
/-- `RT_TABLE_MAIN`. -/
def rtTableMain : UInt8 := 254
/-- `AF_INET` of the system. -/
def afInet : UInt8 := 2
/-- `RTM_NEWROUTE` of the system. -/
def rtmNewroute : UInt16 := 24
/-- `RTM_DELROUTE` of the system. -/
def rtmDelroute : UInt16 := 25
/-- `NLM_F_REQUEST` of the system. -/
def nlmRequest : UInt16 := 1
/-- `NLM_F_ACK` of the system. -/
def nlmAck : UInt16 := 4
/-- `NLM_F_EXCL` of the system. -/
def nlmExcl : UInt16 := 0x200
/-- `NLM_F_CREATE` of the system. -/
def nlmCreate : UInt16 := 0x400

/-- `nl_header`, with the number of the message. -/
def nlHeader (sequence : UInt32) (length : UInt32) (kind flags : UInt16) : NlMsgHeader where
  length := length
  type := kind
  flags := flags
  sequence := sequence
  port := 0

/-- The bytes of a header. -/
def NlMsgHeader.bytes (header : NlMsgHeader) : List UInt8 :=
  Tlv.le 4 header.length.toNat ++ Tlv.le 2 header.type.toNat ++ Tlv.le 2 header.flags.toNat ++
    Tlv.le 4 header.sequence.toNat ++ Tlv.le 4 header.port.toNat

/-- The bytes of the description of a route. -/
def RtMsg.bytes (message : RtMsg) : List UInt8 :=
  [message.family, message.dstLen, message.srcLen, message.tos, message.table, message.protocol,
    message.scope, message.kind] ++ Tlv.le 4 message.flags.toNat

/-- The loop that pushes zeroes. -/
def padded (buffer : List UInt8) : List UInt8 := buffer ++ Tlv.padding buffer.length

/-- `push_rta`. -/
def pushRta (buffer : List UInt8) (kind : UInt16) (payload : List UInt8) : List UInt8 :=
  padded (buffer ++ Tlv.le 2 (4 + payload.length) ++ Tlv.le 2 kind.toNat ++ payload)

/-- The length is written over the first bytes. -/
def withLength (buffer : List UInt8) : List UInt8 :=
  Bytes.splice buffer 0 (Tlv.le 4 buffer.length)

/-- What `route_add` sends for a network. -/
def addRequest (sequence : UInt32) (network : Ipv4Addr) (length : Nat) (gateway : Option Ipv4Addr)
    (interface : Int32) : List UInt8 :=
  let header :=
    nlHeader sequence 0 rtmNewroute (nlmRequest ||| nlmCreate ||| nlmExcl ||| nlmAck)
  let message : RtMsg :=
    { family := afInet
      dstLen := .ofNat length
      srcLen := 0
      tos := 0
      table := rtTableMain
      protocol := rtProtocolStatic
      scope := if gateway.isSome then rtScopeUniverse else rtScopeLink
      kind := rtnUnicast
      flags := 0 }
  let buffer := pushRta (padded (header.bytes ++ message.bytes)) rtaDst network.val
  let buffer :=
    match gateway with
    | none => buffer
    | some gateway => pushRta buffer rtaGateway gateway.val
  withLength (pushRta buffer rtaOif (Tlv.le 4 interface.toUInt32.toNat))

/-- What `route_del` sends for a network. -/
def delRequest (sequence : UInt32) (network : Ipv4Addr) (length : Nat) : List UInt8 :=
  let header := nlHeader sequence 0 rtmDelroute (nlmRequest ||| nlmAck)
  let message : RtMsg :=
    { family := afInet
      dstLen := .ofNat length
      srcLen := 0
      tos := 0
      table := rtTableMain
      protocol := rtProtocolStatic
      scope := rtScopeNowhere
      kind := rtnUnicast
      flags := 0 }
  withLength (pushRta (padded (header.bytes ++ message.bytes)) rtaDst network.val)

/-- `route_del` — what is sent, and the number of the next message. -/
def routeDel (sequence : UInt32) (destination : Text) : List (List UInt8) × UInt32 :=
  match parseCidr destination with
  | .error _ => ([], sequence)
  | .ok (network, length) =>
    if length = 0 then ([], sequence)
    else ([delRequest sequence network length], sequence + 1)

/-- `route_add` — what is sent, and the number of the next message. -/
def routeAdd (sequence : UInt32) (destination : Text) (gateway : Option Ipv4Addr)
    (interface : Int32) (ensure : Bool) : Except Text (List (List UInt8) × UInt32) := do
  let (network, length) ← parseCidr destination
  if length = 0 then
    throw "маршрут 0/0 не поддерживается — используйте half-маршруты 0/1 + 128/1".toList
  let (deleted, sequence) := if ensure then routeDel sequence destination else ([], sequence)
  return (deleted ++ [addRequest sequence network length gateway interface], sequence + 1)

end Requests

section Rows

/-- `RouteRow`. -/
structure RouteRow where
  /-- `interface`. -/
  interface : Text
  /-- `destination`. -/
  destination : UInt32
  /-- `mask`. -/
  mask : UInt32
  /-- `gateway`. -/
  gateway : UInt32
  /-- `flags`. -/
  flags : UInt32
  deriving DecidableEq

/-- `from_str_radix` of a `u32` with the radix 16. -/
def parseHex (text : Text) : Option UInt32 :=
  (Reader.parseWith (Reader.number 16 none true (2 ^ 32)) (Str.withoutPlus text)).map UInt32.ofNat

/-- `swap_bytes`. -/
def swapBytes (value : UInt32) : UInt32 := .ofNat (Bytes.fromBe (Bytes.be 4 value.toNat).reverse)

/-- A line of the table. -/
def parseRouteRow (line : Text) : Option RouteRow :=
  match Str.splitWhitespace line with
  | interface :: destination :: gateway :: flags :: _refcnt :: _use :: _metric :: mask :: _ => do
    let destination ← parseHex destination
    let gateway ← parseHex gateway
    let flags ← parseHex flags
    let mask ← parseHex mask
    return {
      interface
      destination := swapBytes destination
      mask := swapBytes mask
      gateway := swapBytes gateway
      flags }
  | _ => none

/-- `parse_route_rows`, of the text of the table. -/
def parseRouteRows (table : Text) : List RouteRow :=
  ((Str.lines table).drop 1).filterMap parseRouteRow

/-- `find_default_gateway`; the number of the interface is asked for. -/
def findDefaultGateway (interfaceIndex : Text → Except Text Int32) (table : Text) :
    Except Text (Ipv4Addr × Int32) :=
  match (parseRouteRows table).find? fun row =>
      row.destination == 0 && row.mask == 0 && row.flags &&& 2 != 0 with
  | some row => (interfaceIndex row.interface).map (Ipv4Addr.ofU32 row.gateway, ·)
  | none => .error "default-маршрут не найден — нет сети?".toList

/-- `route_exists`. -/
def routeExists (table : Text) (destination : Text) (gateway : Ipv4Addr) (interface : Text) :
    Except Text Bool :=
  (parseCidr destination).map fun (network, length) =>
    (parseRouteRows table).any fun row =>
      row.destination == network.toU32 && row.mask == prefixMask length &&
        row.interface == interface && Ipv4Addr.ofU32 row.gateway == gateway

end Rows

end Focsq.TunLinux
