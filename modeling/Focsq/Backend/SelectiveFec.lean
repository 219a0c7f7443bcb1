import Focsq.Backend.FlowFrame
import Focsq.Backend.Protocol
import Focsq.Backend.StripedScheduler

/-!
# Packets that are sent twice

`shared/selective_fec.rs` picks the packets whose loss would cost most: control messages, packets
that open a TCP connection, name resolution and short UDP packets. A budget limits how many of them
are sent twice: it holds a burst of tokens and gains one in every interval.

Times are nanoseconds of the monotonic clock; `saturating_duration_since` is truncated subtraction.
-/

namespace Focsq.SelectiveFec

open Protocol (ascii)
open StripedScheduler (getRange)

/-- `MAX_SMALL_UDP_PAYLOAD` — payload of the longest UDP packet that is short. -/
def maxSmallUdpPayload : Nat := 256
/-- `DUPLICATES_PER_SECOND`. -/
def duplicatesPerSecond : Nat := 50
/-- `DUPLICATE_BURST` — tokens of a full budget. -/
def duplicateBurst : Nat := 10
/-- `REFILL_INTERVAL` in nanoseconds. -/
def refillInterval : Nat := 1000 / duplicatesPerSecond * 1000000
/-- `u32::MAX`. -/
def u32Max : Nat := 2 ^ 32 - 1

/-- `Budget` — how many packets may be sent twice. -/
structure Budget where
  /-- Tokens left. -/
  tokens : Nat
  /-- The time up to which tokens were added. -/
  updated : Nat
  deriving DecidableEq, Repr

/-- `Budget::new` — a full budget. -/
def Budget.new (now : Nat) : Budget := ⟨duplicateBurst, now⟩

/-- The first part of `allow`: tokens are added for the whole intervals that have passed. -/
def Budget.refilled (budget : Budget) (now : Nat) : Budget :=
  let elapsed := now - budget.updated
  let refill := elapsed / refillInterval
  if refill ≠ 0 then
    let refill := min refill u32Max
    { tokens := min (min (budget.tokens + refill) u32Max) duplicateBurst
      updated := budget.updated + refillInterval * refill }
  else budget

/-- `Budget::allow` — take a token if there is one. -/
def Budget.allow (budget : Budget) (now : Nat) : Budget × Bool :=
  let budget := budget.refilled now
  if budget.tokens = 0 then (budget, false)
  else ({ budget with tokens := budget.tokens - 1 }, true)

/-- `is_control` — whether a packet is a control message. -/
def isControl (packet : List UInt8) : Bool :=
  (ascii "GETCONF:").isPrefixOf packet || (ascii "TUNCONF:").isPrefixOf packet ||
    packet == ascii "READY" || packet == ascii "READY_OK" ||
    (ascii "DENIED:").isPrefixOf packet || (ascii "DISCONNECT:").isPrefixOf packet

/-- `Transport` — the transport protocol of a packet and what it carries. -/
structure Transport where
  /-- Number of the protocol. -/
  protocol : UInt8
  /-- The transport header and all that follows. -/
  bytes : List UInt8
  deriving DecidableEq, Repr

/-- `classify_transport` — whether the packet is to be sent twice. -/
def classifyTransport (transport : Transport) : Bool :=
  let source := Bytes.fromBe (Bytes.slice transport.bytes 0 2)
  let destination := Bytes.fromBe (Bytes.slice transport.bytes 2 4)
  if transport.protocol = 6 ∧ 14 ≤ transport.bytes.length then
    source == 53 || destination == 53 || transport.bytes[13]?.getD 0 &&& 0x02 != 0
  else if transport.protocol = 17 ∧ 8 ≤ transport.bytes.length then
    source == 53 || destination == 53 ||
      decide (transport.bytes.length - 8 ≤ maxSmallUdpPayload)
  else false

/-- `ipv4_transport` — the transport of an IPv4 packet that is no later fragment. -/
def ipv4Transport (packet : List UInt8) : Option Transport :=
  if packet.length < 20 ∨ packet[0]?.getD 0 >>> 4 ≠ 4 then none
  else
    let headerLen := (packet[0]?.getD 0 &&& 0x0f).toNat * 4
    if headerLen < 20 ∨ packet.length < headerLen then none
    else
      let fragment := Bytes.fromBe (Bytes.slice packet 6 8)
      if fragment &&& 0x1fff ≠ 0 then none
      else some ⟨packet[9]?.getD 0, packet.drop headerLen⟩

/-- What one turn of the loop of `ipv6_transport` does. -/
inductive Turn where
  /-- `return None`. -/
  | refuse
  /-- `break` — the protocol is no extension header. -/
  | leave
  /-- The protocol and the offset after an extension header. -/
  | onward (protocol : UInt8) (offset : Nat)
  deriving DecidableEq, Repr

/-- The `match` in the loop of `ipv6_transport`. -/
def extensionHeader (packet : List UInt8) (protocol : UInt8) (offset : Nat) : Turn :=
  if protocol = 0 ∨ protocol = 43 ∨ protocol = 60 then
    match getRange packet offset (offset + 2) with
    | none => .refuse
    | some header =>
      .onward (header[0]?.getD 0) (offset + ((header[1]?.getD 0).toNat + 1) * 8)
  else if protocol = 44 then
    match getRange packet offset (offset + 8) with
    | none => .refuse
    | some header =>
      let fragment := Bytes.fromBe (Bytes.slice header 2 4)
      if fragment &&& 0xfff8 ≠ 0 then .refuse
      else .onward (header[0]?.getD 0) (offset + 8)
  else if protocol = 51 then
    match getRange packet offset (offset + 2) with
    | none => .refuse
    | some header =>
      .onward (header[0]?.getD 0) (offset + ((header[1]?.getD 0).toNat + 2) * 4)
  else .leave

/-- The loop of `ipv6_transport`: the protocol and the offset after it. -/
def ipv6Loop (packet : List UInt8) : Nat → UInt8 → Nat → Option (UInt8 × Nat)
  | 0, protocol, offset => some (protocol, offset)
  | turns + 1, protocol, offset =>
    match extensionHeader packet protocol offset with
    | .refuse => none
    | .leave => some (protocol, offset)
    | .onward protocol offset =>
      if packet.length < offset then none else ipv6Loop packet turns protocol offset

/-- `ipv6_transport` — the transport of an IPv6 packet that is no later fragment. -/
def ipv6Transport (packet : List UInt8) : Option Transport :=
  if packet.length < 40 ∨ packet[0]?.getD 0 >>> 4 ≠ 6 then none
  else
    match ipv6Loop packet 8 (packet[6]?.getD 0) 40 with
    | none => none
    | some (protocol, offset) =>
      (getRange packet offset packet.length).map fun bytes => ⟨protocol, bytes⟩

/-- The transport that `should_duplicate` looks at. -/
def transportOf (packet : List UInt8) : Option Transport :=
  match packet.head? with
  | none => none
  | some first =>
    if first >>> 4 = 4 then ipv4Transport packet
    else if first >>> 4 = 6 then ipv6Transport packet
    else none

/-- `should_duplicate` — whether a packet, which may be framed, is to be sent twice. -/
def shouldDuplicate (packet : List UInt8) : Bool :=
  let packet := FlowFrame.payload packet
  if isControl packet then true else (transportOf packet).any classifyTransport

end Focsq.SelectiveFec
