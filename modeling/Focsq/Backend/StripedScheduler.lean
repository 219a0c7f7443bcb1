import Focsq.Backend.FlowFrame

/-!
# Classes of packets

`shared/striped_scheduler.rs` sorts packets into three classes by what they are and how long they
are. Consecutive packets of a class form a chunk, and the packets of a chunk take the same path.

Offsets into a packet do not exceed its length by more than one extension header, so that checked
and saturating sums of `usize` are plain ones.
-/

namespace Focsq.StripedScheduler

open FlowFrame

/-- `SMALL_PACKET_MAX` — length of the longest small packet. -/
def smallPacketMax : Nat := 164
/-- `MEDIUM_PACKET_MAX` — length of the longest medium packet. -/
def mediumPacketMax : Nat := 999
/-- `SMALL_STREAM_STRIPE_PACKET_CHUNK`. -/
def smallStreamStripePacketChunk : Nat := 4
/-- `MEDIUM_STREAM_STRIPE_PACKET_CHUNK`. -/
def mediumStreamStripePacketChunk : Nat := 16
/-- `BULK_STREAM_STRIPE_PACKET_CHUNK`. -/
def bulkStreamStripePacketChunk : Nat := 32

/-- `PacketClass`. -/
inductive PacketClass where
  /-- Short packets, and those that should not wait. -/
  | small
  /-- Packets of medium length. -/
  | medium
  /-- Long packets. -/
  | bulk
  deriving DecidableEq, Repr

/-- `index` — where the data of a class is kept. -/
def PacketClass.index : PacketClass → Fin 3
  | .small => 0
  | .medium => 1
  | .bulk => 2

/-- `stream_chunk` — number of packets in a chunk. -/
def PacketClass.streamChunk : PacketClass → Nat
  | .small => smallStreamStripePacketChunk
  | .medium => mediumStreamStripePacketChunk
  | .bulk => bulkStreamStripePacketChunk

/-- `DispatchTicket` — the slot of the worker a packet goes to. -/
structure DispatchTicket where
  /-- The slot. -/
  startSlot : Nat
  /-- The class of the packet. -/
  packetClass : PacketClass
  deriving DecidableEq

/-- `packet.get(start..stop)`. -/
def getRange (packet : List UInt8) (start stop : Nat) : Option (List UInt8) :=
  if start ≤ stop ∧ stop ≤ packet.length then some (Bytes.slice packet start stop) else none

/-- `size_class`. -/
def sizeClass (length : Nat) : PacketClass :=
  if length ≤ smallPacketMax then .small
  else if length ≤ mediumPacketMax then .medium
  else .bulk

/-- `is_dns` — whether a TCP or UDP packet is from or to port 53. -/
def isDns (packet : List UInt8) (transport : UInt8) (offset : Nat) : Bool :=
  if transport != 6 && transport != 17 then false
  else
    match getRange packet offset (offset + 4) with
    | none => false
    | some ports =>
      Bytes.fromBe (Bytes.slice ports 0 2) == 53 || Bytes.fromBe (Bytes.slice ports 2 4) == 53

/-- `is_tcp_control` — whether a TCP packet opens or closes its connection, or acknowledges without
carrying data. -/
def isTcpControl (packet : List UInt8) (offset : Nat) : Bool :=
  match getRange packet offset (offset + 14) with
  | none => false
  | some header =>
    let flags := header[13]?.getD 0
    if flags &&& (0x02 ||| 0x01 ||| 0x04) != 0 then true
    else if flags &&& 0x10 == 0 then false
    else
      let headerLen := (header[12]?.getD 0 >>> 4).toNat * 4
      decide (20 ≤ headerLen) && decide (packet.length ≤ offset + headerLen)

/-- The loop of `ipv6_transport` over the extension headers. -/
def ipv6Loop (packet : List UInt8) : Nat → UInt8 → Nat → Option (UInt8 × Nat)
  | 0, protocol, offset => some (protocol, offset)
  | turns + 1, protocol, offset =>
    let further := fun (protocol : UInt8) (offset : Nat) =>
      if packet.length < offset then none else ipv6Loop packet turns protocol offset
    if protocol = 0 ∨ protocol = 43 ∨ protocol = 60 then
      match getRange packet offset (offset + 2) with
      | none => none
      | some header =>
        further (header[0]?.getD 0) (offset + ((header[1]?.getD 0).toNat + 1) * 8)
    else if protocol = 44 then
      match getRange packet offset (offset + 8) with
      | none => none
      | some header =>
        -- Later fragments have no transport header.
        if Bytes.fromBe (Bytes.slice header 2 4) &&& 0xfff8 ≠ 0 then none
        else further (header[0]?.getD 0) (offset + 8)
    else if protocol = 51 then
      match getRange packet offset (offset + 2) with
      | none => none
      | some header =>
        further (header[0]?.getD 0) (offset + ((header[1]?.getD 0).toNat + 2) * 4)
    else some (protocol, offset)

/-- `ipv6_transport` — the transport protocol and where its header is. -/
def ipv6Transport (packet : List UInt8) : Option (UInt8 × Nat) :=
  ipv6Loop packet 8 (packet[6]?.getD 0) 40

/-- `internet_transport` — the transport protocol of an IP packet and where its header is. -/
def internetTransport (packet : List UInt8) : Option (UInt8 × Nat) :=
  match packet.head? with
  | none => none
  | some first =>
    if first >>> 4 = 4 then
      let headerLen := (first &&& 0x0f).toNat * 4
      if 20 ≤ headerLen ∧ headerLen ≤ packet.length then some (packet[9]?.getD 0, headerLen)
      else none
    else if first >>> 4 = 6 ∧ 40 ≤ packet.length then ipv6Transport packet
    else none

/-- `packet_class` — the class of a packet, which may be framed. -/
def packetClass (packet : List UInt8) : PacketClass :=
  let packet := payload packet
  match internetTransport packet with
  | none => sizeClass packet.length
  | some (transport, offset) =>
    if transport == 1 || transport == 58 || isDns packet transport offset then .small
    else if transport == 6 && isTcpControl packet offset then .small
    else sizeClass packet.length

end Focsq.StripedScheduler
