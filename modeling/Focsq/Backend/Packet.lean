import Focsq.Lib.Bytes

/-!
# Packet buffers

`PacketBuf` of `packet.rs` is a fixed block of 2304 bytes with the range that holds the packet.
Headers are prepended and trailers appended by moving the ends of the range, so a packet is never
copied. The block's length and the order of the range's ends are part of the type.

A fallible function ends with a result or with a `Failure`. An out-of-range index, a slice whose
ends are out of order and a subtraction below zero are failures of their own, so that their
absence can be stated.
-/

namespace Focsq

/-- How a fallible function can end without a result. -/
inductive Failure where
  /-- `bail!` with its message. -/
  | bail (message : String)
  /-- A bounds check or an arithmetic check of the language. -/
  | panic
  deriving DecidableEq, Repr

/-- `left - right` on `usize`. -/
def checkedSub (left right : Nat) : Except Failure Nat :=
  if right ≤ left then .ok (left - right) else .error .panic

/-- `bytes[index]`. -/
def byteAt (bytes : List UInt8) (index : Nat) : Except Failure UInt8 :=
  match bytes[index]? with
  | some byte => .ok byte
  | none => .error .panic

/-- `&bytes[start..stop]`. -/
def sliceAt (bytes : List UInt8) (start stop : Nat) : Except Failure (List UInt8) :=
  if start ≤ stop ∧ stop ≤ bytes.length then .ok (Bytes.slice bytes start stop)
  else .error .panic

namespace Packet

/-- `PACKET_HEADROOM` — where packets are read to. -/
def packetHeadroom : Nat := 64
/-- `PACKET_CAPACITY` — size of a buffer. -/
def packetCapacity : Nat := 2304

/-- `PacketBuf` — a buffer and the range of the packet in it. -/
structure PacketBuf where
  /-- The whole buffer. -/
  storage : List UInt8
  /-- Where the packet starts. -/
  start : Nat
  /-- Where the packet ends. -/
  stop : Nat
  /-- Buffers have one size. -/
  sized : storage.length = packetCapacity
  /-- The range is a range. -/
  ordered : start ≤ stop
  /-- The range lies in the buffer. -/
  inside : stop ≤ packetCapacity
  deriving DecidableEq

/-- `len` — length of the packet. -/
def PacketBuf.len (packet : PacketBuf) : Nat := packet.stop - packet.start

/-- `is_empty` — whether there is no packet. -/
def PacketBuf.isEmpty (packet : PacketBuf) : Bool := packet.start == packet.stop

/-- `as_slice` — the bytes of the packet. -/
def PacketBuf.asSlice (packet : PacketBuf) : List UInt8 :=
  Bytes.slice packet.storage packet.start packet.stop

/-- `set_read_len` — the packet is what was read at the headroom. -/
def PacketBuf.setReadLen (packet : PacketBuf) (len : Nat) : Except Failure PacketBuf :=
  if fits : packetHeadroom + len ≤ packetCapacity then
    .ok { packet with
      start := packetHeadroom
      stop := packetHeadroom + len
      ordered := Nat.le_add_right _ _
      inside := fits }
  else .error (.bail "packet read length exceeds capacity")

/-- `prepend` — move the front of the packet back. -/
def PacketBuf.prepend (packet : PacketBuf) (len : Nat) : Except Failure PacketBuf :=
  if len ≤ packet.start then
    .ok { packet with
      start := packet.start - len
      ordered := Nat.le_trans (Nat.sub_le _ _) packet.ordered }
  else .error (.bail "packet prepend exceeds headroom")

/-- `extend_tail` — move the end of the packet forward. -/
def PacketBuf.extendTail (packet : PacketBuf) (len : Nat) : Except Failure PacketBuf :=
  if fits : packet.stop + len ≤ packetCapacity then
    .ok { packet with
      stop := packet.stop + len
      ordered := Nat.le_trans packet.ordered (Nat.le_add_right _ _)
      inside := fits }
  else .error (.bail "packet tail exceeds capacity")

/-- `trim_front` — drop bytes from the front of the packet. -/
def PacketBuf.trimFront (packet : PacketBuf) (len : Nat) : Except Failure PacketBuf :=
  if fits : len ≤ packet.len then
    .ok { packet with
      start := packet.start + len
      ordered := by
        have order := packet.ordered
        unfold PacketBuf.len at fits
        omega }
  else .error (.bail "packet trim exceeds length")

/-- `truncate` — drop bytes from the end of the packet. -/
def PacketBuf.truncate (packet : PacketBuf) (len : Nat) : Except Failure PacketBuf :=
  if fits : len ≤ packet.len then
    .ok { packet with
      stop := packet.start + len
      ordered := Nat.le_add_right _ _
      inside := by
        have order := packet.ordered
        have bound := packet.inside
        unfold PacketBuf.len at fits
        omega }
  else .error (.bail "packet truncate exceeds length")

/-- `set_range` — the packet is another range of the buffer. -/
def PacketBuf.setRange (packet : PacketBuf) (start stop : Nat) : Except Failure PacketBuf :=
  if fits : start ≤ stop ∧ stop ≤ packetCapacity then
    .ok { packet with start, stop, ordered := fits.1, inside := fits.2 }
  else .error (.bail "packet range is invalid")

/-- `&storage[start..stop]`. -/
def PacketBuf.read (packet : PacketBuf) (start stop : Nat) : Except Failure (List UInt8) :=
  sliceAt packet.storage start stop

/-- `storage[start..].copy_from_slice(data)`, with the length of the data. -/
def PacketBuf.write (packet : PacketBuf) (start : Nat) (data : List UInt8) :
    Except Failure PacketBuf :=
  if fits : start + data.length ≤ packetCapacity then
    .ok { packet with
      storage := Bytes.splice packet.storage start data
      sized := by
        rw [Bytes.length_splice _ _ _ (packet.sized ▸ fits)]
        exact packet.sized }
  else .error .panic

end Packet

end Focsq
