import Focsq.Backend.Packet

/-!
# Operations on packets as operations on their bytes

Each operation of a packet buffer succeeds within its bounds, and what it does to the bytes of the
packet does not depend on where the packet lies in the buffer.
-/

namespace Focsq

/-- Reading a byte in bounds. -/
theorem byteAt_eq (bytes : List UInt8) (index : Nat) (inside : index < bytes.length) :
    byteAt bytes index = .ok (bytes[index]?.getD 0) := by
  rw [byteAt, List.getElem?_eq_getElem inside]
  rfl

/-- Subtracting what is not more. -/
theorem checkedSub_eq (left right : Nat) (order : right ≤ left) :
    checkedSub left right = .ok (left - right) := if_pos order

/-- Slicing in bounds. -/
theorem sliceAt_eq (bytes : List UInt8) (start stop : Nat) (order : start ≤ stop)
    (inside : stop ≤ bytes.length) :
    sliceAt bytes start stop = .ok (Bytes.slice bytes start stop) :=
  if_pos ⟨order, inside⟩

namespace Packet

/-- A packet has as many bytes as its range. -/
theorem PacketBuf.length_asSlice (packet : PacketBuf) : packet.asSlice.length = packet.len := by
  rw [PacketBuf.asSlice, Bytes.length_slice _ _ _ (packet.sized ▸ packet.inside), PacketBuf.len]

/-- The range of a packet is as long as the packet. -/
theorem PacketBuf.stop_eq (packet : PacketBuf) : packet.stop = packet.start + packet.len := by
  have order := packet.ordered
  unfold PacketBuf.len
  omega

/-- Reading inside the packet reads its bytes. -/
theorem PacketBuf.read_eq (packet : PacketBuf) (first last : Nat) (order : first ≤ last)
    (inside : last ≤ packet.len) :
    packet.read (packet.start + first) (packet.start + last) =
      .ok (Bytes.slice packet.asSlice first last) := by
  have range := packet.stop_eq
  have bound := packet.inside
  rw [PacketBuf.read, sliceAt_eq _ _ _ (by omega) (by rw [packet.sized]; omega), PacketBuf.asSlice,
    Bytes.slice_slice _ _ _ _ _ (by omega)]

/-- Reading a byte of the packet. -/
theorem PacketBuf.byteAt_storage (packet : PacketBuf) (index : Nat) (inside : index < packet.len) :
    byteAt packet.storage (packet.start + index) = .ok (packet.asSlice[index]?.getD 0) := by
  have range := packet.stop_eq
  have bound := packet.inside
  rw [byteAt_eq _ _ (by rw [packet.sized]; omega), PacketBuf.asSlice,
    Bytes.getElem?_slice _ _ _ _ (by omega)]

/-- Writing inside the packet writes its bytes. -/
theorem PacketBuf.write_eq (packet : PacketBuf) (first : Nat) (data : List UInt8)
    (inside : first + data.length ≤ packet.len) :
    ∃ out, packet.write (packet.start + first) data = .ok out ∧ out.start = packet.start ∧
      out.stop = packet.stop ∧ out.asSlice = Bytes.splice packet.asSlice first data := by
  have range := packet.stop_eq
  have bound := packet.inside
  have fits : packet.start + first + data.length ≤ packetCapacity := by omega
  refine ⟨_, dif_pos fits, rfl, rfl, ?_⟩
  show Bytes.slice (Bytes.splice packet.storage (packet.start + first) data) packet.start
    packet.stop = _
  rw [Bytes.slice_splice_within _ _ _ _ _ (Nat.le_add_right _ _) (by omega)
    (packet.sized ▸ bound), Nat.add_sub_cancel_left, PacketBuf.asSlice]

/-- Within the headroom, prepending puts some bytes in front. -/
theorem PacketBuf.prepend_eq (packet : PacketBuf) (len : Nat) (fits : len ≤ packet.start) :
    ∃ out, packet.prepend len = .ok out ∧ out.start = packet.start - len ∧
      out.stop = packet.stop ∧
      ∃ front, front.length = len ∧ out.asSlice = front ++ packet.asSlice := by
  have order := packet.ordered
  have bound := packet.inside
  refine ⟨_, if_pos fits, rfl, rfl,
    Bytes.slice packet.storage (packet.start - len) packet.start, ?_, ?_⟩
  · rw [Bytes.length_slice _ _ _ (by rw [packet.sized]; omega)]
    omega
  · exact (Bytes.slice_append _ _ _ _ (Nat.sub_le _ _) order).symm

/-- Within the capacity, extending puts some bytes behind. -/
theorem PacketBuf.extendTail_eq (packet : PacketBuf) (len : Nat)
    (fits : packet.stop + len ≤ packetCapacity) :
    ∃ out, packet.extendTail len = .ok out ∧ out.start = packet.start ∧
      out.stop = packet.stop + len ∧
      ∃ back, back.length = len ∧ out.asSlice = packet.asSlice ++ back := by
  refine ⟨_, dif_pos fits, rfl, rfl,
    Bytes.slice packet.storage packet.stop (packet.stop + len), ?_, ?_⟩
  · rw [Bytes.length_slice _ _ _ (by rw [packet.sized]; omega), Nat.add_sub_cancel_left]
  · exact (Bytes.slice_append _ _ _ _ packet.ordered (Nat.le_add_right _ _)).symm

/-- Trimming drops bytes from the front. -/
theorem PacketBuf.trimFront_eq (packet : PacketBuf) (len : Nat) (fits : len ≤ packet.len) :
    ∃ out, packet.trimFront len = .ok out ∧ out.start = packet.start + len ∧
      out.stop = packet.stop ∧ out.asSlice = packet.asSlice.drop len := by
  refine ⟨_, dif_pos fits, rfl, rfl, ?_⟩
  show Bytes.slice packet.storage (packet.start + len) packet.stop = _
  rw [PacketBuf.asSlice, Bytes.slice, Bytes.slice, List.drop_drop]

/-- Truncating drops bytes from the end. -/
theorem PacketBuf.truncate_eq (packet : PacketBuf) (len : Nat) (fits : len ≤ packet.len) :
    ∃ out, packet.truncate len = .ok out ∧ out.start = packet.start ∧
      out.stop = packet.start + len ∧ out.asSlice = packet.asSlice.take len := by
  have range := packet.stop_eq
  refine ⟨_, dif_pos fits, rfl, rfl, ?_⟩
  show Bytes.slice packet.storage packet.start (packet.start + len) = _
  rw [PacketBuf.asSlice, Bytes.slice, Bytes.slice, List.take_drop, List.take_take,
    Nat.min_eq_left (by omega)]

/-- Narrowing the range of the packet narrows its bytes. -/
theorem PacketBuf.setRange_eq (packet : PacketBuf) (first last : Nat) (order : first ≤ last)
    (inside : last ≤ packet.len) :
    ∃ out, packet.setRange (packet.start + first) (packet.start + last) = .ok out ∧
      out.start = packet.start + first ∧ out.stop = packet.start + last ∧
      out.asSlice = Bytes.slice packet.asSlice first last := by
  have range := packet.stop_eq
  have bound := packet.inside
  refine ⟨_, dif_pos ⟨by omega, by omega⟩, rfl, rfl, ?_⟩
  show Bytes.slice packet.storage (packet.start + first) (packet.start + last) = _
  rw [PacketBuf.asSlice, Bytes.slice_slice _ _ _ _ _ (by omega)]

/-- Reading one segment of the packet. -/
theorem PacketBuf.read_segment (packet : PacketBuf) (front middle rest : List UInt8)
    (bytes : packet.asSlice = front ++ (middle ++ rest)) :
    packet.read (packet.start + front.length) (packet.start + (front.length + middle.length)) =
      .ok middle := by
  have len := packet.length_asSlice
  rw [bytes, List.length_append, List.length_append] at len
  rw [packet.read_eq _ _ (Nat.le_add_right _ _) (by omega), bytes, Bytes.slice_segment]

/-- Writing over one segment of the packet. -/
theorem PacketBuf.write_segment (packet : PacketBuf) (front old rest new : List UInt8)
    (bytes : packet.asSlice = front ++ (old ++ rest)) (same : new.length = old.length) :
    ∃ out, packet.write (packet.start + front.length) new = .ok out ∧
      out.start = packet.start ∧ out.stop = packet.stop ∧
      out.asSlice = front ++ (new ++ rest) := by
  have len := packet.length_asSlice
  rw [bytes, List.length_append, List.length_append] at len
  obtain ⟨out, written, start, stop, spliced⟩ := packet.write_eq front.length new (by omega)
  exact ⟨out, written, start, stop, by rw [spliced, bytes, Bytes.splice_segment _ _ _ _ same]⟩

/-- A zeroed buffer with a packet in it. -/
def PacketBuf.holding (wire : List UInt8) (start : Nat)
    (fits : start + wire.length ≤ packetCapacity) : PacketBuf where
  storage := List.replicate start 0 ++ wire ++
    List.replicate (packetCapacity - (start + wire.length)) 0
  start := start
  stop := start + wire.length
  sized := by
    rw [List.length_append, List.length_append, List.length_replicate, List.length_replicate]
    omega
  ordered := Nat.le_add_right _ _
  inside := fits

/-- The buffer holds the packet. -/
theorem PacketBuf.asSlice_holding (wire : List UInt8) (start : Nat)
    (fits : start + wire.length ≤ packetCapacity) :
    (PacketBuf.holding wire start fits).asSlice = wire := by
  have front : (List.replicate start (0 : UInt8)).length = start := List.length_replicate
  have both : (List.replicate start (0 : UInt8) ++ wire).length = start + wire.length := by
    rw [List.length_append, front]
  show Bytes.slice (_ ++ wire ++ _) start (start + wire.length) = wire
  rw [Bytes.slice, List.take_left' both, List.drop_left' front]

end Packet

end Focsq
