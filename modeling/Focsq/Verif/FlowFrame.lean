import Focsq.Backend.Dispatcher
import Focsq.Backend.Session
import Focsq.Verif.Packet

/-!
# Framing is transparent

A frame is decoded to its header and what it frames, and no IP packet looks like a frame: the first
letter of the magic would be an IPv4 header of 12 bytes. So whatever the sequencer decides, the
other side gets the packet.
-/

namespace Focsq.FlowFrame

open Packet

/-- A frame header has 24 bytes. -/
theorem FrameHeader.length_encode (header : FrameHeader) : header.encode.length = frameLen := by
  simp [FrameHeader.encode, frameMagic, frameLen]

/-- A frame is decoded to what was framed. -/
theorem FrameHeader.decode_encode (header : FrameHeader) (payload : List UInt8) :
    FrameHeader.decode (header.encode ++ payload) = some (header, payload) := by
  have length : (header.encode ++ payload).length = 24 + payload.length := by
    rw [List.length_append, header.length_encode, frameLen]
  have parts : header.encode ++ payload = frameMagic ++ (Bytes.be 8 header.senderId.toNat ++
      (Bytes.be 8 header.flowId.toNat ++ (Bytes.be 4 header.sequence.toNat ++ payload))) := by
    simp only [FrameHeader.encode, List.append_assoc]
  have magic := Bytes.slice_segment [] frameMagic (Bytes.be 8 header.senderId.toNat ++
    (Bytes.be 8 header.flowId.toNat ++ (Bytes.be 4 header.sequence.toNat ++ payload)))
  have sender := Bytes.slice_segment frameMagic (Bytes.be 8 header.senderId.toNat)
    (Bytes.be 8 header.flowId.toNat ++ (Bytes.be 4 header.sequence.toNat ++ payload))
  have flow := Bytes.slice_segment (frameMagic ++ Bytes.be 8 header.senderId.toNat)
    (Bytes.be 8 header.flowId.toNat) (Bytes.be 4 header.sequence.toNat ++ payload)
  have place := Bytes.slice_segment
    (frameMagic ++ Bytes.be 8 header.senderId.toNat ++ Bytes.be 8 header.flowId.toNat)
    (Bytes.be 4 header.sequence.toNat) payload
  have four : frameMagic.length = 4 := rfl
  simp only [List.append_assoc, List.length_append, Bytes.length_be, four, List.nil_append,
    List.length_nil, Nat.zero_add, Nat.reduceAdd, ← parts] at magic sender flow place
  have whole : ¬(decide ((header.encode ++ payload).length < frameLen) ||
      Bytes.slice (header.encode ++ payload) 0 4 != frameMagic) = true := by
    rw [magic, length, frameLen]
    simp only [Bool.or_eq_true, decide_eq_true_eq, bne_self_eq_false, Bool.false_eq_true, or_false]
    omega
  unfold FrameHeader.decode
  rw [if_neg whole, sender, flow, place, Bytes.uint64_be, Bytes.uint64_be, Bytes.uint32_be,
    List.drop_left' header.length_encode]

/-- What is decoded is a frame. -/
theorem FrameHeader.encode_decode {packet payload : List UInt8} {header : FrameHeader}
    (decoded : FrameHeader.decode packet = some (header, payload)) :
    packet = header.encode ++ payload := by
  unfold FrameHeader.decode at decoded
  by_cases refused : (decide (packet.length < frameLen) ||
      Bytes.slice packet 0 4 != frameMagic) = true
  · rw [if_pos refused] at decoded
    cases decoded
  · rw [if_neg refused, Option.some.injEq, Prod.mk.injEq] at decoded
    obtain ⟨rfl, rfl⟩ := decoded
    have accepted : frameLen ≤ packet.length ∧ Bytes.slice packet 0 4 = frameMagic := by
      simpa only [Bool.or_eq_true, decide_eq_true_iff, bne_iff_ne, ne_eq, not_or, Nat.not_lt,
        not_not] using refused
    have long : 24 ≤ packet.length := accepted.1
    have sender : (Bytes.slice packet 4 12).length = 8 := Bytes.length_slice _ _ _ (by omega)
    have flow : (Bytes.slice packet 12 20).length = 8 := Bytes.length_slice _ _ _ (by omega)
    have place : (Bytes.slice packet 20 24).length = 4 := Bytes.length_slice _ _ _ (by omega)
    have front : Bytes.slice packet 0 24 = packet.take frameLen := rfl
    rw [FrameHeader.encode, Bytes.be_uint64 sender, Bytes.be_uint64 flow, Bytes.be_uint32 place,
      ← accepted.2, Bytes.slice_append packet 0 4 12 (by omega) (by omega),
      Bytes.slice_append packet 0 12 20 (by omega) (by omega),
      Bytes.slice_append packet 0 20 24 (by omega) (by omega), front, List.take_append_drop]

/-- A frame's payload is what was framed. -/
theorem payload_encode (header : FrameHeader) (packet : List UInt8) :
    payload (header.encode ++ packet) = packet := by
  rw [payload, header.decode_encode]

/-- No IP packet is taken for a frame. -/
theorem decode_isIpPacket (packet : List UInt8) (ip : Session.isIpPacket packet = true) :
    FrameHeader.decode packet = none := by
  by_contra framed
  have magic : Bytes.slice packet 0 4 = frameMagic := by
    unfold FrameHeader.decode at framed
    split at framed
    · exact absurd rfl framed
    · rename_i whole
      simp only [Bool.or_eq_true, bne_iff_ne, ne_eq, not_or, not_not] at whole
      exact whole.2
  cases packet with
  | nil => cases magic
  | cons first rest =>
    have letter : first = 0x43 := by
      have front := congrArg List.head? magic
      exact Option.some.inj front
    subst letter
    have short : ¬20 ≤ ((0x43 : UInt8) &&& 0x0f).toNat * 4 := by decide
    have version : (0x43 : UInt8) >>> 4 = 4 := by decide
    simp only [Session.isIpPacket, List.head?_cons, version, ↓reduceIte] at ip
    split at ip
    · cases ip
    · exact short (of_decide_eq_true ip).1

/-- An IP packet that is not framed is its own payload. -/
theorem payload_isIpPacket (packet : List UInt8) (ip : Session.isIpPacket packet = true) :
    payload packet = packet := by
  rw [payload, decode_isIpPacket packet ip]

/-- With headroom for a frame header every packet can be sent, framed or as it is. -/
theorem frameOutboundPacket_cases (sequences : FlowSequencer) (packet : PacketBuf)
    (room : frameLen ≤ packet.start) :
    ∃ later framed, Dispatcher.frameOutboundPacket sequences packet = .ok (true, later, framed) ∧
      framed.stop = packet.stop ∧
      (framed = packet ∨ framed.start = packet.start - frameLen ∧
        ∃ header : FrameHeader, framed.asSlice = header.encode ++ packet.asSlice) := by
  unfold Dispatcher.frameOutboundPacket
  rcases sequences.next packet.asSlice with ⟨later, _ | header⟩
  · exact ⟨later, packet, rfl, rfl, Or.inl rfl⟩
  · obtain ⟨moved, prepended, start₀, stop₀, spare, spareLength, bytes₀⟩ :=
      packet.prepend_eq frameLen room
    obtain ⟨framed, written, start₁, stop₁, bytes₁⟩ := moved.write_segment [] spare packet.asSlice
      header.encode bytes₀ (by rw [header.length_encode, spareLength])
    rw [List.length_nil, Nat.add_zero] at written
    refine ⟨later, framed, ?_, stop₁.trans stop₀,
      Or.inr ⟨start₁.trans start₀, header, bytes₁⟩⟩
    simp only [prepended, bind, Except.bind, written, pure, Except.pure]

/-- Whatever is sent for an IP packet, its payload is the packet. -/
theorem frameOutboundPacket_payload (sequences : FlowSequencer) (packet : PacketBuf)
    (room : frameLen ≤ packet.start) (ip : Session.isIpPacket packet.asSlice = true) :
    ∃ later framed, Dispatcher.frameOutboundPacket sequences packet = .ok (true, later, framed) ∧
      packet.start - frameLen ≤ framed.start ∧ framed.stop = packet.stop ∧
      framed.asSlice ≠ [] ∧ payload framed.asSlice = packet.asSlice := by
  have nonempty : packet.asSlice ≠ [] := by
    intro empty
    rw [empty] at ip
    cases ip
  obtain ⟨later, framed, result, stop, same | ⟨start, header, bytes⟩⟩ :=
    frameOutboundPacket_cases sequences packet room
  · subst same
    exact ⟨later, framed, result, Nat.sub_le _ _, rfl, nonempty, payload_isIpPacket _ ip⟩
  · refine ⟨later, framed, result, Nat.le_of_eq start.symm, stop, ?_, ?_⟩
    · rw [bytes]
      exact List.append_ne_nil_of_right_ne_nil _ nonempty
    · rw [bytes, payload_encode]

/-- Decoding undoes encoding and encoding undoes decoding; what is sent for an IP packet has the
packet as its payload, and an IP packet that is not framed is not taken for a frame. -/
theorem framing_transparent (sequences : FlowSequencer) (packet : PacketBuf)
    (room : frameLen ≤ packet.start) (ip : Session.isIpPacket packet.asSlice = true) :
    (∀ (header : FrameHeader) (payload : List UInt8),
        FrameHeader.decode (header.encode ++ payload) = some (header, payload)) ∧
      (∀ (bytes payload : List UInt8) (header : FrameHeader),
        FrameHeader.decode bytes = some (header, payload) → header.encode ++ payload = bytes) ∧
      (∃ later framed,
        Dispatcher.frameOutboundPacket sequences packet = .ok (true, later, framed) ∧
          payload framed.asSlice = packet.asSlice ∧
          (framed = packet ∨
            ∃ header : FrameHeader, framed.asSlice = header.encode ++ packet.asSlice)) ∧
      FrameHeader.decode packet.asSlice = none := by
  refine ⟨FrameHeader.decode_encode, fun bytes payload header decoded =>
    (FrameHeader.encode_decode decoded).symm, ?_, decode_isIpPacket _ ip⟩
  obtain ⟨later, framed, result, _, same | ⟨_, header, bytes⟩⟩ :=
    frameOutboundPacket_cases sequences packet room
  · exact ⟨later, framed, result, by rw [same, payload_isIpPacket _ ip], .inl same⟩
  · exact ⟨later, framed, result, by rw [bytes, payload_encode], .inr ⟨header, bytes⟩⟩

/-- A TCP packet that opens a connection. -/
def synBytes : List UInt8 :=
  Bytes.be 20 0x4500002800000000400600000a0000010a000002 ++
    Bytes.be 20 0x03e801bb00000000000000005002000000000000

/-- It has headroom for a frame header. -/
def synPacket : PacketBuf := .holding synBytes 24 (by decide)

/-- It is sent with a frame, and comes back out of it. -/
theorem synPacket_framed :
    (∃ later framed,
        Dispatcher.frameOutboundPacket (.withSenderId 7) synPacket = .ok (true, later, framed) ∧
          payload framed.asSlice = synPacket.asSlice) ∧
      ((FlowSequencer.withSenderId 7).next synBytes).2.isSome = true := by
  have ip : Session.isIpPacket synPacket.asSlice = true := by decide +kernel
  obtain ⟨later, framed, result, same, _⟩ :=
    (framing_transparent (.withSenderId 7) synPacket (Nat.le_refl _) ip).2.2.1
  exact ⟨⟨later, framed, result, same⟩, by decide +kernel⟩

end Focsq.FlowFrame
