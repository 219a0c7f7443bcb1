import Focsq.Verif.ChannelData
import Focsq.Verif.TurnStream

/-!
# Encoded data at both decoders

The encoder may use all of a packet's buffer. A datagram may be as long; but what is read from a
stream is copied behind the headroom of another packet, so that the reader of a stream takes frames
of up to `maxDataFrameBytes` only.
-/

namespace Focsq.Turn

open Packet

section Wire

variable {channel : UInt16} (valid : IsChannel channel) (payload rest : List UInt8)
  (short : payload.length < 65536)

include short in
/-- A message tells the length of its data. -/
theorem declaredLength_wire :
    declaredLength (channelWire channel payload ++ rest) = payload.length := by
  have size := Bytes.slice_segment (Bytes.be 2 channel.toNat)
    (Bytes.be 2 (UInt16.ofNat payload.length).toNat) (payload ++ channelPadding payload ++ rest)
  rw [Bytes.length_be, Bytes.length_be] at size
  have narrow : payload.length < 256 ^ 2 := short
  have whole : (UInt16.ofNat payload.length).toNat = payload.length := by
    rw [UInt16.toNat_ofNat']
    exact Nat.mod_eq_of_lt short
  unfold declaredLength
  simp only [channelWire, List.append_assoc] at size ⊢
  rw [size, Bytes.fromBe_be, whole, Nat.mod_eq_of_lt narrow]

/-- A message has four bytes more than its data and the padding. -/
theorem length_wire :
    (channelWire channel payload).length =
      4 + payload.length + (4 - payload.length % 4) % 4 := by
  rw [channelWire, channelPadding, List.length_append, List.length_append, List.length_append,
    Bytes.length_be, Bytes.length_be, List.length_replicate]
  omega

include valid in
/-- A message begins with the number of a channel. -/
theorem first_wire : (channelWire channel payload ++ rest)[0]?.getD 0 &&& 0xc0 = 0x40 :=
  channel_front channel valid

include valid short in
/-- A message that is not too long is a frame. -/
theorem formed_wire (fits : (channelWire channel payload).length ≤ maxDataFrameBytes) :
    ChannelFormed (channelWire channel payload) := by
  have declared : declaredLength (channelWire channel payload ++ []) = payload.length :=
    declaredLength_wire payload [] short
  rw [List.append_nil] at declared
  constructor
  · exact channel_front channel valid
  · rw [declared]
    exact length_wire payload
  · exact fits

include valid short in
/-- A message that is too long is refused when its header is read. -/
theorem frameStart_long (long : maxDataFrameBytes < (channelWire channel payload).length) :
    frameStart (channelWire channel payload ++ rest) =
      .error (.bail "TURN stream ChannelData frame exceeds packet capacity") := by
  have declared : declaredLength (channelWire channel payload ++ rest) = payload.length :=
    declaredLength_wire payload rest short
  have first := first_wire valid payload rest
  have size : (channelWire channel payload).length =
    4 + payload.length + (4 - payload.length % 4) % 4 := length_wire payload
  have enough : ¬(channelWire channel payload ++ rest).length < 4 := by
    rw [List.length_append]
    omega
  have other : ¬((channelWire channel payload ++ rest)[0]?.getD 0 &&& 0xc0 = 0) := by
    rw [first]
    decide
  unfold declaredLength at declared
  unfold frameStart
  rw [if_neg enough]
  dsimp only
  rw [if_neg other, if_neg (not_not.mpr first), declared, ← size, if_pos long]

end Wire

/-- A packet is the message of a channel with another packet as its data. -/
structure FrameOf (channel : UInt16) (packet out : PacketBuf) : Prop where
  /-- The header tells the channel and the length of the data. -/
  header : channelDataHeader out.asSlice = some (channel, packet.len)
  /-- The data follows. -/
  data : Bytes.slice out.asSlice 4 (4 + packet.len) = packet.asSlice
  /-- There is nothing else but the padding. -/
  whole : out.len = 4 + packet.len + (4 - packet.len % 4) % 4

/-- Packets are not longer than their length can tell. -/
theorem length_asSlice_lt (packet : PacketBuf) : packet.asSlice.length < 65536 := by
  have length := packet.length_asSlice
  have bound := packet.inside
  unfold PacketBuf.len at length
  unfold packetCapacity at bound
  omega

/-- Whatever is encoded is a message of the packet. -/
theorem encodeChannelData_frame {packet out : PacketBuf} {channel : UInt16}
    (encoded : encodeChannelData packet channel = .ok out) : FrameOf channel packet out := by
  obtain ⟨valid, wire⟩ := encodeChannelData_ok encoded
  have length := packet.length_asSlice
  have short := length_asSlice_lt packet
  constructor
  · rw [wire, ← length]
    exact channelDataHeader_wire channel valid packet.asSlice short
  · have data := Bytes.slice_segment (Bytes.be 2 channel.toNat ++
      Bytes.be 2 (UInt16.ofNat packet.asSlice.length).toNat) packet.asSlice
      (channelPadding packet.asSlice)
    rw [List.length_append, Bytes.length_be, Bytes.length_be, List.append_assoc, length] at data
    rw [wire, channelWire, length]
    exact data
  · rw [← out.length_asSlice, wire, length_wire, length]

/-- What is encoded for a channel is accepted as a datagram, and becomes the same data for the same
channel. From a stream it is accepted as one frame, and becomes the same data for the same channel,
when it fits behind the headroom of a packet; otherwise the frame is refused. -/
theorem encoded_agrees (packet out : PacketBuf) (channel : UInt16)
    (encoded : encodeChannelData packet channel = .ok out) :
    channelDataHeader out.asSlice = some (channel, packet.len) ∧
      Bytes.slice out.asSlice 4 (4 + packet.len) = packet.asSlice ∧
      (∀ received : PacketBuf, received.asSlice = out.asSlice →
        ∃ data, decodeChannelData received = .ok (some (channel, data)) ∧
          data.asSlice = packet.asSlice) ∧
      (out.len ≤ maxDataFrameBytes → ∀ (acquired : PacketBuf) (rest : List UInt8),
        frameStart (out.asSlice ++ rest) =
            .ok (some (.channelData (4 + packet.len) ((4 - packet.len % 4) % 4))) ∧
          ∃ received data,
            decodeFrame (out.asSlice ++ rest) (some acquired) =
                (.ok (some (.data received)), rest) ∧
              decodeChannelData received = .ok (some (channel, data)) ∧
              data.asSlice = packet.asSlice) ∧
      (maxDataFrameBytes < out.len → ∀ rest, frameStart (out.asSlice ++ rest) =
        .error (.bail "TURN stream ChannelData frame exceeds packet capacity")) := by
  obtain ⟨valid, wire⟩ := encodeChannelData_ok encoded
  have frame := encodeChannelData_frame encoded
  have length := packet.length_asSlice
  have short := length_asSlice_lt packet
  have size := out.length_asSlice
  rw [wire] at size
  have decoded (received : PacketBuf)
      (same : received.asSlice = channelWire channel packet.asSlice) :=
    decodeChannelData_wire received channel valid packet.asSlice short same
  refine ⟨frame.header, frame.data, ?_⟩
  rw [← size, wire]
  refine ⟨decoded, fun fits acquired rest => ?_, fun long rest => ?_⟩
  · have formed := formed_wire valid packet.asSlice short fits
    have declared : declaredLength (channelWire channel packet.asSlice ++ []) =
        packet.asSlice.length := declaredLength_wire packet.asSlice [] short
    have whole : channelWire channel packet.asSlice ++ rest ++ [] =
        channelWire channel packet.asSlice ++ rest := List.append_nil _
    rw [List.append_nil] at declared
    constructor
    · have start := frameStart_channelData formed whole
      rw [declared, length, if_neg] at start
      · exact start
      · rw [List.length_append, length_wire]
        omega
    · obtain ⟨frame, taken, delivered⟩ := decodeFrame_whole (.channelData _ formed)
        (some acquired) whole (by
          rw [List.length_append]
          exact Nat.le_add_right _ _)
      cases frame with
      | control frame => cases delivered
      | dataDropped => cases delivered
      | data received =>
        obtain ⟨data, opened, same⟩ := decoded received (Delivery.data.inj delivered)
        refine ⟨received, data, ?_, opened, same⟩
        rw [taken]
        exact congrArg (Prod.mk _) List.drop_left
  · exact frameStart_long valid packet.asSlice rest short long

/-- Three bytes for a channel. -/
theorem threeBytes_agree :
    ∃ out, encodeChannelData (.holding [1, 2, 3] packetHeadroom (by decide)) 0x4000 = .ok out ∧
      channelDataHeader out.asSlice = some (0x4000, 3) ∧ out.len ≤ maxDataFrameBytes ∧
        frameStart out.asSlice = .ok (some (.channelData 7 1)) := by
  have room : Encodable (.holding [1, 2, 3] packetHeadroom (by decide)) :=
    ⟨by decide, by decide⟩
  have valid : IsChannel 0x4000 := ⟨by decide, by decide⟩
  obtain ⟨out, encoded⟩ := encodeChannelData_total valid room
  obtain ⟨header, _, _, accepted, _⟩ := encoded_agrees _ out 0x4000 encoded
  have few : out.len ≤ maxDataFrameBytes := by
    have wire := (encodeChannelData_ok encoded).2
    rw [← out.length_asSlice, wire, PacketBuf.asSlice_holding]
    decide
  have frame := (accepted few (.holding [] packetHeadroom (by decide)) []).1
  rw [List.append_nil] at frame
  exact ⟨out, encoded, header, few, frame⟩

/-- Data that fills the buffer is encoded, but is no frame for the reader of a stream. -/
theorem fullBuffer_refused :
    ¬∀ (packet out : PacketBuf) (channel : UInt16), encodeChannelData packet channel = .ok out →
      ∃ frameBytes padding,
        frameStart out.asSlice = .ok (some (.channelData frameBytes padding)) := by
  intro always
  obtain ⟨payload, count⟩ : ∃ payload : List UInt8, payload.length = 2300 :=
    ⟨List.replicate 2300 0, List.length_replicate⟩
  have fits : 4 + payload.length ≤ packetCapacity := by
    rw [count]
    decide
  have valid : IsChannel 0x4000 := ⟨by decide, by decide⟩
  have stop : (PacketBuf.holding payload 4 fits).stop = 2304 := by
    change 4 + payload.length = 2304
    rw [count]
  have len : (PacketBuf.holding payload 4 fits).len = 2300 := by
    rw [PacketBuf.len, stop]
    rfl
  obtain ⟨out, encoded, wire⟩ := encodeChannelData_eq (.holding payload 4 fits) 0x4000 valid
    (Nat.le_refl 4) (by rw [stop, len]; decide)
  rw [PacketBuf.asSlice_holding] at wire
  have refused := frameStart_long valid payload [] (by omega) (by
    rw [length_wire, count]
    decide)
  obtain ⟨frameBytes, padding, accepted⟩ := always _ out 0x4000 encoded
  rw [List.append_nil, ← wire, accepted] at refused
  cases refused

end Focsq.Turn
