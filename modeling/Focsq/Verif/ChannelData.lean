import Focsq.Backend.ChannelData
import Focsq.Verif.Packet

/-!
# ChannelData round trip

A packet that is encoded for a channel is decoded to the channel and the same bytes, wherever the
message is received to.
-/

namespace Focsq.Turn

open Packet

/-- Zeros up to a multiple of four bytes. -/
def channelPadding (payload : List UInt8) : List UInt8 :=
  List.replicate ((4 - payload.length % 4) % 4) 0

/-- A message of a channel on the wire. -/
def channelWire (channel : UInt16) (payload : List UInt8) : List UInt8 :=
  Bytes.be 2 channel.toNat ++ (Bytes.be 2 (UInt16.ofNat payload.length).toNat ++
    (payload ++ channelPadding payload))

/-- The numbers of channels. -/
def IsChannel (channel : UInt16) : Prop := 0x4000 ≤ channel ∧ channel ≤ 0x7fff

/-- The first byte of a message tells it from the other traffic. -/
theorem channel_front (channel : UInt16) (valid : IsChannel channel) :
    UInt8.ofNat (channel.toNat / 256) &&& 0xc0 = 0x40 := by
  obtain ⟨low, high⟩ := valid
  have low : 0x4000 ≤ channel.toNat := low
  have high : channel.toNat ≤ 0x7fff := high
  have first : 0x40 ≤ channel.toNat / 256 := by omega
  have last : channel.toNat / 256 < 0x80 := by omega
  have table : ∀ byte < 0x80, 0x40 ≤ byte → UInt8.ofNat byte &&& 0xc0 = 0x40 := by decide
  exact table _ last first

/-- A packet within the budget of a channel is encoded. -/
theorem encodeChannelData_eq (packet : PacketBuf) (channel : UInt16) (valid : IsChannel channel)
    (front : 4 ≤ packet.start)
    (back : packet.stop + (4 - packet.len % 4) % 4 ≤ packetCapacity) :
    ∃ out, encodeChannelData packet channel = .ok out ∧
      out.asSlice = channelWire channel packet.asSlice := by
  have length := packet.length_asSlice
  have range := packet.stop_eq
  have bound := packet.inside
  have small : ¬65535 < packet.len := by
    unfold packetCapacity at bound
    omega
  have padding : channelDataPadding packet channel = .ok ((4 - packet.len % 4) % 4) := by
    have known : 0x4000 ≤ channel ∧ channel ≤ 0x7fff := valid
    unfold channelDataPadding
    rw [if_neg (not_not.mpr known)]
    dsimp only
    rw [if_neg small, if_neg (by omega)]
  obtain ⟨extended, grown, start₀, stop₀, tail, tailLength, bytes₀⟩ := packet.extendTail_eq _ back
  rw [← List.append_nil tail] at bytes₀
  obtain ⟨padded, filled, start₁, stop₁, bytes₁⟩ := extended.write_segment _ _ _
    (channelPadding packet.asSlice) bytes₀ (by
      rw [channelPadding, List.length_replicate, length, tailLength])
  obtain ⟨moved, prepended, start₂, stop₂, spare, spareLength, bytes₂⟩ := padded.prepend_eq 4
    (by omega)
  obtain ⟨out, written, start₃, stop₃, bytes₃⟩ := moved.write_segment [] spare padded.asSlice
    (Bytes.be 2 channel.toNat ++ Bytes.be 2 (UInt16.ofNat packet.len).toNat) bytes₂ (by
      rw [List.length_append, Bytes.length_be, Bytes.length_be, spareLength])
  have place : extended.start + packet.asSlice.length = packet.stop := by omega
  rw [place, channelPadding, length] at filled
  rw [List.length_nil, Nat.add_zero] at written
  refine ⟨out, ?_, ?_⟩
  · simp only [encodeChannelData, bind, Except.bind, padding, grown, filled, prepended, written]
  · rw [bytes₃, bytes₁, channelWire, length, List.append_nil, List.nil_append, List.append_assoc]

/-- Only packets within the budget of a channel are accepted. -/
theorem channelDataPadding_ok {packet : PacketBuf} {channel : UInt16} {padding : Nat}
    (accepted : channelDataPadding packet channel = .ok padding) :
    IsChannel channel ∧ 4 ≤ packet.start ∧
      packet.stop + (4 - packet.len % 4) % 4 ≤ packetCapacity := by
  unfold channelDataPadding at accepted
  split at accepted
  · cases accepted
  · rename_i valid
    dsimp only at accepted
    split at accepted
    · cases accepted
    · split at accepted
      · cases accepted
      · exact ⟨not_not.mp valid, by omega, by omega⟩

/-- Whatever is encoded is a message of its channel. -/
theorem encodeChannelData_ok {packet out : PacketBuf} {channel : UInt16}
    (encoded : encodeChannelData packet channel = .ok out) :
    IsChannel channel ∧ out.asSlice = channelWire channel packet.asSlice := by
  cases accepted : channelDataPadding packet channel with
  | error failure =>
    rw [encodeChannelData, accepted] at encoded
    cases encoded
  | ok padding =>
    obtain ⟨valid, front, back⟩ := channelDataPadding_ok accepted
    obtain ⟨other, same, wire⟩ := encodeChannelData_eq packet channel valid front back
    rw [encoded] at same
    cases same
    exact ⟨valid, wire⟩

/-- There is room for the header and for any padding. -/
def Encodable (packet : PacketBuf) : Prop := 4 ≤ packet.start ∧ packet.stop + 3 ≤ packetCapacity

/-- Packets with room are accepted. -/
theorem channelDataPadding_total {packet : PacketBuf} {channel : UInt16}
    (valid : IsChannel channel) (room : Encodable packet) :
    ∃ padding, channelDataPadding packet channel = .ok padding := by
  obtain ⟨front, back⟩ := room
  have known : 0x4000 ≤ channel ∧ channel ≤ 0x7fff := valid
  have bound := packet.inside
  have small : ¬65535 < packet.len := by
    unfold PacketBuf.len packetCapacity at *
    omega
  refine ⟨(4 - packet.len % 4) % 4, ?_⟩
  unfold channelDataPadding
  rw [if_neg (not_not.mpr known)]
  dsimp only
  rw [if_neg small, if_neg (by omega)]

/-- They are encoded. -/
theorem encodeChannelData_total {packet : PacketBuf} {channel : UInt16}
    (valid : IsChannel channel) (room : Encodable packet) :
    ∃ out, encodeChannelData packet channel = .ok out := by
  obtain ⟨front, back⟩ := room
  obtain ⟨out, encoded, _⟩ := encodeChannelData_eq packet channel valid front (by omega)
  exact ⟨out, encoded⟩

/-- The header of a message is read as it was written. -/
theorem channelDataHeader_wire (channel : UInt16) (valid : IsChannel channel)
    (payload : List UInt8) (short : payload.length < 65536) :
    channelDataHeader (channelWire channel payload) = some (channel, payload.length) := by
  have padding : (channelPadding payload).length ≤ 3 := by
    rw [channelPadding, List.length_replicate]
    omega
  have length : (channelWire channel payload).length =
      4 + payload.length + (channelPadding payload).length := by
    rw [channelWire, List.length_append, List.length_append, List.length_append, Bytes.length_be,
      Bytes.length_be]
    omega
  have number := Bytes.slice_segment [] (Bytes.be 2 channel.toNat)
    (Bytes.be 2 (UInt16.ofNat payload.length).toNat ++ (payload ++ channelPadding payload))
  have size := Bytes.slice_segment (Bytes.be 2 channel.toNat)
    (Bytes.be 2 (UInt16.ofNat payload.length).toNat) (payload ++ channelPadding payload)
  rw [List.nil_append, List.length_nil, Nat.zero_add, Bytes.length_be] at number
  rw [Bytes.length_be, Bytes.length_be] at size
  have first : (channelWire channel payload)[0]?.getD 0 = UInt8.ofNat (channel.toNat / 256) := rfl
  have tagged : ¬(decide ((channelWire channel payload).length < 4) ||
      (channelWire channel payload)[0]?.getD 0 &&& 0xc0 != 0x40) = true := by
    rw [first, channel_front channel valid, length]
    simp only [Bool.or_eq_true, decide_eq_true_eq, bne_self_eq_false, Bool.false_eq_true, or_false]
    omega
  have fits : channel.toNat < 256 ^ 2 := channel.toNat_lt
  have whole : (UInt16.ofNat payload.length).toNat = payload.length := by
    rw [UInt16.toNat_ofNat']
    exact Nat.mod_eq_of_lt short
  have known : 0x4000 ≤ channel ∧ channel ≤ 0x7fff := valid
  have narrow : payload.length < 256 ^ 2 := short
  unfold channelDataHeader
  rw [if_neg tagged, channelWire, number, size, Bytes.fromBe_be, Bytes.fromBe_be,
    Nat.mod_eq_of_lt fits, UInt16.ofNat_toNat, whole, Nat.mod_eq_of_lt narrow]
  dsimp only
  rw [if_neg (not_not.mpr known), ← whole, ← channelWire, whole, length, if_neg (by omega),
    if_neg (by omega)]

/-- A received message becomes the data that was sent. -/
theorem decodeChannelData_wire (received : PacketBuf) (channel : UInt16)
    (valid : IsChannel channel) (payload : List UInt8) (short : payload.length < 65536)
    (bytes : received.asSlice = channelWire channel payload) :
    ∃ out, decodeChannelData received = .ok (some (channel, out)) ∧ out.asSlice = payload := by
  have length := received.length_asSlice
  have tail : (channelWire channel payload).drop 4 = payload ++ channelPadding payload := by
    rw [channelWire, ← List.append_assoc]
    exact List.drop_left' (by rw [List.length_append, Bytes.length_be, Bytes.length_be])
  have total : received.len = 4 + (payload ++ channelPadding payload).length := by
    rw [← length, bytes, channelWire, List.length_append, List.length_append, Bytes.length_be,
      Bytes.length_be]
    omega
  obtain ⟨trimmed, cut, _, _, rest⟩ := received.trimFront_eq 4 (by omega)
  rw [bytes, tail] at rest
  have remaining : payload.length ≤ trimmed.len := by
    rw [← trimmed.length_asSlice, rest, List.length_append]
    omega
  obtain ⟨out, truncated, _, _, data⟩ := trimmed.truncate_eq payload.length remaining
  refine ⟨out, ?_, ?_⟩
  · simp only [decodeChannelData, bytes, channelDataHeader_wire channel valid payload short, bind,
      Except.bind, cut, truncated, pure, Except.pure]
  · rw [data, rest, List.take_left]

end Focsq.Turn
