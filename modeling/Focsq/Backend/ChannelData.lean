import Focsq.Backend.Packet

/-!
# ChannelData messages

Data goes through a TURN channel with four bytes in front, the number of the channel and the
length of the data, and is padded to a multiple of four bytes. `turn.rs` encodes and decodes it
in the packet's buffer.
-/

namespace Focsq.Turn

open Packet

/-- `channel_data_padding` — bytes to add behind the data. -/
def channelDataPadding (packet : PacketBuf) (channel : UInt16) : Except Failure Nat :=
  if ¬(0x4000 ≤ channel ∧ channel ≤ 0x7fff) then .error (.bail "TURN channel is invalid")
  else
    let payloadLength := packet.len
    if 65535 < payloadLength then .error (.bail "TURN payload too large")
    else
      let padding := (4 - payloadLength % 4) % 4
      if packet.start < 4 ∨ packetCapacity < packet.stop + padding then
        .error (.bail "TURN ChannelData exceeds packet buffer")
      else .ok padding

/-- `encode_channel_data` — turn the packet into a message of a channel. -/
def encodeChannelData (packet : PacketBuf) (channel : UInt16) : Except Failure PacketBuf := do
  let padding ← channelDataPadding packet channel
  let payloadLength := packet.len
  let tail := packet.stop
  let packet ← packet.extendTail padding
  let packet ← packet.write tail (List.replicate padding 0)
  let packet ← packet.prepend 4
  packet.write packet.start
    (Bytes.be 2 channel.toNat ++ Bytes.be 2 (UInt16.ofNat payloadLength).toNat)

/-- `channel_data_header` — channel and length of the data of a message. -/
def channelDataHeader (wire : List UInt8) : Option (UInt16 × Nat) :=
  if wire.length < 4 || wire[0]?.getD 0 &&& 0xc0 != 0x40 then none
  else
    let channel := UInt16.ofNat (Bytes.fromBe (Bytes.slice wire 0 2))
    if ¬(0x4000 ≤ channel ∧ channel ≤ 0x7fff) then none
    else
      let payloadLength := Bytes.fromBe (Bytes.slice wire 2 4)
      if wire.length - 4 < payloadLength then none
      else if 3 < wire.length - 4 - payloadLength then none
      else some (channel, payloadLength)

/-- The part of `process_packet_measured` for ChannelData: the message becomes its data. -/
def decodeChannelData (packet : PacketBuf) : Except Failure (Option (UInt16 × PacketBuf)) :=
  match channelDataHeader packet.asSlice with
  | none => .ok none
  | some (channel, payloadLength) => do
    let packet ← packet.trimFront 4
    let packet ← packet.truncate payloadLength
    return some (channel, packet)

end Focsq.Turn
