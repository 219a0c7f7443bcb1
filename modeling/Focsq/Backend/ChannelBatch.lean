import Focsq.Backend.ChannelData
import Focsq.Lib.Effects

/-!
# A batch is encoded in place

`send_data_batch` of `turn.rs` borrows the packets of the batch: it goes over all of them to see
that they can be encoded, and over them again to encode each in its buffer. What has been written
when it fails stays in the buffers. Here the buffers are the state.
-/

namespace Focsq.Turn

open Effects Packet

/-- `encode_channel_data` — on the packet of the caller. -/
def encodeInPlace (channel : UInt16) : Effect PacketBuf Failure Unit := do
  let packet ← get
  let padding ← fallible (channelDataPadding packet channel)
  let payloadLength := packet.len
  let tail := packet.stop
  update fun packet => packet.extendTail padding
  update fun packet => packet.write tail (List.replicate padding 0)
  update fun packet => packet.prepend 4
  update fun packet => packet.write packet.start
    (Bytes.be 2 channel.toNat ++ Bytes.be 2 (UInt16.ofNat payloadLength).toNat)

/-- The first loop of `send_data_batch`. -/
def validateBatch (channel : UInt16) (packets : List PacketBuf) : Except Failure Unit :=
  packets.forM fun packet => do
    let _ ← channelDataPadding packet channel

/-- `send_data_batch` up to where it sends, with why the allocation is not open, if it is not, and
the number of its channel. -/
def encodeBatch (refusal : Option String) (channel : UInt16) :
    Effect (List PacketBuf) Failure Unit := do
  let packets ← get
  if packets.isEmpty then return
  else match refusal with
    | some reason => throw (.bail reason)
    | none =>
      if channel = 0 then throw (.bail "TURN ChannelBind обязателен")
      else do
        fallible (validateBatch channel packets)
        iterMut (encodeInPlace channel)

end Focsq.Turn
