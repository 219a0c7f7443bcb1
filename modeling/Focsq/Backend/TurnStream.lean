import Focsq.Backend.Packet

/-!
# Frames of a TURN stream

`TurnStreamReader` of `turn_stream.rs` cuts what comes from a stream into STUN messages and
ChannelData messages. The stream is the list of what its reads will return; packets come from the
pool, which can be exhausted.
-/

namespace Focsq.Turn

open Packet

/-- `MAX_CONTROL_FRAME_BYTES` — longest STUN message. -/
def maxControlFrameBytes : Nat := 4096
/-- `MAX_DATA_FRAME_BYTES` — longest ChannelData message with its padding. -/
def maxDataFrameBytes : Nat := packetCapacity - packetHeadroom
/-- `STREAM_READ_BUFFER_BYTES` — bytes without a frame that are kept. -/
def streamReadBufferBytes : Nat := maxControlFrameBytes

/-- `TurnStreamFrame` — what is read. -/
inductive TurnStreamFrame where
  /-- A STUN message. -/
  | control (frame : List UInt8)
  /-- A ChannelData message. -/
  | data (packet : PacketBuf)
  /-- A ChannelData message for which there was no packet. -/
  | dataDropped
  deriving DecidableEq

/-- `FrameKind` — what the header says. -/
inductive FrameKind where
  /-- A STUN message of a length. -/
  | control (frameBytes : Nat)
  /-- A ChannelData message of a length, and its padding. -/
  | channelData (frameBytes padding : Nat)
  deriving DecidableEq

/-- `TurnStreamReader` — what has been read and not been taken, and what will be read. -/
structure TurnStreamReader where
  /-- The buffer. -/
  buffer : List UInt8
  /-- Results of the reads to come; no bytes are the end of the stream, as is the end of the
  list. -/
  inner : List (Except Failure (List UInt8))
  deriving DecidableEq

/-- `frame_start` — the kind of the first frame, if there are enough bytes to tell. The length in
a header has 16 bits, so the sums do not overflow. -/
def frameStart (bytes : List UInt8) : Except Failure (Option FrameKind) :=
  if bytes.length < 4 then .ok none
  else
    let declared := Bytes.fromBe (Bytes.slice bytes 2 4)
    let first := bytes[0]?.getD 0
    if first &&& 0xc0 = 0 then
      if declared % 4 ≠ 0 then
        .error (.bail "TURN stream control frame has an unaligned length")
      else
        let frameBytes := 20 + declared
        if maxControlFrameBytes < frameBytes then
          .error (.bail "TURN stream control frame exceeds the hard limit")
        else if bytes.length < 8 then .ok none
        else if Bytes.slice bytes 4 8 ≠ [0x21, 0x12, 0xa4, 0x42] then
          .error (.bail "TURN stream control frame has an invalid magic cookie")
        else .ok (some (.control frameBytes))
    else if first &&& 0xc0 ≠ 0x40 then
      .error (.bail "TURN stream received a frame in the reserved type range")
    else
      let frameBytes := 4 + declared
      let padding := (4 - declared % 4) % 4
      if maxDataFrameBytes < frameBytes + padding then
        .error (.bail "TURN stream ChannelData frame exceeds packet capacity")
      else .ok (some (.channelData frameBytes padding))

/-- `as_mut_slice().copy_from_slice(data)`. -/
def copyFromSlice (packet : PacketBuf) (data : List UInt8) : Except Failure PacketBuf :=
  if packet.len = data.length then packet.write packet.start data else .error .panic

/-- `copy_channel_data` — with what the pool has for `try_acquire`. -/
def copyChannelData (wire : List UInt8) (acquired : Option PacketBuf) :
    Except Failure TurnStreamFrame :=
  match acquired with
  | none => .ok .dataDropped
  | some packet => do
    let packet ← packet.setReadLen wire.length
    let packet ← copyFromSlice packet wire
    return .data packet

/-- `decode_frame` — the first frame, if the buffer holds all of it, and the new buffer. -/
def decodeFrame (buffer : List UInt8) (acquired : Option PacketBuf) :
    Except Failure (Option TurnStreamFrame) × List UInt8 :=
  match frameStart buffer with
  | .error failure => (.error failure, buffer)
  | .ok none => (.ok none, buffer)
  | .ok (some (.control frameBytes)) =>
    if buffer.length < frameBytes then (.ok none, buffer)
    else (.ok (some (.control (buffer.take frameBytes))), buffer.drop frameBytes)
  | .ok (some (.channelData frameBytes padding)) =>
    if buffer.length < frameBytes + padding then (.ok none, buffer)
    else
      ((copyChannelData (buffer.take (frameBytes + padding)) acquired).map some,
        buffer.drop (frameBytes + padding))

/-- The loop of `read_frame`: a turn takes a frame out of the buffer or reads once more. -/
def readLoop (acquired : Option PacketBuf) (buffer : List UInt8)
    (inner : List (Except Failure (List UInt8))) :
    TurnStreamReader × Except Failure TurnStreamFrame :=
  match decodeFrame buffer acquired with
  | (.error failure, buffer) => (⟨buffer, inner⟩, .error failure)
  | (.ok (some frame), buffer) => (⟨buffer, inner⟩, .ok frame)
  | (.ok none, buffer) =>
    if streamReadBufferBytes ≤ buffer.length then
      (⟨buffer, inner⟩, .error (.bail "TURN stream frame buffer reached its hard limit"))
    else
      match inner with
      | [] => (⟨buffer, []⟩, .error (.bail "TURN stream closed by remote peer"))
      | .error failure :: inner => (⟨buffer, inner⟩, .error failure)
      | .ok [] :: inner => (⟨buffer, inner⟩, .error (.bail "TURN stream closed by remote peer"))
      | .ok (byte :: bytes) :: inner => readLoop acquired (buffer ++ byte :: bytes) inner

/-- `read_frame` — the next frame; it asks the pool for a packet at most once. -/
def TurnStreamReader.readFrame (reader : TurnStreamReader) (acquired : Option PacketBuf) :
    TurnStreamReader × Except Failure TurnStreamFrame :=
  readLoop acquired reader.buffer reader.inner

end Focsq.Turn
