import Focsq.Backend.ChannelData
import Focsq.Backend.Obfs
import Focsq.Backend.SelectiveFec
import Focsq.Backend.UdpBatch
import Focsq.Lib.Effects
import Focsq.Lib.Vec

/-!
# The writer of a session

`TransportWriter` of `session.rs` obfuscates packets and gives them to the allocation of `turn.rs`,
which sends them as data of its channel. Packets are sent in batches; a packet that is to be sent
twice goes on its own, and ends the batch before it.

The outside is asked at certain points: for the time and what is drawn, for the channel, and for what
the socket or the stream does. The n-th answer is an argument, so that a property for all answers
holds whatever happens there. Of the stream only its data queue and the order of what its task
writes are kept.
-/

namespace Focsq.Session

open Effects Obfs Packet SelectiveFec StripedScheduler Turn UdpBatch

/-- `DATA_QUEUE_CAPACITY` of a stream. -/
def dataQueueCapacity : Nat := 32
/-- `WRITER_LATENCY_BATCH_LIMIT`. -/
def writerLatencyBatchLimit : Nat := 16
/-- `WRITER_PRIORITY_BATCH_LIMIT`. -/
def writerPriorityBatchLimit : Nat := 64
/-- `WRITER_BULK_BATCH_LIMIT`. -/
def writerBulkBatchLimit : Nat := 128

/-- `TurnStreamOutbound` — what the task of a stream writes in one piece. -/
inductive TurnStreamOutbound where
  /-- A STUN message. -/
  | control (wire : List UInt8)
  /-- A ChannelData message. -/
  | data (packet : PacketBuf)
  deriving DecidableEq

/-- `TurnStreamWriter` — the data queue of a stream and what its task has written. -/
structure TurnStreamWriter where
  /-- Packets that are not written. -/
  data : List PacketBuf
  /-- All that is written. -/
  written : List TurnStreamOutbound
  deriving DecidableEq

/-- What a turn of `writer_loop` in `turn_stream.rs` takes. -/
inductive StreamTurn where
  /-- A STUN message; they come from elsewhere. -/
  | control (wire : List UInt8)
  /-- The oldest packet, if there is one. -/
  | data
  deriving DecidableEq

/-- A turn of `writer_loop` in `turn_stream.rs` that does not fail. -/
def TurnStreamWriter.turn (writer : TurnStreamWriter) : StreamTurn → TurnStreamWriter
  | .control wire => { writer with written := writer.written ++ [.control wire] }
  | .data =>
    match writer.data with
    | [] => writer
    | packet :: data => { data, written := writer.written ++ [.data packet] }

/-- `TurnOutbound` — what an allocation sends through. -/
inductive TurnOutbound where
  /-- A socket. -/
  | udp
  /-- A stream. -/
  | stream
  deriving DecidableEq

/-- An answer from outside; each question reads a part of it. -/
structure Input (config : ObfsConfig) where
  /-- The time for the budget. -/
  now : Nat
  /-- The time since the obfuscation began. -/
  elapsed : Duration
  /-- What is drawn for the obfuscation. -/
  draws : Draws config
  /-- Why the allocation is not open, if it is not. -/
  refusal : Option String
  /-- The number of the channel, or zero. -/
  channel : UInt16
  /-- How `send` of the socket ends. -/
  send : Except (Halt IoError) Unit
  /-- Whether `try_send` takes a copy. -/
  copied : Bool
  /-- The attempts to send a batch. -/
  attempts : List Datagram → List Attempt
  /-- The turns of the task of a stream before a packet is queued. -/
  turns : List PacketBuf → List StreamTurn
  /-- Whether that task has ended. -/
  dataClosed : Bool

/-- `TransportWriter`, with what its allocation has sent. -/
structure TransportWriter where
  /-- Counters of the obfuscation. -/
  writeState : ObfsState
  /-- How many packets may be sent twice. -/
  fecBudget : Budget
  /-- Packets to be sent. -/
  pendingData : List PacketBuf
  /-- Obfuscated packets of the current batch. -/
  mmsgData : List PacketBuf
  /-- What the allocation sends through. -/
  outbound : TurnOutbound
  /-- What the socket has sent. -/
  socket : List Datagram
  /-- The stream. -/
  stream : TurnStreamWriter
  /-- How often the outside was asked. -/
  asked : Nat
  deriving DecidableEq

/-- `TransportWriter::new`, for an allocation that has sent no data. -/
def TransportWriter.new (writeState : ObfsState) (now : Nat) (outbound : TurnOutbound) :
    TransportWriter where
  writeState
  fecBudget := .new now
  pendingData := []
  mmsgData := []
  outbound
  socket := []
  stream := ⟨[], []⟩
  asked := 0

/-- What a writer does: it changes the writer, and ends, fails or waits for ever. -/
abbrev Sending : Type → Type := Effect TransportWriter (Halt Failure)

/-- A part that fails or waits as it says. -/
def Sending.of {α : Type} (result : Except Failure α) : Sending α :=
  fallible (result.mapError .failed)

/-- `context` of an error of the system. -/
def Sending.context (result : Except (Halt IoError) Unit) (message : String) : Sending Unit :=
  fallible (result.mapError fun
    | .failed _ => .failed (.bail message)
    | .pending => .pending)

variable (cipher : ObfsCipher) {config : ObfsConfig} (outside : Nat → Input config)

/-- Ask the outside. -/
def ask : Sending (Input config) := do
  let writer ← get
  modify fun writer => { writer with asked := writer.asked + 1 }
  return outside writer.asked

/-- The first lines of both ways to send: the allocation is open and has a channel. -/
def openChannel : Sending UInt16 := do
  let input ← ask outside
  match input.refusal with
  | some reason => throw (.failed (.bail reason))
  | none =>
    if input.channel = 0 then throw (.failed (.bail "TURN ChannelBind обязателен"))
    else return input.channel

/-- `write_data` — queue a packet when there is room. -/
def writeData (packet : PacketBuf) : Sending Unit := do
  let input ← ask outside
  modify fun writer => { writer with
    stream := (input.turns writer.stream.data).foldl TurnStreamWriter.turn writer.stream }
  let writer ← get
  if input.dataClosed then throw (.failed (.bail "TURN stream data queue closed"))
  else if writer.stream.data.length < dataQueueCapacity then
    modify fun writer => { writer with
      stream := { writer.stream with data := writer.stream.data ++ [packet] } }
  else throw .pending

/-- The socket's part of `send_with_duplicate`. -/
def sendDatagram (datagram : Datagram) (duplicate : Bool) : Sending Unit := do
  let input ← ask outside
  Sending.context input.send "TURN UDP send"
  -- A copy that the socket does not take at once is left out.
  let copies := if duplicate && input.copied then [datagram] else []
  modify fun writer => { writer with socket := writer.socket ++ datagram :: copies }

/-- `send_with_duplicate`. -/
def sendWithDuplicate (packet : PacketBuf) (duplicate : Bool) : Sending Unit := do
  let channel ← openChannel outside
  let packet ← Sending.of (encodeChannelData packet channel)
  let writer ← get
  match writer.outbound with
  | .udp => sendDatagram outside packet.asSlice duplicate
  | .stream => writeData outside packet

/-- A turn of the loop over the chunks in `send_data_batch`. -/
def sendChunk (datagrams : List Datagram) : Sending Unit := do
  let input ← ask outside
  let (result, wire) := sendConnected (input.attempts datagrams) datagrams
  modify fun writer => { writer with socket := writer.socket ++ wire }
  Sending.context result "TURN UDP batch send"

/-- The last part of `send_data_batch`: the packets are encoded in place and sent. -/
def sendEncoded (packets : List PacketBuf) : Sending Unit := do
  modify fun writer => { writer with mmsgData := packets }
  let writer ← get
  match writer.outbound with
  | .udp => (Vec.chunks maxDatagrams (packets.map PacketBuf.asSlice)).forM (sendChunk outside)
  | .stream => do
    -- `drain` empties the batch, however the loop ends.
    modify fun writer => { writer with mmsgData := [] }
    packets.forM (writeData outside)

/-- `send_data_batch` — send the current batch. -/
def sendDataBatch : Sending Unit := do
  let writer ← get
  if writer.mmsgData.isEmpty then return
  else do
    let channel ← openChannel outside
    let _ ← Sending.of (writer.mmsgData.mapM (channelDataPadding · channel))
    let packets ← Sending.of (writer.mmsgData.mapM (encodeChannelData · channel))
    sendEncoded outside packets

/-- `flush_mmsg_data`. -/
def flushMmsgData : Sending Unit := do
  let writer ← get
  if writer.mmsgData.isEmpty then return
  else do
    sendDataBatch outside
    modify fun writer => { writer with mmsgData := [] }

/-- The first lines of `prepare_packet`: whether a packet is sent twice. -/
def decideDuplicate (packet : PacketBuf) (now : Nat) : Sending Bool := do
  if shouldDuplicate packet.asSlice then do
    let writer ← get
    let (budget, allowed) := writer.fecBudget.allow now
    modify fun writer => { writer with fecBudget := budget }
    return allowed
  else return false

/-- `prepare_packet` — the packet is obfuscated in place. -/
def preparePacket (packet : PacketBuf) : Sending (PacketBuf × Bool) := do
  let input ← ask outside
  let duplicate ← decideDuplicate packet input.now
  let writer ← get
  let (result, writeState) :=
    cipher.wrap packet config writer.writeState input.elapsed input.draws
  modify fun writer => { writer with writeState }
  let packet ← Sending.of result
  return (packet, duplicate)

/-- `send_packet`, and `send_data`. -/
def sendPacket (packet : PacketBuf) : Sending Unit := do
  let (packet, duplicate) ← preparePacket cipher outside packet
  sendWithDuplicate outside packet duplicate

/-- `queue_data`. -/
def queueData (packet : PacketBuf) : Sending Unit :=
  modify fun writer => { writer with pendingData := writer.pendingData ++ [packet] }

/-- What the loop of `flush_queued_data` does with a packet that is prepared. -/
def sendPrepared (packet : PacketBuf) (duplicate : Bool) : Sending Unit := do
  if duplicate then do
    flushMmsgData outside
    sendWithDuplicate outside packet true
  else do
    modify fun writer => { writer with mmsgData := writer.mmsgData ++ [packet] }
    let writer ← get
    if writer.mmsgData.length = writerBulkBatchLimit then flushMmsgData outside else return

/-- The loop of `flush_queued_data`, over the packets that are left. -/
def flushLoop : List PacketBuf → Sending Unit
  | [] => return
  | packet :: rest => do
    modify fun writer => { writer with pendingData := rest }
    let (packet, duplicate) ← preparePacket cipher outside packet
    sendPrepared outside packet duplicate
    flushLoop rest

/-- `flush_queued_data`. -/
def flushQueuedData : Sending Unit := do
  let writer ← get
  match writer.pendingData with
  | [packet] => do
    modify fun writer => { writer with pendingData := [] }
    sendPacket cipher outside packet
  | packets => do
    flushLoop cipher outside packets
    flushMmsgData outside

/-- What a turn of the loop in `send_writer_batch` finds. -/
structure Arrival where
  /-- `has_queued_packet` of the queue of small packets. -/
  latencyPending : Bool
  /-- `has_queued_packet` of the queue of medium packets. -/
  priorityPending : Bool
  /-- `try_recv` of the queue of the batch. -/
  packet : Option PacketBuf
  deriving DecidableEq

/-- `writer_batch_can_extend`. -/
def writerBatchCanExtend (batch : PacketClass) (arrival : Arrival) : Bool :=
  match batch with
  | .small => true
  | .medium => !arrival.latencyPending
  | .bulk => !arrival.latencyPending && !arrival.priorityPending

/-- The longest batch of a class. -/
def batchLimit : PacketClass → Nat
  | .small => writerLatencyBatchLimit
  | .medium => writerPriorityBatchLimit
  | .bulk => writerBulkBatchLimit

/-- The loop of `send_writer_batch`; nothing more is found after the arrivals. -/
def batchLoop (batch : PacketClass) : Nat → List Arrival → Sending Nat
  | sent, [] => return sent
  | sent, arrival :: arrivals => do
    if sent < batchLimit batch ∧ writerBatchCanExtend batch arrival = true then
      match arrival.packet with
      | none => return sent
      | some packet => do
        queueData packet
        batchLoop batch (sent + 1) arrivals
    else return sent

/-- `send_writer_batch` — how many packets were sent. -/
def sendWriterBatch (batch : PacketClass) (first : PacketBuf) (arrivals : List Arrival) :
    Sending Nat := do
  queueData first
  let sent ← batchLoop batch 1 arrivals
  flushQueuedData cipher outside
  return sent

/-- `send_bytes` — with what the pool gives. -/
def sendBytes (acquired : Option PacketBuf) (data : List UInt8) : Sending Unit := do
  match acquired with
  | none => throw (.failed (.bail "packet budget exhausted"))
  | some packet =>
    if packetCapacity - packetHeadroom < data.length then
      throw (.failed (.bail ("transport payload too large: " ++ toString data.length)))
    else do
      let packet ← Sending.of (packet.write packetHeadroom data)
      let packet ← Sending.of (packet.setReadLen data.length)
      sendPacket cipher outside packet

/-- `handle_writer_command` — a failure is reported to whoever gave the command. -/
def handleWriterCommand (acquired : Option PacketBuf) (data : List UInt8) : Sending Unit :=
  tryCatch (sendBytes cipher outside acquired data) fun
    | .failed _ => return
    | .pending => throw .pending

/-- What a turn of `writer_loop` begins with. -/
inductive WriterTurn where
  /-- A command to send bytes. -/
  | command (acquired : Option PacketBuf) (data : List UInt8)
  /-- A packet, and what arrives after it. -/
  | batch (batch : PacketClass) (first : PacketBuf) (arrivals : List Arrival)
  deriving DecidableEq

/-- A turn of `writer_loop`. -/
def writerTurn : WriterTurn → Sending Unit
  | .command acquired data => handleWriterCommand cipher outside acquired data
  | .batch batch first arrivals => do
    let _ ← sendWriterBatch cipher outside batch first arrivals
    return

/-- `writer_loop`, for the turns there have been. -/
def writerLoop (turns : List WriterTurn) : Sending Unit :=
  turns.forM (writerTurn cipher outside)

end Focsq.Session
