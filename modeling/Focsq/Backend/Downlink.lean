import Mathlib.Logic.Function.Basic
import Focsq.Backend.PacketQueue
import Focsq.Backend.StripedScheduler

/-!
# From the workers to the tunnel

Sessions return packets through three queues of `dispatcher.rs`, one for each class. A task takes
them in the order of the classes, puts the frames of each flow in order, and writes the packets to
the device of the tunnel.

The clock is asked each time a frame is put in order, and the n-th answer is an argument. What the
device does with a write comes from outside; the codes of its errors are those of Linux.
-/

namespace Focsq.Dispatcher

open FlowFrame Packet StripedScheduler

variable {queues : ArrayQueue (QueuedPacket PacketBuf)} {notifies : Notify}

section Returns

/-- `RETURN_CAPACITY`. -/
def returnCapacity : Nat := 1024
/-- `RETURN_LATENCY_CAPACITY`. -/
def returnLatencyCapacity : Nat := 128
/-- `RETURN_PRIORITY_CAPACITY`. -/
def returnPriorityCapacity : Nat := 384
/-- `RETURN_BULK_CAPACITY`. -/
def returnBulkCapacity : Nat := returnCapacity - returnLatencyCapacity - returnPriorityCapacity

/-- The capacity of the queue for a class. -/
def returnRoom : PacketClass → Nat
  | .small => returnLatencyCapacity
  | .medium => returnPriorityCapacity
  | .bulk => returnBulkCapacity

/-- `ReturnReorder` — frames that wait for others, and packets that are ready. -/
structure ReturnReorder where
  /-- `reassembler`. -/
  reassembler : FlowReassembler PacketBuf
  /-- `ready`. -/
  ready : List PacketBuf

/-- `ReturnReorder::new`. -/
def ReturnReorder.new : ReturnReorder := ⟨.new, []⟩

/-- `push` — a frame is put in order, and any other packet is ready. -/
def ReturnReorder.push (reorder : ReturnReorder) (packet : PacketBuf) (nowMs : Nat) :
    ReturnReorder :=
  match FrameHeader.decode packet.asSlice with
  | some (header, _) =>
    match packet.trimFront frameLen with
    | .ok packet =>
      let (reassembler, output) := reorder.reassembler.pushAt header packet nowMs
      { reassembler, ready := reorder.ready ++ output }
    | .error _ => reorder
  | none => { reorder with ready := reorder.ready ++ [packet] }

/-- The three queues, and what was taken from them. -/
structure Returns (queues : ArrayQueue (QueuedPacket PacketBuf)) (notifies : Notify) where
  /-- The queue for each class. -/
  queue : PacketClass → PacketQueue queues notifies
  /-- `reorder`. -/
  reorder : ReturnReorder
  /-- How often the clock was asked. -/
  asked : Nat

/-- Queues that are empty. -/
def Returns.new (queues : ArrayQueue (QueuedPacket PacketBuf)) (notifies : Notify) :
    Returns queues notifies where
  queue := fun packetClass => packetChannel queues notifies (returnRoom packetClass) true
  reorder := .new
  asked := 0

/-- `return_packet` — the oldest packet of the class makes room. -/
def Returns.returnPacket (returns : Returns queues notifies) (packet : PacketBuf) :
    Returns queues notifies :=
  let packetClass := packetClass packet.asSlice
  { returns with
    queue := Function.update returns.queue packetClass
      ((returns.queue packetClass).forceSend packet).2 }

/-- The first packet of some queues. -/
def recvFirst (queue : PacketClass → PacketQueue queues notifies) :
    List PacketClass → Option PacketBuf × (PacketClass → PacketQueue queues notifies)
  | [] => (none, queue)
  | packetClass :: rest =>
    match (queue packetClass).tryRecvInner with
    | (some packet, left) => (some packet, Function.update queue packetClass left)
    | (none, left) => recvFirst (Function.update queue packetClass left) rest

/-- `next_return_packet` — small packets first, then medium ones, then bulk. -/
def nextReturnPacket (queue : PacketClass → PacketQueue queues notifies) :
    Option PacketBuf × (PacketClass → PacketQueue queues notifies) :=
  recvFirst queue [.small, .medium, .bulk]

/-- How many packets there are in the queues. -/
def Returns.queued (returns : Returns queues notifies) : Nat :=
  queues.len (returns.queue .small).queue + queues.len (returns.queue .medium).queue +
    queues.len (returns.queue .bulk).queue

/-- The loop of `next_ordered_return_packet`. -/
def Returns.orderedLoop (clock : Nat → Nat) :
    Nat → Returns queues notifies → Option PacketBuf × Returns queues notifies
  | 0, returns => (none, returns)
  | turns + 1, returns =>
    match returns.reorder.ready with
    | packet :: ready =>
      (some packet, { returns with reorder := { returns.reorder with ready } })
    | [] =>
      match nextReturnPacket returns.queue with
      | (none, queue) => (none, { returns with queue })
      | (some packet, queue) =>
        orderedLoop clock turns
          { queue
            reorder := returns.reorder.push packet (clock returns.asked)
            asked := returns.asked + 1 }

/-- `next_ordered_return_packet` — a turn for each packet there is, and one more. -/
def Returns.nextOrdered (clock : Nat → Nat) (returns : Returns queues notifies) :
    Option PacketBuf × Returns queues notifies :=
  returns.orderedLoop clock (returns.queued + 1)

end Returns

section Tun

/-- `EINTR`. -/
def eintr : Nat := 4
/-- `EIO`. -/
def eio : Nat := 5
/-- `EBADF`. -/
def ebadf : Nat := 9
/-- `EAGAIN`. -/
def eagain : Nat := 11
/-- `ENOMEM`. -/
def enomem : Nat := 12
/-- `ENODEV`. -/
def enodev : Nat := 19
/-- `ENOBUFS`. -/
def enobufs : Nat := 105

/-- `is_closed_tun_error`. -/
def isClosedTunError (code : Nat) : Bool := code == eio || code == ebadf || code == enodev

/-- `is_retryable_tun_error`. -/
def isRetryableTunError (code : Nat) : Bool :=
  code == eintr || code == eagain || code == enobufs || code == enomem

/-- What comes of `libc::write` on the device. -/
inductive TunWrite where
  /-- So many bytes are taken. -/
  | taken (length : Nat)
  /-- An error with a code. -/
  | failed (code : Nat)
  /-- The device is not ready. -/
  | notReady
  deriving DecidableEq

/-- `TunWriteState`. -/
inductive TunWriteState where
  /-- The packet is written. -/
  | complete
  /-- `Continue` — a part of it is. -/
  | partly
  /-- The device has to become ready. -/
  | wait
  /-- There is no memory for now. -/
  | backoff
  /-- Others come first. -/
  | yield
  /-- The device is gone. -/
  | closed
  /-- The packet is not accepted. -/
  | dropped
  deriving DecidableEq

/-- `write_tun` — the packet that is being written, with how much of it is. -/
structure TunWriter (queues : ArrayQueue (QueuedPacket PacketBuf)) (notifies : Notify) where
  /-- Where packets come from. -/
  returns : Returns queues notifies
  /-- `pending`. -/
  pending : Option (PacketBuf × Nat)
  /-- `burst` — packets that were written since the device became ready. -/
  burst : Nat
  /-- `dropped` — packets that were dropped since one was written. -/
  dropped : Nat
  /-- `total_bytes_down`. -/
  totalBytesDown : Nat
  /-- Whether the task has ended. -/
  ended : Bool

/-- What the task starts with. -/
def TunWriter.new (queues : ArrayQueue (QueuedPacket PacketBuf)) (notifies : Notify) :
    TunWriter queues notifies where
  returns := .new queues notifies
  pending := none
  burst := 0
  dropped := 0
  totalBytesDown := 0
  ended := false

/-- `log_dropped_packet` — whether the packet of a number is logged. -/
def logsDropped (counter : Nat) : Bool := counter ≤ 8 || counter % 1000 == 0

/-- `try_write_tun_packet` — how it ends, the bytes that the device takes, and the writer. -/
def TunWriter.tryWriteTunPacket (writer : TunWriter queues notifies) (packet : PacketBuf)
    (written : Nat) : TunWrite → TunWriteState × List UInt8 × TunWriter queues notifies
  | .taken 0 => (.dropped, [], { writer with dropped := writer.dropped + 1 })
  | .taken length =>
    let bytes := (packet.asSlice.drop written).take length
    let written := written + length
    let writer := { writer with dropped := 0, pending := some (packet, written) }
    if written = packet.len then
      (.complete, bytes, { writer with totalBytesDown := writer.totalBytesDown + packet.len })
    else (.partly, bytes, writer)
  | .failed code =>
    if isRetryableTunError code then
      if code = enobufs ∨ code = enomem then (.backoff, [], writer) else (.yield, [], writer)
    else if isClosedTunError code then (.closed, [], writer)
    else (.dropped, [], { writer with dropped := writer.dropped + 1 })
  | .notReady => (.wait, [], writer)

/-- What is seen of the task. -/
inductive TunEvent where
  /-- A packet is its turn. -/
  | took (packet : PacketBuf)
  /-- The device takes bytes. -/
  | wrote (bytes : List UInt8)
  /-- A packet is written. -/
  | completed (packet : PacketBuf)
  /-- A packet is dropped. -/
  | discarded (packet : PacketBuf)
  deriving DecidableEq

/-- The next packet, if there is one. -/
def TunWriter.takeNext (clock : Nat → Nat) (writer : TunWriter queues notifies) :
    TunWriter queues notifies × List TunEvent :=
  match writer.returns.nextOrdered clock with
  | (none, returns) => ({ writer with returns, pending := none }, [])
  | (some packet, returns) => ({ writer with returns, pending := some (packet, 0) }, [.took packet])

/-- What follows in the loops when an attempt has ended; the device becoming ready, pauses and other
tasks do not matter. -/
def TunWriter.follow (clock : Nat → Nat) (writer : TunWriter queues notifies)
    (packet : PacketBuf) : TunWriteState → TunWriter queues notifies × List TunEvent
  | .complete =>
    let writer := { writer with burst := writer.burst + 1 }
    if writer.burst = 64 then ({ writer with pending := none }, [.completed packet])
    else
      let (writer, events) := writer.takeNext clock
      (writer, .completed packet :: events)
  | .partly => (writer, [])
  | .wait | .backoff | .yield => ({ writer with burst := 0 }, [])
  | .dropped => ({ writer with pending := none }, [.discarded packet])
  | .closed => ({ writer with ended := true }, [])

/-- What can happen, in any order. -/
inductive TunAction where
  /-- A session returns a packet. -/
  | returned (packet : PacketBuf)
  /-- The task looks for a packet in `recv_ordered_return_packet`. -/
  | receive
  /-- The task writes. -/
  | write (result : TunWrite)
  deriving DecidableEq

/-- One of them. The task looks for a packet when it has none, and writes when it has one. -/
def TunWriter.step (clock : Nat → Nat) (writer : TunWriter queues notifies) :
    TunAction → TunWriter queues notifies × List TunEvent
  | .returned packet => ({ writer with returns := writer.returns.returnPacket packet }, [])
  | .receive =>
    if writer.ended || writer.pending.isSome then (writer, [])
    else { writer with burst := 0 }.takeNext clock
  | .write result =>
    match writer.pending with
    | none => (writer, [])
    | some (packet, written) =>
      if writer.ended then (writer, [])
      else
        let (state, bytes, writer) := writer.tryWriteTunPacket packet written result
        let (writer, events) := writer.follow clock packet state
        (writer, .wrote bytes :: events)

end Tun

end Focsq.Dispatcher
