import Focsq.Backend.PacketQueue
import Focsq.Backend.TransportWriter

/-!
# What the writer of a session takes next

`writer_loop` of `session.rs` with `next_writer_packet` and `send_writer_batch`, as a machine that
does one thing at a time: it takes a packet or a command, it looks into a queue, it polls. Between
any two of these the dispatcher may put packets into the three queues, commands may be given, and
the session may be cancelled.

A failure of `flush_queued_data` comes from outside; what is done with a batch is
`Focsq.Backend.TransportWriter`.
-/

namespace Focsq.Session

open Dispatcher Packet StripedScheduler

/-- The capacity of the queue of a class: `WORKER_LATENCY_CAPACITY`, `WORKER_PRIORITY_CAPACITY` and
`WORKER_BULK_CAPACITY`. -/
def workerCapacity : PacketClass → Nat
  | .small => 16
  | .medium => 64
  | .bulk => 128

/-- `WRITER_COMMAND_CAPACITY`. -/
def writerCommandCapacity : Nat := 16

/-- The class that is looked at after another one. -/
def nextClass : PacketClass → Option PacketClass
  | .small => some .medium
  | .medium => some .bulk
  | .bulk => none

section Recv

/-- Where a call of `recv` stands. -/
inductive RecvPlace (notifies : Notify) where
  /-- It looks whether it is cancelled next. -/
  | checking
  /-- It calls `try_recv` next. -/
  | trying (future : Option notifies.Notified)
  /-- It counts the senders next. -/
  | counting (future : Option notifies.Notified)
  /-- It starts to await next. -/
  | awaiting
  /-- It polls next. -/
  | selecting (future : notifies.Notified)

/-- What comes of a step of `recv`. -/
inductive RecvTurn (notifies : Notify) where
  /-- It goes on. -/
  | on (place : RecvPlace notifies)
  /-- It waits to be woken. -/
  | pending (place : RecvPlace notifies)
  /-- It returns. -/
  | returned (packet : Option PacketBuf)

variable {queues : ArrayQueue (QueuedPacket PacketBuf)} {notifies : Notify}

/-- What is awaited at a place. -/
def RecvPlace.future : RecvPlace notifies → Option notifies.Notified
  | .checking => none
  | .trying future => future
  | .counting future => future
  | .awaiting => none
  | .selecting future => some future

/-- The call is dropped. -/
def RecvPlace.drop (shared : PacketQueue queues notifies) (place : RecvPlace notifies) :
    PacketQueue queues notifies :=
  match place.future with
  | none => shared
  | some future => { shared with notify := notifies.drop shared.notify future }

/-- The next step of a call of `recv`. -/
def RecvPlace.next (cancelled : Bool) (shared : PacketQueue queues notifies)
    (place : RecvPlace notifies) : PacketQueue queues notifies × RecvTurn notifies :=
  match place with
  | .checking =>
    if cancelled then (shared, .returned none) else (shared, .on (.trying none))
  | .trying future =>
    match shared.tryRecvInner with
    | (some packet, shared) => (place.drop shared, .returned (some packet))
    | (none, shared) => (shared, .on (.counting future))
  | .counting future =>
    if shared.senders = 0 then (place.drop shared, .returned none)
    else
      match future with
      | none => (shared, .on .awaiting)
      | some future => (shared, .on (.selecting future))
  | .awaiting => (shared, .on (.trying (some (notifies.notified shared.notify))))
  | .selecting future =>
    if cancelled then (place.drop shared, .returned none)
    else
      match notifies.poll shared.notify future with
      | (true, notify, future) =>
        ({ shared with notify := notifies.drop notify future }, .on .checking)
      | (false, notify, future) => ({ shared with notify }, .pending (.selecting future))

end Recv

section Writer

/-- A batch that is being collected. -/
structure OpenBatch where
  /-- The class. -/
  batch : PacketClass
  /-- The packet it begins with. -/
  first : PacketBuf
  /-- `sent`. -/
  sent : Nat
  /-- What the turns of the loop have found. -/
  arrivals : List Arrival

/-- What `select!` of `writer_loop` polls next. -/
inductive WriterPoll where
  /-- `cancel.cancelled()`. -/
  | cancel
  /-- `commands.recv()`. -/
  | command
  /-- `recv` of a queue. -/
  | recv (packetClass : PacketClass)

/-- Where `writer_loop` stands. -/
inductive WriterPlace (notifies : Notify) where
  /-- `commands.try_recv()` is next. -/
  | turn
  /-- A command is being handled. -/
  | handling (data : List UInt8)
  /-- `next_writer_packet` tries a queue next. -/
  | finding (packetClass : PacketClass)
  /-- `is_closed` of a queue is next, before `select!` or after it. -/
  | closing (selected : Bool) (packetClass : PacketClass)
  /-- `select!`, with its calls of `recv`. -/
  | selecting (calls : PacketClass → RecvPlace notifies) (poll : WriterPoll)
  /-- There is no packet; whether the session is cancelled is next. -/
  | nothing
  /-- `has_queued_packet` of the queue of small packets is next. -/
  | extending (batch : OpenBatch)
  /-- `has_queued_packet` of the queue of medium packets is next. -/
  | comparing (batch : OpenBatch) (latencyPending : Bool)
  /-- `try_recv` of the queue of the batch is next. -/
  | taking (batch : OpenBatch) (latencyPending priorityPending : Bool)
  /-- The batch is being sent. -/
  | flushing (batch : OpenBatch)
  /-- It has returned. -/
  | stopped

/-- The writer with its queues and commands. -/
structure Writer (queues : ArrayQueue (QueuedPacket PacketBuf)) (notifies : Notify) where
  /-- `latency`, `priority` and `bulk`. -/
  shared : PacketClass → PacketQueue queues notifies
  /-- `commands`. -/
  commands : List (List UInt8)
  /-- Whether commands can be given. -/
  commandsOpen : Bool
  /-- `cancel`. -/
  cancelled : Bool
  /-- Where it stands. -/
  place : WriterPlace notifies

/-- What can be seen of a step. -/
inductive WriterEvent where
  /-- A packet is in its queue. -/
  | sent (packetClass : PacketClass) (packet : PacketBuf)
  /-- A packet is taken and queued for the transport. -/
  | taken (packetClass : PacketClass) (packet : PacketBuf)
  /-- A command is taken. -/
  | command (data : List UInt8)
  /-- The loop has made a turn. -/
  | turned (turn : WriterTurn)
  deriving DecidableEq

/-- What can happen, in any order. -/
inductive WriterAction where
  /-- A packet is sent to a queue, by force or not. -/
  | send (packetClass : PacketClass) (packet : PacketBuf) (force : Bool)
  /-- A sender of a queue is cloned. -/
  | cloneSender (packetClass : PacketClass)
  /-- A sender of a queue is dropped. -/
  | dropSender (packetClass : PacketClass)
  /-- A command is given. -/
  | command (data : List UInt8)
  /-- The last sender of commands is dropped. -/
  | closeCommands
  /-- The session is cancelled. -/
  | cancel
  /-- The writer does its next step, with what the pool gives for a command, and whether a batch
  could be sent. -/
  | step (acquired : Option PacketBuf) (sent : Bool)

variable {queues : ArrayQueue (QueuedPacket PacketBuf)} {notifies : Notify}

/-- The condition of the loop of `send_writer_batch`. -/
def OpenBatch.place (batch : OpenBatch) : WriterPlace notifies :=
  if batch.sent < batchLimit batch.batch then .extending batch else .flushing batch

/-- A turn of the loop finds something. -/
def OpenBatch.found (batch : OpenBatch) (latencyPending priorityPending : Bool)
    (packet : Option PacketBuf) : OpenBatch :=
  { batch with
    sent := batch.sent + packet.toList.length
    arrivals := batch.arrivals ++ [{ latencyPending, priorityPending, packet }] }

/-- A batch begins. -/
def Writer.begin (writer : Writer queues notifies) (packetClass : PacketClass)
    (packet : PacketBuf) : Writer queues notifies × Option WriterEvent :=
  ({ writer with
      place := OpenBatch.place ⟨packetClass, packet, 1, []⟩ },
    some (.taken packetClass packet))

/-- The calls of `recv` are dropped. -/
def dropCalls (calls : PacketClass → RecvPlace notifies)
    (shared : PacketClass → PacketQueue queues notifies) :
    PacketClass → PacketQueue queues notifies :=
  fun packetClass => (calls packetClass).drop (shared packetClass)

/-- `is_closed`. -/
def Writer.isClosed (writer : Writer queues notifies) (packetClass : PacketClass) : Bool :=
  (writer.shared packetClass).senders == 0 && queues.len (writer.shared packetClass).queue == 0

/-- `has_queued_packet`. -/
def Writer.hasQueuedPacket (writer : Writer queues notifies) (packetClass : PacketClass) : Bool :=
  queues.len (writer.shared packetClass).queue != 0

/-- A poll of `select!`. -/
def Writer.poll (writer : Writer queues notifies) (calls : PacketClass → RecvPlace notifies) :
    WriterPoll → Writer queues notifies × Option WriterEvent
  | .cancel =>
    if writer.cancelled then
      ({ writer with shared := dropCalls calls writer.shared, place := .stopped }, none)
    else ({ writer with place := .selecting calls .command }, none)
  | .command =>
    match writer.commands with
    | data :: commands =>
      ({ writer with
          shared := dropCalls calls writer.shared
          commands
          place := .handling data }, some (.command data))
    | [] =>
      if writer.commandsOpen then
        ({ writer with place := .selecting calls (.recv .small) }, none)
      else ({ writer with shared := dropCalls calls writer.shared, place := .turn }, none)
  | .recv packetClass =>
    let (shared, turn) :=
      (calls packetClass).next writer.cancelled (writer.shared packetClass)
    let writer := { writer with shared := Function.update writer.shared packetClass shared }
    match turn with
    | .on place =>
      ({ writer with
          place := .selecting (Function.update calls packetClass place) (.recv packetClass) },
        none)
    | .pending place =>
      let poll :=
        match nextClass packetClass with
        | some following => .recv following
        | none => .cancel
      ({ writer with place := .selecting (Function.update calls packetClass place) poll }, none)
    | .returned packet =>
      let calls := Function.update calls packetClass .checking
      let writer := { writer with shared := dropCalls calls writer.shared }
      match packet with
      | some packet => writer.begin packetClass packet
      | none => ({ writer with place := .nothing }, none)

/-- The next step of `writer_loop`. -/
def Writer.next (writer : Writer queues notifies) (acquired : Option PacketBuf) (sent : Bool) :
    Writer queues notifies × Option WriterEvent :=
  match writer.place with
  | .turn =>
    match writer.commands with
    | data :: commands =>
      ({ writer with commands, place := .handling data }, some (.command data))
    | [] => ({ writer with place := .finding .small }, none)
  | .handling data => ({ writer with place := .turn }, some (.turned (.command acquired data)))
  | .finding packetClass =>
    let (packet, shared) := (writer.shared packetClass).tryRecvInner
    let writer := { writer with shared := Function.update writer.shared packetClass shared }
    match packet with
    | some packet => writer.begin packetClass packet
    | none =>
      match nextClass packetClass with
      | some following => ({ writer with place := .finding following }, none)
      | none => ({ writer with place := .closing false .small }, none)
  | .closing selected packetClass =>
    if writer.isClosed packetClass then
      match nextClass packetClass with
      | some following => ({ writer with place := .closing selected following }, none)
      | none => ({ writer with place := if selected then .stopped else .nothing }, none)
    else if selected then ({ writer with place := .turn }, none)
    else ({ writer with place := .selecting (fun _ => .checking) .cancel }, none)
  | .selecting calls poll => writer.poll calls poll
  | .nothing =>
    ({ writer with place := if writer.cancelled then .stopped else .closing true .small }, none)
  | .extending batch =>
    ({ writer with place := .comparing batch (writer.hasQueuedPacket .small) }, none)
  | .comparing batch latencyPending =>
    let priorityPending := writer.hasQueuedPacket .medium
    let found := { latencyPending, priorityPending, packet := none }
    if writerBatchCanExtend batch.batch found then
      ({ writer with place := .taking batch latencyPending priorityPending }, none)
    else
      ({ writer with place := .flushing (batch.found latencyPending priorityPending none) }, none)
  | .taking batch latencyPending priorityPending =>
    let (packet, shared) := (writer.shared batch.batch).tryRecvInner
    let writer := { writer with shared := Function.update writer.shared batch.batch shared }
    let batch := batch.found latencyPending priorityPending packet
    match packet with
    | some packet => ({ writer with place := batch.place }, some (.taken batch.batch packet))
    | none => ({ writer with place := .flushing batch }, none)
  | .flushing batch =>
    ({ writer with place := if sent then .turn else .stopped },
      some (.turned (.batch batch.batch batch.first batch.arrivals)))
  | .stopped => (writer, none)

/-- One of the things that can happen. -/
def Writer.step (writer : Writer queues notifies) :
    WriterAction → Writer queues notifies × Option WriterEvent
  | .send packetClass packet force =>
    if (writer.shared packetClass).senders = 0 then (writer, none)
    else
      let (refused, shared) := (writer.shared packetClass).sendInner packet force
      ({ writer with shared := Function.update writer.shared packetClass shared },
        if refused.isNone then some (.sent packetClass packet) else none)
  | .cloneSender packetClass =>
    let queue := writer.shared packetClass
    let shared := { queue with senders := if queue.senders = 0 then 0 else queue.senders + 1 }
    ({ writer with shared := Function.update writer.shared packetClass shared }, none)
  | .dropSender packetClass =>
    let queue := writer.shared packetClass
    let shared := { queue with
      senders := queue.senders - 1
      notify := if queue.senders = 1 then notifies.notifyWaiters queue.notify else queue.notify }
    ({ writer with shared := Function.update writer.shared packetClass shared }, none)
  | .command data =>
    if writer.commandsOpen && writer.commands.length < writerCommandCapacity then
      ({ writer with commands := writer.commands ++ [data] }, none)
    else (writer, none)
  | .closeCommands => ({ writer with commandsOpen := false }, none)
  | .cancel => ({ writer with cancelled := true }, none)
  | .step acquired sent => writer.next acquired sent

/-- A writer that begins. -/
def Writer.new (queues : ArrayQueue (QueuedPacket PacketBuf)) (notifies : Notify) :
    Writer queues notifies where
  shared := fun packetClass => packetChannel queues notifies (workerCapacity packetClass) true
  commands := []
  commandsOpen := true
  cancelled := false
  place := .turn

end Writer

end Focsq.Session
