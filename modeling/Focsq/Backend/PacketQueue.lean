import Focsq.Backend.Notify
import Focsq.Lib.Fifo

/-!
# The packet queue

`PacketQueue` of `dispatcher.rs` hands packets from any number of senders to one receiver. The
state of the queue is one word, an epoch and in its lowest bit whether the queue is active; packets
carry the epoch in which they were sent.

The array queue of `crossbeam` and the `Notify` of `tokio` are parameters, and what is documented
of them is a hypothesis of what follows. Packets are not looked at, so their type is a parameter
too.
-/

namespace Focsq.Dispatcher

/-- `ArrayQueue` — a queue of bounded length. -/
structure ArrayQueue (α : Type) where
  /-- The type of the queues. -/
  Queue : Type
  /-- `new` — a queue of a capacity. -/
  new : Nat → Queue
  /-- `push` — append, and give an element back that does not fit. -/
  push : Queue → α → Option α × Queue
  /-- `force_push` — append, and give the element back that makes room. -/
  forcePush : Queue → α → Option α × Queue
  /-- `pop` — take the first element. -/
  pop : Queue → Option α × Queue
  /-- `len`. -/
  len : Queue → Nat

/-- What is documented of array queues: they are bounded queues with contents and a capacity. -/
structure ArrayQueue.Lawful {α : Type} (queues : ArrayQueue α)
    (contents : queues.Queue → List α) (capacity : queues.Queue → Nat) : Prop where
  /-- A new queue is empty. -/
  new : ∀ size, 0 < size → contents (queues.new size) = [] ∧ capacity (queues.new size) = size
  /-- An element is appended if there is room. -/
  push : ∀ queue item,
    (queues.push queue item).1 = (Fifo.push (capacity queue) (contents queue) item).1 ∧
      contents (queues.push queue item).2 = (Fifo.push (capacity queue) (contents queue) item).2 ∧
      capacity (queues.push queue item).2 = capacity queue
  /-- An element is appended, and the oldest one makes room. -/
  forcePush : ∀ queue item,
    (queues.forcePush queue item).1 = (Fifo.forcePush (capacity queue) (contents queue) item).1 ∧
      contents (queues.forcePush queue item).2 =
        (Fifo.forcePush (capacity queue) (contents queue) item).2 ∧
      capacity (queues.forcePush queue item).2 = capacity queue
  /-- The oldest element is taken. -/
  pop : ∀ queue,
    (queues.pop queue).1 = (Fifo.pop (contents queue)).1 ∧
      contents (queues.pop queue).2 = (Fifo.pop (contents queue)).2 ∧
      capacity (queues.pop queue).2 = capacity queue
  /-- The length is that of the contents. -/
  len : ∀ queue, queues.len queue = (contents queue).length

/-- Array queues as they are documented. -/
structure BoundedQueue (α : Type) where
  /-- The capacity. -/
  capacity : Nat
  /-- The contents. -/
  items : List α

/-- The array queues that are documented. -/
def ArrayQueue.bounded (α : Type) : ArrayQueue α where
  Queue := BoundedQueue α
  new capacity := ⟨capacity, []⟩
  push queue item :=
    let (refused, items) := Fifo.push queue.capacity queue.items item
    (refused, { queue with items })
  forcePush queue item :=
    let (dropped, items) := Fifo.forcePush queue.capacity queue.items item
    (dropped, { queue with items })
  pop queue :=
    let (item, items) := Fifo.pop queue.items
    (item, { queue with items })
  len queue := queue.items.length

/-- `QUEUE_ACTIVE`. -/
def queueActive : UInt64 := 1

/-- `QueuedPacket` — a packet and the epoch in which it was sent. -/
structure QueuedPacket (π : Type) where
  /-- The packet. -/
  packet : π
  /-- The epoch. -/
  epoch : UInt64
  deriving DecidableEq

/-- `PacketQueue` — what the senders share with the receiver. -/
structure PacketQueue {π : Type} (queues : ArrayQueue (QueuedPacket π)) (notifies : Notify) where
  /-- The packets. -/
  queue : queues.Queue
  /-- What the receiver waits for. -/
  notify : notifies.State
  /-- The epoch, and whether the queue is active. -/
  state : UInt64
  /-- Number of senders. -/
  senders : Nat
  /-- Whether there is a receiver. -/
  receiverOpen : Bool

variable {π : Type} {queues : ArrayQueue (QueuedPacket π)} {notifies : Notify}

/-- `packet_channel` — a queue with one sender. -/
def packetChannel (queues : ArrayQueue (QueuedPacket π)) (notifies : Notify) (capacity : Nat)
    (active : Bool) : PacketQueue queues notifies where
  queue := queues.new (max capacity 1)
  notify := notifies.new
  state := (if active then 1 else 0) * queueActive
  senders := 1
  receiverOpen := true

/-- `send_inner` — the answer is the packet that was not sent. -/
def PacketQueue.sendInner (shared : PacketQueue queues notifies) (packet : π) (force : Bool) :
    Option π × PacketQueue queues notifies :=
  if shared.receiverOpen = false then (some packet, shared)
  else
    let state := shared.state
    if state &&& queueActive = 0 then (some packet, shared)
    else
      let queued := { packet, epoch := state >>> 1 }
      let sent := fun queue => { shared with queue, notify := notifies.notifyOne shared.notify }
      if force then (none, sent (queues.forcePush shared.queue queued).2)
      else
        match queues.push shared.queue queued with
        | (some queued, queue) => (some queued.packet, { shared with queue })
        | (none, queue) => (none, sent queue)

/-- `try_send`. -/
def PacketQueue.trySend (shared : PacketQueue queues notifies) (packet : π) :
    Option π × PacketQueue queues notifies := shared.sendInner packet false

/-- `force_send`. -/
def PacketQueue.forceSend (shared : PacketQueue queues notifies) (packet : π) :
    Option π × PacketQueue queues notifies := shared.sendInner packet true

/-- The loop of `try_recv_inner`: as many turns as there are packets. -/
def PacketQueue.recvLoop : Nat → PacketQueue queues notifies →
    Option π × PacketQueue queues notifies
  | 0, shared => (none, shared)
  | turns + 1, shared =>
    match queues.pop shared.queue with
    | (none, queue) => (none, { shared with queue })
    | (some queued, queue) =>
      let state := shared.state
      if state &&& queueActive ≠ 0 ∧ queued.epoch = state >>> 1 then
        (some queued.packet, { shared with queue })
      else recvLoop turns { shared with queue }

/-- `try_recv_inner`. -/
def PacketQueue.tryRecvInner (shared : PacketQueue queues notifies) :
    Option π × PacketQueue queues notifies :=
  shared.recvLoop (queues.len shared.queue)

/-- The loop of `purge`: as many turns as there are packets. -/
def PacketQueue.purgeLoop : Nat → PacketQueue queues notifies → PacketQueue queues notifies
  | 0, shared => shared
  | turns + 1, shared =>
    match queues.pop shared.queue with
    | (none, queue) => { shared with queue }
    | (some _, queue) => purgeLoop turns { shared with queue }

/-- `purge`. -/
def PacketQueue.purge (shared : PacketQueue queues notifies) : PacketQueue queues notifies :=
  shared.purgeLoop (queues.len shared.queue)

/-- The epoch after another one; the sum stops at the largest number. -/
def nextEpoch (state : UInt64) : UInt64 :=
  if state >>> 1 = 0xffffffffffffffff then 0xffffffffffffffff else state >>> 1 + 1

/-- `resume`. -/
def PacketQueue.resume (shared : PacketQueue queues notifies) : PacketQueue queues notifies :=
  let epoch := nextEpoch shared.state
  let shared := { shared with state := epoch <<< 1 }.purge
  { shared with
    state := epoch <<< 1 ||| queueActive
    notify := notifies.notifyWaiters shared.notify }

/-- `suspend`. -/
def PacketQueue.suspend (shared : PacketQueue queues notifies) : PacketQueue queues notifies :=
  let shared := { shared with state := shared.state &&& ~~~queueActive }.purge
  { shared with notify := notifies.notifyWaiters shared.notify }

/-- A call of the queue. -/
inductive QueueCall (π : Type) where
  /-- `try_send`. -/
  | trySend (packet : π)
  /-- `force_send`. -/
  | forceSend (packet : π)
  /-- `try_recv`. -/
  | tryRecv
  /-- `suspend`. -/
  | suspend
  /-- `resume`. -/
  | resume
  /-- `purge`. -/
  | purge

/-- What a call answers: the packet that was not sent, the packet that was received, or nothing. -/
inductive QueueAnswer (π : Type) where
  /-- Answer of a sender. -/
  | refused (packet : Option π)
  /-- Answer of the receiver. -/
  | received (packet : Option π)
  /-- No answer. -/
  | done
  deriving DecidableEq

/-- One call. -/
def PacketQueue.call (shared : PacketQueue queues notifies) :
    QueueCall π → PacketQueue queues notifies × QueueAnswer π
  | .trySend packet =>
    let (refused, shared) := shared.trySend packet
    (shared, .refused refused)
  | .forceSend packet =>
    let (refused, shared) := shared.forceSend packet
    (shared, .refused refused)
  | .tryRecv =>
    let (received, shared) := shared.tryRecvInner
    (shared, .received received)
  | .suspend => (shared.suspend, .done)
  | .resume => (shared.resume, .done)
  | .purge => (shared.purge, .done)

end Focsq.Dispatcher
