import Focsq.Backend.FastPathScheduler
import Focsq.Backend.PacketQueue

/-!
# From the tunnel to the workers

`dispatch_now` of `dispatcher.rs` puts every packet from the tunnel into a queue of the worker that
the scheduler chooses. When the queue is full, the oldest packet in it makes room. The queues of a
worker belong to its session, which takes packets from them until it ends.

Packets are looked at only to find their class, so that their type is a parameter, with what
`as_slice` gives of them. Senders are told apart by keys.
-/

namespace Focsq.Dispatcher

open StripedScheduler

variable {π κ : Type} {queues : ArrayQueue (QueuedPacket π)} {notifies : Notify}

/-- The sender for a class of packets. -/
def WorkerChannels.sender (worker : WorkerChannels κ) : PacketClass → κ
  | .small => worker.latency
  | .medium => worker.priority
  | .bulk => worker.bulk

/-- `drop` of a receiver. -/
def PacketQueue.dropReceiver (shared : PacketQueue queues notifies) :
    PacketQueue queues notifies :=
  let shared := { shared with receiverOpen := false }.purge
  { shared with notify := notifies.notifyWaiters shared.notify }

variable [DecidableEq κ]

/-- `enqueue_selected_worker` — the answer is the packet that was not sent. -/
def enqueueSelectedWorker (shared : κ → PacketQueue queues notifies)
    (workers : List (WorkerChannels κ)) (ticket : DispatchTicket) (packet : π) :
    Option π × (κ → PacketQueue queues notifies) :=
  match workers[ticket.startSlot]? with
  | none => (some packet, shared)
  | some worker =>
    let key := worker.sender ticket.packetClass
    let (refused, queue) := (shared key).trySend packet
    (refused, Function.update shared key queue)

/-- `replace_oldest_in_selected_queue`. -/
def replaceOldestInSelectedQueue (shared : κ → PacketQueue queues notifies)
    (workers : List (WorkerChannels κ)) (ticket : DispatchTicket) (packet : π) :
    Option π × (κ → PacketQueue queues notifies) :=
  match workers[ticket.startSlot]? with
  | none => (some packet, shared)
  | some worker =>
    let key := worker.sender ticket.packetClass
    let (refused, queue) := (shared key).forceSend packet
    (refused, Function.update shared key queue)

/-- The dispatcher, the scheduler of the task that reads the tunnel, and all queues of workers. -/
structure Uplink (κ : Type) (queues : ArrayQueue (QueuedPacket π)) (notifies : Notify) where
  /-- The workers and the scheduler. -/
  path : FastPath κ
  /-- The queues. -/
  shared : κ → PacketQueue queues notifies

/-- `dispatch_now`. -/
def Uplink.dispatchNow (asSlice : π → List UInt8) (uplink : Uplink κ queues notifies) (packet : π) :
    Uplink κ queues notifies :=
  let (scheduler, ticket) := uplink.path.scheduler.begin uplink.path.workers (asSlice packet)
  let path := { uplink.path with scheduler }
  match ticket with
  | none => { uplink with path }
  | some ticket =>
    match enqueueSelectedWorker uplink.shared scheduler.workers ticket packet with
    | (none, shared) => { path, shared }
    | (some packet, shared) =>
      { path
        shared := (replaceOldestInSelectedQueue shared scheduler.workers ticket packet).2 }

/-- What can happen, in any order. -/
inductive UplinkAction (π κ : Type) where
  /-- A session has begun. -/
  | register (channels : WorkerChannels κ)
  /-- A session is ending. -/
  | unregister (id : Nat) (incarnationId : UInt64)
  /-- A packet was read from the tunnel. -/
  | packet (packet : π)
  /-- A session takes a packet from one of its queues. -/
  | receive (key : κ)
  /-- A session drops one of its queues. -/
  | drop (key : κ)

/-- One of them; the answer is what a session receives. -/
def Uplink.step (asSlice : π → List UInt8) (uplink : Uplink κ queues notifies) :
    UplinkAction π κ → Uplink κ queues notifies × Option (κ × π)
  | .register channels =>
    ({ uplink with
      path := { uplink.path with workers := register uplink.path.workers channels } }, none)
  | .unregister id incarnationId =>
    ({ uplink with
      path := { uplink.path with workers := unregister uplink.path.workers id incarnationId } },
      none)
  | .packet packet => (uplink.dispatchNow asSlice packet, none)
  | .receive key =>
    let (received, queue) := (uplink.shared key).tryRecvInner
    ({ uplink with shared := Function.update uplink.shared key queue }, received.map (key, ·))
  | .drop key =>
    ({ uplink with
      shared := Function.update uplink.shared key (uplink.shared key).dropReceiver }, none)

/-- No worker, and queues that are empty, as `run_allocated_session` makes them. -/
def Uplink.new (queues : ArrayQueue (QueuedPacket π)) (notifies : Notify) (capacity : κ → Nat) :
    Uplink κ queues notifies where
  path := { workers := [], scheduler := .new }
  shared := fun key => packetChannel queues notifies (capacity key) true

end Focsq.Dispatcher
