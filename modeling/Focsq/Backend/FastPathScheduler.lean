import Mathlib.Data.List.Sort
import Mathlib.Data.String.Basic
import Focsq.Backend.StripedScheduler

/-!
# Workers and the fast path

`dispatcher.rs` keeps a list of workers, each with its own connections, and hands outbound packets
to them. `FastPathScheduler` chooses the worker: the packets of each class go around the workers by
chunks. It holds a copy of the list, and takes a new one when a class begins a chunk.

The scheduler does not look at workers, so their type is a parameter of it.
-/

namespace Focsq.Dispatcher

open StripedScheduler

/-- `RoundRobinCursor` — whose turn it is, and for how many packets. -/
structure RoundRobinCursor where
  /-- The slot of the worker. -/
  currentWorker : Nat
  /-- How many packets are left of its chunk. -/
  remaining : Nat
  deriving DecidableEq

/-- `default` — the first worker is to begin a chunk. -/
def RoundRobinCursor.default : RoundRobinCursor := ⟨0, 0⟩

/-- `FastPathScheduler`. -/
structure FastPathScheduler (ω : Type) where
  /-- The workers, as they were loaded. -/
  workers : List ω
  /-- Their number. -/
  workerCount : Nat
  /-- The cursor of each class. -/
  cursors : Vector RoundRobinCursor 3

variable {ω : Type}

/-- `cursors[class.index()]`. -/
def FastPathScheduler.cursor (scheduler : FastPathScheduler ω) (packetClass : PacketClass) :
    RoundRobinCursor := scheduler.cursors[packetClass.index]

/-- Move the cursor of a class. -/
def FastPathScheduler.setCursor (scheduler : FastPathScheduler ω) (packetClass : PacketClass)
    (cursor : RoundRobinCursor) : FastPathScheduler ω :=
  { scheduler with cursors := scheduler.cursors.set packetClass.index cursor }

/-- `new`. -/
def FastPathScheduler.new : FastPathScheduler ω where
  workers := []
  workerCount := 0
  cursors := Vector.replicate 3 RoundRobinCursor.default

/-- `sync_worker_count` — another number of workers sets all cursors back. -/
def FastPathScheduler.syncWorkerCount (scheduler : FastPathScheduler ω) (workerCount : Nat) :
    FastPathScheduler ω :=
  if scheduler.workerCount ≠ workerCount then
    { scheduler with
      workerCount
      cursors := Vector.replicate 3 RoundRobinCursor.default }
  else scheduler

/-- The part of `begin_for_class` that moves the cursor. -/
def RoundRobinCursor.advance (cursor : RoundRobinCursor) (chunk workerCount : Nat) :
    RoundRobinCursor :=
  let remaining := (if cursor.remaining = 0 then chunk else cursor.remaining) - 1
  if remaining = 0 then
    let next := cursor.currentWorker + 1
    { currentWorker := if next = workerCount then 0 else next, remaining }
  else { cursor with remaining }

/-- `begin_for_class` — the slot of the worker for the next packet of a class. -/
def FastPathScheduler.beginForClass (scheduler : FastPathScheduler ω) (workerCount : Nat)
    (packetClass : PacketClass) : FastPathScheduler ω × Option DispatchTicket :=
  if workerCount = 0 then (scheduler, none)
  else
    let scheduler := scheduler.syncWorkerCount workerCount
    let cursor := scheduler.cursor packetClass
    let advanced := cursor.advance packetClass.streamChunk workerCount
    (scheduler.setCursor packetClass advanced,
      some { startSlot := cursor.currentWorker, packetClass })

/-- `begin_with_count`. -/
def FastPathScheduler.beginWithCount (scheduler : FastPathScheduler ω) (workerCount : Nat)
    (packet : List UInt8) : FastPathScheduler ω × Option DispatchTicket :=
  scheduler.beginForClass workerCount (packetClass packet)

/-- The part of `begin` that takes the new list of workers, if the class begins a chunk. -/
def FastPathScheduler.load (scheduler : FastPathScheduler ω) (source : List ω)
    (packetClass : PacketClass) : FastPathScheduler ω :=
  if (scheduler.cursor packetClass).remaining = 0 then
    { scheduler with workers := source }.syncWorkerCount source.length
  else scheduler

/-- `begin` — the slot of the worker for a packet. -/
def FastPathScheduler.begin (scheduler : FastPathScheduler ω) (source : List ω)
    (packet : List UInt8) : FastPathScheduler ω × Option DispatchTicket :=
  let scheduler := scheduler.load source (packetClass packet)
  scheduler.beginForClass scheduler.workerCount (packetClass packet)

/-- `WorkerChannels` — a worker and where it takes packets of each class from. -/
structure WorkerChannels (σ : Type) where
  /-- The number of the worker. -/
  id : Nat
  /-- Which worker of that number it is. -/
  incarnationId : UInt64
  /-- The TURN path it uses. -/
  turnPath : String
  /-- Where small packets go. -/
  latency : σ
  /-- Where medium packets go. -/
  priority : σ
  /-- Where bulk packets go. -/
  bulk : σ
  deriving DecidableEq

variable {σ : Type}

/-- The order of `interleave_turn_paths`: by path, and by number on a path. -/
def WorkerChannels.before (left right : WorkerChannels σ) : Prop :=
  left.turnPath < right.turnPath ∨ left.turnPath = right.turnPath ∧ left.id ≤ right.id

instance WorkerChannels.decidableBefore (left right : WorkerChannels σ) :
    Decidable (left.before right) := by
  unfold WorkerChannels.before
  infer_instance

/-- The next worker joins the last group if it is on its path, or starts a group. -/
def joinGroups (groups : List (List (WorkerChannels σ))) (worker : WorkerChannels σ) :
    List (List (WorkerChannels σ)) :=
  match groups.getLast? with
  | none => [[worker]]
  | some group =>
    if group.head?.any fun first => first.turnPath == worker.turnPath then
      groups.dropLast ++ [group ++ [worker]]
    else groups ++ [[worker]]

/-- The loop of `interleave_turn_paths`: the next worker of each group, until there are none. -/
def interleaveLoop (groups : List (List (WorkerChannels σ))) : Nat → Nat → List (WorkerChannels σ)
  | 0, _ => []
  | turns + 1, offset =>
    let added := groups.filterMap fun group => group[offset]?
    if added.isEmpty then [] else added ++ interleaveLoop groups turns (offset + 1)

/-- `interleave_turn_paths` — take turns of all paths. There are no more turns than workers, and
one in which no worker is left. -/
def interleaveTurnPaths (workers : List (WorkerChannels σ)) : List (WorkerChannels σ) :=
  let sorted := workers.insertionSort WorkerChannels.before
  interleaveLoop (sorted.foldl joinGroups []) (sorted.length + 1) 0

/-- `register` — put a worker in the place of those of its number. -/
def register (workers : List (WorkerChannels σ)) (channels : WorkerChannels σ) :
    List (WorkerChannels σ) :=
  interleaveTurnPaths (workers.filter (fun worker => worker.id != channels.id) ++ [channels])

/-- `unregister` — remove a worker, unless another one has taken its place. -/
def unregister (workers : List (WorkerChannels σ)) (id : Nat) (incarnationId : UInt64) :
    List (WorkerChannels σ) :=
  interleaveTurnPaths
    (workers.filter fun worker => worker.id != id || worker.incarnationId != incarnationId)

/-- The workers of the dispatcher, and the scheduler of a task that reads packets. -/
structure FastPath (σ : Type) where
  /-- `workers` of the dispatcher. -/
  workers : List (WorkerChannels σ)
  /-- The scheduler. -/
  scheduler : FastPathScheduler (WorkerChannels σ)

/-- What can happen to them. Each replaces or loads the list of workers at once. -/
inductive FastPathAction (σ : Type) where
  /-- `register`. -/
  | register (channels : WorkerChannels σ)
  /-- `unregister`. -/
  | unregister (id : Nat) (incarnationId : UInt64)
  /-- `dispatch_now`. -/
  | packet (packet : List UInt8)

/-- One of them; a packet is answered with its class and the worker it is assigned to, as
`enqueue_selected_worker` selects it. -/
def FastPath.step (path : FastPath σ) :
    FastPathAction σ → FastPath σ × Option (PacketClass × WorkerChannels σ)
  | .register channels => ({ path with workers := register path.workers channels }, none)
  | .unregister id incarnationId =>
    ({ path with workers := unregister path.workers id incarnationId }, none)
  | .packet packet =>
    let (scheduler, ticket) := path.scheduler.begin path.workers packet
    ({ path with scheduler },
      ticket.bind fun ticket =>
        scheduler.workers[ticket.startSlot]?.map fun worker => (ticket.packetClass, worker))

end Focsq.Dispatcher
