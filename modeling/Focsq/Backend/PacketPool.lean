import Focsq.Backend.Packet
import Focsq.Backend.PacketQueue
import Focsq.Lib.Tasks

/-!
# The packet pool

`PacketPool` of `packet.rs` gives out buffers up to a limit. A buffer that is given back is retained
in a queue of bounded length and taken from there again; one that does not fit is freed, and no
longer counted. Acquiring and dropping are not atomic: they take the steps below, with those of other
threads between them.

A packet belongs to the thread that acquired it until it is dropped, so that a task is one call of
`try_acquire` together with the life of its packet. What the owner does to the buffer, and when it
drops it, comes from outside.
-/

namespace Focsq.Packet

open Dispatcher (ArrayQueue)

/-- `PACKET_POOL_RETAINED_MAX` — buffers retained at most. -/
def packetPoolRetainedMax : Nat := 2048

variable {queues : ArrayQueue (List UInt8)}

/-- `PacketPool` — what the threads share. -/
structure PacketPool (queues : ArrayQueue (List UInt8)) where
  /-- Retained buffers. -/
  queue : queues.Queue
  /-- Number of buffers that exist. -/
  allocated : Nat
  /-- Number of buffers that may exist. -/
  allocationLimit : Nat

/-- `PacketPool::new`. -/
def PacketPool.new (queues : ArrayQueue (List UInt8)) (buffers : Nat) : PacketPool queues :=
  let capacity := max buffers 1
  let retainedLimit := min capacity packetPoolRetainedMax
  { queue := queues.new retainedLimit, allocated := 0, allocationLimit := capacity }

/-- Where a call of `try_acquire`, its packet, and the drop of that packet are. -/
inductive Place where
  /-- Before `queue.pop`. -/
  | popping
  /-- Before the load of `fetch_update`. -/
  | loading
  /-- In the loop of `fetch_update`, with the count that was read last. -/
  | counting (allocated : Nat)
  /-- The call gave a packet out, which has not been dropped. -/
  | holding (storage : List UInt8)
  /-- The call gave no packet out. -/
  | refused
  /-- In `release_inner`, before `queue.push`. -/
  | pushing (storage : List UInt8)
  /-- In `release_inner`, before `fetch_sub`. -/
  | uncounting
  /-- The packet has been dropped. -/
  | released
  deriving DecidableEq

/-- What comes from outside with a step. -/
inductive Outside where
  /-- Nothing; `compare_exchange_weak` may fail for no reason. -/
  | none (spurious : Bool)
  /-- The owner changes the buffer. -/
  | write (storage : List UInt8)
  /-- The owner drops the packet. -/
  | drop
  deriving DecidableEq

/-- The next atomic step of a task. -/
def PacketPool.next (pool : PacketPool queues) : Place → Outside → PacketPool queues × Place
  | .popping, _ =>
    match queues.pop pool.queue with
    | (some storage, queue) => ({ pool with queue }, .holding storage)
    | (none, queue) => ({ pool with queue }, .loading)
  | .loading, _ => (pool, .counting pool.allocated)
  | .counting allocated, outside =>
    if allocated < pool.allocationLimit then
      if pool.allocated = allocated ∧ outside ≠ .none true then
        ({ pool with allocated := allocated + 1 }, .holding (List.replicate packetCapacity 0))
      else (pool, .counting pool.allocated)
    else (pool, .refused)
  | .holding _, .write storage => (pool, .holding storage)
  | .holding storage, .drop =>
    -- A buffer that its owner has cut is not retained.
    if storage.length ≠ packetCapacity then (pool, .uncounting) else (pool, .pushing storage)
  | .holding storage, .none _ => (pool, .holding storage)
  | .pushing storage, _ =>
    match queues.push pool.queue storage with
    | (none, queue) => ({ pool with queue }, .released)
    | (some _, queue) => ({ pool with queue }, .uncounting)
  | .uncounting, _ => ({ pool with allocated := pool.allocated - 1 }, .released)
  | .refused, _ => (pool, .refused)
  | .released, _ => (pool, .released)

/-- The pool and all calls there have been. -/
abbrev Packets (queues : ArrayQueue (List UInt8)) : Type := Tasks.Pool (PacketPool queues) Place

/-- A step of a task, which answers nothing. -/
def PacketPool.nextTask (pool : PacketPool queues) (place : Place) (outside : Outside) :
    PacketPool queues × Place × Option Unit :=
  ((pool.next place outside).1, (pool.next place outside).2, none)

/-- A call of `try_acquire` begins, or a task makes a step. -/
def Packets.step : Packets queues → Tasks.Action Unit Outside → Packets queues × Option Unit :=
  Tasks.Pool.step (fun _ => Place.popping) PacketPool.nextTask

/-- A pool before the first call. -/
def Packets.new (queues : ArrayQueue (List UInt8)) (buffers : Nat) : Packets queues :=
  ⟨.new queues buffers, []⟩

end Focsq.Packet
