import Focsq.Backend.PacketPool
import Focsq.Verif.PacketQueue

/-!
# The packet budget

Every buffer that exists is retained or belongs to one task, which owns it or is about to give it
back, and `allocated` counts them. All steps keep this balance, in any order, so no more packets are
in use than the limit allows, and none is lost.
-/

namespace Focsq.Packet

open Dispatcher (ArrayQueue)

/-- The task has a buffer. -/
def Place.occupies : Place → Bool
  | .holding _ | .pushing _ | .uncounting => true
  | _ => false

/-- The task has given a packet out that is not dropped. -/
def Place.inUse : Place → Bool
  | .holding _ => true
  | _ => false

/-- The task is neither in `try_acquire` nor in the drop of its packet. -/
def Place.idle : Place → Bool
  | .holding _ | .refused | .released => true
  | _ => false

variable {queues : ArrayQueue (List UInt8)} {contents : queues.Queue → List (List UInt8)}
  {capacity : queues.Queue → Nat}

/-- Every buffer is counted once, and there are not too many. -/
structure Packets.Balanced (contents : queues.Queue → List (List UInt8))
    (packets : Packets queues) : Prop where
  /-- Buffers are retained or belong to a task. -/
  balance : packets.shared.allocated =
    (contents packets.shared.queue).length + packets.tasks.countP Place.occupies
  /-- There are at most as many as allowed. -/
  limited : packets.shared.allocated ≤ packets.shared.allocationLimit

section Steps

variable (lawful : queues.Lawful contents capacity)
include lawful

/-- A step exchanges buffers between the queue, the task and the allocator, and counts them. -/
theorem PacketPool.next_exchanges (pool : PacketPool queues) (place : Place) (outside : Outside)
    (counted : (contents pool.queue).length + place.occupies.toNat ≤ pool.allocated)
    (limited : pool.allocated ≤ pool.allocationLimit) :
    (pool.next place outside).1.allocated + (contents pool.queue).length +
        place.occupies.toNat =
      pool.allocated + (contents (pool.next place outside).1.queue).length +
        (pool.next place outside).2.occupies.toNat ∧
    (pool.next place outside).1.allocated ≤ pool.allocationLimit ∧
    (pool.next place outside).1.allocationLimit = pool.allocationLimit := by
  cases place with
  | popping =>
    rw [PacketPool.next]
    rcases lawful.pop_cases pool.queue with
      ⟨rest, popped, empty, none⟩ | ⟨storage, rest, popped, items⟩
    · rw [popped]
      refine ⟨?_, limited, rfl⟩
      simp only [empty, none, Place.occupies]
    · rw [popped]
      refine ⟨?_, limited, rfl⟩
      simp only [items, Place.occupies, List.length_cons, Bool.toNat_false, Bool.toNat_true]
      omega
  | loading => exact ⟨rfl, limited, rfl⟩
  | counting allocated =>
    rw [PacketPool.next]
    split
    · rename_i below
      split
      · rename_i exchanged
        refine ⟨?_, below, rfl⟩
        simp only [Place.occupies, Bool.toNat_false, Bool.toNat_true, exchanged.1]
        omega
      · exact ⟨rfl, limited, rfl⟩
    · exact ⟨rfl, limited, rfl⟩
  | holding storage =>
    cases outside with
    | none spurious => exact ⟨rfl, limited, rfl⟩
    | write bytes => exact ⟨rfl, limited, rfl⟩
    | drop =>
      rw [PacketPool.next]
      split <;> exact ⟨rfl, limited, rfl⟩
  | refused => exact ⟨rfl, limited, rfl⟩
  | pushing storage =>
    rw [PacketPool.next]
    rcases lawful.push_cases pool.queue storage with ⟨rest, pushed, items⟩ | ⟨rest, pushed, items⟩
    · rw [pushed]
      refine ⟨?_, limited, rfl⟩
      simp only [items, Place.occupies, List.length_append, List.length_singleton,
        Bool.toNat_false, Bool.toNat_true]
      omega
    · rw [pushed]
      refine ⟨?_, limited, rfl⟩
      simp only [items, Place.occupies]
  | uncounting =>
    refine ⟨?_, (Nat.sub_le _ _).trans limited, rfl⟩
    simp only [Place.occupies, Bool.toNat_true] at counted
    simp only [PacketPool.next, Place.occupies, Bool.toNat_true, Bool.toNat_false]
    omega
  | released => exact ⟨rfl, limited, rfl⟩

/-- Everything that can happen keeps the balance. -/
theorem Packets.Balanced.moves {packets after : Packets queues} {event : Option Unit}
    (balanced : packets.Balanced contents)
    (moves : packets.Moves (fun _ : Unit => Place.popping) PacketPool.nextTask after event) :
    after.Balanced contents ∧
      after.shared.allocationLimit = packets.shared.allocationLimit := by
  obtain ⟨balance, limited⟩ := balanced
  cases moves with
  | stay => exact ⟨⟨balance, limited⟩, rfl⟩
  | begin call =>
    refine ⟨⟨?_, limited⟩, rfl⟩
    rw [List.countP_append]
    exact balance
  | step front task back input here =>
    have before := Tasks.countP_task Place.occupies front back task
    have later := Tasks.countP_task Place.occupies front back
      (packets.shared.next task input).2
    rw [here, before] at balance
    obtain ⟨exchange, bound, same⟩ := packets.shared.next_exchanges lawful task input
      (by omega) limited
    refine ⟨⟨?_, ?_⟩, same⟩
    · dsimp only [PacketPool.nextTask]
      omega
    · exact bound.trans (Nat.le_of_eq same.symm)

/-- So does every run. -/
theorem Packets.Balanced.run {packets : Packets queues} (balanced : packets.Balanced contents)
    (run : List (Tasks.Action Unit Outside)) :
    (Mealy.final Packets.step packets run).Balanced contents ∧
      (Mealy.final Packets.step packets run).shared.allocationLimit =
        packets.shared.allocationLimit := by
  refine Tasks.invariant (fun _ (after : Packets queues) => after.Balanced contents ∧
    after.shared.allocationLimit = packets.shared.allocationLimit) ?_ packets run
    ⟨balanced, rfl⟩
  rintro _ between after event ⟨held, same⟩ moves
  obtain ⟨kept, still⟩ := held.moves lawful moves
  exact ⟨kept, still.trans same⟩

/-- Nothing exists in a new pool. -/
theorem balanced_new (buffers : Nat) : (Packets.new queues buffers).Balanced contents := by
  have positive : 0 < min (max buffers 1) packetPoolRetainedMax := by
    unfold packetPoolRetainedMax
    omega
  refine ⟨?_, Nat.zero_le _⟩
  change 0 = (contents (queues.new (min (max buffers 1) packetPoolRetainedMax))).length + 0
  rw [(lawful.new _ positive).1]
  rfl

end Steps

/-- Between operations, the tasks that have a buffer are those whose packets are in use. -/
theorem countP_occupies_of_idle {tasks : List Place}
    (idle : ∀ place ∈ tasks, place.idle = true) :
    tasks.countP Place.occupies = tasks.countP Place.inUse := by
  refine List.countP_congr fun place member => ?_
  have settled := idle place member
  cases place <;> simp_all [Place.idle, Place.occupies, Place.inUse]

/-- A packet in use is in a buffer. -/
theorem countP_inUse_le (tasks : List Place) :
    tasks.countP Place.inUse ≤ tasks.countP Place.occupies := by
  refine List.countP_mono_left fun place _ used => ?_
  cases place <;> simp_all [Place.occupies, Place.inUse]

/-- A call of `try_acquire` that no other step interrupts. -/
def acquireAlone (index : Nat) : List (Tasks.Action Unit Outside) :=
  .begin () :: (List.replicate 3 (.none false)).map (.step index)

/-- Calls of `try_acquire`, one after another. -/
def acquires (index : Nat) : Nat → List (Tasks.Action Unit Outside)
  | 0 => []
  | calls + 1 => acquireAlone index ++ acquires (index + 1) calls

section Alone

variable (lawful : queues.Lawful contents capacity)
include lawful

/-- Without interruption, a call gives a packet out when one is retained or may be allocated. -/
theorem alone_acquires (pool : PacketPool queues) :
    let last := (Tasks.alone PacketPool.nextTask pool .popping
      (List.replicate 3 (.none false))).2
    last.idle = true ∧
      last.inUse = (decide (0 < (contents pool.queue).length) ||
        decide (pool.allocated < pool.allocationLimit)) := by
  rcases lawful.pop_cases pool.queue with
    ⟨rest, popped, empty, _⟩ | ⟨storage, rest, popped, items⟩
  · by_cases below : pool.allocated < pool.allocationLimit
    · simp [Tasks.alone, List.replicate, PacketPool.nextTask, PacketPool.next, popped, empty,
        below, Place.idle, Place.inUse]
    · simp [Tasks.alone, List.replicate, PacketPool.nextTask, PacketPool.next, popped, empty,
        below, Place.idle, Place.inUse]
  · simp [Tasks.alone, List.replicate, PacketPool.nextTask, PacketPool.next, popped, items,
      Place.idle, Place.inUse]

/-- When no operation is in progress, the next call gives a packet out exactly when fewer are in use
than allowed. -/
theorem Packets.Balanced.acquire {packets : Packets queues}
    (balanced : packets.Balanced contents)
    (idle : ∀ place ∈ packets.tasks, place.idle = true) :
    let after := Mealy.final Packets.step packets (acquireAlone packets.tasks.length)
    after.tasks.length = packets.tasks.length + 1 ∧
      (∀ place ∈ after.tasks, place.idle = true) ∧
      after.tasks.countP Place.inUse =
        packets.tasks.countP Place.inUse +
          (decide (packets.tasks.countP Place.inUse < packets.shared.allocationLimit)).toNat := by
  obtain ⟨settled, gives⟩ := alone_acquires lawful packets.shared
  have last : Mealy.final Packets.step packets (acquireAlone packets.tasks.length) =
      ⟨(Tasks.alone PacketPool.nextTask packets.shared .popping
          (List.replicate 3 (.none false))).1,
        packets.tasks ++ [(Tasks.alone PacketPool.nextTask packets.shared .popping
          (List.replicate 3 (.none false))).2]⟩ :=
    Tasks.final_last PacketPool.nextTask packets.shared packets.tasks .popping
      (List.replicate 3 (.none false))
  have balance := balanced.balance
  have limited := balanced.limited
  rw [countP_occupies_of_idle idle] at balance
  have room : (decide (0 < (contents packets.shared.queue).length) ||
      decide (packets.shared.allocated < packets.shared.allocationLimit)) =
      decide (packets.tasks.countP Place.inUse < packets.shared.allocationLimit) := by
    rw [← Bool.decide_or]
    exact decide_eq_decide.mpr (by omega)
  rw [last]
  refine ⟨by simp, ?_, ?_⟩
  · intro place member
    rcases List.mem_append.mp member with earlier | new
    · exact idle place earlier
    · rw [List.mem_singleton.mp new]
      exact settled
  · rw [List.countP_append, List.countP_singleton, gives, room]
    cases decide (packets.tasks.countP Place.inUse < packets.shared.allocationLimit) <;> rfl

/-- As many calls as are made one after another give a packet out, up to the limit. -/
theorem Packets.Balanced.acquires {packets : Packets queues}
    (balanced : packets.Balanced contents)
    (idle : ∀ place ∈ packets.tasks, place.idle = true) (calls : Nat) :
    (Mealy.final Packets.step packets (acquires packets.tasks.length calls)).tasks.countP
        Place.inUse =
      min (packets.tasks.countP Place.inUse + calls) packets.shared.allocationLimit := by
  have within : packets.tasks.countP Place.inUse ≤ packets.shared.allocationLimit := by
    have balance := balanced.balance
    have limited := balanced.limited
    rw [countP_occupies_of_idle idle] at balance
    omega
  induction calls generalizing packets with
  | zero =>
    rw [Packet.acquires, Mealy.final]
    omega
  | succ calls ih =>
    obtain ⟨grown, settled, count⟩ := balanced.acquire lawful idle
    obtain ⟨kept, same⟩ := balanced.run lawful (acquireAlone packets.tasks.length)
    have small : (Mealy.final Packets.step packets
        (acquireAlone packets.tasks.length)).tasks.countP Place.inUse =
        min (packets.tasks.countP Place.inUse + 1) packets.shared.allocationLimit := by
      by_cases fewer : packets.tasks.countP Place.inUse < packets.shared.allocationLimit
      · rw [decide_eq_true fewer, Bool.toNat_true] at count
        omega
      · rw [decide_eq_false fewer, Bool.toNat_false] at count
        omega
    have bounded : (Mealy.final Packets.step packets
        (acquireAlone packets.tasks.length)).tasks.countP Place.inUse ≤
        (Mealy.final Packets.step packets
          (acquireAlone packets.tasks.length)).shared.allocationLimit := by
      omega
    have later := ih kept settled bounded
    rw [Packet.acquires, Mealy.final_append, ← grown, later, same]
    omega

end Alone

/-- In a pool of any size and after any interleaving of calls and drops, every buffer is retained or
belongs to one task and is counted, and there are no more of them than allowed, so that no more
packets are in use. When no operation is in progress, the buffers are those retained and those in use;
when moreover all packets are dropped, further calls give out as many packets as the limit allows, and
no more. -/
theorem packet_budget (lawful : queues.Lawful contents capacity) (buffers : Nat)
    (run : List (Tasks.Action Unit Outside)) :
    let packets := Mealy.final Packets.step (Packets.new queues buffers) run
    packets.tasks.countP Place.inUse ≤ max buffers 1 ∧
      packets.shared.allocated =
        (contents packets.shared.queue).length + packets.tasks.countP Place.occupies ∧
      packets.shared.allocated ≤ max buffers 1 ∧
      ((∀ place ∈ packets.tasks, place.idle = true) →
        packets.tasks.countP Place.inUse + (contents packets.shared.queue).length =
          packets.shared.allocated ∧
        (packets.tasks.countP Place.inUse = 0 → ∀ calls,
          (Mealy.final Packets.step packets
            (acquires packets.tasks.length calls)).tasks.countP Place.inUse =
              min calls (max buffers 1))) := by
  intro packets
  obtain ⟨balanced, limit⟩ := (balanced_new lawful buffers).run lawful run
  have balance : packets.shared.allocated =
      (contents packets.shared.queue).length + packets.tasks.countP Place.occupies :=
    balanced.balance
  have limited : packets.shared.allocated ≤ max buffers 1 := balanced.limited.trans limit.le
  have used := countP_inUse_le packets.tasks
  refine ⟨by omega, balance, limited, fun idle => ⟨?_, fun unused calls => ?_⟩⟩
  · rw [balance, countP_occupies_of_idle idle, Nat.add_comm]
  · have given := Packets.Balanced.acquires lawful balanced idle calls
    rw [limit] at given
    refine given.trans ?_
    rw [unused, Nat.zero_add]
    rfl

/-- Three calls and two drops on a pool of two buffers, in turns: the last call comes while the first
packet is on its way back, and one of the others has been cut by its owner. -/
def sharedRun : List (Tasks.Action Unit Outside) :=
  [.begin (), .begin (), .step 0 (.none false), .step 1 (.none false), .step 0 (.none false),
    .step 1 (.none false), .step 0 (.none false), .step 1 (.none false), .step 1 (.none true),
    .step 1 (.none false), .begin (), .step 2 (.none false), .step 0 .drop, .step 2 (.none false),
    .step 2 (.none false), .step 1 (.write []), .step 1 .drop, .step 0 (.none false),
    .step 1 (.none false)]

/-- It ends with one buffer retained, and two further calls give both packets out. -/
theorem sharedRun_budget :
    let packets := Mealy.final Packets.step
      (Packets.new (ArrayQueue.bounded (List UInt8)) 2) sharedRun
    packets.shared.allocated = 1 ∧ packets.tasks = [.released, .released, .refused] ∧
      (Mealy.final Packets.step packets (acquires 3 5)).tasks.countP Place.inUse = 2 := by
  intro packets
  have budget := packet_budget (ArrayQueue.bounded_lawful (List UInt8)) 2 sharedRun
  have ended : packets.tasks = [.released, .released, .refused] := by decide +kernel
  refine ⟨by decide +kernel, ended, ?_⟩
  have idle : ∀ place ∈ packets.tasks, place.idle = true := by
    rw [ended]
    decide
  have unused : packets.tasks.countP Place.inUse = 0 := by
    rw [ended]
    decide
  have given := (budget.2.2.2 idle).2 unused 5
  rwa [ended] at given

end Focsq.Packet
