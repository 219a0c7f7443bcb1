import Focsq.Verif.RepairSteps
import Mathlib.Algebra.BigOperators.Group.Finset.Basic
import Mathlib.Data.List.Nodup
import Mathlib.Order.Interval.Finset.Nat

/-!
# Restarts happen once

However the steps of tasks in `apply_repair` are interleaved, the last sequence of a worker only
grows, each update of it leads to one restart, and no two updates write the same sequence. When
all tasks have ended, the last sequence is the largest one of all commands for the worker, and the
number of restarts is both that of the updates and what the tasks have counted.
-/

namespace Focsq.Repair

open Dispatcher Protocol

variable {notifies : Notify}

section Fields

/-- The last sequence of a worker. -/
def RepairState.lastSequence (state : RepairState notifies) (workerId : Nat) : UInt64 :=
  ((state.slot workerId).map RepairSlot.lastSequence).getD 0

section Field

variable {α : Type} (field : RepairSlot notifies → α) (zero : α)

/-- A field of a slot that is there. -/
theorem field_of_slot {state : RepairState notifies} {workerId : Nat}
    {slot : RepairSlot notifies} (present : state.slot workerId = some slot) :
    ((state.slot workerId).map field).getD zero = field slot := by
  rw [present]
  rfl

/-- The fields after a slot was written. -/
theorem field_put {state : RepairState notifies} {workerId : Nat} {old : RepairSlot notifies}
    (present : state.slot workerId = some old) (slot : RepairSlot notifies) (other : Nat) :
    (((state.put workerId slot).slot other).map field).getD zero =
      if other = workerId then field slot else ((state.slot other).map field).getD zero := by
  by_cases same : other = workerId
  · rw [if_pos same, same]
    exact field_of_slot field zero (slot_put present slot)
  · rw [if_neg same, slot_put_other same]

/-- The fields at first. -/
theorem field_new (desiredCount workerId : Nat) :
    (((RepairState.new notifies desiredCount).slot workerId).map field).getD
        (field (.new notifies)) = field (.new notifies) := by
  by_cases valid : 1 ≤ workerId ∧ workerId ≤ desiredCount
  · exact field_of_slot field _ (slot_new valid)
  · rw [slot_new_outside valid]
    rfl

end Field

/-- The last sequence of a slot that is there. -/
theorem lastSequence_of_slot {state : RepairState notifies} {workerId : Nat}
    {slot : RepairSlot notifies} (present : state.slot workerId = some slot) :
    state.lastSequence workerId = slot.lastSequence :=
  field_of_slot RepairSlot.lastSequence 0 present

/-- The last sequences after a slot was written. -/
theorem lastSequence_put {state : RepairState notifies} {workerId : Nat}
    {old : RepairSlot notifies} (present : state.slot workerId = some old)
    (slot : RepairSlot notifies) (other : Nat) :
    (state.put workerId slot).lastSequence other =
      if other = workerId then slot.lastSequence else state.lastSequence other :=
  field_put RepairSlot.lastSequence 0 present slot other

/-- The generation of a slot that is there. -/
theorem restartGeneration_of_slot {state : RepairState notifies} {workerId : Nat}
    {slot : RepairSlot notifies} (present : state.slot workerId = some slot) :
    state.restartGeneration workerId = slot.restartGeneration :=
  field_of_slot RepairSlot.restartGeneration 0 present

/-- The generations after a slot was written. -/
theorem restartGeneration_put {state : RepairState notifies} {workerId : Nat}
    {old : RepairSlot notifies} (present : state.slot workerId = some old)
    (slot : RepairSlot notifies) (other : Nat) :
    (state.put workerId slot).restartGeneration other =
      if other = workerId then slot.restartGeneration else state.restartGeneration other :=
  field_put RepairSlot.restartGeneration 0 present slot other

end Fields

section Effects

/-- The sequence that an event writes for a worker. -/
def RepairEvent.updates (workerId : Nat) : RepairEvent → List UInt64
  | .updated other _ sequence => if other = workerId then [sequence] else []
  | .restarted _ _ => []

/-- The sequence for which an event restarts a worker. -/
def RepairEvent.restarts (workerId : Nat) : RepairEvent → List UInt64
  | .updated _ _ _ => []
  | .restarted other sequence => if other = workerId then [sequence] else []

/-- Whether an event restarts some worker. -/
def RepairEvent.isRestart : RepairEvent → Bool
  | .updated _ _ _ => false
  | .restarted _ _ => true

/-- The sequence for which a task is to restart a worker. -/
def RepairTask.pending (workerId : Nat) : RepairTask notifies → List UInt64
  | .repair ⟨command, _, .exchanged other _, _⟩ =>
    if other = workerId then [command.sequence] else []
  | .repair ⟨command, _, .escalating other, _⟩ =>
    if other = workerId then [command.sequence] else []
  | .repair ⟨command, _, .restarting other, _⟩ =>
    if other = workerId then [command.sequence] else []
  | _ => []

/-- The restarts of a task, also one that it has not counted yet. -/
def RepairTask.tally : RepairTask notifies → Nat
  | .repair ⟨_, _, .notifying _, result⟩ => result.restarts + 1
  | .repair ⟨_, _, _, result⟩ => result.restarts
  | .wait _ => 0

/-- What a step changes is what its event says. -/
structure Effect (state : RepairState notifies) (task : RepairTask notifies)
    (after : RepairState notifies) (moved : RepairTask notifies) (events : List RepairEvent) :
    Prop where
  /-- The last sequence is the one that was written. -/
  last : ∀ workerId, after.lastSequence workerId =
    (events.flatMap (RepairEvent.updates workerId)).getLastD (state.lastSequence workerId)
  /-- What is written is larger. -/
  newer : ∀ workerId, ∀ sequence ∈ events.flatMap (RepairEvent.updates workerId),
    state.lastSequence workerId < sequence
  /-- At most one sequence is written. -/
  single : ∀ workerId, (events.flatMap (RepairEvent.updates workerId)).length ≤ 1
  /-- Restarts are counted. -/
  generation : ∀ workerId, after.restartGeneration workerId = state.restartGeneration workerId +
    UInt64.ofNat (events.flatMap (RepairEvent.restarts workerId)).length
  /-- A task is to restart a worker for what it has written, until it does. -/
  pending : ∀ workerId,
    (events.flatMap (RepairEvent.updates workerId) ++ task.pending workerId).Perm
      (events.flatMap (RepairEvent.restarts workerId) ++ moved.pending workerId)
  /-- It counts what it restarts. -/
  tally : moved.tally = task.tally + (events.filter RepairEvent.isRestart).length

/-- A step that writes no last sequence and no generation has no effect. -/
theorem Effect.quiet {state after : RepairState notifies} {task moved : RepairTask notifies}
    (last : ∀ workerId, after.lastSequence workerId = state.lastSequence workerId)
    (generation : ∀ workerId, after.restartGeneration workerId = state.restartGeneration workerId)
    (pending : ∀ workerId, moved.pending workerId = task.pending workerId)
    (tally : moved.tally = task.tally) : Effect state task after moved [] where
  last := last
  newer := fun _ _ member => absurd member List.not_mem_nil
  single := fun _ => Nat.zero_le _
  generation := fun workerId => (generation workerId).trans (UInt64.add_zero _).symm
  pending := fun workerId => by
    rw [pending workerId]
    exact List.Perm.refl _
  tally := tally

/-- Writing a slot without its last sequence and its generation. -/
theorem Effect.put {state : RepairState notifies} {workerId : Nat} {old slot : RepairSlot notifies}
    {task moved : RepairTask notifies} (present : state.slot workerId = some old)
    (last : slot.lastSequence = old.lastSequence)
    (generation : slot.restartGeneration = old.restartGeneration)
    (pending : ∀ workerId, moved.pending workerId = task.pending workerId)
    (tally : moved.tally = task.tally) : Effect state task (state.put workerId slot) moved [] := by
  refine Effect.quiet (fun other => ?_) (fun other => ?_) pending tally
  · rw [lastSequence_put present, last, ← lastSequence_of_slot present]
    exact ite_eq_right_iff.mpr fun same => same ▸ rfl
  · rw [restartGeneration_put present, generation, ← restartGeneration_of_slot present]
    exact ite_eq_right_iff.mpr fun same => same ▸ rfl

/-- The effect of a step of `apply_repair`. -/
theorem RepairCall.Moves.effect {state after : RepairState notifies} {call moved : RepairCall}
    {event : Option RepairEvent} (moves : call.Moves state after moved event) :
    Effect state (.repair call) after (.repair moved) event.toList := by
  obtain ⟨command, left, place, result⟩ := call
  cases moves with
  | stay => exact .quiet (fun _ => rfl) (fun _ => rfl) (fun _ => rfl) rfl
  | skip workerId left at_next first absent =>
    cases at_next
    exact .quiet (fun _ => rfl) (fun _ => rfl) (fun _ => rfl) rfl
  | read workerId left slot at_next first present =>
    cases at_next
    exact .quiet (fun _ => rfl) (fun _ => rfl) (fun _ => rfl) rfl
  | refuse workerId current at_holding old =>
    cases at_holding
    exact .quiet (fun _ => rfl) (fun _ => rfl) (fun _ => rfl) rfl
  | retry workerId current slot at_holding present =>
    cases at_holding
    exact .quiet (fun _ => rfl) (fun _ => rfl) (fun _ => rfl) rfl
  | escalates workerId previous at_exchanged =>
    cases at_exchanged
    exact .quiet (fun _ => rfl) (fun _ => rfl) (fun _ => rfl) rfl
  | resolved workerId previous at_exchanged =>
    cases at_exchanged
    exact .quiet (fun _ => rfl) (fun _ => rfl) (fun _ => rfl) rfl
  | reset workerId slot at_escalating present =>
    cases at_escalating
    exact .put present rfl rfl (fun _ => rfl) rfl
  | wake workerId slot at_notifying present =>
    cases at_notifying
    exact .put present rfl rfl (fun _ => rfl) rfl
  | exchange workerId slot at_holding newer present =>
    cases at_holding
    have before := lastSequence_of_slot present
    refine
      { last := fun other => ?_
        newer := fun other sequence member => ?_
        single := fun other => ?_
        generation := fun other => ?_
        pending := fun other => ?_
        tally := rfl }
    · rw [lastSequence_put present]
      by_cases same : other = workerId
      · simp [RepairEvent.updates, same]
      · simp [RepairEvent.updates, same, Ne.symm same]
    · by_cases same : workerId = other
      · simp only [Option.toList_some, List.flatMap_cons, List.flatMap_nil, RepairEvent.updates,
          same, ↓reduceIte, List.append_nil, List.mem_singleton] at member
        rw [member, ← same, before]
        exact newer
      · simp [RepairEvent.updates, same] at member
    · by_cases same : workerId = other
      · simp [RepairEvent.updates, same]
      · simp [RepairEvent.updates, same]
    · rw [restartGeneration_put present, ← restartGeneration_of_slot present]
      by_cases same : other = workerId
      · simp [RepairEvent.restarts, same]
      · simp [RepairEvent.restarts, same]
    · by_cases same : workerId = other
      · simp [RepairEvent.updates, RepairEvent.restarts, RepairTask.pending, same]
      · simp [RepairEvent.updates, RepairEvent.restarts, RepairTask.pending, same]
  | restart workerId slot at_restarting present =>
    cases at_restarting
    refine
      { last := fun other => ?_
        newer := fun other sequence member => ?_
        single := fun other => ?_
        generation := fun other => ?_
        pending := fun other => ?_
        tally := rfl }
    · rw [lastSequence_put present, ← lastSequence_of_slot present]
      exact ite_eq_right_iff.mpr fun same => same ▸ rfl
    · simp [RepairEvent.updates] at member
    · simp [RepairEvent.updates]
    · rw [restartGeneration_put present]
      by_cases same : other = workerId
      · simp [RepairEvent.restarts, same, restartGeneration_of_slot present]
      · simp [RepairEvent.restarts, same, Ne.symm same]
    · by_cases same : workerId = other
      · simp [RepairEvent.updates, RepairEvent.restarts, RepairTask.pending, same]
      · simp [RepairEvent.updates, RepairEvent.restarts, RepairTask.pending, same]

/-- The effect of a step of `changed`. -/
theorem ChangedCall.step_effect (state : RepairState notifies) (call : ChangedCall notifies) :
    Effect state (.wait call) (call.step state).1 (.wait (call.step state).2) [] := by
  cases present : state.slot call.workerId with
  | none =>
    simp only [ChangedCall.step, present]
    exact .quiet (fun _ => rfl) (fun _ => rfl) (fun _ => rfl) rfl
  | some slot =>
    cases place : call.place with
    | reading =>
      simp only [ChangedCall.step, present, place]
      by_cases changed : slot.restartGeneration ≠ call.observed
      · rw [if_pos changed]
        exact .quiet (fun _ => rfl) (fun _ => rfl) (fun _ => rfl) rfl
      · rw [if_neg changed]
        exact .quiet (fun _ => rfl) (fun _ => rfl) (fun _ => rfl) rfl
    | same =>
      simp only [ChangedCall.step, present, place]
      exact .quiet (fun _ => rfl) (fun _ => rfl) (fun _ => rfl) rfl
    | awaiting future =>
      rcases polled : notifies.poll slot.notify future with ⟨_ | _, notify, later⟩
      · simp only [ChangedCall.step, present, place, polled]
        exact .put present rfl rfl (fun _ => rfl) rfl
      · simp only [ChangedCall.step, present, place, polled]
        exact .put present rfl rfl (fun _ => rfl) rfl
    | returned =>
      simp only [ChangedCall.step, present, place]
      exact .quiet (fun _ => rfl) (fun _ => rfl) (fun _ => rfl) rfl

/-- The effect of a step of a task. -/
theorem RepairTask.next_effect (state : RepairState notifies) (task : RepairTask notifies)
    (input : Unit) :
    Effect state task (task.next state input).1 (task.next state input).2.1
      (task.next state input).2.2.toList := by
  cases task with
  | repair call => exact (call.step_moves state).effect
  | wait call => exact call.step_effect state

end Effects

section Counting

/-- The last number of two lists. -/
theorem getLastD_append {α : Type} (first second : List α) (start : α) :
    (first ++ second).getLastD start = second.getLastD (first.getLastD start) := by
  induction first generalizing start with
  | nil => rfl
  | cons number rest ih => rw [List.cons_append, List.getLastD_cons, List.getLastD_cons, ih]

/-- Of numbers that ascend, the last one is the largest. -/
theorem le_getLastD {numbers : List UInt64} {start number : UInt64}
    (ascending : (start :: numbers).Pairwise (· < ·)) (member : number ∈ start :: numbers) :
    number ≤ numbers.getLastD start := by
  have weakly : (start :: numbers).Pairwise (· ≤ ·) := ascending.imp UInt64.le_of_lt
  have most := weakly.rel_getLast member
  rw [List.getLast_eq_getLastD] at most
  exact most

/-- Numbers that ascend from zero are at least as large as they are many. -/
theorem length_le_getLast {numbers : List UInt64}
    (ascending : (0 :: numbers).Pairwise (· < ·)) :
    numbers.length ≤ (numbers.getLastD 0).toNat := by
  induction numbers using List.reverseRecOn with
  | nil => exact Nat.zero_le _
  | append_singleton numbers last ih =>
    have pairs := List.pairwise_append.mp (List.cons_append ▸ ascending)
    have shorter := ih pairs.1
    have below : numbers.getLastD 0 < last :=
      pairs.2.2 _ List.getLastD_mem_cons last (List.mem_singleton_self _)
    have smaller := UInt64.lt_iff_toNat_lt.mp below
    rw [List.length_append, List.length_singleton, List.getLastD_concat]
    omega

/-- Ascending numbers and a larger one ascend. -/
theorem ascending_append {numbers more : List UInt64}
    (ascending : (0 :: numbers).Pairwise (· < ·)) (single : more.length ≤ 1)
    (newer : ∀ number ∈ more, numbers.getLastD 0 < number) :
    (0 :: (numbers ++ more)).Pairwise (· < ·) := by
  rcases more with _ | ⟨last, _ | ⟨another, rest⟩⟩
  · rw [List.append_nil]
    exact ascending
  · have above := newer last (List.mem_singleton_self _)
    rw [← List.cons_append]
    refine List.pairwise_append.mpr ⟨ascending, List.pairwise_singleton _ _, ?_⟩
    intro number member other same
    rw [List.mem_singleton.mp same]
    exact UInt64.lt_of_le_of_lt (le_getLastD ascending member) above
  · simp at single

/-- A counter below its limit counts on. -/
theorem toNat_add_count {counter : UInt64} {count : Nat} (fits : counter.toNat + count < 2 ^ 64) :
    (counter + UInt64.ofNat count).toNat = counter.toNat + count := by
  rw [UInt64.toNat_add, UInt64.toNat_ofNat']
  omega

end Counting

section Record

/-- The sequences that were written for a worker. -/
def updatesOf (workerId : Nat) (events : List RepairEvent) : List UInt64 :=
  events.flatMap (RepairEvent.updates workerId)

/-- The sequences for which a worker was restarted. -/
def restartsOf (workerId : Nat) (events : List RepairEvent) : List UInt64 :=
  events.flatMap (RepairEvent.restarts workerId)

/-- The slots and the tasks fit the events there were. -/
structure Recorded (events : List RepairEvent) (pool : RepairPool notifies) : Prop where
  /-- Sequences ascend. -/
  ascending : ∀ workerId, (0 :: updatesOf workerId events).Pairwise (· < ·)
  /-- The slot has the last one. -/
  last : ∀ workerId, pool.shared.lastSequence workerId = (updatesOf workerId events).getLastD 0
  /-- For each of them the worker was restarted, or a task is to do that. -/
  pending : ∀ workerId, (updatesOf workerId events).Perm
    (restartsOf workerId events ++ pool.tasks.flatMap (RepairTask.pending workerId))
  /-- The slot counts restarts. -/
  generation : ∀ workerId,
    (pool.shared.restartGeneration workerId).toNat = (restartsOf workerId events).length
  /-- So do the tasks. -/
  tally : (pool.tasks.map RepairTask.tally).sum = (events.filter RepairEvent.isRestart).length

/-- A step with an effect keeps the record. -/
theorem Recorded.effect {past events : List RepairEvent} {state after : RepairState notifies}
    {front back : List (RepairTask notifies)} {task moved : RepairTask notifies}
    (recorded : Recorded past ⟨state, front ++ task :: back⟩)
    (effect : Effect state task after moved events) :
    Recorded (past ++ events) ⟨after, front ++ moved :: back⟩ := by
  have updates (workerId : Nat) : updatesOf workerId (past ++ events) =
      updatesOf workerId past ++ updatesOf workerId events := List.flatMap_append
  have restarts (workerId : Nat) : restartsOf workerId (past ++ events) =
      restartsOf workerId past ++ restartsOf workerId events := List.flatMap_append
  have ascending (workerId : Nat) :
      (0 :: updatesOf workerId (past ++ events)).Pairwise (· < ·) := by
    rw [updates]
    refine ascending_append (recorded.ascending workerId) (effect.single workerId) ?_
    rw [← recorded.last workerId]
    exact effect.newer workerId
  have pending (workerId : Nat) : (updatesOf workerId (past ++ events)).Perm
      (restartsOf workerId (past ++ events) ++
        (front ++ moved :: back).flatMap (RepairTask.pending workerId)) := by
    have before := recorded.pending workerId
    have here := effect.pending workerId
    rw [updates, restarts]
    simp only [List.flatMap_append, List.flatMap_cons] at before ⊢
    rw [List.perm_iff_count] at before here ⊢
    intro sequence
    have counted := before sequence
    have moves := here sequence
    simp only [List.count_append, updatesOf, restartsOf] at counted moves ⊢
    omega
  refine
    { ascending
      last := fun workerId => ?_
      pending
      generation := fun workerId => ?_
      tally := ?_ }
  · rw [updates, getLastD_append, effect.last workerId, recorded.last workerId]
    rfl
  · have many := length_le_getLast (ascending workerId)
    have fits := ((updatesOf workerId (past ++ events)).getLastD 0).toNat_lt
    have total := (pending workerId).length_eq
    have counted := recorded.generation workerId
    rw [List.length_append] at total
    rw [restarts, List.length_append] at total ⊢
    rw [effect.generation workerId, toNat_add_count, counted]
    · rfl
    · rw [counted]
      show (restartsOf workerId past).length + (restartsOf workerId events).length < 2 ^ 64
      omega
  · have before := recorded.tally
    have here := effect.tally
    simp only [List.map_append, List.map_cons, List.sum_append, List.sum_cons] at before ⊢
    rw [List.filter_append, List.length_append]
    omega

/-- A new pool has a record. -/
theorem recorded_new (desiredCount : Nat) :
    Recorded [] (RepairPool.new notifies desiredCount) where
  ascending := fun _ => List.pairwise_singleton _ _
  last := fun workerId => field_new RepairSlot.lastSequence desiredCount workerId
  pending := fun _ => List.Perm.refl _
  generation := fun workerId =>
    congrArg UInt64.toNat (field_new RepairSlot.restartGeneration desiredCount workerId)
  tally := rfl

/-- Whatever happens, there is a record. -/
theorem recorded_run (desiredCount : Nat) (actions : List (Tasks.Action RepairBegin Unit)) :
    Recorded
      ((Mealy.outputs RepairPool.step (.new notifies desiredCount) actions).flatMap Option.toList)
      (Mealy.final RepairPool.step (.new notifies desiredCount) actions) := by
  refine Tasks.invariant Recorded (fun past pool after event recorded moves => ?_) _ actions
    (recorded_new desiredCount)
  obtain ⟨state, tasks⟩ := pool
  cases moves with
  | stay => simpa using recorded
  | begin call =>
    have none (workerId : Nat) :
        (RepairTask.enter call : RepairTask notifies).pending workerId = [] := by
      cases call <;> rfl
    have zero : (RepairTask.enter call : RepairTask notifies).tally = 0 := by
      cases call <;> rfl
    have pending := recorded.pending
    have tally := recorded.tally
    exact
      { ascending := by simpa using recorded.ascending
        last := by simpa using recorded.last
        pending := by simpa [none] using pending
        generation := by simpa using recorded.generation
        tally := by simpa [zero] using tally }
  | step front task back input here =>
    cases here
    exact recorded.effect (task.next_effect state input)

end Record

section Largest

/-- The last sequence of a worker only grows. -/
theorem Effect.grows {state after : RepairState notifies} {task moved : RepairTask notifies}
    {events : List RepairEvent} (effect : Effect state task after moved events) (workerId : Nat) :
    state.lastSequence workerId ≤ after.lastSequence workerId := by
  rw [effect.last workerId]
  rcases List.mem_cons.mp List.getLastD_mem_cons with same | written
  · exact UInt64.le_of_eq same.symm
  · exact UInt64.le_of_lt (effect.newer workerId _ written)

/-- A command is about a worker. -/
def Names (command : StreamRepairCommand) (workerId : Nat) : Prop :=
  ∃ other ∈ command.workerIds, other.toNat = workerId

/-- What a task in `apply_repair` has done so far. -/
structure RepairCall.Covers (state : RepairState notifies) (call : RepairCall) : Prop where
  /-- What is left is part of the command. -/
  left : ∀ workerId ∈ call.left, workerId ∈ call.command.workerIds
  /-- It holds what was the last sequence of a worker of the command. -/
  holding : ∀ workerId current, call.place = .holding workerId current →
    Names call.command workerId ∧ current ≤ state.lastSequence workerId
  /-- Other workers of the command have a sequence that is not smaller. -/
  covered : ∀ workerId ∈ call.command.workerIds, (state.slot workerId.toNat).isSome →
    workerId ∈ call.left ∨ (∃ current, call.place = .holding workerId.toNat current) ∨
      call.command.sequence ≤ state.lastSequence workerId.toNat

/-- It stays done when the last sequences grow. -/
theorem RepairCall.Covers.mono {state after : RepairState notifies} {call : RepairCall}
    (covers : call.Covers state)
    (slots : ∀ workerId, (after.slot workerId).isSome → (state.slot workerId).isSome)
    (grows : ∀ workerId, state.lastSequence workerId ≤ after.lastSequence workerId) :
    call.Covers after where
  left := covers.left
  holding := fun workerId current place =>
    ⟨(covers.holding workerId current place).1,
      UInt64.le_trans (covers.holding workerId current place).2 (grows workerId)⟩
  covered := fun workerId member present => by
    rcases covers.covered workerId member (slots _ present) with left | holding | done
    · exact .inl left
    · exact .inr (.inl holding)
    · exact .inr (.inr (UInt64.le_trans done (grows _)))

/-- Writing a slot makes no other one. -/
theorem isSome_put {state : RepairState notifies} {workerId : Nat} {old : RepairSlot notifies}
    (present : state.slot workerId = some old) (slot : RepairSlot notifies) (other : Nat) :
    ((state.put workerId slot).slot other).isSome = (state.slot other).isSome := by
  by_cases same : other = workerId
  · rw [same, slot_put present, present]
    rfl
  · rw [slot_put_other same]

/-- A step of `apply_repair` makes no slot. -/
theorem RepairCall.Moves.isSome {state after : RepairState notifies} {call moved : RepairCall}
    {event : Option RepairEvent} (moves : call.Moves state after moved event) (workerId : Nat) :
    (after.slot workerId).isSome = (state.slot workerId).isSome := by
  cases moves with
  | stay | skip | read | refuse | retry | escalates | resolved => rfl
  | exchange _ _ _ _ present => exact isSome_put present _ _
  | reset _ _ _ present => exact isSome_put present _ _
  | restart _ _ _ present => exact isSome_put present _ _
  | wake _ _ _ present => exact isSome_put present _ _

/-- A call keeps its command. -/
theorem RepairCall.Moves.command {state after : RepairState notifies} {call moved : RepairCall}
    {event : Option RepairEvent} (moves : call.Moves state after moved event) :
    moved.command = call.command := by
  cases moves <;> rfl

/-- A step of a task does the next part of it. -/
theorem RepairCall.Moves.covers {state after : RepairState notifies} {call moved : RepairCall}
    {event : Option RepairEvent} (moves : call.Moves state after moved event)
    (covers : call.Covers state) : moved.Covers after := by
  have grows := moves.effect.grows
  have later := covers.mono (fun workerId present => moves.isSome workerId ▸ present) grows
  have command := moves.command
  -- Where no worker is held, nothing is to be shown of it, and only the place changes.
  have elsewhere (before : ∀ workerId current, call.place ≠ .holding workerId current)
      (now : ∀ workerId current, moved.place ≠ .holding workerId current)
      (same : moved.left = call.left) : moved.Covers after := by
    refine ⟨fun workerId member => ?_, fun workerId current place => absurd place (now _ _),
      fun workerId member present => ?_⟩
    · rw [command]
      exact later.left workerId (same ▸ member)
    · rw [command] at member ⊢
      rcases later.covered workerId member present with left | ⟨current, held⟩ | done
      · exact .inl (same ▸ left)
      · exact absurd held (before _ _)
      · exact .inr (.inr done)
  -- Where one is held, it is enough to look at it: it is held on, or done.
  have onward {workerId : Nat} {current : UInt64} (place : call.place = .holding workerId current)
      (same : moved.left = call.left)
      (holding : ∀ other held, moved.place = .holding other held →
        Names moved.command other ∧ held ≤ after.lastSequence other)
      (next : (∃ held, moved.place = .holding workerId held) ∨
        moved.command.sequence ≤ after.lastSequence workerId) : moved.Covers after := by
    refine ⟨fun other member => ?_, holding, fun other member present => ?_⟩
    · rw [command]
      exact later.left other (same ▸ member)
    · rcases later.covered other (command ▸ member) present with left | ⟨held, this⟩ | done
      · exact .inl (same ▸ left)
      · rw [place] at this
        cases this
        exact .inr next
      · exact .inr (.inr (command ▸ done))
  cases moves with
  | stay => exact later
  | skip workerId left place first absent =>
    refine ⟨fun other member => later.left other (first ▸ List.mem_cons_of_mem _ member),
      later.holding, fun other member present => ?_⟩
    rcases later.covered other member present with remains | held | done
    · rcases List.mem_cons.mp (first ▸ remains) with rfl | after
      · rw [absent] at present
        cases present
      · exact .inl after
    · exact .inr (.inl held)
    · exact .inr (.inr done)
  | read workerId left slot place first present =>
    refine ⟨fun other member => later.left other (first ▸ List.mem_cons_of_mem _ member),
      fun other current held => ?_, fun other member there => ?_⟩
    · cases held
      refine ⟨⟨workerId, later.left workerId (first ▸ List.mem_cons_self), rfl⟩, ?_⟩
      rw [lastSequence_of_slot present]
      exact UInt64.le_refl _
    · rcases later.covered other member there with remains | ⟨current, held⟩ | done
      · rcases List.mem_cons.mp (first ▸ remains) with rfl | after
        · exact .inr (.inl ⟨_, rfl⟩)
        · exact .inl after
      · rw [place] at held
        cases held
      · exact .inr (.inr done)
  | refuse workerId current place old =>
    exact onward place rfl (fun _ _ wrong => by cases wrong)
      (.inr (UInt64.le_trans old (covers.holding _ current place).2))
  | exchange workerId slot place newer present =>
    refine onward place rfl (fun _ _ wrong => by cases wrong) (.inr ?_)
    rw [lastSequence_put present, if_pos rfl]
    exact UInt64.le_refl _
  | retry workerId current slot place present =>
    refine onward place rfl (fun other held same => ?_) (.inl ⟨_, rfl⟩)
    cases same
    refine ⟨(covers.holding workerId current place).1, ?_⟩
    rw [lastSequence_of_slot present]
    exact UInt64.le_refl _
  | escalates workerId previous place =>
    exact elsewhere (fun _ _ held => by rw [place] at held; cases held)
      (fun _ _ held => by cases held) rfl
  | resolved workerId previous place =>
    exact elsewhere (fun _ _ held => by rw [place] at held; cases held)
      (fun _ _ held => by cases held) rfl
  | reset workerId slot place present =>
    exact elsewhere (fun _ _ held => by rw [place] at held; cases held)
      (fun _ _ held => by cases held) rfl
  | restart workerId slot place present =>
    exact elsewhere (fun _ _ held => by rw [place] at held; cases held)
      (fun _ _ held => by cases held) rfl
  | wake workerId slot place present =>
    exact elsewhere (fun _ _ held => by rw [place] at held; cases held)
      (fun _ _ held => by cases held) rfl

/-- What a step of `changed` leaves alone. -/
theorem ChangedCall.step_keeps (state : RepairState notifies) (call : ChangedCall notifies)
    (workerId : Nat) :
    ((call.step state).1.slot workerId).isSome = (state.slot workerId).isSome ∧
      (call.step state).1.lastSequence workerId = state.lastSequence workerId := by
  refine ⟨?_, (call.step_effect state).last workerId⟩
  cases present : state.slot call.workerId with
  | none => simp only [ChangedCall.step, present]
  | some slot =>
    cases place : call.place with
    | reading =>
      simp only [ChangedCall.step, present, place]
      by_cases changed : slot.restartGeneration ≠ call.observed
      · rw [if_pos changed]
      · rw [if_neg changed]
    | same => simp only [ChangedCall.step, present, place]
    | awaiting future =>
      rcases polled : notifies.poll slot.notify future with ⟨_ | _, notify, later⟩
      · simp only [ChangedCall.step, present, place, polled]
        exact isSome_put present _ _
      · simp only [ChangedCall.step, present, place, polled]
        exact isSome_put present _ _
    | returned => simp only [ChangedCall.step, present, place]

/-- The slots have the largest sequences so far, and only workers with a slot were restarted. -/
structure Settled (desiredCount : Nat) (events : List RepairEvent) (pool : RepairPool notifies) :
    Prop where
  /-- There is a slot for each worker. -/
  slots : ∀ workerId,
    (pool.shared.slot workerId).isSome ↔ 1 ≤ workerId ∧ workerId ≤ desiredCount
  /-- No other worker was restarted. -/
  valid : ∀ workerId sequence, RepairEvent.restarted workerId sequence ∈ events →
    1 ≤ workerId ∧ workerId ≤ desiredCount
  /-- What has been done of a command shows in the slots. -/
  covers : ∀ call, RepairTask.repair call ∈ pool.tasks → call.Covers pool.shared
  /-- What is in the slots is from a command. -/
  origin : ∀ workerId, pool.shared.lastSequence workerId = 0 ∨
    ∃ call, RepairTask.repair call ∈ pool.tasks ∧ Names call.command workerId ∧
      call.command.sequence = pool.shared.lastSequence workerId

/-- A step of `apply_repair` keeps that. -/
theorem Settled.repair {desiredCount : Nat} {events : List RepairEvent}
    {state after : RepairState notifies} {front back : List (RepairTask notifies)}
    {call moved : RepairCall} {event : Option RepairEvent}
    (settled : Settled desiredCount events ⟨state, front ++ .repair call :: back⟩)
    (moves : call.Moves state after moved event) :
    Settled desiredCount (events ++ event.toList) ⟨after, front ++ .repair moved :: back⟩ := by
  have grows := moves.effect.grows
  have here : RepairTask.repair call ∈ front ++ .repair call :: back :=
    List.mem_append_right _ List.mem_cons_self
  have now : (RepairTask.repair moved : RepairTask notifies) ∈ front ++ .repair moved :: back :=
    List.mem_append_right _ List.mem_cons_self
  refine
    { slots := fun workerId => (moves.isSome workerId).symm ▸ settled.slots workerId
      valid := fun workerId sequence member => ?_
      covers := fun other member => ?_
      origin := fun workerId => ?_ }
  · rcases List.mem_append.mp member with old | new
    · exact settled.valid workerId sequence old
    · cases moves with
      | restart worker slot place present =>
        simp only [Option.toList_some, List.mem_singleton, RepairEvent.restarted.injEq] at new
        rw [new.1]
        exact (settled.slots worker).mp (by show (state.slot worker).isSome; rw [present]; rfl)
      | _ => simp at new
  · rcases Tasks.mem_replaced member with same | old
    · cases same
      exact moves.covers (settled.covers call here)
    · exact (settled.covers other old).mono
        (fun workerId present => moves.isSome workerId ▸ present) grows
  · -- A command that has not been exchanged for another one is still there.
    have kept (unchanged : after.lastSequence workerId = state.lastSequence workerId) :
        after.lastSequence workerId = 0 ∨
          ∃ other, RepairTask.repair other ∈ front ++ .repair moved :: back ∧
            Names other.command workerId ∧
            other.command.sequence = after.lastSequence workerId := by
      rw [unchanged]
      rcases settled.origin workerId with zero | ⟨other, member, names, same⟩
      · exact .inl zero
      · rcases Tasks.mem_replaced member with replaced | old
        · cases replaced
          exact .inr ⟨moved, now, moves.command.symm ▸ names, moves.command.symm ▸ same⟩
        · exact .inr ⟨other, old, names, same⟩
    cases moves with
    | exchange worker slot place newer present =>
      by_cases same : workerId = worker
      · have names := ((settled.covers call here).holding worker _ place).1
        refine .inr ⟨_, now, same ▸ names, ?_⟩
        show call.command.sequence = RepairState.lastSequence _ workerId
        rw [lastSequence_put present, if_pos same]
      · refine kept ?_
        rw [lastSequence_put present, if_neg same]
    | reset worker slot place present =>
      refine kept ?_
      rw [lastSequence_put present, ← lastSequence_of_slot present]
      exact ite_eq_right_iff.mpr fun same => same ▸ rfl
    | restart worker slot place present =>
      refine kept ?_
      rw [lastSequence_put present, ← lastSequence_of_slot present]
      exact ite_eq_right_iff.mpr fun same => same ▸ rfl
    | wake worker slot place present =>
      refine kept ?_
      rw [lastSequence_put present, ← lastSequence_of_slot present]
      exact ite_eq_right_iff.mpr fun same => same ▸ rfl
    | stay | skip | read | refuse | retry | escalates | resolved => exact kept rfl

/-- A step of `changed` keeps that. -/
theorem Settled.wait {desiredCount : Nat} {events : List RepairEvent}
    {state : RepairState notifies} {front back : List (RepairTask notifies)}
    {call : ChangedCall notifies}
    (settled : Settled desiredCount events ⟨state, front ++ .wait call :: back⟩) :
    Settled desiredCount events
      ⟨(call.step state).1, front ++ .wait (call.step state).2 :: back⟩ where
  slots := fun workerId => (call.step_keeps state workerId).1.symm ▸ settled.slots workerId
  valid := settled.valid
  covers := fun other member => by
    rcases Tasks.mem_replaced member with same | old
    · cases same
    · refine (settled.covers other old).mono
        (fun workerId present => (call.step_keeps state workerId).1 ▸ present) fun workerId => ?_
      rw [(call.step_keeps state workerId).2]
      exact UInt64.le_refl _
  origin := fun workerId => by
    show (call.step state).1.lastSequence workerId = 0 ∨ ∃ other, _ ∧ _ ∧
      _ = (call.step state).1.lastSequence workerId
    rw [(call.step_keeps state workerId).2]
    rcases settled.origin workerId with zero | ⟨other, member, names, same⟩
    · exact .inl zero
    · rcases Tasks.mem_replaced member with replaced | old
      · cases replaced
      · exact .inr ⟨other, old, names, same⟩

/-- The slots of a new pool. -/
theorem settled_new (desiredCount : Nat) :
    Settled desiredCount [] (RepairPool.new notifies desiredCount) where
  slots := fun workerId => by
    constructor
    · intro present
      by_contra outside
      have absent : ((RepairState.new notifies desiredCount).slot workerId).isSome = true := present
      rw [slot_new_outside outside] at absent
      cases absent
    · intro valid
      show ((RepairState.new notifies desiredCount).slot workerId).isSome = true
      rw [slot_new valid]
      rfl
  valid := fun _ _ member => absurd member List.not_mem_nil
  covers := fun _ member => absurd member List.not_mem_nil
  origin := fun workerId => .inl ((recorded_new desiredCount).last workerId)

/-- It holds whatever happens. -/
theorem settled_run (desiredCount : Nat) (actions : List (Tasks.Action RepairBegin Unit)) :
    Settled desiredCount
      ((Mealy.outputs RepairPool.step (.new notifies desiredCount) actions).flatMap Option.toList)
      (Mealy.final RepairPool.step (.new notifies desiredCount) actions) := by
  refine Tasks.invariant (Settled desiredCount) (fun past pool after event settled moves => ?_) _
    actions (settled_new desiredCount)
  obtain ⟨state, tasks⟩ := pool
  cases moves with
  | stay => simpa using settled
  | begin call =>
    rw [Option.toList_none, List.append_nil]
    refine
      { slots := settled.slots
        valid := settled.valid
        covers := fun other member => ?_
        origin := fun workerId => ?_ }
    · rcases List.mem_append.mp member with old | new
      · exact settled.covers other old
      · cases call with
        | applyRepair command =>
          simp only [RepairTask.enter, List.mem_singleton, RepairTask.repair.injEq] at new
          rw [new]
          exact ⟨fun _ member => member, fun _ _ place => (by cases place),
            fun _ member _ => .inl member⟩
        | changed workerId observed => simp [RepairTask.enter] at new
    · rcases settled.origin workerId with zero | ⟨other, member, names, same⟩
      · exact .inl zero
      · exact .inr ⟨other, List.mem_append_left _ member, names, same⟩
  | step front task back input here =>
    cases here
    cases task with
    | repair call => exact settled.repair (call.step_moves state)
    | wait call =>
      rw [RepairTask.next, Option.toList_none, List.append_nil]
      exact settled.wait

end Largest

section Ended

/-- A task that applies a command has ended, or it waits. -/
def RepairTask.ended : RepairTask notifies → Bool
  | .repair call => call.left.isEmpty && call.place == .next
  | .wait _ => true

/-- All tasks that apply commands have ended. -/
def AllEnded (pool : RepairPool notifies) : Prop := ∀ task ∈ pool.tasks, task.ended = true

instance decidableAllEnded (pool : RepairPool notifies) : Decidable (AllEnded pool) := by
  unfold AllEnded
  infer_instance

/-- A task that has ended is done with all workers. -/
theorem AllEnded.call {pool : RepairPool notifies} (ended : AllEnded pool) {call : RepairCall}
    (member : RepairTask.repair call ∈ pool.tasks) : call.left = [] ∧ call.place = .next := by
  have both : (call.left.isEmpty && call.place == .next) = true := ended _ member
  rw [Bool.and_eq_true, List.isEmpty_iff, beq_iff_eq] at both
  exact both

/-- What a task began with. -/
def RepairTask.origin : RepairTask notifies → RepairBegin
  | .repair call => .applyRepair call.command
  | .wait call => .changed call.workerId call.observed

/-- A step of `changed` is about the same worker and the same generation. -/
theorem ChangedCall.step_same (state : RepairState notifies) (call : ChangedCall notifies) :
    (call.step state).2.workerId = call.workerId ∧ (call.step state).2.observed = call.observed := by
  cases present : state.slot call.workerId with
  | none => simp only [ChangedCall.step, present, and_self]
  | some slot =>
    cases place : call.place with
    | reading =>
      simp only [ChangedCall.step, present, place]
      by_cases changed : slot.restartGeneration ≠ call.observed
      · rw [if_pos changed]
        exact ⟨rfl, rfl⟩
      · rw [if_neg changed]
        exact ⟨rfl, rfl⟩
    | same => simp only [ChangedCall.step, present, place, and_self]
    | awaiting future =>
      rcases polled : notifies.poll slot.notify future with ⟨_ | _, notify, later⟩
      · simp only [ChangedCall.step, present, place, polled, and_self]
      · simp only [ChangedCall.step, present, place, polled, and_self]
    | returned => simp only [ChangedCall.step, present, place, and_self]

/-- There is a task for each command that began to be applied. -/
theorem mem_tasks_iff (desiredCount : Nat) (actions : List (Tasks.Action RepairBegin Unit))
    (command : StreamRepairCommand) :
    (∃ call, RepairTask.repair call ∈
        (Mealy.final RepairPool.step (.new notifies desiredCount) actions).tasks ∧
        call.command = command) ↔
      Tasks.Action.begin (.applyRepair command) ∈ actions := by
  have all : ((Mealy.final RepairPool.step (.new notifies desiredCount) actions).tasks).map
      RepairTask.origin = actions.filterMap Tasks.Action.begun := by
    refine Tasks.map_origin RepairTask.origin (fun call => ?_) (fun state task input => ?_) _ _
    · cases call <;> rfl
    · cases task with
      | repair call => exact congrArg RepairBegin.applyRepair (call.step_moves state).command
      | wait call =>
        have same := call.step_same state
        show RepairBegin.changed _ _ = RepairBegin.changed _ _
        rw [same.1, same.2]
  have began : (.applyRepair command) ∈ actions.filterMap Tasks.Action.begun ↔
      Tasks.Action.begin (.applyRepair command) ∈ actions := by
    rw [List.mem_filterMap]
    constructor
    · rintro ⟨action, member, same⟩
      cases action with
      | begin call =>
        cases same
        exact member
      | step index input => cases same
    · exact fun member => ⟨_, member, rfl⟩
  rw [← began, ← all, List.mem_map]
  constructor
  · rintro ⟨call, member, rfl⟩
    exact ⟨_, member, rfl⟩
  · rintro ⟨task, member, same⟩
    cases task with
    | repair call =>
      cases same
      exact ⟨call, member, rfl⟩
    | wait call => cases same

/-- Ended tasks are to restart no worker. -/
theorem AllEnded.pending {pool : RepairPool notifies} (ended : AllEnded pool) (workerId : Nat) :
    pool.tasks.flatMap (RepairTask.pending workerId) = [] := by
  refine List.flatMap_eq_nil_iff.mpr fun task member => ?_
  cases task with
  | repair call =>
    obtain ⟨command, left, place, result⟩ := call
    have last : place = .next := (ended.call member).2
    rw [last]
    rfl
  | wait call => rfl

/-- The restarts that a task has counted. -/
def RepairTask.reported : RepairTask notifies → Nat
  | .repair call => call.result.restarts
  | .wait _ => 0

/-- Ended tasks have counted all their restarts. -/
theorem AllEnded.tally {pool : RepairPool notifies} (ended : AllEnded pool) :
    pool.tasks.map RepairTask.tally = pool.tasks.map RepairTask.reported := by
  refine List.map_congr_left fun task member => ?_
  cases task with
  | repair call =>
    obtain ⟨command, left, place, result⟩ := call
    have last : place = .next := (ended.call member).2
    rw [last]
    rfl
  | wait call => rfl

/-- The restarts of all workers are all restarts. -/
theorem sum_restartsOf {desiredCount : Nat} {events : List RepairEvent}
    (valid : ∀ workerId sequence, RepairEvent.restarted workerId sequence ∈ events →
      1 ≤ workerId ∧ workerId ≤ desiredCount) :
    ∑ workerId ∈ Finset.Icc 1 desiredCount, (restartsOf workerId events).length =
      (events.filter RepairEvent.isRestart).length := by
  induction events with
  | nil => simp [restartsOf]
  | cons event rest ih =>
    have later := ih fun workerId sequence member =>
      valid workerId sequence (List.mem_cons_of_mem _ member)
    have split (workerId : Nat) : restartsOf workerId (event :: rest) =
        event.restarts workerId ++ restartsOf workerId rest := List.flatMap_cons
    simp only [split, List.length_append, Finset.sum_add_distrib]
    rw [later]
    cases event with
    | updated workerId previous sequence =>
      simp [RepairEvent.restarts, RepairEvent.isRestart]
    | restarted workerId sequence =>
      have inside : workerId ∈ Finset.Icc 1 desiredCount :=
        Finset.mem_Icc.mpr (valid workerId sequence List.mem_cons_self)
      have one : ∑ other ∈ Finset.Icc 1 desiredCount,
          ((RepairEvent.restarted workerId sequence).restarts other).length = 1 := by
        rw [Finset.sum_eq_single workerId]
        · simp [RepairEvent.restarts]
        · intro other _ differ
          simp [RepairEvent.restarts, Ne.symm differ]
        · exact fun outside => absurd inside outside
      rw [one, List.filter_cons_of_pos (by rfl), List.length_cons]
      omega

/-- A pair of a worker and a sequence is restarted as often as the sequence is there. -/
theorem count_restarted (workerId : Nat) (sequence : UInt64) (events : List RepairEvent) :
    events.count (.restarted workerId sequence) = (restartsOf workerId events).count sequence := by
  induction events with
  | nil => rfl
  | cons event rest ih =>
    have split : restartsOf workerId (event :: rest) =
        event.restarts workerId ++ restartsOf workerId rest := List.flatMap_cons
    rw [split, List.count_append, ← ih, List.count_cons]
    cases event with
    | updated other previous last => simp [RepairEvent.restarts]
    | restarted other last =>
      by_cases same : other = workerId
      · by_cases equal : last = sequence
        · simp [RepairEvent.restarts, same, equal, Nat.add_comm]
        · simp [RepairEvent.restarts, same, equal]
      · simp [RepairEvent.restarts, same]

/-- Ascending sequences are written once. -/
theorem Recorded.nodup {events : List RepairEvent} {pool : RepairPool notifies}
    (recorded : Recorded events pool) (workerId : Nat) : (restartsOf workerId events).Nodup := by
  have all : (updatesOf workerId events).Nodup :=
    (List.pairwise_cons.mp (recorded.ascending workerId)).2.imp fun less => UInt64.ne_of_lt less
  exact (List.nodup_append.mp ((recorded.pending workerId).nodup_iff.mp all)).1

/-- An update exchanges the last sequence of its worker for a larger one. -/
theorem RepairCall.Moves.updated {state after : RepairState notifies} {call moved : RepairCall}
    {workerId : Nat} {previous sequence : UInt64}
    (moves : call.Moves state after moved (some (.updated workerId previous sequence))) :
    state.lastSequence workerId = previous ∧ after.lastSequence workerId = sequence ∧
      previous < sequence := by
  cases moves with
  | exchange workerId slot place newer present =>
    refine ⟨lastSequence_of_slot present, ?_, newer⟩
    rw [lastSequence_put present, if_pos rfl]

/-- Only an update writes the last sequence of a worker, and makes it larger. -/
theorem step_updates (pool : RepairPool notifies) (action : Tasks.Action RepairBegin Unit)
    (workerId : Nat) :
    (∀ previous sequence, (pool.step action).2 = some (.updated workerId previous sequence) →
      pool.shared.lastSequence workerId = previous ∧
        (pool.step action).1.shared.lastSequence workerId = sequence ∧ previous < sequence) ∧
      ((∀ previous sequence, (pool.step action).2 ≠ some (.updated workerId previous sequence)) →
        (pool.step action).1.shared.lastSequence workerId =
          pool.shared.lastSequence workerId) := by
  have moves : pool.Moves RepairTask.enter RepairTask.next (pool.step action).1
      (pool.step action).2 := Tasks.step_moves pool action
  generalize (pool.step action).1 = after at moves ⊢
  generalize (pool.step action).2 = event at moves ⊢
  cases moves with
  | stay => exact ⟨fun _ _ wrong => (by cases wrong), fun _ => rfl⟩
  | begin call => exact ⟨fun _ _ wrong => (by cases wrong), fun _ => rfl⟩
  | step front task back input here =>
    refine ⟨fun previous sequence updates => ?_, fun never => ?_⟩
    · cases task with
      | repair call =>
        have moves := call.step_moves pool.shared
        have event : (call.step pool.shared).2.2 = some (.updated workerId previous sequence) :=
          updates
        rw [event] at moves
        exact moves.updated
      | wait call => cases updates
    · have last := (task.next_effect pool.shared input).last workerId
      have none : (task.next pool.shared input).2.2.toList.flatMap
          (RepairEvent.updates workerId) = [] := by
        refine List.flatMap_eq_nil_iff.mpr fun event member => ?_
        cases event with
        | updated other previous sequence =>
          have differ : other ≠ workerId := by
            rintro rfl
            exact never previous sequence (Option.mem_toList.mp member)
          simp [RepairEvent.updates, differ]
        | restarted other sequence => rfl
      rw [none] at last
      exact last

/-- However the tasks are interleaved: a worker is restarted at most once for a sequence; every
update makes the last sequence larger, and nothing else changes it; and when all tasks have ended,
the last sequence is the largest one of all commands for the worker, and the generation is the
number of its updates, and in total what the tasks report. -/
theorem restarts_once (desiredCount : Nat) (actions : List (Tasks.Action RepairBegin Unit)) :
    (∀ workerId sequence,
      ((Mealy.outputs RepairPool.step (.new notifies desiredCount) actions).flatMap
        Option.toList).count (.restarted workerId sequence) ≤ 1) ∧
    Mealy.Along RepairPool.step
      (fun pool action => ∀ workerId,
        (∀ previous sequence, (pool.step action).2 = some (.updated workerId previous sequence) →
          pool.shared.lastSequence workerId = previous ∧
            (pool.step action).1.shared.lastSequence workerId = sequence ∧ previous < sequence) ∧
        ((∀ previous sequence,
            (pool.step action).2 ≠ some (.updated workerId previous sequence)) →
          (pool.step action).1.shared.lastSequence workerId =
            pool.shared.lastSequence workerId))
      (.new notifies desiredCount) actions ∧
    (AllEnded (Mealy.final RepairPool.step (.new notifies desiredCount) actions) →
      (∀ workerId, 1 ≤ workerId → workerId ≤ desiredCount →
        (∀ command, Tasks.Action.begin (.applyRepair command) ∈ actions → Names command workerId →
          command.sequence ≤ (Mealy.final RepairPool.step (.new notifies desiredCount)
            actions).shared.lastSequence workerId) ∧
        ((Mealy.final RepairPool.step (.new notifies desiredCount)
            actions).shared.lastSequence workerId = 0 ∨
          ∃ command, Tasks.Action.begin (.applyRepair command) ∈ actions ∧
            Names command workerId ∧ command.sequence = (Mealy.final RepairPool.step
              (.new notifies desiredCount) actions).shared.lastSequence workerId)) ∧
      (∀ workerId, ((Mealy.final RepairPool.step (.new notifies desiredCount)
          actions).shared.restartGeneration workerId).toNat =
        (updatesOf workerId ((Mealy.outputs RepairPool.step (.new notifies desiredCount)
          actions).flatMap Option.toList)).length) ∧
      ∑ workerId ∈ Finset.Icc 1 desiredCount, ((Mealy.final RepairPool.step
          (.new notifies desiredCount) actions).shared.restartGeneration workerId).toNat =
        ((Mealy.final RepairPool.step (.new notifies desiredCount)
          actions).tasks.map RepairTask.reported).sum) := by
  have recorded := @recorded_run notifies desiredCount actions
  have settled := @settled_run notifies desiredCount actions
  have origin := @mem_tasks_iff notifies desiredCount actions
  refine ⟨fun workerId sequence => ?_, ?_, fun ended => ⟨fun workerId first last => ⟨?_, ?_⟩, ?_, ?_⟩⟩
  · rw [count_restarted]
    exact List.nodup_iff_count_le_one.mp (recorded.nodup workerId) sequence
  · exact Mealy.along_of_forall (fun pool action => step_updates pool action) _ actions
  · rintro command began ⟨other, member, rfl⟩
    obtain ⟨call, there, rfl⟩ := (origin command).mpr began
    have present := (settled.slots other.toNat).mpr ⟨first, last⟩
    rcases (settled.covers call there).covered other member present with left | ⟨held, place⟩ | done
    · rw [(ended.call there).1] at left
      exact absurd left List.not_mem_nil
    · rw [(ended.call there).2] at place
      cases place
    · exact done
  · rcases settled.origin workerId with zero | ⟨call, there, names, same⟩
    · exact .inl zero
    · exact .inr ⟨call.command, (origin call.command).mp ⟨call, there, rfl⟩, names, same⟩
  · intro workerId
    have all := (recorded.pending workerId).length_eq
    rw [ended.pending, List.append_nil] at all
    rw [recorded.generation, all]
  · rw [← ended.tally, recorded.tally, ← sum_restartsOf settled.valid]
    exact Finset.sum_congr rfl fun workerId _ => recorded.generation workerId

/-- Two commands for the first worker, the second of which names it twice. The second task reads
what the first one then exchanges. -/
def crossedRun : List (Tasks.Action RepairBegin Unit) :=
  [.begin (.applyRepair ⟨1, 9, [1]⟩), .begin (.applyRepair ⟨2, 9, [1, 1]⟩), .step 0 (), .step 1 (),
    .step 0 (), .step 1 (), .step 1 (), .step 0 (), .step 1 (), .step 1 (), .step 0 (), .step 1 (),
    .step 1 (), .step 1 (), .step 1 (), .step 0 ()]

/-- Both tasks end, and the worker is restarted once for each of them. -/
theorem crossedRun_once :
    ((Mealy.final RepairPool.step (.new Notify.counted 9)
        crossedRun).shared.restartGeneration 1).toNat =
      (updatesOf 1 ((Mealy.outputs RepairPool.step (.new Notify.counted 9)
        crossedRun).flatMap Option.toList)).length ∧
    updatesOf 1 ((Mealy.outputs RepairPool.step (.new Notify.counted 9)
        crossedRun).flatMap Option.toList) = [1, 2] :=
  ⟨((restarts_once 9 crossedRun).2.2 (by decide +kernel)).2.1 1, by decide +kernel⟩

end Ended

end Focsq.Repair
