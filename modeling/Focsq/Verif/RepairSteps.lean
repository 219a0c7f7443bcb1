import Focsq.Verif.Repair
import Mathlib.Logic.Relation

/-!
# Steps of repairs

`RepairCall.Moves` is what a step of `apply_repair` can do. A task in `apply_repair` that is not
interrupted does what `apply_repair` does.
-/

namespace Focsq.Repair

open Dispatcher Protocol

variable {notifies : Notify}

/-- What a step of a call can do. -/
inductive RepairCall.Moves (state : RepairState notifies) (call : RepairCall) :
    RepairState notifies → RepairCall → Option RepairEvent → Prop where
  /-- The call has ended, or the slot is not there. -/
  | stay : Moves state call state call none
  /-- A worker without a slot is left out. -/
  | skip (workerId : UInt16) (left : List UInt16) (place : call.place = .next)
      (first : call.left = workerId :: left) (absent : state.slot workerId.toNat = none) :
    Moves state call state { call with left } none
  /-- The last sequence is read. -/
  | read (workerId : UInt16) (left : List UInt16) (slot : RepairSlot notifies)
      (place : call.place = .next) (first : call.left = workerId :: left)
      (present : state.slot workerId.toNat = some slot) :
    Moves state call state
      { call with left, place := .holding workerId.toNat slot.lastSequence } none
  /-- The command is not newer. -/
  | refuse (workerId : Nat) (current : UInt64) (place : call.place = .holding workerId current)
      (old : call.command.sequence ≤ current) :
    Moves state call state { call with place := .next } none
  /-- The last sequence is still there and is exchanged. -/
  | exchange (workerId : Nat) (slot : RepairSlot notifies)
      (place : call.place = .holding workerId slot.lastSequence)
      (newer : slot.lastSequence < call.command.sequence)
      (present : state.slot workerId = some slot) :
    Moves state call (state.put workerId { slot with lastSequence := call.command.sequence })
      { call with place := .exchanged workerId slot.lastSequence }
      (some (.updated workerId slot.lastSequence call.command.sequence))
  /-- Another one is there, and is read instead. -/
  | retry (workerId : Nat) (current : UInt64) (slot : RepairSlot notifies)
      (place : call.place = .holding workerId current) (present : state.slot workerId = some slot) :
    Moves state call state { call with place := .holding workerId slot.lastSequence } none
  /-- The one before was not followed. -/
  | escalates (workerId : Nat) (previous : UInt64)
      (place : call.place = .exchanged workerId previous) :
    Moves state call state { call with place := .escalating workerId } none
  /-- The one before was followed. -/
  | resolved (workerId : Nat) (previous : UInt64)
      (place : call.place = .exchanged workerId previous) :
    Moves state call state { call with place := .restarting workerId } none
  /-- New credentials are asked for. -/
  | reset (workerId : Nat) (slot : RepairSlot notifies) (place : call.place = .escalating workerId)
      (present : state.slot workerId = some slot) :
    Moves state call
      (state.put workerId { slot with credentialGeneration := slot.credentialGeneration + 1 })
      { call with
        place := .restarting workerId
        result := { call.result with credentialResets := call.result.credentialResets + 1 } }
      none
  /-- A restart is asked for. -/
  | restart (workerId : Nat) (slot : RepairSlot notifies)
      (place : call.place = .restarting workerId) (present : state.slot workerId = some slot) :
    Moves state call
      (state.put workerId { slot with restartGeneration := slot.restartGeneration + 1 })
      { call with place := .notifying workerId }
      (some (.restarted workerId call.command.sequence))
  /-- The worker is woken. -/
  | wake (workerId : Nat) (slot : RepairSlot notifies) (place : call.place = .notifying workerId)
      (present : state.slot workerId = some slot) :
    Moves state call
      (state.put workerId { slot with notify := notifies.notifyWaiters slot.notify })
      { call with
        place := .next
        result := { call.result with restarts := call.result.restarts + 1 } }
      none

/-- A step does one of these. -/
theorem RepairCall.step_moves (state : RepairState notifies) (call : RepairCall) :
    call.Moves state (call.step state).1 (call.step state).2.1 (call.step state).2.2 := by
  cases place : call.place with
  | next =>
    cases first : call.left with
    | nil =>
      simp only [RepairCall.step, place, first]
      exact .stay
    | cons workerId left =>
      cases present : state.slot workerId.toNat with
      | none =>
        simp only [RepairCall.step, place, first, present]
        exact place ▸ .skip workerId left place first present
      | some slot =>
        simp only [RepairCall.step, place, first, present]
        exact .read workerId left slot place first present
  | holding workerId current =>
    simp only [RepairCall.step, place]
    by_cases old : call.command.sequence ≤ current
    · rw [if_pos old]
      exact .refuse workerId current place old
    · rw [if_neg old]
      cases present : state.slot workerId with
      | none => exact .stay
      | some slot =>
        simp only
        by_cases same : slot.lastSequence = current
        · subst same
          rw [if_pos rfl]
          exact .exchange workerId slot place (UInt64.not_le.mp old) present
        · rw [if_neg same]
          exact .retry workerId current slot place present
  | exchanged workerId previous =>
    cases present : state.slot workerId with
    | none =>
      simp only [RepairCall.step, place, present]
      exact .stay
    | some slot =>
      simp only [RepairCall.step, place, present]
      by_cases escalates : slot.Unresolved previous
      · rw [if_pos escalates]
        exact .escalates workerId previous place
      · rw [if_neg escalates]
        exact .resolved workerId previous place
  | escalating workerId =>
    cases present : state.slot workerId with
    | none =>
      simp only [RepairCall.step, place, present]
      exact .stay
    | some slot =>
      simp only [RepairCall.step, place, present]
      exact .reset workerId slot place present
  | restarting workerId =>
    cases present : state.slot workerId with
    | none =>
      simp only [RepairCall.step, place, present]
      exact .stay
    | some slot =>
      simp only [RepairCall.step, place, present]
      exact .restart workerId slot place present
  | notifying workerId =>
    cases present : state.slot workerId with
    | none =>
      simp only [RepairCall.step, place, present]
      exact .stay
    | some slot =>
      simp only [RepairCall.step, place, present]
      exact .wake workerId slot place present

section Alone

/-- One step of a task that is not interrupted. -/
def Follows (before after : RepairState notifies × RepairCall) : Prop :=
  ((before.2.step before.1).1, (before.2.step before.1).2.1) = after

/-- Writing a slot twice leaves what was written last. -/
theorem put_put (state : RepairState notifies) (workerId : Nat) (first second : RepairSlot notifies) :
    (state.put workerId first).put workerId second = state.put workerId second := by
  simp only [RepairState.put, List.set_set]

/-- Writing what is there changes nothing. -/
theorem put_same {state : RepairState notifies} {workerId : Nat} {slot : RepairSlot notifies}
    (present : state.slot workerId = some slot) : state.put workerId slot = state := by
  simp only [RepairState.slot] at present
  by_cases used : workerId ≠ 0
  · rw [if_pos used] at present
    obtain ⟨inside, same⟩ := List.getElem?_eq_some_iff.mp present
    rw [RepairState.put, ← same, List.set_getElem_self]
  · rw [if_neg used] at present
    cases present

/-- What a task counts for one worker. -/
def RepairApplyResult.plus (result more : RepairApplyResult) : RepairApplyResult where
  restarts := result.restarts + more.restarts
  credentialResets := result.credentialResets + more.credentialResets

/-- The last two steps for a worker. -/
theorem follows_restart (state : RepairState notifies) (command : StreamRepairCommand)
    (workerId : Nat) (left : List UInt16) (result : RepairApplyResult)
    {slot : RepairSlot notifies} (present : state.slot workerId = some slot) :
    Relation.ReflTransGen Follows (state, ⟨command, left, .restarting workerId, result⟩)
      (state.put workerId { slot with
          restartGeneration := slot.restartGeneration + 1
          notify := notifies.notifyWaiters slot.notify },
        ⟨command, left, .next, { result with restarts := result.restarts + 1 }⟩) := by
  have restart : Follows (state, ⟨command, left, .restarting workerId, result⟩)
      (state.put workerId { slot with restartGeneration := slot.restartGeneration + 1 },
        ⟨command, left, .notifying workerId, result⟩) := by
    simp only [Follows, RepairCall.step, present]
  have written := slot_put present { slot with restartGeneration := slot.restartGeneration + 1 }
  have wake : Follows
      (state.put workerId { slot with restartGeneration := slot.restartGeneration + 1 },
        ⟨command, left, .notifying workerId, result⟩)
      (state.put workerId { slot with
          restartGeneration := slot.restartGeneration + 1
          notify := notifies.notifyWaiters slot.notify },
        ⟨command, left, .next, { result with restarts := result.restarts + 1 }⟩) := by
    simp only [Follows, RepairCall.step, written, put_put]
  exact (Relation.ReflTransGen.single restart).tail wake

/-- An uninterrupted task does to one slot what `apply_repair` does to it. -/
theorem follows_slot (state : RepairState notifies) (command : StreamRepairCommand)
    (workerId : UInt16) (left : List UInt16) (result : RepairApplyResult)
    {slot : RepairSlot notifies} (present : state.slot workerId.toNat = some slot) :
    Relation.ReflTransGen Follows (state, ⟨command, workerId :: left, .next, result⟩)
      (state.put workerId.toNat (slot.repair command.sequence).1,
        ⟨command, left, .next, result.plus (slot.repair command.sequence).2⟩) := by
  have read : Follows (state, ⟨command, workerId :: left, .next, result⟩)
      (state, ⟨command, left, .holding workerId.toNat slot.lastSequence, result⟩) := by
    simp only [Follows, RepairCall.step, present]
  refine Relation.ReflTransGen.head read ?_
  by_cases old : command.sequence ≤ slot.lastSequence
  · have same : slot.repair command.sequence = (slot, .default) := by
      rw [RepairSlot.repair, if_pos old]
    have refuse : Follows
        (state, ⟨command, left, .holding workerId.toNat slot.lastSequence, result⟩)
        (state, ⟨command, left, .next, result⟩) := by
      simp only [Follows, RepairCall.step]
      rw [if_pos old]
    rw [same, put_same present]
    exact Relation.ReflTransGen.single refuse
  · let exchanged : RepairSlot notifies := { slot with lastSequence := command.sequence }
    have exchange : Follows
        (state, ⟨command, left, .holding workerId.toNat slot.lastSequence, result⟩)
        (state.put workerId.toNat exchanged,
          ⟨command, left, .exchanged workerId.toNat slot.lastSequence, result⟩) := by
      simp only [Follows, RepairCall.step, present, ↓reduceIte]
      rw [if_neg old]
    have written := slot_put present exchanged
    refine Relation.ReflTransGen.head exchange ?_
    by_cases escalates : slot.Unresolved slot.lastSequence
    · have decides : exchanged.Unresolved slot.lastSequence := escalates
      let escalated : RepairSlot notifies :=
        { exchanged with credentialGeneration := slot.credentialGeneration + 1 }
      let counted := { result with credentialResets := result.credentialResets + 1 }
      have find : Follows
          (state.put workerId.toNat exchanged,
            ⟨command, left, .exchanged workerId.toNat slot.lastSequence, result⟩)
          (state.put workerId.toNat exchanged,
            ⟨command, left, .escalating workerId.toNat, result⟩) := by
        simp only [Follows, RepairCall.step, written]
        rw [if_pos decides]
      have reset : Follows
          (state.put workerId.toNat exchanged,
            ⟨command, left, .escalating workerId.toNat, result⟩)
          (state.put workerId.toNat escalated,
            ⟨command, left, .restarting workerId.toNat, counted⟩) := by
        simp only [Follows, RepairCall.step, written, put_put]
        rfl
      have rest := follows_restart (state.put workerId.toNat escalated) command workerId.toNat left
        counted (slot_put present escalated)
      rw [put_put] at rest
      have changed : slot.repair command.sequence = ({ escalated with
          restartGeneration := slot.restartGeneration + 1
          notify := notifies.notifyWaiters slot.notify }, ⟨1, 1⟩) := by
        rw [RepairSlot.repair, if_neg old]
        simp only [if_pos escalates]
        rfl
      rw [changed]
      exact Relation.ReflTransGen.head find (Relation.ReflTransGen.head reset rest)
    · have decides : ¬exchanged.Unresolved slot.lastSequence := escalates
      have find : Follows
          (state.put workerId.toNat exchanged,
            ⟨command, left, .exchanged workerId.toNat slot.lastSequence, result⟩)
          (state.put workerId.toNat exchanged,
            ⟨command, left, .restarting workerId.toNat, result⟩) := by
        simp only [Follows, RepairCall.step, written]
        rw [if_neg decides]
      have rest := follows_restart (state.put workerId.toNat exchanged) command workerId.toNat left
        result (slot_put present exchanged)
      rw [put_put] at rest
      have changed : slot.repair command.sequence = ({ exchanged with
          restartGeneration := slot.restartGeneration + 1
          notify := notifies.notifyWaiters slot.notify }, ⟨1, 0⟩) := by
        rw [RepairSlot.repair, if_neg old]
        simp only [if_neg escalates]
        rfl
      rw [changed]
      exact Relation.ReflTransGen.head find rest

/-- An uninterrupted task does what `apply_repair` does. -/
theorem follows_applyRepair (state : RepairState notifies) (command : StreamRepairCommand) :
    Relation.ReflTransGen Follows (state, .begin command)
      ((state.applyRepair command).1,
        ⟨command, [], .next, (state.applyRepair command).2⟩) := by
  have loop (workerIds : List UInt16) (state : RepairState notifies) (result : RepairApplyResult) :
      Relation.ReflTransGen Follows (state, ⟨command, workerIds, .next, result⟩)
        ((state.repairLoop command.sequence workerIds result).1,
          ⟨command, [], .next, (state.repairLoop command.sequence workerIds result).2⟩) := by
    induction workerIds generalizing state result with
    | nil => exact Relation.ReflTransGen.refl
    | cons workerId left ih =>
      cases present : state.slot workerId.toNat with
      | none =>
        have skip : Follows (state, ⟨command, workerId :: left, .next, result⟩)
            (state, ⟨command, left, .next, result⟩) := by
          simp only [Follows, RepairCall.step, present]
        simp only [RepairState.repairLoop, present]
        exact Relation.ReflTransGen.head skip (ih _ _)
      | some slot =>
        simp only [RepairState.repairLoop, present]
        exact (follows_slot state command workerId left result present).trans (ih _ _)
  exact loop command.workerIds state .default

end Alone

end Focsq.Repair
