import Focsq.Backend.Repair
import Focsq.Lib.Past

/-!
# When a repair asks for new credentials

Calls on a worker that do not overlap are seen from its slot alone. A repair asks for new
credentials if the one before was not resolved. As resolved counts one that the worker followed by
becoming ready, and one that a later message says it is alive after; but `mark_ready` forgets
messages that were ahead of the repairs that had been applied.
-/

namespace Focsq.Repair

open Dispatcher Protocol

variable {notifies : Notify}

section Slots

/-- A slot that was written is read. -/
theorem slot_put {state : RepairState notifies} {workerId : Nat} {old : RepairSlot notifies}
    (present : state.slot workerId = some old) (slot : RepairSlot notifies) :
    (state.put workerId slot).slot workerId = some slot := by
  simp only [RepairState.slot] at present ⊢
  by_cases unused : workerId ≠ 0
  · rw [if_pos unused] at present ⊢
    have inside : workerId < state.slots.length := (List.getElem?_eq_some_iff.mp present).1
    exact List.getElem?_set_self inside
  · rw [if_neg unused] at present
    cases present

/-- Other slots are as before. -/
theorem slot_put_other {state : RepairState notifies} {workerId other : Nat}
    (differ : other ≠ workerId) (slot : RepairSlot notifies) :
    (state.put workerId slot).slot other = state.slot other := by
  simp only [RepairState.slot, RepairState.put]
  rw [List.getElem?_set_ne differ.symm]

/-- All workers have new slots at first. -/
theorem slot_new {desiredCount workerId : Nat} (valid : 1 ≤ workerId ∧ workerId ≤ desiredCount) :
    (RepairState.new notifies desiredCount).slot workerId = some (RepairSlot.new notifies) := by
  have used : workerId ≠ 0 := Nat.ne_of_gt valid.1
  have inside : workerId < desiredCount + 1 := Nat.lt_succ_of_le valid.2
  simp only [RepairState.slot, RepairState.new]
  rw [if_pos used, List.getElem?_replicate, if_pos inside]

/-- There are no other slots. -/
theorem slot_new_outside {desiredCount workerId : Nat}
    (outside : ¬(1 ≤ workerId ∧ workerId ≤ desiredCount)) :
    (RepairState.new notifies desiredCount).slot workerId = none := by
  simp only [RepairState.slot, RepairState.new, List.getElem?_replicate]
  by_cases used : workerId ≠ 0
  · have beyond : ¬workerId < desiredCount + 1 := by omega
    rw [if_pos used, if_neg beyond]
  · rw [if_neg used]

end Slots

section OneSlot

/-- A call as a slot sees it. -/
inductive SlotCall where
  /-- A repair. -/
  | repair (sequence : UInt64)
  /-- A message that it is alive. -/
  | alive (sequence : UInt64)
  /-- It is ready. -/
  | ready

/-- What a call does to the slot. -/
def RepairSlot.apply (slot : RepairSlot notifies) : SlotCall → RepairSlot notifies
  | .repair sequence => (slot.repair sequence).1
  | .alive sequence => slot.alive sequence
  | .ready => slot.markReady

/-- A repair that was applied is not applied again. -/
theorem repair_again (slot : RepairSlot notifies) (sequence : UInt64) :
    ((slot.repair sequence).1.repair sequence).1 = (slot.repair sequence).1 := by
  by_cases applied : sequence ≤ slot.lastSequence
  · have same : (slot.repair sequence).1 = slot := by rw [RepairSlot.repair, if_pos applied]
    rw [same, same]
  · have again : sequence ≤ (slot.repair sequence).1.lastSequence := by
      rw [RepairSlot.repair, if_neg applied]
      exact UInt64.le_refl _
    rw [RepairSlot.repair, if_pos again]

/-- The calls that a list of numbers is for a worker. -/
def callsOn (workerId : Nat) (workerIds : List UInt16) (call : SlotCall) : List SlotCall :=
  (workerIds.filter fun other => other.toNat == workerId).map fun _ => call

/-- A change of the slots of some workers, one after the other. -/
def RepairState.update (change : RepairSlot notifies → RepairSlot notifies)
    (state : RepairState notifies) (workerId : UInt16) : RepairState notifies :=
  (state.slot workerId.toNat).elim state fun slot => state.put workerId.toNat (change slot)

/-- The loop of `apply_repair` changes slots. -/
theorem repairLoop_state (sequence : UInt64) (workerIds : List UInt16)
    (state : RepairState notifies) (result : RepairApplyResult) :
    (state.repairLoop sequence workerIds result).1 =
      workerIds.foldl (RepairState.update fun slot => (slot.repair sequence).1) state := by
  induction workerIds generalizing state result with
  | nil => rfl
  | cons workerId rest ih =>
    cases here : state.slot workerId.toNat with
    | none =>
      simp only [RepairState.repairLoop, here, List.foldl_cons, RepairState.update, Option.elim_none]
      exact ih _ _
    | some slot =>
      simp only [RepairState.repairLoop, here, List.foldl_cons, RepairState.update, Option.elim_some]
      exact ih _ _

/-- The loop of `apply_alive` changes slots. -/
theorem aliveLoop_state (sequence : UInt64) (workerIds : List UInt16)
    (state : RepairState notifies) (applied : Nat) :
    (state.aliveLoop sequence workerIds applied).1 =
      workerIds.foldl (RepairState.update fun slot => slot.alive sequence) state := by
  induction workerIds generalizing state applied with
  | nil => rfl
  | cons workerId rest ih =>
    cases here : state.slot workerId.toNat with
    | none =>
      simp only [RepairState.aliveLoop, here, List.foldl_cons, RepairState.update, Option.elim_none]
      exact ih _ _
    | some slot =>
      simp only [RepairState.aliveLoop, here, List.foldl_cons, RepairState.update, Option.elim_some]
      exact ih _ _

/-- Changes of slots as one slot sees them. -/
theorem slot_update (call : SlotCall) (workerIds : List UInt16) (state : RepairState notifies)
    (workerId : Nat) :
    (workerIds.foldl (RepairState.update fun slot => slot.apply call) state).slot workerId =
      (state.slot workerId).map fun slot =>
        (callsOn workerId workerIds call).foldl RepairSlot.apply slot := by
  induction workerIds generalizing state with
  | nil => simp [callsOn]
  | cons other rest ih =>
    rw [List.foldl_cons, ih]
    by_cases same : other.toNat = workerId
    · rw [← same]
      cases here : state.slot other.toNat with
      | none => simp [RepairState.update, here]
      | some slot =>
        have written := slot_put here (slot.apply call)
        simp [RepairState.update, here, written, callsOn]
    · have kept : (RepairState.update (fun slot => slot.apply call) state other).slot workerId =
          state.slot workerId := by
        cases here : state.slot other.toNat with
        | none => simp [RepairState.update, here]
        | some slot =>
          simp only [RepairState.update, here, Option.elim_some]
          exact slot_put_other (Ne.symm same) _
      rw [kept]
      simp [callsOn, same]

end OneSlot

section History

/-- A call on the whole state. -/
inductive StateCall where
  /-- `apply_repair`. -/
  | applyRepair (command : StreamRepairCommand)
  /-- `apply_alive`. -/
  | applyAlive (command : StreamRepairCommand)
  /-- `mark_ready`. -/
  | markReady (workerId : Nat)

/-- The state after a call. -/
def RepairState.apply (state : RepairState notifies) : StateCall → RepairState notifies
  | .applyRepair command => (state.applyRepair command).1
  | .applyAlive command => (state.applyAlive command).1
  | .markReady workerId => state.markReady workerId

/-- A call as the slot of a worker sees it. -/
def StateCall.on (workerId : Nat) : StateCall → List SlotCall
  | .applyRepair command => callsOn workerId command.workerIds (.repair command.sequence)
  | .applyAlive command => callsOn workerId command.workerIds (.alive command.sequence)
  | .markReady other => if other = workerId then [.ready] else []

/-- A call does to a slot what the slot sees of it. -/
theorem slot_apply (state : RepairState notifies) (call : StateCall) (workerId : Nat) :
    (state.apply call).slot workerId = (state.slot workerId).map fun slot =>
      (call.on workerId).foldl RepairSlot.apply slot := by
  cases call with
  | applyRepair command =>
    rw [RepairState.apply, RepairState.applyRepair, repairLoop_state]
    exact slot_update (.repair command.sequence) _ _ _
  | applyAlive command =>
    rw [RepairState.apply, RepairState.applyAlive, aliveLoop_state]
    exact slot_update (.alive command.sequence) _ _ _
  | markReady other =>
    cases here : state.slot other with
    | none =>
      simp only [RepairState.apply, RepairState.markReady, here, StateCall.on]
      by_cases same : other = workerId
      · rw [← same, here]
        rfl
      · simp [same]
    | some slot =>
      simp only [RepairState.apply, RepairState.markReady, here, StateCall.on]
      by_cases same : other = workerId
      · rw [← same, slot_put here, here]
        simp [RepairSlot.apply]
      · rw [slot_put_other (Ne.symm same)]
        simp [same]

/-- The slot of a worker after calls on the whole state. -/
theorem slot_history (state : RepairState notifies) (history : List StateCall) (workerId : Nat) :
    (history.foldl RepairState.apply state).slot workerId = (state.slot workerId).map fun slot =>
      (history.flatMap (StateCall.on workerId)).foldl RepairSlot.apply slot := by
  induction history generalizing state with
  | nil => simp
  | cons call rest ih =>
    rw [List.foldl_cons, ih, slot_apply, List.flatMap_cons, Option.map_map]
    congr 1
    funext slot
    rw [List.foldl_append]
    rfl

end History

section Resolved

/-- The last repair that is applied, after another one. -/
def SlotCall.after (last : UInt64) : SlotCall → UInt64
  | .repair sequence => if sequence ≤ last then last else sequence
  | _ => last

/-- The last repair that was applied, which has the largest sequence number. -/
def latest (calls : List SlotCall) : UInt64 := calls.foldl SlotCall.after 0

/-- A message that the worker is alive after a repair. -/
def SlotCall.Acknowledges (sequence : UInt64) (call : SlotCall) : Prop :=
  ∃ later, call = .alive later ∧ sequence ≤ later

/-- The worker became ready, after a repair was applied. -/
def Ready (sequence : UInt64) (calls : List SlotCall) : Prop :=
  Past.Since (fun before call => call = .ready ∧ sequence ≤ latest before) (fun _ => False) calls

/-- A message said that the worker is alive after a repair, and it did not become ready since. -/
def Heard (sequence : UInt64) (calls : List SlotCall) : Prop :=
  Past.Since (fun _ call => call.Acknowledges sequence) (fun call => call = .ready) calls

/-- The last repair was not resolved: since it was applied, the worker did not become ready, and
no message has ever said that it is alive after it. -/
def Unresolved (calls : List SlotCall) : Prop :=
  latest calls ≠ 0 ∧ ¬Ready (latest calls) calls ∧
    ¬∃ call ∈ calls, call.Acknowledges (latest calls)

/-- The last repair was resolved before it was applied, and that is forgotten: the worker became
ready after each message that said so, but not since the repair was applied. -/
def Forgotten (calls : List SlotCall) : Prop :=
  latest calls ≠ 0 ∧ ¬Ready (latest calls) calls ∧
    (∃ call ∈ calls, call.Acknowledges (latest calls)) ∧ ¬Heard (latest calls) calls

/-- One more call. -/
theorem latest_concat (calls : List SlotCall) (call : SlotCall) :
    latest (calls ++ [call]) = call.after (latest calls) := List.foldl_concat _ _ _ _

/-- The last repair is not undone. -/
theorem le_after (last : UInt64) (call : SlotCall) : last ≤ call.after last := by
  cases call with
  | repair sequence =>
    simp only [SlotCall.after]
    by_cases old : sequence ≤ last
    · rw [if_pos old]
      exact UInt64.le_refl last
    · rw [if_neg old]
      exact UInt64.le_of_lt (UInt64.not_le.mp old)
  | alive sequence => exact UInt64.le_refl last
  | ready => exact UInt64.le_refl last

/-- The last repair that was applied is the last sequence number of the slot. -/
theorem lastSequence_calls (calls : List SlotCall) :
    (calls.foldl RepairSlot.apply (RepairSlot.new notifies)).lastSequence = latest calls := by
  induction calls using List.reverseRecOn with
  | nil => rfl
  | append_singleton calls call ih =>
    rw [List.foldl_concat, latest_concat, ← ih]
    cases call with
    | repair sequence =>
      simp only [RepairSlot.apply, RepairSlot.repair, SlotCall.after]
      by_cases old : sequence ≤
          (calls.foldl RepairSlot.apply (RepairSlot.new notifies)).lastSequence
      · rw [if_pos old, if_pos old]
      · rw [if_neg old, if_neg old]
    | alive sequence => rfl
    | ready => rfl

/-- The larger one of two numbers. -/
theorem le_max (sequence left right : UInt64) :
    sequence ≤ max left right ↔ sequence ≤ left ∨ sequence ≤ right := by
  show sequence ≤ (if left ≤ right then right else left) ↔ _
  simp only [UInt64.le_iff_toNat_le]
  by_cases larger : left.toNat ≤ right.toNat
  · rw [if_pos larger]
    omega
  · rw [if_neg larger]
    omega

/-- A worker that became ready after a repair was ready when that repair was applied. -/
theorem Ready.le_latest {sequence : UInt64} {calls : List SlotCall}
    (ready : Ready sequence calls) : sequence ≤ latest calls := by
  induction calls using List.reverseRecOn with
  | nil => exact absurd ready Past.not_since_nil
  | append_singleton calls call ih =>
    rw [latest_concat]
    have grows := le_after (latest calls) call
    rcases (Past.since_concat calls call).mp ready with ⟨_, now⟩ | ⟨before, _⟩
    · exact UInt64.le_trans now grows
    · exact UInt64.le_trans (ih before) grows

/-- What the slot knows as followed. -/
theorem le_readySequence (calls : List SlotCall) {sequence : UInt64} (some : sequence ≠ 0) :
    sequence ≤ (calls.foldl RepairSlot.apply (RepairSlot.new notifies)).readySequence ↔
      Ready sequence calls ∨ Heard sequence calls := by
  induction calls using List.reverseRecOn with
  | nil =>
    have zero : ¬sequence ≤ 0 := fun small =>
      some (UInt64.le_antisymm small (UInt64.zero_le))
    simp only [List.foldl_nil]
    exact iff_of_false zero (not_or.mpr ⟨Past.not_since_nil, Past.not_since_nil⟩)
  | append_singleton calls call ih =>
    rw [List.foldl_concat, Ready, Heard, Past.since_concat, Past.since_concat, ← Ready, ← Heard]
    cases call with
    | repair repaired =>
      have kept : (RepairSlot.apply (calls.foldl RepairSlot.apply (RepairSlot.new notifies))
          (.repair repaired)).readySequence =
            (calls.foldl RepairSlot.apply (RepairSlot.new notifies)).readySequence := by
        simp only [RepairSlot.apply, RepairSlot.repair]
        by_cases old : repaired ≤
            (calls.foldl RepairSlot.apply (RepairSlot.new notifies)).lastSequence
        · rw [if_pos old]
        · rw [if_neg old]
      rw [kept, ih]
      simp [SlotCall.Acknowledges]
    | alive later =>
      simp only [RepairSlot.apply, RepairSlot.alive]
      rw [le_max, ih]
      simp only [SlotCall.Acknowledges, SlotCall.alive.injEq, reduceCtorEq, false_and, false_or,
        not_false_eq_true, and_true, exists_eq_left']
      tauto
    | ready =>
      simp only [RepairSlot.apply, RepairSlot.markReady]
      rw [lastSequence_calls]
      have earlier : Ready sequence calls → sequence ≤ latest calls := Ready.le_latest
      simp only [SlotCall.Acknowledges, reduceCtorEq, false_and, exists_false, not_true_eq_false,
        and_false, or_false, true_and, not_false_eq_true, and_true]
      tauto

end Resolved

section Escalation

/-- A command that names a worker several times is applied to it once. -/
theorem foldl_callsOn {workerId : Nat} {workerIds : List UInt16}
    (about : ∃ other ∈ workerIds, other.toNat = workerId) (slot : RepairSlot notifies)
    (sequence : UInt64) :
    (callsOn workerId workerIds (.repair sequence)).foldl RepairSlot.apply slot =
      (slot.repair sequence).1 := by
  have again (others : List UInt16) :
      (callsOn workerId others (.repair sequence)).foldl RepairSlot.apply
        (slot.repair sequence).1 = (slot.repair sequence).1 := by
    induction others with
    | nil => rfl
    | cons other rest ih =>
      by_cases same : other.toNat = workerId
      · have first : callsOn workerId (other :: rest) (.repair sequence) =
            .repair sequence :: callsOn workerId rest (.repair sequence) := by
          simp [callsOn, same]
        rw [first, List.foldl_cons, RepairSlot.apply, repair_again, ih]
      · have skipped : callsOn workerId (other :: rest) (.repair sequence) =
            callsOn workerId rest (.repair sequence) := by simp [callsOn, same]
        rw [skipped, ih]
  induction workerIds with
  | nil =>
    obtain ⟨other, member, _⟩ := about
    exact absurd member List.not_mem_nil
  | cons other rest ih =>
    by_cases same : other.toNat = workerId
    · have first : callsOn workerId (other :: rest) (.repair sequence) =
          .repair sequence :: callsOn workerId rest (.repair sequence) := by simp [callsOn, same]
      rw [first, List.foldl_cons]
      exact again rest
    · have skipped : callsOn workerId (other :: rest) (.repair sequence) =
          callsOn workerId rest (.repair sequence) := by simp [callsOn, same]
      rw [skipped]
      refine ih ?_
      obtain ⟨found, member, here⟩ := about
      rcases List.mem_cons.mp member with rfl | later
      · exact absurd here same
      · exact ⟨found, later, here⟩

variable (notifies) in
/-- The state after a history of calls. -/
def stateAfter (desiredCount : Nat) (history : List StateCall) : RepairState notifies :=
  history.foldl RepairState.apply (.new notifies desiredCount)

/-- The slot of a worker after a history of calls. -/
theorem slot_stateAfter {desiredCount workerId : Nat}
    (valid : 1 ≤ workerId ∧ workerId ≤ desiredCount) (history : List StateCall) :
    (stateAfter notifies desiredCount history).slot workerId =
      some ((history.flatMap (StateCall.on workerId)).foldl RepairSlot.apply
        (RepairSlot.new notifies)) := by
  rw [stateAfter, slot_history, slot_new valid, Option.map_some]

/-- What the slot says about the last repair. -/
theorem unresolved_iff (calls : List SlotCall) :
    (calls.foldl RepairSlot.apply (RepairSlot.new notifies)).Unresolved (latest calls) ↔
      latest calls ≠ 0 ∧ ¬Ready (latest calls) calls ∧ ¬Heard (latest calls) calls := by
  refine and_congr_right fun some => ?_
  rw [← UInt64.not_le, le_readySequence calls some, not_or]

/-- A message that was heard has come. -/
theorem Heard.acknowledged {sequence : UInt64} {calls : List SlotCall}
    (heard : Heard sequence calls) : ∃ call ∈ calls, call.Acknowledges sequence := by
  obtain ⟨before, call, after, split, acknowledges, _⟩ := heard
  refine ⟨call, ?_, acknowledges⟩
  rw [split]
  exact List.mem_append_right _ List.mem_cons_self

/-- A repair that is applied asks for new credentials as the slot says. -/
theorem credentialGeneration_repair {slot : RepairSlot notifies} {sequence : UInt64}
    (applied : slot.lastSequence < sequence) :
    (slot.repair sequence).1.credentialGeneration = slot.credentialGeneration + 1 ↔
      slot.Unresolved slot.lastSequence := by
  have one : ¬slot.credentialGeneration = slot.credentialGeneration + 1 := by
    intro same
    have shifted := congrArg (fun number => number - slot.credentialGeneration) same
    simp at shifted
  rw [RepairSlot.repair, if_neg (UInt64.not_le.mpr applied)]
  by_cases escalates : slot.Unresolved slot.lastSequence
  · simp [escalates]
  · simp [escalates, one]

/-- A repair that is applied asks for new credentials just if the one before was not resolved,
unless that was resolved and is forgotten. -/
theorem escalates_iff (desiredCount workerId : Nat)
    (valid : 1 ≤ workerId ∧ workerId ≤ desiredCount) (history : List StateCall)
    (command : StreamRepairCommand) (about : ∃ other ∈ command.workerIds, other.toNat = workerId)
    (applied : latest (history.flatMap (StateCall.on workerId)) < command.sequence) :
    (((stateAfter notifies desiredCount history).applyRepair command).1.credentialGeneration
        workerId = (stateAfter notifies desiredCount history).credentialGeneration workerId + 1 ↔
      Unresolved (history.flatMap (StateCall.on workerId))) ↔
      ¬Forgotten (history.flatMap (StateCall.on workerId)) := by
  have before := @slot_stateAfter notifies desiredCount workerId valid history
  have after := slot_apply (stateAfter notifies desiredCount history) (.applyRepair command)
    workerId
  rw [before, Option.map_some, StateCall.on, foldl_callsOn about] at after
  have read : ((stateAfter notifies desiredCount history).applyRepair command).1.slot workerId =
      _ := after
  rw [RepairState.credentialGeneration, RepairState.credentialGeneration, read, before,
    Option.map_some, Option.map_some, Option.getD_some, Option.getD_some]
  generalize history.flatMap (StateCall.on workerId) = calls at applied ⊢
  have last := @lastSequence_calls notifies calls
  have newer : (calls.foldl RepairSlot.apply (RepairSlot.new notifies)).lastSequence <
      command.sequence := last ▸ applied
  have heard : Heard (latest calls) calls → ∃ call ∈ calls, call.Acknowledges (latest calls) :=
    Heard.acknowledged
  rw [credentialGeneration_repair newer, last, unresolved_iff, Unresolved, Forgotten]
  generalize (∃ call ∈ calls, call.Acknowledges (latest calls)) = acknowledged at heard ⊢
  clear before after read last newer applied about valid
  tauto

section Runs

/-- A command about the first worker. -/
def firstWorker (sequence : UInt64) : StreamRepairCommand := ⟨sequence, 36, [1]⟩

/-- The worker did not become ready after a repair, and there is no message about it. -/
def silentCalls : List StateCall := [.applyRepair (firstWorker 1)]

/-- The next repair asks for new credentials. -/
theorem silentCalls_escalate :
    ((stateAfter Notify.counted 36 silentCalls).applyRepair (firstWorker 2)).1.credentialGeneration
        1 = (stateAfter Notify.counted 36 silentCalls).credentialGeneration 1 + 1 ↔
      Unresolved (silentCalls.flatMap (StateCall.on 1)) := by
  refine (escalates_iff 36 1 (by decide) silentCalls (firstWorker 2)
    ⟨1, List.mem_singleton_self _, rfl⟩ (by decide)).mpr ?_
  rintro ⟨_, _, ⟨call, member, later, same, _⟩, _⟩
  rw [List.mem_singleton.mp member] at same
  cases same

/-- The worker is alive after the fifth repair before that is applied, and becomes ready then. -/
def aheadCalls : List StateCall :=
  [.applyAlive (firstWorker 5), .applyRepair (firstWorker 1), .markReady 1,
    .applyRepair (firstWorker 5)]

/-- The sixth repair asks for new credentials, although the worker was alive after the fifth. -/
theorem aheadCalls_escalate :
    ((stateAfter Notify.counted 36 aheadCalls).applyRepair (firstWorker 6)).1.credentialGeneration
        1 = (stateAfter Notify.counted 36 aheadCalls).credentialGeneration 1 + 1 ∧
      ¬Unresolved (aheadCalls.flatMap (StateCall.on 1)) := by
  refine ⟨by decide +kernel, fun unresolved => unresolved.2.2 ?_⟩
  exact ⟨.alive 5, List.mem_cons_self, 5, rfl, by decide⟩

end Runs

end Escalation

end Focsq.Repair
