import Focsq.Frontend.ClientSlot

/-!
# Which run a stop reaches

A stop cancels the run whose token is kept. That is the run started last, until a run that has
returned clears the slot, which need not be its own token any more.
-/

namespace Focsq.ClientSlot

section Statement

/-- The token of a run that is live. -/
def Place.live : Place → Option Nat
  | .running token => some token
  | .starting | .clearing | .stopping | .returned => none

/-- The tokens of all live runs. -/
def CallPool.live (pool : CallPool) : List Nat := pool.tasks.filterMap Place.live

/-- The live run that was started last. -/
def CallPool.latest (pool : CallPool) : Option Nat := pool.live.max?

/-- The events of a run of calls. -/
def events (actions : List (Tasks.Action Call Unit)) : List Event :=
  (Mealy.outputs CallPool.step .new actions).flatMap Option.toList

/-- Since this token was kept, no other one has been kept and the slot has not been cleared. -/
def Untouched (token : Nat) (history : List Event) : Prop :=
  history.getLast? = some (.kept token)

end Statement

section Invariant

/-- The slot holds no token that was replaced, and loses a token otherwise only by cancelling it. -/
def Holds (history : List Event) (slot : Slot) : Prop :=
  ∀ token, (slot.token = some token → Untouched token history) ∧
    (Untouched token history → slot.token = some token ∨ token ∈ slot.cancelled)

/-- After a token was kept, it alone is untouched. -/
theorem untouched_kept (history : List Event) (token other : Nat) :
    Untouched token (history ++ [.kept other]) ↔ other = token := by
  simp [Untouched]

/-- After the slot was cleared, nothing is untouched. -/
theorem not_untouched_cleared (history : List Event) (token : Nat) :
    ¬ Untouched token (history ++ [.cleared]) := by
  simp [Untouched]

/-- A stop cancels the token that it takes. -/
theorem take_token (slot : Slot) (token : Nat) :
    token ∈ slot.take.cancelled ↔ slot.token = some token ∨ token ∈ slot.cancelled := by
  unfold Slot.take
  cases kept : slot.token with
  | none => simp
  | some other => simp [eq_comm]

/-- Nothing is kept after it. -/
theorem take_empty (slot : Slot) : slot.take.token = none := by
  unfold Slot.take
  cases kept : slot.token with
  | none => exact kept
  | some other => rfl

/-- A step of a call keeps it so. -/
theorem holds_next {history : List Event} {slot : Slot} (holds : Holds history slot)
    (place : Place) :
    Holds (history ++ (place.next slot ()).2.2.toList) (place.next slot ()).1 := by
  intro token
  have before := holds token
  cases place with
  | starting =>
    show (some slot.made = some token → Untouched token (history ++ [.kept slot.made])) ∧
      (Untouched token (history ++ [.kept slot.made]) → some slot.made = some token ∨ _)
    rw [untouched_kept]
    exact ⟨Option.some.inj, fun same => .inl (congrArg some same)⟩
  | clearing =>
    have never := not_untouched_cleared history token
    exact ⟨fun kept => absurd kept (Option.some_ne_none token).symm,
      fun untouched => absurd untouched never⟩
  | stopping =>
    show (slot.take.token = some token → Untouched token (history ++ [])) ∧
      (Untouched token (history ++ []) → slot.take.token = some token ∨
        token ∈ slot.take.cancelled)
    rw [List.append_nil, take_empty, take_token]
    exact ⟨fun kept => absurd kept (Option.some_ne_none token).symm,
      fun untouched => .inr (before.2 untouched)⟩
  | running _ | returned =>
    show (slot.token = some token → Untouched token (history ++ [])) ∧
      (Untouched token (history ++ []) → slot.token = some token ∨ token ∈ slot.cancelled)
    rw [List.append_nil]
    exact before

/-- It is so after every run of calls. -/
theorem holds_run (actions : List (Tasks.Action Call Unit)) :
    Holds (events actions) (Mealy.final CallPool.step .new actions).shared := by
  refine Tasks.invariant (fun history pool => Holds history pool.shared) ?_ CallPool.new actions ?_
  · intro history pool after event holds moves
    cases moves with
    | stay | begin call =>
      show Holds (history ++ []) pool.shared
      rw [List.append_nil]
      exact holds
    | step front place back input here => exact holds_next holds place
  · intro token
    refine ⟨fun kept => absurd kept (Option.some_ne_none token).symm, fun untouched => ?_⟩
    cases untouched

end Invariant

section Stop

/-- After a stop, a token is cancelled if and only if it was cancelled before, or is untouched. -/
theorem cancelled_stop (actions : List (Tasks.Action Call Unit)) (index token : Nat)
    (stopping : (Mealy.final CallPool.step .new actions).tasks[index]? = some .stopping) :
    token ∈ (Mealy.final CallPool.step .new (actions ++ [.step index ()])).shared.cancelled ↔
      token ∈ (Mealy.final CallPool.step .new actions).shared.cancelled ∨
        Untouched token (events actions) := by
  have holds := holds_run actions token
  rw [Mealy.final_append]
  generalize Mealy.final CallPool.step .new actions = pool at stopping holds ⊢
  have stepped : (Mealy.final CallPool.step pool [.step index ()]).shared = pool.shared.take := by
    simp only [Mealy.final, CallPool.step, Tasks.Pool.step, stopping]
    rfl
  rw [stepped, take_token]
  constructor
  · rintro (kept | already)
    · exact .inr (holds.1 kept)
    · exact .inl already
  · rintro (already | untouched)
    · exact .inr already
    · exact holds.2 untouched

/-- A stop leaves the live run that was started last cancelled if and only if this run was cancelled
before, or since it kept its token no other run has kept one and none has cleared the slot. -/
theorem stop_reaches_latest (actions : List (Tasks.Action Call Unit)) (index : Nat)
    (stopping : (Mealy.final CallPool.step .new actions).tasks[index]? = some .stopping) :
    (∀ latest ∈ (Mealy.final CallPool.step .new actions).latest,
      latest ∈ (Mealy.final CallPool.step .new (actions ++ [.step index ()])).shared.cancelled) ↔
    ∀ latest ∈ (Mealy.final CallPool.step .new actions).latest,
      latest ∈ (Mealy.final CallPool.step .new actions).shared.cancelled ∨
        Untouched latest (events actions) :=
  forall₂_congr fun latest _ => cancelled_stop actions index latest stopping

/-- A run is started and stopped, another one is started while the first is to return, and the
second is to be stopped as well. -/
def restartedRun : List (Tasks.Action Call Unit) :=
  [.begin .start, .step 0 (), .begin .stop, .step 1 (), .begin .start, .step 2 (), .begin .stop]

/-- The stop reaches the second run. -/
theorem restartedRun_reaches :
    1 ∈ (Mealy.final CallPool.step .new (restartedRun ++ [.step 3 ()])).shared.cancelled := by
  refine (stop_reaches_latest restartedRun 3 (by decide)).mpr (fun latest newest => .inr ?_) 1 rfl
  have same : some 1 = some latest := newest
  rw [← Option.some.inj same]
  rfl

/-- The first run returns and clears the slot before the second one is to be stopped. -/
def clearedRun : List (Tasks.Action Call Unit) :=
  [.begin .start, .step 0 (), .begin .stop, .step 1 (), .begin .start, .step 2 (), .step 0 (),
    .step 0 (), .begin .stop]

/-- The stop reaches nothing. -/
theorem clearedRun_misses :
    (Mealy.final CallPool.step .new clearedRun).tasks[3]? = some .stopping ∧
      (Mealy.final CallPool.step .new clearedRun).latest = some 1 ∧
      1 ∉ (Mealy.final CallPool.step .new clearedRun).shared.cancelled ∧
      1 ∉ (Mealy.final CallPool.step .new (clearedRun ++ [.step 3 ()])).shared.cancelled := by
  decide

end Stop

end Focsq.ClientSlot
