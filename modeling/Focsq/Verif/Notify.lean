import Focsq.Backend.Notify

/-!
# Notifications as they are documented

The two notifications that witnesses are run with do what is documented, one for a single waiting
task and one for any number of them.
-/

namespace Focsq.Dispatcher

/-- When a task need not wait at all. -/
theorem SingleNotify.poll_started (state : SingleNotify) (calls : Nat) :
    (state.poll (.started calls)).1 = (state.permit || decide (state.calls ≠ calls)) := by
  by_cases permit : state.permit = true
  · simp [SingleNotify.poll, permit]
  · by_cases same : state.calls = calls
    · simp [SingleNotify.poll, permit, same]
    · simp [SingleNotify.poll, permit, same]

/-- When a task that waits was woken. -/
theorem SingleNotify.poll_queued (state : SingleNotify) :
    (state.poll .queued).1 = decide (state.waiter ≠ some .waiting) := by
  by_cases waiting : state.waiter = some .waiting
  · simp [SingleNotify.poll, waiting]
  · simp [SingleNotify.poll, waiting]

/-- One call wakes the task. -/
theorem SingleNotify.poll_notifyOne (state : SingleNotify) (future : SingleNotified)
    (awaits : state.Awaits future) : (state.notifyOne.poll future).1 = true := by
  cases future with
  | started calls => simp [poll_started, SingleNotify.notifyOne, awaits.1]
  | queued =>
    by_cases waiting : state.waiter = some .waiting
    · simp [poll_queued, SingleNotify.notifyOne, waiting]
    · simp [poll_queued, SingleNotify.notifyOne, waiting]

/-- So does the other. -/
theorem SingleNotify.poll_notifyWaiters (state : SingleNotify) (future : SingleNotified)
    (awaits : state.Awaits future) : (state.notifyWaiters.poll future).1 = true := by
  cases future with
  | started calls =>
    have before := awaits.2
    have later : state.calls + 1 ≠ calls := by omega
    simp [poll_started, SingleNotify.notifyWaiters, later]
  | queued =>
    by_cases waiting : state.waiter = some .waiting
    · simp [poll_queued, SingleNotify.notifyWaiters, waiting]
    · simp [poll_queued, SingleNotify.notifyWaiters, waiting]

/-- A task that is not woken waits. -/
theorem SingleNotify.Awaits.waits {state : SingleNotify} {future : SingleNotified}
    (unready : (state.poll future).1 = false) :
    (state.poll future).2.1.Awaits (state.poll future).2.2 := by
  cases future with
  | started calls =>
    have same : state.permit = false ∧ state.calls = calls := by
      simpa [poll_started] using unready
    simp [SingleNotify.poll, same, SingleNotify.Awaits]
  | queued =>
    have waiting : state.waiter = some .waiting := by simpa [poll_queued] using unready
    simp [SingleNotify.poll, waiting, SingleNotify.Awaits]

/-- A task that is woken does not wait. -/
theorem SingleNotify.Awaits.woken {state : SingleNotify} {future : SingleNotified}
    (awaits : state.Awaits future) (ready : (state.poll future).1 = true) :
    (state.poll future).2.1.waiter = none := by
  cases future with
  | started calls =>
    by_cases permit : state.permit = true
    · simpa [SingleNotify.poll, permit] using awaits.1
    · have later : state.calls ≠ calls := by simpa [poll_started, permit] using ready
      simpa [SingleNotify.poll, permit, later] using awaits.1
  | queued =>
    have woken : state.waiter ≠ some .waiting := by simpa [poll_queued] using ready
    simp [SingleNotify.poll, woken]

/-- The task awaits whatever is called. -/
theorem SingleNotify.Awaits.called {state : SingleNotify} {future : SingleNotified}
    (awaits : state.Awaits future) :
    state.notifyOne.Awaits future ∧ state.notifyWaiters.Awaits future := by
  cases future with
  | started calls =>
    have later : calls ≤ state.calls + 1 := Nat.le_succ_of_le awaits.2
    simp [SingleNotify.notifyOne, SingleNotify.notifyWaiters, SingleNotify.Awaits, awaits.1,
      awaits.2, later]
  | queued =>
    by_cases waiting : state.waiter = some .waiting
    · simp [SingleNotify.notifyOne, SingleNotify.notifyWaiters, SingleNotify.Awaits, waiting]
    · have some : state.waiter ≠ none := awaits
      simp [SingleNotify.notifyOne, SingleNotify.notifyWaiters, SingleNotify.Awaits, waiting, some]

/-- These notifications do what is documented. -/
theorem Notify.single_lawful :
    Notify.single.Lawful (fun state => SingleNotify.waiter state = none) SingleNotify.Awaits where
  new := rfl
  idleOne := fun state idle => by simp [Notify.single, SingleNotify.notifyOne, idle]
  idleAll := fun state idle => by simp [Notify.single, SingleNotify.notifyWaiters, idle]
  notified := fun state idle => ⟨idle, Nat.le_refl _⟩
  awaitsOne := fun state future awaits => awaits.called.1
  awaitsAll := fun state future awaits => awaits.called.2
  one := SingleNotify.poll_notifyOne
  all := SingleNotify.poll_notifyWaiters
  waits := fun state future awaits unready => SingleNotify.Awaits.waits unready
  woken := fun state future awaits ready => awaits.woken ready
  drop := by
    intro state future awaits
    cases future with
    | started calls => exact awaits.1
    | queued => rfl

/-- When a task is woken. -/
theorem CountedNotify.poll_plain {state : CountedNotify} (plain : state.permit = false)
    (since : Nat) : state.poll since = (decide (since < state.calls), state, since) := by
  simp [CountedNotify.poll, plain]

/-- Polling is no call, and leaves what is awaited. -/
theorem CountedNotify.poll_keeps (state : CountedNotify) (since : Nat) :
    (state.poll since).2.1.calls = state.calls ∧ (state.poll since).2.2 = since := by
  by_cases permit : state.permit = true
  · simp [CountedNotify.poll, permit]
  · simp [CountedNotify.poll, permit]

/-- Counting calls does what is documented of calls of `notify_waiters`. -/
theorem Notify.counted_broadcasts :
    Notify.counted.Broadcasts (fun state => CountedNotify.permit state = false)
      CountedNotify.calls id where
  new := rfl
  plainAll := fun _ plain => plain
  plainPoll := fun _ future plain =>
    (congrArg (fun polled => polled.2.1.permit) (CountedNotify.poll_plain plain future)).trans plain
  plainDrop := fun _ _ plain => plain
  notified := fun _ => rfl
  all := fun _ => rfl
  callsPoll := fun state future => (CountedNotify.poll_keeps state future).1
  callsDrop := fun _ _ => rfl
  waits := fun state future => (CountedNotify.poll_keeps state future).2
  woken := fun _ future plain => congrArg Prod.fst (CountedNotify.poll_plain plain future)

end Focsq.Dispatcher
