import Mathlib.Data.Nat.Basic

/-!
# Notifications

The `Notify` of `tokio` is a parameter, and what is documented of it is a hypothesis of what
follows. A task creates a future, and awaits it by polling it until it is ready. The packet queue
has one waiting task at a time, which both calls wake; other components have many waiting tasks,
which only `notify_waiters` wakes.
-/

namespace Focsq.Dispatcher

/-- `Notify` — a notification for tasks that wait. -/
structure Notify where
  /-- The type of the notifications. -/
  State : Type
  /-- `Notified` — what a waiting task awaits. -/
  Notified : Type
  /-- `new`. -/
  new : State
  /-- `notified` — start to await. -/
  notified : State → Notified
  /-- `notify_one`. -/
  notifyOne : State → State
  /-- `notify_waiters`. -/
  notifyWaiters : State → State
  /-- `poll` — whether what is awaited has come; otherwise the task goes on waiting. -/
  poll : State → Notified → Bool × State × Notified
  /-- `drop` — await it no longer. -/
  drop : State → Notified → State

/-- What is documented of a notification with one waiting task at a time: it is woken by each of
both calls after it started to await, also when it does not wait yet. -/
structure Notify.Lawful (notifies : Notify) (idle : notifies.State → Prop)
    (awaits : notifies.State → notifies.Notified → Prop) : Prop where
  /-- No task awaits a new notification. -/
  new : idle notifies.new
  /-- A call makes no task await it. -/
  idleOne : ∀ state, idle state → idle (notifies.notifyOne state)
  /-- Nor does the other. -/
  idleAll : ∀ state, idle state → idle (notifies.notifyWaiters state)
  /-- A task starts to await. -/
  notified : ∀ state, idle state → awaits state (notifies.notified state)
  /-- A call does not end that. -/
  awaitsOne : ∀ state future, awaits state future → awaits (notifies.notifyOne state) future
  /-- Nor does the other. -/
  awaitsAll : ∀ state future, awaits state future → awaits (notifies.notifyWaiters state) future
  /-- One call wakes it. -/
  one : ∀ state future, awaits state future →
    (notifies.poll (notifies.notifyOne state) future).1 = true
  /-- So does the other. -/
  all : ∀ state future, awaits state future →
    (notifies.poll (notifies.notifyWaiters state) future).1 = true
  /-- As long as it is not woken, it awaits. -/
  waits : ∀ state future, awaits state future → (notifies.poll state future).1 = false →
    awaits (notifies.poll state future).2.1 (notifies.poll state future).2.2
  /-- A task that was woken awaits no more. -/
  woken : ∀ state future, awaits state future → (notifies.poll state future).1 = true →
    idle (notifies.poll state future).2.1
  /-- A task that gave up awaits no more. -/
  drop : ∀ state future, awaits state future → idle (notifies.drop state future)

/-- The task that waits, or was woken and does not know yet. -/
inductive Waiter where
  /-- It waits. -/
  | waiting
  /-- It was woken by `notify_one`. -/
  | one
  /-- It was woken by `notify_waiters`. -/
  | all
  deriving DecidableEq

/-- Notifications with at most one waiting task, as they are documented. -/
structure SingleNotify where
  /-- Whether the next task need not wait. -/
  permit : Bool
  /-- Number of calls of `notify_waiters`. -/
  calls : Nat
  /-- The task. -/
  waiter : Option Waiter

/-- What such a task awaits. -/
inductive SingleNotified where
  /-- It does not wait yet; the number of calls was read. -/
  | started (calls : Nat)
  /-- It waits. -/
  | queued

/-- `notify_one` wakes the task, or is remembered. -/
def SingleNotify.notifyOne (state : SingleNotify) : SingleNotify :=
  if state.waiter = some .waiting then { state with waiter := some .one }
  else { state with permit := true }

/-- `notify_waiters` wakes the task, and one that does not wait yet. -/
def SingleNotify.notifyWaiters (state : SingleNotify) : SingleNotify where
  permit := state.permit
  calls := state.calls + 1
  waiter := if state.waiter = some .waiting then some .all else state.waiter

/-- `poll`. -/
def SingleNotify.poll (state : SingleNotify) :
    SingleNotified → Bool × SingleNotify × SingleNotified
  | .started calls =>
    if state.permit then (true, { state with permit := false }, .started calls)
    else if state.calls ≠ calls then (true, state, .started calls)
    else (false, { state with waiter := some .waiting }, .queued)
  | .queued =>
    if state.waiter = some .waiting then (false, state, .queued)
    else (true, { state with waiter := none }, .queued)

/-- `drop` — what the task does not know yet is left to the next one. -/
def SingleNotify.drop (state : SingleNotify) : SingleNotified → SingleNotify
  | .started _ => state
  | .queued => { state with
      permit := state.permit || state.waiter = some .one
      waiter := none }

/-- The notifications that are documented, with at most one waiting task. -/
def Notify.single : Notify where
  State := SingleNotify
  Notified := SingleNotified
  new := ⟨false, 0, none⟩
  notified state := .started state.calls
  notifyOne := SingleNotify.notifyOne
  notifyWaiters := SingleNotify.notifyWaiters
  poll := SingleNotify.poll
  drop := SingleNotify.drop

/-- Whether the task awaits. -/
def SingleNotify.Awaits (state : SingleNotify) : SingleNotified → Prop
  | .started calls => state.waiter = none ∧ calls ≤ state.calls
  | .queued => state.waiter ≠ none

/-- What is documented of a notification on which only `notify_waiters` is called, for any number
of tasks: what a task awaits has come if and only if there was a call since it started to
await. -/
structure Notify.Broadcasts (notifies : Notify) (plain : notifies.State → Prop)
    (calls : notifies.State → Nat) (since : notifies.Notified → Nat) : Prop where
  /-- `notify_one` was not called on a new notification. -/
  new : plain notifies.new
  /-- Nor by the other call, -/
  plainAll : ∀ state, plain state → plain (notifies.notifyWaiters state)
  /-- by a task that goes on waiting, -/
  plainPoll : ∀ state future, plain state → plain (notifies.poll state future).2.1
  /-- or by one that gave up. -/
  plainDrop : ∀ state future, plain state → plain (notifies.drop state future)
  /-- A task starts to await. -/
  notified : ∀ state, since (notifies.notified state) = calls state
  /-- Calls are counted. -/
  all : ∀ state, calls (notifies.notifyWaiters state) = calls state + 1
  /-- Waiting is no call, -/
  callsPoll : ∀ state future, calls (notifies.poll state future).2.1 = calls state
  /-- nor is giving up. -/
  callsDrop : ∀ state future, calls (notifies.drop state future) = calls state
  /-- A task that goes on waiting awaits what it awaited. -/
  waits : ∀ state future, since (notifies.poll state future).2.2 = since future
  /-- It is woken by a call. -/
  woken : ∀ state future, plain state →
    (notifies.poll state future).1 = decide (since future < calls state)

/-- Notifications that count calls. -/
structure CountedNotify where
  /-- Whether the next task need not wait. -/
  permit : Bool
  /-- Number of calls of `notify_waiters`. -/
  calls : Nat

/-- `poll`. -/
def CountedNotify.poll (state : CountedNotify) (since : Nat) : Bool × CountedNotify × Nat :=
  if state.permit then (true, { state with permit := false }, since)
  else (decide (since < state.calls), state, since)

/-- The notifications that are documented, as far as tasks are woken by `notify_waiters`. -/
def Notify.counted : Notify where
  State := CountedNotify
  Notified := Nat
  new := ⟨false, 0⟩
  notified state := state.calls
  notifyOne state := { state with permit := true }
  notifyWaiters state := { state with calls := state.calls + 1 }
  poll := CountedNotify.poll
  drop state _ := state

end Focsq.Dispatcher
