import Focsq.Verif.RepairSteps
import Focsq.Verif.Notify

/-!
# A worker that waits for a repair

A worker reads its generation, and then creates the future that it awaits. A repair that increments
the generation and notifies in between is missed: the worker is left parked, although its generation
has changed. It is never left parked if and only if whenever it creates the future, the generation
is still the one it observed, or a task is about to notify.
-/

namespace Focsq.Repair

open Dispatcher Protocol

variable {notifies : Notify}

section Statement

/-- A task is about to notify a worker. -/
def RepairTask.notifiesWorker (workerId : Nat) : RepairTask notifies → Bool
  | .repair call => call.place == .notifying workerId
  | .wait _ => false

/-- Some task is about to notify a worker. -/
def RepairPool.attended (pool : RepairPool notifies) (workerId : Nat) : Bool :=
  pool.tasks.any (RepairTask.notifiesWorker workerId)

/-- A worker awaits, its generation is not the one it observed, and no task is about to notify. -/
def RepairTask.leftParked (pool : RepairPool notifies) : RepairTask notifies → Bool
  | .wait ⟨workerId, observed, .awaiting future⟩ =>
    (pool.shared.slot workerId).any fun slot =>
      slot.restartGeneration != observed && !(notifies.poll slot.notify future).1 &&
        !pool.attended workerId
  | _ => false

/-- Some worker is left parked. -/
def LeftParked (pool : RepairPool notifies) : Prop := pool.tasks.any (·.leftParked pool) = true

instance decidableLeftParked (pool : RepairPool notifies) : Decidable (LeftParked pool) := by
  unfold LeftParked
  infer_instance

/-- A worker that is about to create the future has the generation it observed, or a task is about
to notify it. -/
def RepairTask.inTime (pool : RepairPool notifies) : RepairTask notifies → Bool
  | .wait ⟨workerId, observed, .same⟩ =>
    (pool.shared.slot workerId).all fun slot =>
      slot.restartGeneration == observed || pool.attended workerId
  | _ => true

/-- A task that makes a step is in time. -/
def RepairPool.InTime (pool : RepairPool notifies) : Tasks.Action RepairBegin Unit → Prop
  | .begin _ => True
  | .step index _ => (pool.tasks[index]?).all (·.inTime pool) = true

instance decidableInTime (pool : RepairPool notifies) (action : Tasks.Action RepairBegin Unit) :
    Decidable (pool.InTime action) := by
  cases action with
  | begin call => exact .isTrue trivial
  | step index input =>
    unfold RepairPool.InTime
    infer_instance

end Statement

section Invariant

variable {plain : notifies.State → Prop} {calls : notifies.State → Nat}
  {since : notifies.Notified → Nat}

/-- A worker that awaits has missed no call, and is woken or attended when its generation is not
the one it observed. -/
structure Awaited (calls : notifies.State → Nat) (since : notifies.Notified → Nat)
    (pool : RepairPool notifies) (call : ChangedCall notifies) : Prop where
  /-- It does not await a call of the past. -/
  early : ∀ future slot, call.place = .awaiting future →
    pool.shared.slot call.workerId = some slot → since future ≤ calls slot.notify
  /-- It is woken, or attended. -/
  attended : ∀ future slot, call.place = .awaiting future →
    pool.shared.slot call.workerId = some slot → slot.restartGeneration ≠ call.observed →
      since future < calls slot.notify ∨ pool.attended call.workerId = true

/-- All workers that await are. -/
structure Attentive (plain : notifies.State → Prop) (calls : notifies.State → Nat)
    (since : notifies.Notified → Nat) (pool : RepairPool notifies) : Prop where
  /-- `notify_one` is not called. -/
  plain : ∀ workerId slot, pool.shared.slot workerId = some slot → plain slot.notify
  /-- Workers wait as they should. -/
  awaited : ∀ call, RepairTask.wait call ∈ pool.tasks → Awaited calls since pool call

/-- Then none is left parked. -/
theorem Attentive.not_leftParked {pool : RepairPool notifies}
    (broadcasts : notifies.Broadcasts plain calls since)
    (attentive : Attentive plain calls since pool) : ¬LeftParked pool := by
  intro parked
  obtain ⟨task, member, left⟩ := List.any_eq_true.mp parked
  cases task with
  | repair call => cases left
  | wait call =>
    obtain ⟨workerId, observed, place⟩ := call
    cases place with
    | reading | same | returned => cases left
    | awaiting future =>
      cases present : pool.shared.slot workerId with
      | none => simp [RepairTask.leftParked, present] at left
      | some slot =>
        simp only [RepairTask.leftParked, present, Option.any_some, Bool.and_eq_true, bne_iff_ne,
          Bool.not_eq_true'] at left
        obtain ⟨⟨changed, asleep⟩, unattended⟩ := left
        rw [broadcasts.woken slot.notify future (attentive.plain workerId slot present),
          decide_eq_false_iff_not] at asleep
        rcases (attentive.awaited _ member).attended future slot rfl present changed with
          woken | attended
        · exact asleep woken
        · rw [attended] at unattended
          cases unattended

/-- What a step of `apply_repair` does to a slot. -/
theorem RepairCall.Moves.slot {state after : RepairState notifies} {call moved : RepairCall}
    {event : Option RepairEvent} (moves : call.Moves state after moved event) {workerId : Nat}
    {new : RepairSlot notifies} (present : after.slot workerId = some new) :
    ∃ old, state.slot workerId = some old ∧
      (new.restartGeneration = old.restartGeneration ∨ moved.place = .notifying workerId) ∧
      (new.notify = old.notify ∧
          (call.place = .notifying workerId → moved.place = .notifying workerId) ∨
        new.notify = notifies.notifyWaiters old.notify) := by
  -- A step that leaves the generation and the notification, and is not about to notify.
  have kept {other : Nat} {old slot : RepairSlot notifies} (there : state.slot other = some old)
      (same : after = state.put other slot)
      (generation : slot.restartGeneration = old.restartGeneration)
      (notify : slot.notify = old.notify) (place : ∀ worker, call.place ≠ .notifying worker) :
      ∃ old, state.slot workerId = some old ∧
        (new.restartGeneration = old.restartGeneration ∨ moved.place = .notifying workerId) ∧
        (new.notify = old.notify ∧
            (call.place = .notifying workerId → moved.place = .notifying workerId) ∨
          new.notify = notifies.notifyWaiters old.notify) := by
    rw [same] at present
    by_cases equal : workerId = other
    · rw [equal, slot_put there, Option.some.injEq] at present
      subst present
      exact ⟨old, equal ▸ there, .inl generation, .inl ⟨notify, fun at_place =>
        absurd at_place (place _)⟩⟩
    · rw [slot_put_other equal] at present
      exact ⟨new, present, .inl rfl, .inl ⟨rfl, fun at_place => absurd at_place (place _)⟩⟩
  -- A step that leaves all slots, and is not about to notify.
  have still (there : state.slot workerId = some new) (place : call.place ≠ .notifying workerId) :
      ∃ old, state.slot workerId = some old ∧
        (new.restartGeneration = old.restartGeneration ∨ moved.place = .notifying workerId) ∧
        (new.notify = old.notify ∧
            (call.place = .notifying workerId → moved.place = .notifying workerId) ∨
          new.notify = notifies.notifyWaiters old.notify) :=
    ⟨new, there, .inl rfl, .inl ⟨rfl, fun at_place => absurd at_place place⟩⟩
  cases moves with
  | stay => exact ⟨new, present, .inl rfl, .inl ⟨rfl, id⟩⟩
  | skip worker left place first absent => exact still present (by simp [place])
  | read worker left slot place first there => exact still present (by simp [place])
  | refuse worker current place old => exact still present (by simp [place])
  | retry worker current slot place there => exact still present (by simp [place])
  | escalates worker previous place => exact still present (by simp [place])
  | resolved worker previous place => exact still present (by simp [place])
  | exchange worker slot place newer there => exact kept there rfl rfl rfl (by simp [place])
  | reset worker slot place there => exact kept there rfl rfl rfl (by simp [place])
  | restart worker slot place there =>
    by_cases equal : workerId = worker
    · rw [equal, slot_put there, Option.some.injEq] at present
      subst present
      exact ⟨slot, equal ▸ there, .inr (equal ▸ rfl), .inl ⟨rfl, fun _ => equal ▸ rfl⟩⟩
    · rw [slot_put_other equal] at present
      exact ⟨new, present, .inl rfl, .inl ⟨rfl, by simp [place]⟩⟩
  | wake worker slot place there =>
    by_cases equal : workerId = worker
    · rw [equal, slot_put there, Option.some.injEq] at present
      subst present
      exact ⟨slot, equal ▸ there, .inl rfl, .inr rfl⟩
    · rw [slot_put_other equal] at present
      have elsewhere : call.place ≠ .notifying workerId := by
        rw [place]
        exact fun same => equal (RepairPlace.notifying.inj same).symm
      exact ⟨new, present, .inl rfl, .inl ⟨rfl, fun at_place => absurd at_place elsewhere⟩⟩

/-- A step of `apply_repair` leaves no worker parked. -/
theorem Attentive.repair (broadcasts : notifies.Broadcasts plain calls since)
    {state after : RepairState notifies} {front back : List (RepairTask notifies)}
    {call moved : RepairCall} {event : Option RepairEvent}
    (attentive : Attentive plain calls since ⟨state, front ++ .repair call :: back⟩)
    (moves : call.Moves state after moved event) :
    Attentive plain calls since ⟨after, front ++ .repair moved :: back⟩ where
  plain := fun workerId slot present => by
    obtain ⟨old, there, _, ⟨same, _⟩ | notified⟩ := moves.slot present
    · rw [same]
      exact attentive.plain workerId old there
    · rw [notified]
      exact broadcasts.plainAll _ (attentive.plain workerId old there)
  awaited := fun other member => by
    have before : RepairTask.wait other ∈ front ++ .repair call :: back := by
      simpa using member
    have awaited := attentive.awaited other before
    refine ⟨fun future slot place present => ?_, fun future slot place present changed => ?_⟩
    · obtain ⟨old, there, _, ⟨same, _⟩ | notified⟩ := moves.slot present
      · rw [same]
        exact awaited.early future old place there
      · rw [notified, broadcasts.all]
        exact Nat.le_succ_of_le (awaited.early future old place there)
    · obtain ⟨old, there, generation, notify⟩ := moves.slot present
      have early := awaited.early future old place there
      rcases generation with same | notifying
      · rcases notify with ⟨kept, still⟩ | notified
        · rw [kept]
          refine (awaited.attended future old place there (same ▸ changed)).imp_right fun soon => ?_
          simp only [RepairPool.attended, List.any_append, List.any_cons, Bool.or_eq_true,
            RepairTask.notifiesWorker, beq_iff_eq] at soon ⊢
          exact soon.imp_right (Or.imp_left still)
        · rw [notified, broadcasts.all]
          exact .inl (Nat.lt_succ_of_le early)
      · refine .inr ?_
        simp only [RepairPool.attended, List.any_append, List.any_cons, Bool.or_eq_true,
          RepairTask.notifiesWorker, beq_iff_eq]
        exact .inr (.inl notifying)

/-- What a step of `changed` does to a slot. -/
theorem ChangedCall.step_slot (broadcasts : notifies.Broadcasts plain calls since)
    {state : RepairState notifies} {call : ChangedCall notifies} {workerId : Nat}
    {new : RepairSlot notifies} (present : (call.step state).1.slot workerId = some new) :
    ∃ old, state.slot workerId = some old ∧ new.restartGeneration = old.restartGeneration ∧
      calls new.notify = calls old.notify ∧ (plain old.notify → plain new.notify) := by
  cases there : state.slot call.workerId with
  | none =>
    simp only [ChangedCall.step, there] at present
    exact ⟨new, present, rfl, rfl, id⟩
  | some slot =>
    cases place : call.place with
    | reading =>
      simp only [ChangedCall.step, there, place] at present
      have same : state.slot workerId = some new := by
        by_cases changed : slot.restartGeneration ≠ call.observed
        · rwa [if_pos changed] at present
        · rwa [if_neg changed] at present
      exact ⟨new, same, rfl, rfl, id⟩
    | same =>
      simp only [ChangedCall.step, there, place] at present
      exact ⟨new, present, rfl, rfl, id⟩
    | returned =>
      simp only [ChangedCall.step, there, place] at present
      exact ⟨new, present, rfl, rfl, id⟩
    | awaiting future =>
      have polled : (call.step state).1 = state.put call.workerId
          { slot with notify := (notifies.poll slot.notify future).2.1 } := by
        rcases result : notifies.poll slot.notify future with ⟨_ | _, notify, later⟩
        · simp only [ChangedCall.step, there, place, result]
        · simp only [ChangedCall.step, there, place, result]
      rw [polled] at present
      by_cases equal : workerId = call.workerId
      · rw [equal, slot_put there, Option.some.injEq] at present
        subst present
        exact ⟨slot, equal ▸ there, rfl, broadcasts.callsPoll _ _, broadcasts.plainPoll _ _⟩
      · rw [slot_put_other equal] at present
        exact ⟨new, present, rfl, rfl, id⟩

/-- Waiting notifies nobody. -/
theorem attended_wait (front back : List (RepairTask notifies)) (state after : RepairState notifies)
    (call moved : ChangedCall notifies) (workerId : Nat) :
    RepairPool.attended ⟨after, front ++ .wait moved :: back⟩ workerId =
      RepairPool.attended ⟨state, front ++ .wait call :: back⟩ workerId := by
  simp [RepairPool.attended, RepairTask.notifiesWorker]

/-- A worker that awaits what it awaited is not disturbed by another one that waits. -/
theorem Awaited.kept (broadcasts : notifies.Broadcasts plain calls since)
    {state : RepairState notifies} {front back : List (RepairTask notifies)}
    {call other : ChangedCall notifies}
    (before : Awaited calls since ⟨state, front ++ .wait call :: back⟩ other) :
    Awaited calls since
      ⟨(call.step state).1, front ++ .wait (call.step state).2 :: back⟩ other where
  early := fun future slot place present => by
    obtain ⟨old, there, _, same, _⟩ := ChangedCall.step_slot broadcasts present
    rw [same]
    exact before.early future old place there
  attended := fun future slot place present changed => by
    obtain ⟨old, there, generation, same, _⟩ := ChangedCall.step_slot broadcasts present
    rw [same, attended_wait front back state]
    exact before.attended future old place there (generation ▸ changed)

/-- A worker that does not await is not left parked. -/
theorem Awaited.elsewhere {pool : RepairPool notifies} {call : ChangedCall notifies}
    (place : ∀ future, call.place ≠ .awaiting future) : Awaited calls since pool call :=
  ⟨fun future _ at_place => absurd at_place (place future),
    fun future _ at_place => absurd at_place (place future)⟩

/-- A worker that creates the future awaits, if it is in time. -/
theorem Awaited.created (broadcasts : notifies.Broadcasts plain calls since)
    {state : RepairState notifies} {front back : List (RepairTask notifies)}
    {workerId : Nat} {observed : UInt64} {slot : RepairSlot notifies}
    (there : state.slot workerId = some slot)
    (inTime : RepairTask.inTime ⟨state, front ++ .wait ⟨workerId, observed, .same⟩ :: back⟩
      (.wait ⟨workerId, observed, .same⟩) = true) :
    Awaited calls since
      ⟨state, front ++ .wait ⟨workerId, observed, .awaiting (notifies.notified slot.notify)⟩ :: back⟩
      ⟨workerId, observed, .awaiting (notifies.notified slot.notify)⟩ := by
  have began (future : notifies.Notified) (new : RepairSlot notifies)
      (awaits : ChangedPlace.awaiting (notifies.notified slot.notify) = .awaiting future)
      (present : state.slot workerId = some new) :
      new = slot ∧ since future = calls slot.notify := by
    cases awaits
    rw [there, Option.some.injEq] at present
    exact ⟨present.symm, broadcasts.notified slot.notify⟩
  simp only [RepairTask.inTime, there, Option.all_some, Bool.or_eq_true, beq_iff_eq] at inTime
  refine ⟨fun future new awaits present => ?_, fun future new awaits present changed => ?_⟩
  · obtain ⟨rfl, fresh⟩ := began future new awaits present
    exact Nat.le_of_eq fresh
  · obtain ⟨rfl, _⟩ := began future new awaits present
    rcases inTime with unchanged | attended
    · exact absurd unchanged changed
    · rw [attended_wait front back state state]
      exact .inr attended

/-- A worker that makes a step in time is not left parked. -/
theorem Awaited.step (broadcasts : notifies.Broadcasts plain calls since)
    {state : RepairState notifies} {front back : List (RepairTask notifies)}
    {call : ChangedCall notifies}
    (here : Awaited calls since ⟨state, front ++ .wait call :: back⟩ call)
    (inTime : (RepairTask.wait call).inTime ⟨state, front ++ .wait call :: back⟩ = true) :
    Awaited calls since
      ⟨(call.step state).1, front ++ .wait (call.step state).2 :: back⟩
      (call.step state).2 := by
  cases there : state.slot call.workerId with
  | none =>
    have stays : call.step state = (state, call) := by simp only [ChangedCall.step, there]
    rw [stays]
    exact here
  | some slot =>
    cases place : call.place with
    | reading =>
      simp only [ChangedCall.step, there, place]
      by_cases changed : slot.restartGeneration ≠ call.observed
      · rw [if_pos changed]
        exact .elsewhere fun future wrong => by cases wrong
      · rw [if_neg changed]
        exact .elsewhere fun future wrong => by cases wrong
    | returned =>
      simp only [ChangedCall.step, there, place]
      exact .elsewhere fun future => by simp [place]
    | same =>
      obtain ⟨workerId, observed, at_place⟩ := call
      cases place
      simp only [ChangedCall.step, there]
      exact .created broadcasts there inTime
    | awaiting future =>
      rcases polled : notifies.poll slot.notify future with ⟨_ | _, notify, later⟩
      · -- It goes on waiting for the same call.
        have same : since later = since future := by
          rw [← broadcasts.waits slot.notify future, polled]
        have moved : (call.step state).2 = { call with place := .awaiting later } := by
          simp only [ChangedCall.step, there, place, polled]
        have before := Awaited.kept broadcasts here
        rw [moved] at before ⊢
        refine ⟨fun other new awaits present => ?_, fun other new awaits present changed => ?_⟩
        · cases awaits
          rw [same]
          exact before.early future new place present
        · cases awaits
          rw [same]
          exact before.attended future new place present changed
      · simp only [ChangedCall.step, there, place, polled]
        exact .elsewhere fun future wrong => by cases wrong

/-- A step of `changed` that is in time leaves no worker parked. -/
theorem Attentive.wait (broadcasts : notifies.Broadcasts plain calls since)
    {state : RepairState notifies} {front back : List (RepairTask notifies)}
    {call : ChangedCall notifies}
    (attentive : Attentive plain calls since ⟨state, front ++ .wait call :: back⟩)
    (inTime : (RepairTask.wait call).inTime ⟨state, front ++ .wait call :: back⟩ = true) :
    Attentive plain calls since
      ⟨(call.step state).1, front ++ .wait (call.step state).2 :: back⟩ where
  plain := fun workerId slot present => by
    obtain ⟨old, there, _, _, kept⟩ := ChangedCall.step_slot broadcasts present
    exact kept (attentive.plain workerId old there)
  awaited := fun other member => by
    rcases Tasks.mem_replaced member with same | old
    · cases same
      exact (attentive.awaited call (List.mem_append_right _ List.mem_cons_self)).step broadcasts
        inTime
    · exact (attentive.awaited other old).kept broadcasts

/-- An action that is in time leaves no worker parked. -/
theorem Attentive.step (broadcasts : notifies.Broadcasts plain calls since)
    {pool : RepairPool notifies} (attentive : Attentive plain calls since pool)
    {action : Tasks.Action RepairBegin Unit} (inTime : pool.InTime action) :
    Attentive plain calls since (pool.step action).1 := by
  cases action with
  | begin call =>
    refine ⟨attentive.plain, fun other member => ?_⟩
    have more (workerId : Nat) (attended : pool.attended workerId = true) :
        (pool.step (.begin call)).1.attended workerId = true := by
      show (pool.tasks ++ [RepairTask.enter call]).any (RepairTask.notifiesWorker workerId) = true
      rw [List.any_append, Bool.or_eq_true]
      exact .inl attended
    rcases List.mem_append.mp member with old | new
    · have before := attentive.awaited other old
      exact ⟨before.early, fun future slot place present changed =>
        (before.attended future slot place present changed).imp_right (more _)⟩
    · cases call with
      | applyRepair command => simp [RepairTask.enter] at new
      | changed workerId observed =>
        simp only [RepairTask.enter, List.mem_singleton, RepairTask.wait.injEq] at new
        rw [new]
        exact .elsewhere fun future wrong => by cases wrong
  | step index input =>
    cases here : pool.tasks[index]? with
    | none =>
      have stays : (pool.step (.step index input)).1 = pool := by
        simp only [Tasks.Pool.step, here]
      rw [stays]
      exact attentive
    | some task =>
      obtain ⟨state, tasks⟩ := pool
      obtain ⟨front, back, split, stepped⟩ := Tasks.step_task RepairTask.enter RepairTask.next here
        input
      subst split
      have moved := congrArg Prod.fst stepped
      rw [moved]
      cases task with
      | repair call => exact attentive.repair broadcasts (call.step_moves state)
      | wait call =>
        simp only [RepairPool.InTime, here, Option.all_some] at inTime
        exact attentive.wait broadcasts inTime

/-- A worker that creates the future too late is left parked. -/
theorem leftParked_of_late (broadcasts : notifies.Broadcasts plain calls since)
    {pool : RepairPool notifies} (attentive : Attentive plain calls since pool)
    {action : Tasks.Action RepairBegin Unit} (late : ¬pool.InTime action) :
    LeftParked (pool.step action).1 := by
  cases action with
  | begin call => exact absurd trivial late
  | step index input =>
    cases here : pool.tasks[index]? with
    | none => simp [RepairPool.InTime, here] at late
    | some task =>
      simp only [RepairPool.InTime, here, Option.all_some] at late
      obtain ⟨state, tasks⟩ := pool
      obtain ⟨front, back, split, stepped⟩ := Tasks.step_task RepairTask.enter RepairTask.next here
        input
      subst split
      cases task with
      | repair call => exact absurd rfl late
      | wait call =>
        obtain ⟨workerId, observed, place⟩ := call
        cases place with
        | reading | awaiting | returned => exact absurd rfl late
        | same =>
          cases there : state.slot workerId with
          | none => simp [RepairTask.inTime, there] at late
          | some slot =>
            simp only [RepairTask.inTime, there, Option.all_some, Bool.or_eq_true, beq_iff_eq,
              not_or, Bool.not_eq_true] at late
            have asleep : (notifies.poll slot.notify (notifies.notified slot.notify)).1 = false := by
              rw [broadcasts.woken _ _ (attentive.plain workerId slot there),
                broadcasts.notified, decide_eq_false_iff_not]
              exact Nat.lt_irrefl _
            have moved : (RepairPool.step
                ⟨state, front ++ .wait ⟨workerId, observed, .same⟩ :: back⟩
                (.step index input)).1 = ⟨state, front ++ .wait ⟨workerId, observed,
                  .awaiting (notifies.notified slot.notify)⟩ :: back⟩ := by
              rw [congrArg Prod.fst stepped]
              simp only [RepairTask.next, ChangedCall.step, there]
            rw [moved]
            have unattended := late.2
            rw [attended_wait front back state state
              ⟨workerId, observed, .awaiting (notifies.notified slot.notify)⟩] at unattended
            refine List.any_eq_true.mpr
              ⟨_, List.mem_append_right _ List.mem_cons_self, ?_⟩
            simp only [RepairTask.leftParked, there, Option.any_some, asleep, unattended,
              Bool.and_eq_true, bne_iff_ne, Bool.not_false, and_true]
            exact late.1

/-- In a new pool nobody waits. -/
theorem attentive_new (broadcasts : notifies.Broadcasts plain calls since) (desiredCount : Nat) :
    Attentive plain calls since (RepairPool.new notifies desiredCount) where
  plain := fun workerId slot present => by
    have member : slot ∈ (RepairState.new notifies desiredCount).slots := by
      have there : (RepairState.new notifies desiredCount).slot workerId = some slot := present
      rw [RepairState.slot] at there
      by_cases used : workerId ≠ 0
      · rw [if_pos used] at there
        exact List.mem_of_getElem? there
      · rw [if_neg used] at there
        cases there
    rw [List.eq_of_mem_replicate member]
    exact broadcasts.new
  awaited := fun _ member => absurd member List.not_mem_nil

/-- No worker is ever left parked, if and only if whenever a worker creates the future that it
awaits, its generation is the one it observed, or a task is about to notify it. -/
theorem never_leftParked_iff (broadcasts : notifies.Broadcasts plain calls since)
    (desiredCount : Nat) (actions : List (Tasks.Action RepairBegin Unit)) :
    (∀ begun, begun <+: actions →
      ¬LeftParked (Mealy.final RepairPool.step (.new notifies desiredCount) begun)) ↔
      Mealy.Along RepairPool.step RepairPool.InTime (.new notifies desiredCount) actions := by
  have start := attentive_new broadcasts desiredCount
  have agree (pool : RepairPool notifies) (action : Tasks.Action RepairBegin Unit)
      (attentive : Attentive plain calls since pool) :
      ¬LeftParked (pool.step action).1 ↔ pool.InTime action := by
    constructor
    · intro attended
      by_contra late
      exact attended (leftParked_of_late broadcasts attentive late)
    · exact fun inTime => (attentive.step broadcasts inTime).not_leftParked broadcasts
  have along : Mealy.Along RepairPool.step
      (fun pool action => ¬LeftParked (RepairPool.step pool action).1)
      (.new notifies desiredCount) actions ↔
        Mealy.Along RepairPool.step RepairPool.InTime (.new notifies desiredCount) actions :=
    Mealy.along_congr (Attentive plain calls since)
      (fun pool action attentive attended =>
        attentive.step broadcasts ((agree pool action attentive).mp attended))
      agree _ actions start
  have reached := @Mealy.forall_final_iff _ _ _ (@RepairPool.step notifies)
    (fun pool => ¬LeftParked pool) (.new notifies desiredCount) actions
  rw [← along, reached]
  exact and_iff_right (start.not_leftParked broadcasts)

end Invariant

section Runs

/-- A worker waits, and is restarted. -/
def restartedRun : List (Tasks.Action RepairBegin Unit) :=
  [.begin (.changed 1 0), .step 0 (), .step 0 (), .step 0 (), .begin (.applyRepair ⟨1, 9, [1]⟩),
    .step 1 (), .step 1 (), .step 1 (), .step 1 (), .step 1 (), .step 0 (), .step 0 ()]

/-- It is not left parked. -/
theorem restartedRun_woken :
    ¬LeftParked (Mealy.final RepairPool.step (.new Notify.counted 9) restartedRun) :=
  (never_leftParked_iff Notify.counted_broadcasts 9 restartedRun).mpr (by decide +kernel) _
    (List.prefix_refl _)

/-- A worker reads its generation, and is restarted before it creates the future. -/
def missedRun : List (Tasks.Action RepairBegin Unit) :=
  [.begin (.changed 1 0), .step 0 (), .begin (.applyRepair ⟨1, 9, [1]⟩), .step 1 (), .step 1 (),
    .step 1 (), .step 1 (), .step 1 (), .step 1 (), .step 0 (), .step 0 ()]

/-- The task has ended, and the worker is left parked. -/
theorem missedRun_parked :
    LeftParked (Mealy.final RepairPool.step (.new Notify.counted 9) missedRun) ∧
      (Mealy.final RepairPool.step (.new Notify.counted 9)
        missedRun).shared.restartGeneration 1 = 1 := by
  decide +kernel

end Runs

end Focsq.Repair
