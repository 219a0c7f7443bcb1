import Mathlib.Logic.Relation
import Focsq.Backend.Shutdown

/-!
# Steps of a shutdown

What one step of a task can do, seen from three sides: to the mutex and what it protects, by the
role of the task; to the cells of the streams; and to what tasks wait for. Each invariant of the
coordinator is derived from one of these.
-/

namespace Focsq.Session

open Dispatcher Protocol

variable {notifies : Notify} {ω : Type}

section Roles

/-- How far the leader is. -/
inductive Phase (ω : Type) where
  /-- It is to take the mutex. -/
  | collecting
  /-- It holds the mutex, and has read the activity of some streams. -/
  | reading (left : List (ShutdownControlStream ω))
      (read : List (UInt64 × ShutdownControlStream ω))
  /-- It sends to the streams that are left. -/
  | sending (left : List (ShutdownControlStream ω))
  /-- It sends no more. -/
  | finished

/-- What part a task has. -/
inductive Role (ω : Type) where
  /-- It does not request to disconnect. -/
  | other
  /-- It is not decided. -/
  | electing
  /-- It follows. -/
  | following
  /-- It leads. -/
  | leading (phase : Phase ω)

/-- The role of a task in `request_disconnect`. -/
def RequestPlace.role : RequestPlace notifies ω → Role ω
  | .electing => .electing
  | .following _ => .following
  | .collecting => .leading .collecting
  | .reading left read => .leading (.reading left read)
  | .choosing left | .delivering left | .acknowledging _ left => .leading (.sending left)
  | .sending stream left => .leading (.sending (stream :: left))
  | .completing | .notifying | .returned => .leading .finished

/-- The role of a task. -/
def ShutdownTask.role : ShutdownTask notifies ω → Role ω
  | .request call => call.place.role
  | .observe _ | .register _ _ _ | .unregister _ _ | .mark _ _ => .other

/-- What a step does to the mutex and what it protects. -/
inductive ShutdownTask.Moves (coordinator : ShutdownCoordinator notifies ω)
    (task : ShutdownTask notifies ω) :
    ShutdownCoordinator notifies ω → ShutdownTask notifies ω → Option (ShutdownEvent ω) → Prop
  /-- Nothing. -/
  | quiet {after : ShutdownCoordinator notifies ω} {moved : ShutdownTask notifies ω}
      {event : Option (ShutdownEvent ω)} (state : after.state = coordinator.state)
      (mutex : after.locked = coordinator.locked) (role : moved.role = task.role)
      (silent : event = none ∨ event = some .notified) : Moves coordinator task after moved event
  /-- The first task leads. -/
  | elect {moved : ShutdownTask notifies ω} (free : coordinator.locked = false)
      (inactive : coordinator.state.active = false) (role : task.role = .electing)
      (leads : moved.role = .leading .collecting) :
    Moves coordinator task
      { coordinator with state := { coordinator.state with active := true, completed := false } }
      moved (some .elected)
  /-- Another one follows. -/
  | follow {moved : ShutdownTask notifies ω} (active : coordinator.state.active = true)
      (role : task.role = .electing) (follows : moved.role = .following) :
    Moves coordinator task coordinator moved none
  /-- The leader takes the mutex. -/
  | collect {moved : ShutdownTask notifies ω} (free : coordinator.locked = false)
      (role : task.role = .leading .collecting)
      (reads : moved.role = .leading (.reading coordinator.state.streams [])) :
    Moves coordinator task { coordinator with locked := true } moved
      (some (.collected coordinator.state.streams))
  /-- It reads the activity of a stream. -/
  | read {stream : ShutdownControlStream ω} {left : List (ShutdownControlStream ω)}
      {earlier : List (UInt64 × ShutdownControlStream ω)} {moved : ShutdownTask notifies ω}
      (role : task.role = .leading (.reading (stream :: left) earlier))
      (reads : moved.role = .leading (.reading left
        (earlier ++ [(coordinator.activities[stream.activity]?.getD 0, stream)]))) :
    Moves coordinator task coordinator moved
      (some (.read (coordinator.activities[stream.activity]?.getD 0) stream))
  /-- It releases the mutex. -/
  | release {earlier : List (UInt64 × ShutdownControlStream ω)} {moved : ShutdownTask notifies ω}
      (role : task.role = .leading (.reading [] earlier))
      (sends : moved.role =
        .leading (.sending ((orderStreams earlier).take disconnectControlAttempts))) :
    Moves coordinator task { coordinator with locked := false } moved none
  /-- It sends a request. -/
  | request {stream : ShutdownControlStream ω} {left : List (ShutdownControlStream ω)}
      {text : String} {moved : ShutdownTask notifies ω}
      (role : task.role = .leading (.sending (stream :: left)))
      (sends : moved.role = .leading (.sending left)) :
    Moves coordinator task coordinator moved (some (.requested stream text))
  /-- A request is not sent. -/
  | skip {stream : ShutdownControlStream ω} {left : List (ShutdownControlStream ω)}
      {moved : ShutdownTask notifies ω} (role : task.role = .leading (.sending (stream :: left)))
      (sends : moved.role = .leading (.sending left)) : Moves coordinator task coordinator moved none
  /-- It sends no more. -/
  | finish {left : List (ShutdownControlStream ω)} {moved : ShutdownTask notifies ω}
      (role : task.role = .leading (.sending left)) (ends : moved.role = .leading .finished) :
    Moves coordinator task coordinator moved none
  /-- There was an answer, or the leader gives up. -/
  | complete {moved : ShutdownTask notifies ω} (free : coordinator.locked = false)
      (incomplete : coordinator.state.completed = false)
      (active : coordinator.state.active = true ∨ task.role = .leading .finished)
      (role : moved.role = task.role) :
    Moves coordinator task
      { coordinator with state := { coordinator.state with completed := true } } moved none
  /-- A stream is added. -/
  | add {stream : ShutdownControlStream ω} {moved : ShutdownTask notifies ω}
      (free : coordinator.locked = false) (inactive : coordinator.state.active = false)
      (role : moved.role = task.role) :
    Moves coordinator task
      { coordinator with
        state := { coordinator.state with streams := coordinator.state.streams ++ [stream] } }
      moved none
  /-- Streams are removed. -/
  | remove {incarnationId : UInt64} {moved : ShutdownTask notifies ω}
      (free : coordinator.locked = false) (role : moved.role = task.role) :
    Moves coordinator task
      { coordinator with state := coordinator.state.unregister incarnationId } moved none

/-- Waiting changes nothing but what is waited for. -/
theorem WaitPlace.step_fst (coordinator : ShutdownCoordinator notifies ω) (expired : Bool)
    (wait : WaitPlace notifies) :
    ∃ changed, (wait.step coordinator expired).1 = { coordinator with changed } := by
  cases wait with
  | creating | expired | returned => exact ⟨coordinator.changed, rfl⟩
  | checking future =>
    simp only [WaitPlace.step]
    by_cases completed : coordinator.state.completed = true
    · rw [if_pos completed]
      exact ⟨_, rfl⟩
    · rw [if_neg completed]
      exact ⟨coordinator.changed, rfl⟩
  | awaiting future =>
    simp only [WaitPlace.step]
    rcases notifies.poll coordinator.changed future with ⟨ready, changed, later⟩
    cases ready with
    | true => exact ⟨changed, rfl⟩
    | false => cases expired <;> exact ⟨_, rfl⟩

/-- A step in `request_disconnect`, when the mutex is free or not needed. -/
theorem RequestCall.step_moves (coordinator : ShutdownCoordinator notifies ω)
    (call : RequestCall notifies ω) (input : Bool)
    (free : call.place.locks = true → coordinator.locked = false) :
    (ShutdownTask.request call).Moves coordinator (call.step coordinator input).1
      (.request (call.step coordinator input).2.1) (call.step coordinator input).2.2 := by
  obtain ⟨deviceId, salt, place⟩ := call
  have waits (wait : WaitPlace notifies) :
      (wait.step coordinator input).1.state = coordinator.state ∧
        (wait.step coordinator input).1.locked = coordinator.locked := by
    obtain ⟨changed, same⟩ := wait.step_fst coordinator input
    rw [same]
    exact ⟨rfl, rfl⟩
  cases place with
  | electing =>
    simp only [RequestCall.step, ShutdownState.elect]
    cases active : coordinator.state.active with
    | true => exact .follow active rfl rfl
    | false => exact .elect (free rfl) active rfl rfl
  | following wait => exact .quiet (waits wait).1 (waits wait).2 rfl (.inl rfl)
  | collecting => exact .collect (free rfl) rfl rfl
  | reading left read =>
    cases left with
    | nil => exact .release rfl rfl
    | cons stream left => exact .read rfl rfl
  | choosing left =>
    cases left with
    | nil => exact .finish rfl rfl
    | cons stream left =>
      simp only [RequestCall.step]
      by_cases completed : coordinator.state.completed = true
      · rw [if_pos completed]
        exact .finish rfl rfl
      · rw [if_neg completed]
        exact .quiet rfl rfl rfl (.inl rfl)
  | sending stream left =>
    cases input with
    | true => exact .request rfl rfl
    | false => exact .skip rfl rfl
  | delivering left => cases input <;> exact .quiet rfl rfl rfl (.inl rfl)
  | acknowledging wait left =>
    cases wait with
    | returned completed =>
      cases completed with
      | true => exact .finish rfl rfl
      | false => exact .quiet rfl rfl rfl (.inl rfl)
    | creating | checking | awaiting | expired =>
      exact .quiet (waits _).1 (waits _).2 rfl (.inl rfl)
  | completing =>
    simp only [RequestCall.step, ShutdownState.complete]
    cases completed : coordinator.state.completed with
    | true => exact .quiet rfl rfl rfl (.inl rfl)
    | false => exact .complete (free rfl) completed (.inr rfl) rfl
  | notifying => exact .quiet rfl rfl rfl (.inr rfl)
  | returned => exact .quiet rfl rfl rfl (.inl rfl)

/-- A step of a task does one of these. -/
theorem ShutdownTask.next_moves (coordinator : ShutdownCoordinator notifies ω)
    (task : ShutdownTask notifies ω) (input : Bool) :
    task.Moves coordinator (task.next coordinator input).1 (task.next coordinator input).2.1
      (task.next coordinator input).2.2 := by
  unfold ShutdownTask.next
  by_cases blocked : (coordinator.locked && task.locks) = true
  · rw [if_pos blocked]
    exact .quiet rfl rfl rfl (.inl rfl)
  · rw [if_neg blocked]
    have free (locks : task.locks = true) : coordinator.locked = false := by
      simpa [locks] using blocked
    cases task with
    | request call => exact call.step_moves coordinator input free
    | observe place =>
      cases place with
      | setting =>
        simp only [ShutdownTask.proceed, ShutdownState.observe]
        by_cases late : (!coordinator.state.active || coordinator.state.completed) = true
        · rw [if_pos late]
          exact .quiet rfl rfl rfl (.inl rfl)
        · rw [if_neg late]
          have waiting : coordinator.state.active = true ∧ coordinator.state.completed = false := by
            simpa using late
          exact .complete (free rfl) waiting.2 (.inl waiting.1) rfl
      | notifying => exact .quiet rfl rfl rfl (.inr rfl)
      | observing | returned => exact .quiet rfl rfl rfl (.inl rfl)
    | register incarnationId writer place =>
      cases place with
      | adding activity =>
        simp only [ShutdownTask.proceed, ShutdownState.register]
        by_cases active : coordinator.state.active = true
        · rw [active]
          exact .quiet rfl rfl rfl (.inl rfl)
        · have inactive : (!coordinator.state.active) = true := by simpa using active
          rw [if_pos inactive]
          exact .add (free rfl) (Bool.not_eq_true _ |>.mp active) rfl
      | counting | returned => exact .quiet rfl rfl rfl (.inl rfl)
    | unregister incarnationId returned =>
      cases returned with
      | true => exact .quiet rfl rfl rfl (.inl rfl)
      | false => exact .remove (free rfl) rfl
    | mark activity place =>
      cases place <;> exact .quiet rfl rfl rfl (.inl rfl)

end Roles

section Cells

/-- The cell that a task is about to add. -/
def ShutdownTask.cell : ShutdownTask notifies ω → Option Nat
  | .register _ _ (.adding activity) => some activity
  | .register _ _ .counting | .register _ _ (.returned _) => none
  | .request _ | .observe _ | .unregister _ _ | .mark _ _ => none

/-- What a step does to the cells. -/
inductive ShutdownTask.CellMoves (coordinator : ShutdownCoordinator notifies ω)
    (task : ShutdownTask notifies ω) :
    ShutdownCoordinator notifies ω → ShutdownTask notifies ω → Prop
  /-- No stream is added. -/
  | keep {after : ShutdownCoordinator notifies ω} {moved : ShutdownTask notifies ω}
      (streams : after.state.streams.Sublist coordinator.state.streams)
      (length : after.activities.length = coordinator.activities.length)
      (cell : moved.cell = task.cell) : CellMoves coordinator task after moved
  /-- There is a new cell. -/
  | create {after : ShutdownCoordinator notifies ω} {moved : ShutdownTask notifies ω}
      (streams : after.state.streams = coordinator.state.streams)
      (length : after.activities.length = coordinator.activities.length + 1)
      (none : task.cell = none) (cell : moved.cell = some coordinator.activities.length) :
    CellMoves coordinator task after moved
  /-- It is added with its stream, or not. -/
  | add {after : ShutdownCoordinator notifies ω} {moved : ShutdownTask notifies ω}
      {stream : ShutdownControlStream ω}
      (streams : after.state.streams.Sublist (coordinator.state.streams ++ [stream]))
      (length : after.activities.length = coordinator.activities.length)
      (cell : task.cell = some stream.activity) (none : moved.cell = none) :
    CellMoves coordinator task after moved

/-- A request leaves streams and cells alone. -/
theorem RequestCall.step_streams (coordinator : ShutdownCoordinator notifies ω)
    (call : RequestCall notifies ω) (input : Bool) :
    (call.step coordinator input).1.state.streams = coordinator.state.streams ∧
      (call.step coordinator input).1.activities = coordinator.activities := by
  obtain ⟨deviceId, salt, place⟩ := call
  have waits (wait : WaitPlace notifies) :
      (wait.step coordinator input).1.state.streams = coordinator.state.streams ∧
        (wait.step coordinator input).1.activities = coordinator.activities := by
    obtain ⟨changed, same⟩ := wait.step_fst coordinator input
    rw [same]
    exact ⟨rfl, rfl⟩
  cases place with
  | electing =>
    simp only [RequestCall.step, ShutdownState.elect]
    cases coordinator.state.active <;> exact ⟨rfl, rfl⟩
  | following wait => exact waits wait
  | collecting | notifying | returned => exact ⟨rfl, rfl⟩
  | reading left read => cases left <;> exact ⟨rfl, rfl⟩
  | choosing left =>
    cases left with
    | nil => exact ⟨rfl, rfl⟩
    | cons stream left =>
      simp only [RequestCall.step]
      by_cases completed : coordinator.state.completed = true
      · rw [if_pos completed]
        exact ⟨rfl, rfl⟩
      · rw [if_neg completed]
        exact ⟨rfl, rfl⟩
  | sending stream left => cases input <;> exact ⟨rfl, rfl⟩
  | delivering left => cases input <;> exact ⟨rfl, rfl⟩
  | acknowledging wait left =>
    cases wait with
    | returned completed => cases completed <;> exact ⟨rfl, rfl⟩
    | creating | checking | awaiting | expired => exact waits _
  | completing =>
    simp only [RequestCall.step, ShutdownState.complete]
    cases coordinator.state.completed <;> exact ⟨rfl, rfl⟩

/-- A step of a task does one of these to the cells. -/
theorem ShutdownTask.next_cells (coordinator : ShutdownCoordinator notifies ω)
    (task : ShutdownTask notifies ω) (input : Bool) :
    task.CellMoves coordinator (task.next coordinator input).1 (task.next coordinator input).2.1 := by
  have same {streams others : List (ShutdownControlStream ω)} (equal : streams = others) :
      streams.Sublist others := equal ▸ List.Sublist.refl _
  unfold ShutdownTask.next
  by_cases blocked : (coordinator.locked && task.locks) = true
  · rw [if_pos blocked]
    exact .keep (same rfl) rfl rfl
  · rw [if_neg blocked]
    cases task with
    | request call =>
      obtain ⟨streams, activities⟩ := call.step_streams coordinator input
      exact .keep (same streams) (congrArg List.length activities) rfl
    | observe place =>
      cases place with
      | setting =>
        simp only [ShutdownTask.proceed, ShutdownState.observe]
        cases (!coordinator.state.active || coordinator.state.completed) <;>
          exact .keep (same rfl) rfl rfl
      | observing | notifying | returned => exact .keep (same rfl) rfl rfl
    | register incarnationId writer place =>
      cases place with
      | counting => exact .create rfl List.length_append rfl rfl
      | adding activity =>
        have added : (coordinator.state.register ⟨incarnationId, writer, activity⟩).streams.Sublist
            (coordinator.state.streams ++ [⟨incarnationId, writer, activity⟩]) := by
          unfold ShutdownState.register
          cases coordinator.state.active with
          | true => exact List.sublist_append_left _ _
          | false => exact List.Sublist.refl _
        exact .add added rfl rfl rfl
      | returned activity => exact .keep (same rfl) rfl rfl
    | unregister incarnationId returned =>
      cases returned with
      | true => exact .keep (same rfl) rfl rfl
      | false => exact .keep List.filter_sublist rfl rfl
    | mark activity place =>
      cases place with
      | counting | returned => exact .keep (same rfl) rfl rfl
      | storing value => exact .keep (same rfl) List.length_set rfl

end Cells

section Waits

/-- What a task awaits, or is about to. -/
def WaitPlace.awaited : WaitPlace notifies → Option notifies.Notified
  | .checking future | .awaiting future => some future
  | .creating | .expired | .returned _ => none

/-- What a task is parked on. -/
def WaitPlace.parked : WaitPlace notifies → Option notifies.Notified
  | .awaiting future => some future
  | .creating | .checking _ | .expired | .returned _ => none

/-- The place in `wait_until_completed`. -/
def ShutdownTask.wait : ShutdownTask notifies ω → Option (WaitPlace notifies)
  | .request ⟨_, _, .following wait⟩ | .request ⟨_, _, .acknowledging wait _⟩ => some wait
  | .request _ | .observe _ | .register _ _ _ | .unregister _ _ | .mark _ _ => none

/-- What a task awaits, or is about to. -/
def ShutdownTask.awaited (task : ShutdownTask notifies ω) : Option notifies.Notified :=
  task.wait.bind WaitPlace.awaited

/-- What a task is parked on. -/
def ShutdownTask.parked (task : ShutdownTask notifies ω) : Option notifies.Notified :=
  task.wait.bind WaitPlace.parked

/-- A task is about to wake those that wait. -/
def ShutdownTask.signals : ShutdownTask notifies ω → Bool
  | .request ⟨_, _, .notifying⟩ | .observe .notifying => true
  | .request _ | .observe _ | .register _ _ _ | .unregister _ _ | .mark _ _ => false

variable {plain : notifies.State → Prop} {calls : notifies.State → Nat}
  {since : notifies.Notified → Nat}

/-- What a step in `wait_until_completed` does. -/
structure WaitPlace.Effect (plain : notifies.State → Prop) (calls : notifies.State → Nat)
    (since : notifies.Notified → Nat) (coordinator : ShutdownCoordinator notifies ω)
    (wait : WaitPlace notifies) (after : ShutdownCoordinator notifies ω)
    (moved : WaitPlace notifies) : Prop where
  /-- `notify_one` is not called, -/
  quiet : plain after.changed
  /-- nor `notify_waiters`. -/
  counted : calls after.changed = calls coordinator.changed
  /-- A future is not of a later time. -/
  early : (∀ future, wait.awaited = some future → since future ≤ calls coordinator.changed) →
    ∀ future, moved.awaited = some future → since future ≤ calls coordinator.changed
  /-- A task does not park when it is too late. -/
  parked : ∀ future, moved.parked = some future → coordinator.state.completed = true →
    ∃ old, wait.parked = some old ∧ since future = since old

/-- A step in `wait_until_completed`. -/
theorem WaitPlace.step_effect (broadcasts : notifies.Broadcasts plain calls since)
    (coordinator : ShutdownCoordinator notifies ω) (wait : WaitPlace notifies) (expired : Bool)
    (quiet : plain coordinator.changed) :
    wait.Effect plain calls since coordinator (wait.step coordinator expired).1
      (wait.step coordinator expired).2 := by
  cases wait with
  | creating =>
    refine ⟨quiet, rfl, fun _ future awaits => ?_, fun future awaits => by cases awaits⟩
    rw [← Option.some.inj awaits, broadcasts.notified]
  | checking future =>
    simp only [WaitPlace.step]
    by_cases completed : coordinator.state.completed = true
    · rw [if_pos completed]
      exact ⟨broadcasts.plainDrop _ _ quiet, broadcasts.callsDrop _ _,
        fun _ future awaits => (by cases awaits), fun future awaits => (by cases awaits)⟩
    · rw [if_neg completed]
      exact ⟨quiet, rfl, fun early other awaits => early other awaits,
        fun other _ late => absurd late completed⟩
  | awaiting future =>
    have still := broadcasts.plainPoll coordinator.changed future quiet
    have counted := broadcasts.callsPoll coordinator.changed future
    have kept := broadcasts.waits coordinator.changed future
    simp only [WaitPlace.step]
    generalize notifies.poll coordinator.changed future = polled at still counted kept
    obtain ⟨ready, changed, later⟩ := polled
    cases ready with
    | true =>
      exact ⟨still, counted, fun _ future awaits => (by cases awaits),
        fun future awaits => (by cases awaits)⟩
    | false =>
      cases expired with
      | true =>
        exact ⟨broadcasts.plainDrop _ _ still, (broadcasts.callsDrop _ _).trans counted,
          fun _ future awaits => (by cases awaits), fun future awaits => (by cases awaits)⟩
      | false =>
        refine ⟨still, counted, fun early other awaits => ?_, fun other parks _ => ?_⟩
        · rw [← Option.some.inj awaits, kept]
          exact early future rfl
        · exact ⟨future, rfl, by rw [← Option.some.inj parks, kept]⟩
  | expired =>
    exact ⟨quiet, rfl, fun _ future awaits => (by cases awaits),
      fun future awaits => (by cases awaits)⟩
  | returned completed =>
    exact ⟨quiet, rfl, fun _ future awaits => (by cases awaits),
      fun future awaits => (by cases awaits)⟩

/-- An event is that a task wakes those that wait. -/
def ShutdownEvent.isNotified : ShutdownEvent ω → Bool
  | .notified => true
  | .elected | .collected _ | .read _ _ | .requested _ _ => false

/-- What a step does to those that wait. -/
structure ShutdownTask.Effect (plain : notifies.State → Prop) (calls : notifies.State → Nat)
    (since : notifies.Notified → Nat) (coordinator : ShutdownCoordinator notifies ω)
    (task : ShutdownTask notifies ω) (after : ShutdownCoordinator notifies ω)
    (moved : ShutdownTask notifies ω) (event : Option (ShutdownEvent ω)) : Prop where
  /-- `notify_one` is not called. -/
  quiet : plain after.changed
  /-- A call of `notify_waiters` is an event. -/
  counted : calls after.changed =
    calls coordinator.changed + event.toList.countP ShutdownEvent.isNotified
  /-- Whoever completes is about to call it. -/
  balanced : (coordinator.state.completed = true → coordinator.state.active = true) →
    event.toList.countP ShutdownEvent.isNotified + moved.signals.toNat +
        coordinator.state.completed.toNat =
      task.signals.toNat + after.state.completed.toNat
  /-- A future is not of a later time. -/
  early : (∀ future, task.awaited = some future → since future ≤ calls coordinator.changed) →
    ∀ future, moved.awaited = some future → since future ≤ calls coordinator.changed
  /-- A task does not park when it is too late. -/
  parked : ∀ future, moved.parked = some future → coordinator.state.completed = true →
    ∃ old, task.parked = some old ∧ since future = since old

/-- A step that does not wait. -/
theorem ShutdownTask.Effect.still {coordinator after : ShutdownCoordinator notifies ω}
    {task moved : ShutdownTask notifies ω} {event : Option (ShutdownEvent ω)}
    (quiet : plain coordinator.changed) (changed : after.changed = coordinator.changed)
    (silent : event.toList.countP ShutdownEvent.isNotified = 0)
    (balanced : (coordinator.state.completed = true → coordinator.state.active = true) →
      moved.signals.toNat + coordinator.state.completed.toNat =
        task.signals.toNat + after.state.completed.toNat)
    (wait : moved.wait = task.wait ∨ ∀ future, moved.awaited ≠ some future) :
    task.Effect plain calls since coordinator after moved event := by
  have parks (future : notifies.Notified) (parks : moved.parked = some future) :
      moved.awaited = some future := by
    obtain ⟨place, here, parked⟩ := Option.bind_eq_some_iff.mp parks
    refine Option.bind_eq_some_iff.mpr ⟨place, here, ?_⟩
    cases place with
    | awaiting other => exact parked
    | creating | checking | expired | returned => cases parked
  refine ⟨changed ▸ quiet, by rw [changed, silent]; rfl, fun kept => ?_, ?_, ?_⟩
  · rw [silent, Nat.zero_add]
    exact balanced kept
  · intro early future awaits
    rcases wait with same | none
    · exact early future (by rw [← awaits, awaited, awaited, same])
    · exact absurd awaits (none future)
  · intro future parked _
    rcases wait with same | none
    · exact ⟨future, by rw [← parked, ShutdownTask.parked, ShutdownTask.parked, same], rfl⟩
    · exact absurd (parks future parked) (none future)

/-- A step in `wait_until_completed` is one of its task. -/
theorem ShutdownTask.Effect.ofWait {coordinator after : ShutdownCoordinator notifies ω}
    {task moved : ShutdownTask notifies ω} {place next : WaitPlace notifies}
    (effect : place.Effect plain calls since coordinator after next)
    (state : after.state = coordinator.state) (here : task.wait = some place)
    (there : moved.wait = some next) (signals : moved.signals = task.signals) :
    task.Effect plain calls since coordinator after moved none := by
  refine ⟨effect.quiet, effect.counted, fun _ => ?_, ?_, ?_⟩
  · rw [signals, state, Option.toList_none, List.countP_nil, Nat.zero_add]
  · simp only [ShutdownTask.awaited, here, there, Option.bind_some]
    exact effect.early
  · simp only [ShutdownTask.parked, here, there, Option.bind_some]
    exact effect.parked

/-- A step in `request_disconnect`. -/
theorem RequestCall.step_effect (broadcasts : notifies.Broadcasts plain calls since)
    (coordinator : ShutdownCoordinator notifies ω) (call : RequestCall notifies ω) (input : Bool)
    (quiet : plain coordinator.changed) :
    (ShutdownTask.request call).Effect plain calls since coordinator
      (call.step coordinator input).1 (.request (call.step coordinator input).2.1)
      (call.step coordinator input).2.2 := by
  obtain ⟨deviceId, salt, place⟩ := call
  have state (wait : WaitPlace notifies) :
      (wait.step coordinator input).1.state = coordinator.state := by
    obtain ⟨changed, same⟩ := wait.step_fst coordinator input
    rw [same]
  have none (place : RequestPlace notifies ω)
      (nowhere : (ShutdownTask.request ⟨deviceId, salt, place⟩).wait = none)
      (future : notifies.Notified) :
      (ShutdownTask.request ⟨deviceId, salt, place⟩).awaited ≠ some future := by
    rw [ShutdownTask.awaited, nowhere]
    exact fun awaits => by cases awaits
  cases place with
  | electing =>
    simp only [RequestCall.step, ShutdownState.elect]
    cases active : coordinator.state.active with
    | true => exact .still quiet rfl rfl (fun _ => rfl) (.inr fun future awaits => by cases awaits)
    | false =>
      refine .still quiet rfl rfl (fun kept => ?_) (.inr (none _ rfl))
      have incomplete : coordinator.state.completed = false := by
        simpa [active] using kept
      rw [incomplete]
      rfl
  | following wait =>
    exact .ofWait (wait.step_effect broadcasts coordinator input quiet) (state wait) rfl rfl rfl
  | collecting => exact .still quiet rfl rfl (fun _ => rfl) (.inr (none _ rfl))
  | reading left read =>
    cases left <;> exact .still quiet rfl rfl (fun _ => rfl) (.inr (none _ rfl))
  | choosing left =>
    cases left with
    | nil => exact .still quiet rfl rfl (fun _ => rfl) (.inr (none _ rfl))
    | cons stream left =>
      simp only [RequestCall.step]
      by_cases completed : coordinator.state.completed = true
      · rw [if_pos completed]
        exact .still quiet rfl rfl (fun _ => rfl) (.inr (none _ rfl))
      · rw [if_neg completed]
        exact .still quiet rfl rfl (fun _ => rfl) (.inr (none _ rfl))
  | sending stream left =>
    cases input <;> exact .still quiet rfl rfl (fun _ => rfl) (.inr (none _ rfl))
  | delivering left =>
    cases input with
    | true => exact .still quiet rfl rfl (fun _ => rfl) (.inr fun future awaits => by cases awaits)
    | false => exact .still quiet rfl rfl (fun _ => rfl) (.inr (none _ rfl))
  | acknowledging wait left =>
    cases wait with
    | returned completed =>
      cases completed <;> exact .still quiet rfl rfl (fun _ => rfl) (.inr (none _ rfl))
    | creating | checking | awaiting | expired =>
      exact .ofWait (WaitPlace.step_effect broadcasts coordinator _ input quiet) (state _) rfl rfl
        rfl
  | completing =>
    simp only [RequestCall.step, ShutdownState.complete]
    cases completed : coordinator.state.completed with
    | true =>
      refine .still quiet rfl rfl (fun _ => ?_) (.inr (none _ rfl))
      rfl
    | false =>
      refine .still quiet rfl rfl (fun _ => ?_) (.inr (none _ rfl))
      rw [completed]
      rfl
  | notifying =>
    refine ⟨broadcasts.plainAll _ quiet, broadcasts.all _, fun _ => ?_,
      fun _ future awaits => absurd awaits (none _ rfl future), fun future parks => by cases parks⟩
    exact Nat.add_right_cancel_iff.mpr rfl
  | returned => exact .still quiet rfl rfl (fun _ => rfl) (.inl rfl)

/-- A step of a task. -/
theorem ShutdownTask.next_effect (broadcasts : notifies.Broadcasts plain calls since)
    (coordinator : ShutdownCoordinator notifies ω) (task : ShutdownTask notifies ω) (input : Bool)
    (quiet : plain coordinator.changed) :
    task.Effect plain calls since coordinator (task.next coordinator input).1
      (task.next coordinator input).2.1 (task.next coordinator input).2.2 := by
  unfold ShutdownTask.next
  by_cases blocked : (coordinator.locked && task.locks) = true
  · rw [if_pos blocked]
    exact .still quiet rfl rfl (fun _ => rfl) (.inl rfl)
  · rw [if_neg blocked]
    cases task with
    | request call => exact call.step_effect broadcasts coordinator input quiet
    | observe place =>
      cases place with
      | observing response =>
        refine .still quiet rfl rfl (fun _ => ?_) (.inl rfl)
        simp only [ShutdownTask.proceed]
        by_cases ends : endsShutdown response = true
        · rw [if_pos ends]
          rfl
        · rw [if_neg ends]
          rfl
      | setting =>
        simp only [ShutdownTask.proceed, ShutdownState.observe]
        by_cases late : (!coordinator.state.active || coordinator.state.completed) = true
        · rw [if_pos late]
          exact .still quiet rfl rfl (fun _ => rfl) (.inl rfl)
        · rw [if_neg late]
          refine .still quiet rfl rfl (fun _ => ?_) (.inl rfl)
          have incomplete : coordinator.state.completed = false := by
            simpa using (not_or.mp fun other => late (Bool.or_eq_true_iff.mpr other)).2
          rw [incomplete]
          rfl
      | notifying =>
        refine ⟨broadcasts.plainAll _ quiet, broadcasts.all _, fun _ => ?_,
          fun _ future awaits => (by cases awaits), fun future parks => (by cases parks)⟩
        exact Nat.add_right_cancel_iff.mpr rfl
      | returned observed => exact .still quiet rfl rfl (fun _ => rfl) (.inl rfl)
    | register incarnationId writer place =>
      cases place with
      | adding activity =>
        refine .still quiet rfl rfl (fun _ => ?_) (.inl rfl)
        simp only [ShutdownTask.proceed, ShutdownState.register]
        cases coordinator.state.active <;> rfl
      | counting | returned => exact .still quiet rfl rfl (fun _ => rfl) (.inl rfl)
    | unregister incarnationId returned =>
      cases returned <;> exact .still quiet rfl rfl (fun _ => rfl) (.inl rfl)
    | mark activity place =>
      cases place <;> exact .still quiet rfl rfl (fun _ => rfl) (.inl rfl)

end Waits

section Alone

/-- One step of a task that is not interrupted. -/
def Follows (before after : ShutdownCoordinator notifies ω × ShutdownTask notifies ω) : Prop :=
  ((before.2.next before.1 false).1, (before.2.next before.1 false).2.1) = after

/-- When no other task comes in between, the steps of `observe_control_response` do what the whole
function does. -/
theorem follows_observeControlResponse (coordinator : ShutdownCoordinator notifies ω)
    (free : coordinator.locked = false) (response : List UInt8) :
    Relation.ReflTransGen Follows (coordinator, .observe (.observing response))
      ((coordinator.observeControlResponse response).1,
        .observe (.returned (coordinator.observeControlResponse response).2)) := by
  unfold ShutdownCoordinator.observeControlResponse
  by_cases ends : endsShutdown response = true
  · have first : Follows (coordinator, .observe (.observing response))
        (coordinator, .observe .setting) := by
      simp [Follows, ShutdownTask.next, ShutdownTask.locks, ShutdownTask.proceed, ends]
    rw [if_pos ends]
    refine .head first ?_
    cases observed : coordinator.state.observe with
    | mk state answered =>
      cases answered with
      | true =>
        have second : Follows (coordinator, .observe .setting)
            ({ coordinator with state }, .observe .notifying) := by
          simp [Follows, ShutdownTask.next, free, ShutdownTask.proceed, observed]
        have third : Follows ({ coordinator with state }, .observe .notifying)
            ({ coordinator with state, changed := notifies.notifyWaiters coordinator.changed },
              .observe (.returned true)) := by
          simp [Follows, ShutdownTask.next, free, ShutdownTask.proceed]
        exact .head second (.single third)
      | false =>
        refine .single ?_
        simp [Follows, ShutdownTask.next, free, ShutdownTask.proceed, observed]
  · rw [if_neg ends]
    refine .single ?_
    simp [Follows, ShutdownTask.next, free, ShutdownTask.proceed, ends]

end Alone

end Focsq.Session
