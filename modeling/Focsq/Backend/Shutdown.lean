import Mathlib.Data.List.Sort
import Focsq.Backend.Notify
import Focsq.Backend.Protocol
import Focsq.Lib.Tasks

/-!
# Coordinated shutdown

When the client stops, each of its sessions wants the server to disconnect. `ShutdownCoordinator` of
`session.rs` lets the first one lead: it sends the request over the stream that was active last, and
once more over the next one if there is no answer. The other sessions wait until there is one, or
until the leader gives up.

Any number of tasks use the coordinator at once. What one of them does under the mutex is one atomic
step, but the leader holds the mutex over several: what it reads of each stream is written without
the mutex.
-/

namespace Focsq.Session

open Dispatcher Protocol

/-- `DISCONNECT_CONTROL_ATTEMPTS`. -/
def disconnectControlAttempts : Nat := 2

/-- `ShutdownControlStream` — a stream that the request can be sent over. -/
structure ShutdownControlStream (ω : Type) where
  /-- Incarnation of the session. -/
  incarnationId : UInt64
  /-- The sender of commands to its writer. -/
  writer : ω
  /-- The cell with its last activity. -/
  activity : Nat
  deriving DecidableEq

/-- `ShutdownState` — what the mutex protects. -/
structure ShutdownState (ω : Type) where
  /-- Whether there is a leader. -/
  active : Bool
  /-- Whether there was an answer, or the leader gave up. -/
  completed : Bool
  /-- The streams. -/
  streams : List (ShutdownControlStream ω)
  deriving DecidableEq

/-- `ShutdownCoordinator`. -/
structure ShutdownCoordinator (notifies : Notify) (ω : Type) where
  /-- What the mutex protects. -/
  state : ShutdownState ω
  /-- Whether a task holds the mutex. -/
  locked : Bool
  /-- What the sessions wait for. -/
  changed : notifies.State
  /-- The next activity. -/
  nextActivity : UInt64
  /-- The cells with the last activity of all streams there have been. -/
  activities : List UInt64

variable {notifies : Notify} {ω : Type}

/-- `ShutdownCoordinator::new`. -/
def ShutdownCoordinator.new (notifies : Notify) (ω : Type) : ShutdownCoordinator notifies ω where
  state := ⟨false, false, []⟩
  locked := false
  changed := notifies.new
  nextActivity := 1
  activities := []

/-- `next_activity`. -/
def ShutdownCoordinator.takeActivity (coordinator : ShutdownCoordinator notifies ω) :
    ShutdownCoordinator notifies ω × UInt64 :=
  ({ coordinator with nextActivity := coordinator.nextActivity + 1 },
    max coordinator.nextActivity 1)

/-- The part of `request_disconnect` that elects a leader. -/
def ShutdownState.elect (state : ShutdownState ω) : ShutdownState ω × Bool :=
  if state.active then (state, false)
  else ({ state with active := true, completed := false }, true)

/-- The part of `register` under the mutex. -/
def ShutdownState.register (state : ShutdownState ω) (stream : ShutdownControlStream ω) :
    ShutdownState ω :=
  if !state.active then { state with streams := state.streams ++ [stream] } else state

/-- `unregister`. -/
def ShutdownState.unregister (state : ShutdownState ω) (incarnationId : UInt64) :
    ShutdownState ω :=
  { state with
    streams := state.streams.filter fun stream => stream.incarnationId != incarnationId }

/-- The part of `complete` under the mutex. -/
def ShutdownState.complete (state : ShutdownState ω) : ShutdownState ω × Bool :=
  if state.completed then (state, false) else ({ state with completed := true }, true)

/-- The part of `observe_control_response` under the mutex. -/
def ShutdownState.observe (state : ShutdownState ω) : ShutdownState ω × Bool :=
  if !state.active || state.completed then (state, false)
  else ({ state with completed := true }, true)

/-- The part of `observe_control_response` about the response. -/
def endsShutdown (response : List UInt8) : Bool :=
  response == ascii "OK:disconnected" || (ascii "DENIED:").isPrefixOf response

/-- `observe_control_response`, when no other task comes in between. -/
def ShutdownCoordinator.observeControlResponse (coordinator : ShutdownCoordinator notifies ω)
    (response : List UInt8) : ShutdownCoordinator notifies ω × Bool :=
  if endsShutdown response then
    match coordinator.state.observe with
    | (state, true) =>
      ({ coordinator with state, changed := notifies.notifyWaiters coordinator.changed }, true)
    | (_, false) => (coordinator, false)
  else (coordinator, false)

/-- A stream comes first that was active later; among equals, the later incarnation. -/
def moreRecent (left right : UInt64 × ShutdownControlStream ω) : Prop :=
  right.1 < left.1 ∨ right.1 = left.1 ∧ right.2.incarnationId ≤ left.2.incarnationId

instance decidableMoreRecent (left right : UInt64 × ShutdownControlStream ω) :
    Decidable (moreRecent left right) := by
  unfold moreRecent
  infer_instance

/-- The part of `control_streams` after all streams have been read. -/
def orderStreams (read : List (UInt64 × ShutdownControlStream ω)) :
    List (ShutdownControlStream ω) := (read.insertionSort moreRecent).map Prod.snd

section Tasks

variable (notifies) in
/-- Where a task is in `wait_until_completed`. -/
inductive WaitPlace where
  /-- It is to create the future. -/
  | creating
  /-- It is to read whether there was an answer. -/
  | checking (future : notifies.Notified)
  /-- It awaits. -/
  | awaiting (future : notifies.Notified)
  /-- The time is over. -/
  | expired
  /-- It has returned. -/
  | returned (completed : Bool)

/-- Whether the next step takes the mutex. -/
def WaitPlace.locks : WaitPlace notifies → Bool
  | .checking _ | .expired => true
  | .creating | .awaiting _ | .returned _ => false

/-- The next atomic step in `wait_until_completed`. -/
def WaitPlace.step (coordinator : ShutdownCoordinator notifies ω) (expired : Bool) :
    WaitPlace notifies → ShutdownCoordinator notifies ω × WaitPlace notifies
  | .creating => (coordinator, .checking (notifies.notified coordinator.changed))
  | .checking future =>
    if coordinator.state.completed then
      ({ coordinator with changed := notifies.drop coordinator.changed future }, .returned true)
    else (coordinator, .awaiting future)
  | .awaiting future =>
    match notifies.poll coordinator.changed future with
    | (true, changed, _) => ({ coordinator with changed }, .creating)
    | (false, changed, future) =>
      if expired then ({ coordinator with changed := notifies.drop changed future }, .expired)
      else ({ coordinator with changed }, .awaiting future)
  | .expired => (coordinator, .returned coordinator.state.completed)
  | .returned completed => (coordinator, .returned completed)

variable (notifies ω) in
/-- Where a task is in `request_disconnect`. -/
inductive RequestPlace where
  /-- It is to find out whether it leads. -/
  | electing
  /-- It does not, and waits. -/
  | following (wait : WaitPlace notifies)
  /-- It is to take the mutex in `control_streams`. -/
  | collecting
  /-- It holds the mutex, and has read the activity of some streams. -/
  | reading (left : List (ShutdownControlStream ω))
      (read : List (UInt64 × ShutdownControlStream ω))
  /-- At the next stream. -/
  | choosing (left : List (ShutdownControlStream ω))
  /-- It is to send the request over a stream. -/
  | sending (stream : ShutdownControlStream ω) (left : List (ShutdownControlStream ω))
  /-- It waits until the request is delivered. -/
  | delivering (left : List (ShutdownControlStream ω))
  /-- It waits for an answer. -/
  | acknowledging (wait : WaitPlace notifies) (left : List (ShutdownControlStream ω))
  /-- It is to complete. -/
  | completing
  /-- It has completed, and is to wake the others. -/
  | notifying
  /-- It has returned. -/
  | returned

/-- Whether the next step takes the mutex. -/
def RequestPlace.locks : RequestPlace notifies ω → Bool
  | .electing | .collecting | .completing => true
  | .choosing left => !left.isEmpty
  | .following wait | .acknowledging wait _ => wait.locks
  | .reading _ _ | .sending _ _ | .delivering _ | .notifying | .returned => false

/-- What the tasks do. -/
inductive ShutdownEvent (ω : Type) where
  /-- A task becomes the leader. -/
  | elected
  /-- The leader is to read the activity of all streams there are. -/
  | collected (streams : List (ShutdownControlStream ω))
  /-- It reads that of one of them. -/
  | read (activity : UInt64) (stream : ShutdownControlStream ω)
  /-- It sends a request. -/
  | requested (stream : ShutdownControlStream ω) (request : String)
  /-- A task wakes those that wait. -/
  | notified
  deriving DecidableEq

variable (notifies ω) in
/-- A task in `request_disconnect`. -/
structure RequestCall where
  /-- The device. -/
  deviceId : String
  /-- Its salt. -/
  salt : String
  /-- Where it is. -/
  place : RequestPlace notifies ω

/-- The next atomic step in `request_disconnect`. The input says whether the time is over, whether
the queue of the writer takes the request, or whether the writer has sent it. -/
def RequestCall.step (coordinator : ShutdownCoordinator notifies ω)
    (call : RequestCall notifies ω) (input : Bool) :
    ShutdownCoordinator notifies ω × RequestCall notifies ω × Option (ShutdownEvent ω) :=
  match call.place with
  | .electing =>
    match coordinator.state.elect with
    | (state, true) =>
      ({ coordinator with state }, { call with place := .collecting }, some .elected)
    | (_, false) => (coordinator, { call with place := .following .creating }, none)
  | .following wait =>
    ((wait.step coordinator input).1,
      { call with place := .following (wait.step coordinator input).2 }, none)
  | .collecting =>
    ({ coordinator with locked := true },
      { call with place := .reading coordinator.state.streams [] },
      some (.collected coordinator.state.streams))
  | .reading [] read =>
    ({ coordinator with locked := false },
      { call with place := .choosing ((orderStreams read).take disconnectControlAttempts) }, none)
  | .reading (stream :: left) read =>
    let activity := coordinator.activities[stream.activity]?.getD 0
    (coordinator, { call with place := .reading left (read ++ [(activity, stream)]) },
      some (.read activity stream))
  | .choosing [] => (coordinator, { call with place := .completing }, none)
  | .choosing (stream :: left) =>
    if coordinator.state.completed then (coordinator, { call with place := .completing }, none)
    else (coordinator, { call with place := .sending stream left }, none)
  | .sending stream left =>
    if input then
      (coordinator, { call with place := .delivering left },
        some (.requested stream (disconnectRequest call.deviceId call.salt)))
    else (coordinator, { call with place := .choosing left }, none)
  | .delivering left =>
    if input then (coordinator, { call with place := .acknowledging .creating left }, none)
    else (coordinator, { call with place := .choosing left }, none)
  | .acknowledging (.returned true) _ => (coordinator, { call with place := .completing }, none)
  | .acknowledging (.returned false) left =>
    (coordinator, { call with place := .choosing left }, none)
  | .acknowledging wait left =>
    ((wait.step coordinator input).1,
      { call with place := .acknowledging (wait.step coordinator input).2 left }, none)
  | .completing =>
    match coordinator.state.complete with
    | (state, true) => ({ coordinator with state }, { call with place := .notifying }, none)
    | (_, false) => (coordinator, { call with place := .returned }, none)
  | .notifying =>
    ({ coordinator with changed := notifies.notifyWaiters coordinator.changed },
      { call with place := .returned }, some .notified)
  | .returned => (coordinator, call, none)

/-- Where a task is in `observe_control_response`. -/
inductive ObservePlace where
  /-- It has a response. -/
  | observing (response : List UInt8)
  /-- It is to set that there was an answer. -/
  | setting
  /-- It is to wake those that wait. -/
  | notifying
  /-- It has returned. -/
  | returned (observed : Bool)
  deriving DecidableEq

/-- Where a task is in `register`. -/
inductive RegisterPlace where
  /-- It is to take the next activity. -/
  | counting
  /-- It has a cell for the activity. -/
  | adding (activity : Nat)
  /-- It has returned. -/
  | returned (activity : Nat)
  deriving DecidableEq

/-- Where a task is in `mark_activity`. -/
inductive MarkPlace where
  /-- It is to take the next activity. -/
  | counting
  /-- It is to store it. -/
  | storing (value : UInt64)
  /-- It has returned. -/
  | returned
  deriving DecidableEq

variable (notifies ω) in
/-- A task that uses the coordinator. -/
inductive ShutdownTask where
  /-- `request_disconnect`. -/
  | request (call : RequestCall notifies ω)
  /-- `observe_control_response`. -/
  | observe (place : ObservePlace)
  /-- `register`. -/
  | register (incarnationId : UInt64) (writer : ω) (place : RegisterPlace)
  /-- `unregister`. -/
  | unregister (incarnationId : UInt64) (returned : Bool)
  /-- `mark_activity`. -/
  | mark (activity : Nat) (place : MarkPlace)

/-- Whether the next step takes the mutex. -/
def ShutdownTask.locks : ShutdownTask notifies ω → Bool
  | .request call => call.place.locks
  | .observe place => place == .setting
  | .register _ _ (.adding _) => true
  | .register _ _ _ => false
  | .unregister _ returned => !returned
  | .mark _ _ => false

/-- The next atomic step, when the mutex is free or not needed. -/
def ShutdownTask.proceed (coordinator : ShutdownCoordinator notifies ω)
    (task : ShutdownTask notifies ω) (input : Bool) :
    ShutdownCoordinator notifies ω × ShutdownTask notifies ω × Option (ShutdownEvent ω) :=
  match task with
  | .request call =>
    ((call.step coordinator input).1, .request (call.step coordinator input).2.1,
      (call.step coordinator input).2.2)
  | .observe (.observing response) =>
    (coordinator, .observe (if endsShutdown response then .setting else .returned false), none)
  | .observe .setting =>
    match coordinator.state.observe with
    | (state, true) => ({ coordinator with state }, .observe .notifying, none)
    | (_, false) => (coordinator, .observe (.returned false), none)
  | .observe .notifying =>
    ({ coordinator with changed := notifies.notifyWaiters coordinator.changed },
      .observe (.returned true), some .notified)
  | .observe (.returned observed) => (coordinator, .observe (.returned observed), none)
  | .register incarnationId writer .counting =>
    ({ coordinator.takeActivity.1 with
        activities := coordinator.activities ++ [coordinator.takeActivity.2] },
      .register incarnationId writer (.adding coordinator.activities.length), none)
  | .register incarnationId writer (.adding activity) =>
    ({ coordinator with state := coordinator.state.register { incarnationId, writer, activity } },
      .register incarnationId writer (.returned activity), none)
  | .register incarnationId writer (.returned activity) =>
    (coordinator, .register incarnationId writer (.returned activity), none)
  | .unregister incarnationId returned =>
    if returned then (coordinator, .unregister incarnationId returned, none)
    else
      ({ coordinator with state := coordinator.state.unregister incarnationId },
        .unregister incarnationId true, none)
  | .mark activity .counting =>
    (coordinator.takeActivity.1, .mark activity (.storing coordinator.takeActivity.2), none)
  | .mark activity (.storing value) =>
    ({ coordinator with activities := coordinator.activities.set activity value },
      .mark activity .returned, none)
  | .mark activity .returned => (coordinator, .mark activity .returned, none)

/-- The next atomic step; a task that needs the mutex waits while another one holds it. -/
def ShutdownTask.next (coordinator : ShutdownCoordinator notifies ω)
    (task : ShutdownTask notifies ω) (input : Bool) :
    ShutdownCoordinator notifies ω × ShutdownTask notifies ω × Option (ShutdownEvent ω) :=
  if coordinator.locked && task.locks then (coordinator, task, none)
  else task.proceed coordinator input

/-- What a task begins with. -/
inductive ShutdownBegin (ω : Type) where
  /-- `request_disconnect`. -/
  | requestDisconnect (deviceId salt : String)
  /-- `observe_control_response`. -/
  | observeControlResponse (response : List UInt8)
  /-- `register`. -/
  | register (incarnationId : UInt64) (writer : ω)
  /-- `unregister`. -/
  | unregister (incarnationId : UInt64)
  /-- `mark_activity`. -/
  | markActivity (activity : Nat)
  deriving DecidableEq

/-- A task begins. -/
def ShutdownTask.enter : ShutdownBegin ω → ShutdownTask notifies ω
  | .requestDisconnect deviceId salt => .request ⟨deviceId, salt, .electing⟩
  | .observeControlResponse response => .observe (.observing response)
  | .register incarnationId writer => .register incarnationId writer .counting
  | .unregister incarnationId => .unregister incarnationId false
  | .markActivity activity => .mark activity .counting

/-- Any number of tasks. -/
abbrev ShutdownPool (notifies : Notify) (ω : Type) : Type :=
  Tasks.Pool (ShutdownCoordinator notifies ω) (ShutdownTask notifies ω)

/-- No task has begun. -/
def ShutdownPool.new (notifies : Notify) (ω : Type) : ShutdownPool notifies ω :=
  ⟨.new notifies ω, []⟩

/-- One action. -/
abbrev ShutdownPool.step : ShutdownPool notifies ω → Tasks.Action (ShutdownBegin ω) Bool →
    ShutdownPool notifies ω × Option (ShutdownEvent ω) :=
  Tasks.Pool.step ShutdownTask.enter ShutdownTask.next

end Tasks

end Focsq.Session
