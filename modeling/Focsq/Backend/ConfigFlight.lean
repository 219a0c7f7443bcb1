import Focsq.Lib.Tasks

/-!
# Fetching the configuration

All workers can fetch the configuration from the server, and one of them is to do it. At the start
of a session, `worker_loop` of `worker.rs` takes a `ConfigFlightGuard`, which says whether it is
this worker. The session tells by `ConfigDeliveryState::complete` what became of its request. The
guard is dropped when the session has ended.

The two flags that the workers share are atomic, so every access to one of them is one step.
-/

namespace Focsq.ConfigFlight

/-- The flags that the workers share. -/
structure Flags where
  /-- `config_sent` — whether the configuration has been delivered. -/
  sent : Bool
  /-- `config_in_flight` — whether a worker is to fetch it. -/
  inFlight : Bool
  deriving DecidableEq

/-- Both flags are clear. -/
def Flags.new : Flags := ⟨false, false⟩

/-- `ConfigFlightGuard`. -/
structure ConfigFlightGuard where
  /-- Whether its worker fetches the configuration. -/
  acquired : Bool
  deriving DecidableEq

/-- The exchange in `ConfigFlightGuard::acquire`. -/
def Flags.exchange (flags : Flags) : Flags × ConfigFlightGuard :=
  if flags.inFlight then (flags, ⟨false⟩) else ({ flags with inFlight := true }, ⟨true⟩)

/-- `drop` of a guard. -/
def ConfigFlightGuard.drop (guard : ConfigFlightGuard) (flags : Flags) : Flags :=
  if guard.acquired then { flags with inFlight := false } else flags

/-- How a session ends. -/
inductive SessionResult where
  /-- Before its request is answered. -/
  | unanswered (failed : Bool)
  /-- By a request that fails. -/
  | rejected
  /-- After it was ready. -/
  | served (failed : Bool)
  deriving DecidableEq

/-- Whether the session was ready. -/
def SessionResult.wasReady : SessionResult → Bool
  | .served _ => true
  | .unanswered _ | .rejected => false

/-- Whether it returned an error. -/
def SessionResult.isErr : SessionResult → Bool
  | .unanswered failed | .served failed => failed
  | .rejected => true

/-- `should_refresh_configuration_after_full_outage`. -/
def shouldRefreshConfigurationAfterFullOutage (wasReady failed : Bool) (activeConnections : Int32)
    (cancelled : Bool) : Bool :=
  wasReady && failed && activeConnections == 0 && !cancelled

/-- Where a worker is in `worker_loop`. -/
inductive Worker where
  /-- It is to read whether the configuration has been delivered. -/
  | loading
  /-- It has not, and the worker is to exchange the other flag. -/
  | exchanging
  /-- Its session runs, and is to request the configuration. -/
  | requesting (guard : ConfigFlightGuard)
  /-- In `complete`, to store that the configuration has been delivered. -/
  | storing
  /-- In `complete`, to clear the other flag. -/
  | completing (accepted : Bool)
  /-- Its session is ready. -/
  | serving (guard : ConfigFlightGuard)
  /-- Its session has ended, and it is to drop the guard. -/
  | dropping (guard : ConfigFlightGuard) (result : SessionResult)
  /-- It is to find out whether there is a full outage. -/
  | checking (result : SessionResult)
  /-- There is, and it is to store that the configuration has to be delivered again. -/
  | refreshing
  /-- It is to begin again. -/
  | retrying
  /-- It has returned. -/
  | returned
  deriving DecidableEq

/-- What comes from outside a worker. -/
inductive Outside where
  /-- Nothing that matters. -/
  | going
  /-- `request_configuration` returns whether there was a configuration, or fails. -/
  | answered (answer : Except Unit Bool)
  /-- The session ends by itself. -/
  | ended (failed : Bool)
  /-- What is seen of the other workers. -/
  | seen (activeConnections : Int32) (cancelled : Bool)
  /-- The worker is to return. -/
  | returning
  deriving DecidableEq

/-- The part of `run_allocated_session` about the answer to the request. There is a
`ConfigDeliveryState` when the guard is acquired. -/
def ConfigFlightGuard.answered (guard : ConfigFlightGuard) : Except Unit Bool → Worker
  | .ok delivered =>
    if guard.acquired then
      if delivered then .storing else .completing true
    else .serving guard
  | .error () => if guard.acquired then .completing false else .dropping guard .rejected

/-- The next atomic step of a worker. What does not concern it leaves it where it is. -/
def Worker.next (flags : Flags) (worker : Worker) (input : Outside) :
    Flags × Worker × Option Empty :=
  match worker, input with
  | .loading, _ => (flags, if flags.sent then .requesting ⟨false⟩ else .exchanging, none)
  | .exchanging, _ => (flags.exchange.1, .requesting flags.exchange.2, none)
  | .requesting guard, .answered answer => (flags, guard.answered answer, none)
  | .requesting guard, .ended failed => (flags, .dropping guard (.unanswered failed), none)
  | .storing, _ => ({ flags with sent := true }, .completing true, none)
  | .completing accepted, _ =>
    ({ flags with inFlight := false },
      if accepted then .serving ⟨true⟩ else .dropping ⟨true⟩ .rejected, none)
  | .serving guard, .ended failed => (flags, .dropping guard (.served failed), none)
  | .dropping guard result, _ => (guard.drop flags, .checking result, none)
  | .checking result, .seen activeConnections cancelled =>
    (flags,
      if shouldRefreshConfigurationAfterFullOutage result.wasReady result.isErr activeConnections
        cancelled then .refreshing else .retrying, none)
  | .refreshing, _ => ({ flags with sent := false }, .retrying, none)
  | .retrying, .going => (flags, .loading, none)
  | .retrying, .returning => (flags, .returned, none)
  | worker, _ => (flags, worker, none)

/-- A worker begins. -/
def Worker.enter : Unit → Worker := fun _ => .loading

/-- Any number of workers. -/
abbrev WorkerPool : Type := Tasks.Pool Flags Worker

/-- No worker has begun. -/
def WorkerPool.new : WorkerPool := ⟨.new, []⟩

/-- One action. -/
abbrev WorkerPool.step : WorkerPool → Tasks.Action Unit Outside → WorkerPool × Option Empty :=
  Tasks.Pool.step Worker.enter Worker.next

end Focsq.ConfigFlight
