import Focsq.Backend.WorkerRetry
import Focsq.Lib.Tasks

/-!
# The workers of one credential

`supervise_worker` of `worker.rs` runs `worker_loop`, and runs it again when it panics. The loop
gets a lease of the credential, waits for its turn, runs a session, and gives the lease back unless
it has seen the session begin an allocation; the result says what becomes of the credential and how
long the worker waits.

The cache of the credential is what the workers share. It is locked for each call, and for all of
`get`, so each call is one step. Everything that is waited for comes from outside, and so does
whether the worker is to stop. Not here are the flags for the configuration, what a session is told
of its worker, and lines of the log.
-/

namespace Focsq.Worker

open Endpoint (TurnTransportMode)

/-- The channel on which a session tells that it begins an allocation. -/
inductive Started where
  /-- Nothing is sent. -/
  | silent
  /-- It is sent. -/
  | sent
  /-- The sender is dropped. -/
  | closed
  deriving DecidableEq

/-- The variables of the loop in which a session runs. -/
structure Running where
  /-- What the session sends. -/
  channel : Started
  /-- `allocation_started_observed`. -/
  startedObserved : Bool
  /-- `allocation_started`. -/
  started : Bool
  /-- `allocation_observed`. -/
  allocationObserved : Bool
  deriving DecidableEq

/-- A session that has just been made. -/
def Running.new : Running := ⟨.silent, false, false, false⟩

/-- Whether the session has begun an allocation. -/
def Running.tried (running : Running) : Bool := running.channel = .sent

/-- Where a supervised worker is. -/
inductive WorkerPlace where
  /-- In the first `wait_until_resumed`. -/
  | waiting (attempt : Nat)
  /-- It is to get a lease. -/
  | asking (attempt : Nat)
  /-- In `wait` of the pacer. -/
  | pacing (attempt : Nat) (lease : CredentialLease)
  /-- In the second `wait_until_resumed`. -/
  | resuming (attempt : Nat) (lease : CredentialLease)
  /-- It is to give the lease back and to return. -/
  | releasing (lease : CredentialLease)
  /-- Its session runs. -/
  | running (attempt : Nat) (lease : CredentialLease) (session : Running)
  /-- It is to call `record_allocation` while the session runs. -/
  | recording (attempt : Nat) (lease : CredentialLease) (session : Running)
  /-- Its session has ended. -/
  | ended (attempt : Nat) (lease : CredentialLease) (session : Running)
    (result : Except SessionError Unit)
  /-- It is to read what the result means. -/
  | judging (attempt : Nat) (lease : CredentialLease) (result : Except SessionError Unit)
  /-- It is to make some calls, and then to wait. -/
  | settling (lease : CredentialLease) (verdict : Verdict)
  /-- It waits. -/
  | sleeping (attempt : Nat)
  /-- It has panicked. -/
  | restarting
  /-- It has returned. -/
  | returned

/-- What comes from outside a worker. -/
inductive Outside where
  /-- What it waits for comes. -/
  | going
  /-- It is to stop. -/
  | cancelled
  /-- Whether the call is unavailable when it asks for a lease, what `get` is given, and whether it
  is to stop when there is none. -/
  | asked (unavailable : Bool) (fetched : Option TurnCredentials) (waited stopped : Bool)
  /-- The session sends that it begins an allocation. -/
  | begins
  /-- The session drops the sender. -/
  | closes
  /-- What the session has sent is received. -/
  | observes
  /-- The session tells that there is an allocation, or that there will be none. -/
  | allocated (ready : Bool)
  /-- The session ends. -/
  | ends (result : Except SessionError Unit)
  /-- Whether the session was ready, whether the worker is to stop or to pause, whether the repair
  has asked for another credential, and what is drawn. -/
  | judged (wasReady stopped paused regenerated : Bool) (draw : Nat)
  /-- What is drawn. -/
  | drawn (draw : Nat)
  /-- The loop panics. -/
  | panics (cancelled : Bool)

/-- What is seen of a worker. -/
inductive WorkerEvent where
  /-- `get` returns; what the provider has given it, and the lease. -/
  | got (fetched : Option TurnCredentials) (lease : Option CredentialLease)
  /-- The session begins an allocation. -/
  | began (lease : CredentialLease)
  /-- The lease is given back; whether an allocation was begun. -/
  | released (lease : CredentialLease) (tried : Bool)
  /-- The lease is not given back. -/
  | kept (lease : CredentialLease) (tried : Bool)
  /-- The loop has panicked with the lease. -/
  | lost (lease : CredentialLease) (tried : Bool)
  /-- `network_recovered`. -/
  | networkRecovered
  /-- `network_timeout`. -/
  | networkTimeout
  /-- The credential is taken out. -/
  | retired (lease : CredentialLease)
  /-- The worker waits before the next session. -/
  | pauses (delay : Nat)

/-- The lease that a worker has to give back, and whether an allocation was begun with it. -/
def WorkerPlace.lease : WorkerPlace → Option (CredentialLease × Bool)
  | .pacing _ lease | .resuming _ lease | .releasing lease => some (lease, false)
  | .running _ lease session | .recording _ lease session => some (lease, session.tried)
  | .ended _ lease session _ => some (lease, session.tried)
  | .waiting _ | .asking _ | .judging _ _ _ | .settling _ _ | .sleeping _ | .restarting
  | .returned => none

/-- The next step of a worker. What does not concern it leaves it where it is. -/
def WorkerPlace.next (transport : TurnTransportMode) (cache : CredentialCache)
    (place : WorkerPlace) (input : Outside) :
    CredentialCache × WorkerPlace × Option WorkerEvent :=
  match place, input with
  | .restarting, .going => (cache, .waiting 0, none)
  | .restarting, .cancelled => (cache, .returned, none)
  | .restarting, _ => (cache, place, none)
  | .returned, _ => (cache, place, none)
  | place, .panics cancelled =>
    (cache, if cancelled then .returned else .restarting,
      place.lease.map fun held => .lost held.1 held.2)
  | .waiting attempt, .going => (cache, .asking attempt, none)
  | .waiting _, .cancelled => (cache, .returned, none)
  | .asking attempt, .asked unavailable fetched waited stopped =>
    if unavailable then (cache, .returned, none)
    else
      match cache.get fetched waited with
      | (some lease, cache) => (cache, .pacing attempt lease, some (.got fetched (some lease)))
      | (none, cache) =>
        (cache, if stopped then .returned else .asking attempt, some (.got fetched none))
  | .pacing attempt lease, .going => (cache, .resuming attempt lease, none)
  | .pacing _ lease, .cancelled => (cache, .releasing lease, none)
  | .resuming attempt lease, .going => (cache, .running attempt lease .new, none)
  | .resuming _ lease, .cancelled => (cache, .releasing lease, none)
  | .releasing lease, .going => (cache.release lease, .returned, some (.released lease false))
  | .running attempt lease session, .begins =>
    if session.channel = .silent then
      (cache, .running attempt lease { session with channel := .sent }, some (.began lease))
    else (cache, place, none)
  | .running attempt lease session, .closes =>
    if session.channel = .silent then
      (cache, .running attempt lease { session with channel := .closed }, none)
    else (cache, place, none)
  | .running attempt lease session, .observes =>
    if session.startedObserved || session.channel = .silent then (cache, place, none)
    else
      (cache, .running attempt lease
        { session with startedObserved := true, started := session.channel = .sent }, none)
  | .running attempt lease session, .allocated ready =>
    if session.allocationObserved then (cache, place, none)
    else
      let session := { session with allocationObserved := true }
      (cache, if ready then .recording attempt lease session else .running attempt lease session,
        none)
  | .running attempt lease session, .ends result =>
    (cache, .ended attempt lease session result, none)
  | .recording attempt lease session, .going =>
    (cache.recordAllocation lease, .running attempt lease session, some .networkRecovered)
  | .ended attempt lease session result, .going =>
    if session.started then (cache, .judging attempt lease result, some (.kept lease session.tried))
    else
      (cache.release lease, .judging attempt lease result, some (.released lease session.tried))
  | .judging attempt lease result, .judged wasReady stopped paused regenerated draw =>
    let attempt := if wasReady then 0 else attempt
    if stopped then (cache, .returned, none)
    else if paused then (cache, .waiting attempt, none)
    else
      let verdict := judge transport attempt regenerated draw result
      (cache, .settling lease verdict,
        if verdict.networkTimeout then some .networkTimeout else none)
  | .settling lease verdict, .drawn draw =>
    match verdict.calls with
    | [] => (cache, .sleeping verdict.attempt, some (.pauses verdict.delay))
    | call :: calls =>
      let (cache, delay, retired) := call.perform cache lease verdict.delay draw
      (cache, .settling lease { verdict with calls, delay },
        if retired then some (.retired lease) else none)
  | .sleeping attempt, .going => (cache, .waiting attempt, none)
  | .sleeping _, .cancelled => (cache, .returned, none)
  | place, _ => (cache, place, none)

/-- `supervise_worker` begins; its number does not matter. -/
def WorkerPlace.enter (_ : Nat) : WorkerPlace := .waiting 0

/-- The workers of one credential. -/
abbrev Cohort : Type := Tasks.Pool CredentialCache WorkerPlace

/-- No worker has begun. -/
def Cohort.new : Cohort := ⟨{}, []⟩

/-- One action. -/
abbrev Cohort.step (transport : TurnTransportMode) :
    Cohort → Tasks.Action Nat Outside → Cohort × Option WorkerEvent :=
  Tasks.Pool.step WorkerPlace.enter (WorkerPlace.next transport)

/-- What is seen of a run. -/
def Cohort.events (transport : TurnTransportMode) (actions : List (Tasks.Action Nat Outside)) :
    List WorkerEvent :=
  (Mealy.outputs (Cohort.step transport) .new actions).flatMap Option.toList

/-- Where a run leads. -/
def Cohort.final (transport : TurnTransportMode) (actions : List (Tasks.Action Nat Outside)) :
    Cohort :=
  Mealy.final (Cohort.step transport) .new actions

end Focsq.Worker
