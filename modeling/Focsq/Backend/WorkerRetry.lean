import Focsq.Backend.CredentialCache
import Focsq.Backend.TurnEndpoint

/-!
# What a worker does after a session

`worker_loop` of `worker.rs` reads from the error of a session whether the credential is to blame,
and how long the worker waits before the next one. An error is a chain of causes, and most of what
is read from it is read from its text.

Delays are in milliseconds. Numbers that are drawn are an argument; where several of them are drawn
only the last one matters. Lines of the log are left out.
-/

namespace Focsq.Worker

open Endpoint (TurnTransportMode)

section Errors

/-- What kind of error a cause is, as far as `downcast_ref` is used. -/
inductive CauseKind where
  /-- `TurnAllocateError`, whose own causes follow. -/
  | turnAllocate
  /-- `TurnRequestError`. -/
  | turnRequest (stunCode : Int)
  /-- `std::io::Error`. -/
  | io (rawOsError : Option Int) (reset : Bool)
  /-- Any other. -/
  | other
  deriving DecidableEq

/-- One cause of an error; `reset` of `io` is whether its kind is `ConnectionReset`,
`ConnectionAborted` or `BrokenPipe`. -/
structure Cause where
  /-- What it says. -/
  text : Text
  /-- Its kind. -/
  kind : CauseKind
  deriving DecidableEq

/-- `anyhow::Error`. -/
structure SessionError where
  /-- The error itself. -/
  first : Cause
  /-- What caused it. -/
  causes : List Cause
  deriving DecidableEq

/-- `bail!`. -/
def SessionError.bail (message : Text) : SessionError := ⟨⟨message, .other⟩, []⟩

/-- `chain`. -/
def SessionError.chain (error : SessionError) : List Cause := error.first :: error.causes

/-- `context` — the error with something in front of it. -/
def SessionError.context (error : SessionError) (text : Text) : SessionError :=
  ⟨⟨text, .other⟩, error.chain⟩

/-- `to_string`. -/
def SessionError.toText (error : SessionError) : Text := error.first.text

/-- The error with its causes, as `{:#}` writes it. -/
def SessionError.alternate (error : SessionError) : Text :=
  List.intercalate ": ".toList (error.chain.map Cause.text)

/-- `stun_code` of the first `TurnRequestError` of some causes. -/
def requestCode : List Cause → Option Int
  | [] => none
  | cause :: rest =>
    match cause.kind with
    | .turnRequest stunCode => some stunCode
    | _ => requestCode rest

/-- `stun_code` of the first `TurnAllocateError` of some causes that has one. -/
def allocateCode : List Cause → Option Int
  | [] => none
  | cause :: rest =>
    match cause.kind with
    | .turnAllocate => (requestCode rest).or (allocateCode rest)
    | _ => allocateCode rest

/-- `turn_allocate_stun_code`. -/
def turnAllocateStunCode (error : SessionError) : Option Int := allocateCode error.chain

/-- `turn_stun_code`. -/
def turnStunCode (error : SessionError) : Option Int := requestCode error.chain

/-- Whether one of some markers is in a message. -/
def containsAny (message : Text) (markers : List String) : Bool :=
  markers.any fun marker => message.contains marker.toList

/-- `is_turn_allocation_quota`. -/
def isTurnAllocationQuota (error : SessionError) (message : Text) : Bool :=
  turnAllocateStunCode error == some 486 ||
    (message.contains "turn allocate".toList &&
      containsAny message ["stun error 486", "allocation quota reached", "quota reached"])

/-- `is_turn_allocation_mismatch`. -/
def isTurnAllocationMismatch (error : SessionError) (message : Text) : Bool :=
  match turnStunCode error with
  | some 437 => true
  | some 400 => message.contains "channelbind".toList
  | _ =>
    message.contains "stun error 437".toList ||
      (message.contains "stun error 400".toList && message.contains "channelbind".toList)

/-- `should_invalidate_turn_credentials`. -/
def shouldInvalidateTurnCredentials (error : SessionError) (message : Text) : Bool :=
  match turnStunCode error with
  | some stunCode => stunCode == 401 || stunCode == 438 || stunCode == 441
  | none =>
    message.contains "turn ".toList &&
      containsAny message ["stun error 401", "stun error 438", "stun error 441", "unauthorized",
        "wrong credential", "authentication failed"]

/-- The codes of the system for a network that is down. -/
def networkDownCodes : List Nat := [100, 101, 113, 10050, 10051, 10065]

/-- `contains_os_error_code` — the code is not followed by another digit. -/
def containsOsErrorCode (message : Text) (code : Nat) : Bool :=
  let needle := "os error ".toList ++ Nat.toDigits 10 code
  message.tails.any fun rest =>
    needle.isPrefixOf rest && (rest.drop needle.length).head?.all fun char => !char.isDigit

/-- `is_local_network_down`. -/
def isLocalNetworkDown (error : SessionError) : Bool :=
  (error.chain.any fun cause =>
    match cause.kind with
    | .io (some rawOsError) _ => networkDownCodes.any fun code => rawOsError == (code : Int)
    | _ => false) ||
    let message := Str.toAsciiLowercase error.alternate
    containsAny message ["network is unreachable", "network is down", "no route to host",
        "no route to network", "enetunreach", "enetdown", "ehostunreach"] ||
      networkDownCodes.any (containsOsErrorCode message)

/-- `is_remote_tcp_stream_reset`. -/
def isRemoteTcpStreamReset (error : SessionError) (message : Text) : Bool :=
  (error.chain.any fun cause =>
    match cause.kind with
    | .io _ reset => reset
    | _ => false) ||
    containsAny message ["connection reset by peer", "connection aborted", "broken pipe"]

/-- `is_transport_timeout`. -/
def isTransportTimeout (message : Text) : Bool :=
  containsAny message ["transaction timeout", "request timeout", "i/o timeout", "timed out",
    "deadline has elapsed"]

end Errors

section Verdict

/-- `worker_retry_delay_with_jitter`. -/
def workerRetryDelayWithJitter (attempt jitterMs : Nat) : Nat :=
  min (250 * 2 ^ min (attempt - 1) 4) 4000 + min jitterMs 250

/-- `worker_retry_delay`. -/
def workerRetryDelay (attempt draw : Nat) : Nat := workerRetryDelayWithJitter attempt (draw % 251)

/-- `tcp_stream_retry_delay`. -/
def tcpStreamRetryDelay (attempt : Nat) : Nat := quotaRotationDelay (attempt - 1)

/-- What is called of the credential of the session. -/
inductive LeaseCall where
  /-- `invalidate`. -/
  | invalidate
  /-- `rotate_after_quota`. -/
  | rotateAfterQuota
  /-- `retry_after_mismatch`. -/
  | retryAfterMismatch
  deriving DecidableEq

/-- What `worker_loop` does after a session. -/
structure Verdict where
  /-- What is called, one after the other. -/
  calls : List LeaseCall
  /-- `attempt`. -/
  attempt : Nat
  /-- `delay`, unless a call says otherwise. -/
  delay : Nat
  /-- Whether `network_timeout` is told. -/
  networkTimeout : Bool
  deriving DecidableEq

/-- Whether an error is taken as fatal. -/
def isFatal (message : Text) : Bool :=
  containsAny message ["FATAL_AUTH", "FATAL_PROTOCOL", "FATAL_HANDSHAKE", "хеш мёртв"]

/-- The last branch, for an error that is none of the others. -/
def ordinaryDelay (message lower : Text) (attempt draw : Nat) : Nat :=
  let delay := if isFatal message then (5 + draw % 6) * 1000 else workerRetryDelay attempt draw
  let delay :=
    if lower.contains "getconf".toList then min (workerRetryDelay attempt draw) 1000 else delay
  if lower.contains "error 29".toList || lower.contains "cannot create socket".toList then
    (2 + draw % 3) * 1000
  else delay

/-- What `worker_loop` does with the result of a session; `regenerated` is whether the repair has
asked for another credential since the session began. -/
def judge (transport : TurnTransportMode) (attempt : Nat) (regenerated : Bool) (draw : Nat) :
    Except SessionError Unit → Verdict
  | .ok () => ⟨[], attempt, workerRetryDelay (max attempt 1) draw, false⟩
  | .error error =>
    let message := error.toText
    let lower := Str.toAsciiLowercase message
    if lower.contains "target_repair".toList then
      ⟨if regenerated then [.invalidate] else [], 0, 50 + draw % 151, false⟩
    else if lower.contains "turn channel rebind retry exhausted".toList then
      ⟨[], 0, 50 + draw % 151, false⟩
    else
      let attempt := saturatingSucc attempt
      let credentialsInvalid := shouldInvalidateTurnCredentials error lower
      let calls := if credentialsInvalid then [LeaseCall.invalidate] else []
      if isTurnAllocationQuota error lower then
        ⟨calls ++ [.rotateAfterQuota], 0, 50 + draw % 151, false⟩
      else if isTurnAllocationMismatch error lower then
        ⟨calls ++ [.retryAfterMismatch], 0, 50 + draw % 51, false⟩
      else if credentialsInvalid then ⟨calls, 0, 100 + draw % 51, false⟩
      else if transport = .tcpTls && isRemoteTcpStreamReset error lower then
        ⟨[], attempt, tcpStreamRetryDelay attempt, false⟩
      else if isLocalNetworkDown error then ⟨[], attempt, 250 + draw % 751, true⟩
      else ⟨[], attempt, ordinaryDelay message lower attempt draw, isTransportTimeout lower⟩

/-- One of the calls: the cache, the delay, and whether the credential is taken out by it. -/
def LeaseCall.perform (cache : CredentialCache) (lease : CredentialLease) (delay draw : Nat) :
    LeaseCall → CredentialCache × Nat × Bool
  | .invalidate =>
    let (done, cache) := cache.invalidate lease
    (cache, delay, done)
  | .rotateAfterQuota =>
    match cache.rotateAfterQuota lease with
    | (.rotated quotaDelay, cache) => (cache, quotaDelay, true)
    | (.replaced, cache) => (cache, 50 + draw % 151, false)
  | .retryAfterMismatch =>
    match cache.retryAfterMismatch lease with
    | (.retryCurrent, cache) => (cache, 50 + draw % 51, false)
    | (.rotated, cache) => (cache, 100 + draw % 51, true)
    | (.replaced, cache) => (cache, 50 + draw % 51, false)

end Verdict

end Focsq.Worker
