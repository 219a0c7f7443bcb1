import Mathlib.Data.UInt
import Focsq.Lib.Tasks

/-!
# The gate in front of the recovery log

`RecoveryLogGate` of `worker.rs` lets one line about failed attempts through every ten seconds, with
the number of attempts since the last one. Workers call `observe` at any time; a call is the atomic
steps below, with those of other calls between them.
-/

namespace Focsq.Worker

/-- `RECOVERY_LOG_INTERVAL_MS`. -/
def recoveryLogIntervalMs : UInt64 := 10000

/-- `saturating_add`. -/
def saturatingAdd (left right : UInt64) : UInt64 :=
  if left.toNat + right.toNat < 2 ^ 64 then left + right else UInt64.ofNat (2 ^ 64 - 1)

/-- `RecoveryLogGate`. -/
structure RecoveryLogGate where
  /-- Attempts that have not been reported. -/
  pending : UInt64
  /-- When the next report is due; `0` before the first one. -/
  nextReportMs : UInt64
  deriving DecidableEq

/-- `RecoveryLogGate::new`. -/
def RecoveryLogGate.new : RecoveryLogGate := ⟨0, 0⟩

/-- Where a call of `observe` is. -/
inductive Observe.Place where
  /-- Before `fetch_add`. -/
  | counting
  /-- In the loop, before the load of the deadline. -/
  | loading
  /-- Before `compare_exchange`, with the deadline that was read. -/
  | exchanging (deadline : UInt64)
  /-- Before `swap`. -/
  | swapping
  /-- The call returned. -/
  | returned (report : Option UInt64)
  deriving DecidableEq

/-- A call of `observe`. -/
structure Observe where
  /-- `now_ms`. -/
  nowMs : UInt64
  /-- Where it is. -/
  place : Observe.Place
  deriving DecidableEq

/-- A call before its first step. -/
def Observe.enter (nowMs : UInt64) : Observe := ⟨nowMs, .counting⟩

/-- The next atomic step of a call; the event is a successful exchange, with the time of the call. -/
def RecoveryLogGate.next (gate : RecoveryLogGate) (call : Observe) (_ : Unit) :
    RecoveryLogGate × Observe × Option UInt64 :=
  match call.place with
  | .counting => ({ gate with pending := gate.pending + 1 }, { call with place := .loading }, none)
  | .loading =>
    let deadline := gate.nextReportMs
    if deadline ≠ 0 ∧ call.nowMs < deadline then (gate, { call with place := .returned none }, none)
    else (gate, { call with place := .exchanging deadline }, none)
  | .exchanging deadline =>
    let next := max (saturatingAdd call.nowMs recoveryLogIntervalMs) 1
    if gate.nextReportMs = deadline then
      ({ gate with nextReportMs := next }, { call with place := .swapping }, some call.nowMs)
    else (gate, { call with place := .loading }, none)
  | .swapping =>
    ({ gate with pending := 0 }, { call with place := .returned (some gate.pending) }, none)
  | .returned _ => (gate, call, none)

/-- The gate and all calls there have been. -/
abbrev Observers : Type := Tasks.Pool RecoveryLogGate Observe

/-- A call begins, or one of them makes a step. -/
def Observers.step : Observers → Tasks.Action UInt64 Unit → Observers × Option UInt64 :=
  Tasks.Pool.step Observe.enter RecoveryLogGate.next

/-- A gate before the first call. -/
def Observers.new : Observers := ⟨.new, []⟩

end Focsq.Worker
