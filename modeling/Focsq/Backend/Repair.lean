import Focsq.Backend.Notify
import Focsq.Backend.Protocol
import Focsq.Lib.Tasks

/-!
# Repair of streams

The server may ask for some streams to be restarted, and asks again, under a higher sequence number,
for those that it does not hear from. `RepairState` of `repair.rs` has a slot for each worker; a
command that comes on many streams is applied once, and the second one in a row that is not
resolved makes the worker get new credentials.

Commands are applied by any number of tasks at once. The functions named after those of the source
do all of their work at once; `RepairCall` and `ChangedCall` are the same work of a task in atomic
steps.
-/

namespace Focsq.Repair

open Dispatcher Protocol

variable (notifies : Notify)

/-- `RepairApplyResult`. -/
structure RepairApplyResult where
  /-- Workers that are restarted. -/
  restarts : Nat
  /-- Those of them that get new credentials. -/
  credentialResets : Nat
  deriving DecidableEq, Repr

/-- `default`. -/
def RepairApplyResult.default : RepairApplyResult := ⟨0, 0⟩

/-- `RepairSlot` — what is known of a worker. -/
structure RepairSlot where
  /-- How often it was asked to restart. -/
  restartGeneration : UInt64
  /-- How often it was asked to get new credentials. -/
  credentialGeneration : UInt64
  /-- The last command that was applied to it. -/
  lastSequence : UInt64
  /-- The last command it is known to have followed. -/
  readySequence : UInt64
  /-- What it waits for. -/
  notify : notifies.State

/-- `RepairSlot::new`. -/
def RepairSlot.new : RepairSlot notifies := ⟨0, 0, 0, 0, notifies.new⟩

/-- `RepairState`. -/
structure RepairState where
  /-- One slot for each worker, and one that is not used. -/
  slots : List (RepairSlot notifies)

/-- `RepairState::new`. -/
def RepairState.new (desiredCount : Nat) : RepairState notifies :=
  ⟨List.replicate (desiredCount + 1) (RepairSlot.new notifies)⟩

variable {notifies}

/-- `slot` — the slot of a worker. -/
def RepairState.slot (state : RepairState notifies) (workerId : Nat) :
    Option (RepairSlot notifies) :=
  if workerId ≠ 0 then state.slots[workerId]? else none

/-- Write the slot of a worker. -/
def RepairState.put (state : RepairState notifies) (workerId : Nat) (slot : RepairSlot notifies) :
    RepairState notifies := ⟨state.slots.set workerId slot⟩

/-- `restart_generation`. -/
def RepairState.restartGeneration (state : RepairState notifies) (workerId : Nat) : UInt64 :=
  ((state.slot workerId).map RepairSlot.restartGeneration).getD 0

/-- `credential_generation`. -/
def RepairState.credentialGeneration (state : RepairState notifies) (workerId : Nat) : UInt64 :=
  ((state.slot workerId).map RepairSlot.credentialGeneration).getD 0

/-- Whether the last command but one was not followed. -/
def RepairSlot.Unresolved (slot : RepairSlot notifies) (previous : UInt64) : Prop :=
  previous ≠ 0 ∧ slot.readySequence < previous

instance RepairSlot.decidableUnresolved (slot : RepairSlot notifies) (previous : UInt64) :
    Decidable (slot.Unresolved previous) := by
  unfold RepairSlot.Unresolved
  infer_instance

section Sequential

/-- The part of `mark_ready` about the slot. -/
def RepairSlot.markReady (slot : RepairSlot notifies) : RepairSlot notifies :=
  { slot with readySequence := slot.lastSequence }

/-- `mark_ready` — a worker runs. -/
def RepairState.markReady (state : RepairState notifies) (workerId : Nat) :
    RepairState notifies :=
  match state.slot workerId with
  | none => state
  | some slot => state.put workerId slot.markReady

/-- The part of `apply_repair` about one slot, when no other task comes in between. -/
def RepairSlot.repair (slot : RepairSlot notifies) (sequence : UInt64) :
    RepairSlot notifies × RepairApplyResult :=
  if sequence ≤ slot.lastSequence then (slot, .default)
  else
    let escalates := slot.Unresolved slot.lastSequence
    ({ lastSequence := sequence
       readySequence := slot.readySequence
       credentialGeneration :=
        if escalates then slot.credentialGeneration + 1 else slot.credentialGeneration
       restartGeneration := slot.restartGeneration + 1
       notify := notifies.notifyWaiters slot.notify },
      { restarts := 1, credentialResets := if escalates then 1 else 0 })

/-- The loop of `apply_repair`. -/
def RepairState.repairLoop (sequence : UInt64) :
    List UInt16 → RepairState notifies → RepairApplyResult → RepairState notifies × RepairApplyResult
  | [], state, result => (state, result)
  | workerId :: workerIds, state, result =>
    match state.slot workerId.toNat with
    | none => repairLoop sequence workerIds state result
    | some slot =>
      let (slot, more) := slot.repair sequence
      repairLoop sequence workerIds (state.put workerId.toNat slot)
        { restarts := result.restarts + more.restarts
          credentialResets := result.credentialResets + more.credentialResets }

/-- `apply_repair`. -/
def RepairState.applyRepair (state : RepairState notifies) (command : StreamRepairCommand) :
    RepairState notifies × RepairApplyResult :=
  state.repairLoop command.sequence command.workerIds .default

/-- The part of `apply_alive` about one slot. -/
def RepairSlot.alive (slot : RepairSlot notifies) (sequence : UInt64) : RepairSlot notifies :=
  { slot with readySequence := max slot.readySequence sequence }

/-- The loop of `apply_alive`. -/
def RepairState.aliveLoop (sequence : UInt64) :
    List UInt16 → RepairState notifies → Nat → RepairState notifies × Nat
  | [], state, applied => (state, applied)
  | workerId :: workerIds, state, applied =>
    match state.slot workerId.toNat with
    | none => aliveLoop sequence workerIds state applied
    | some slot =>
      aliveLoop sequence workerIds (state.put workerId.toNat (slot.alive sequence)) (applied + 1)

/-- `apply_alive`. -/
def RepairState.applyAlive (state : RepairState notifies) (command : StreamRepairCommand) :
    RepairState notifies × Nat := state.aliveLoop command.sequence command.workerIds 0

end Sequential

section Concurrent

/-- Where a task is in `apply_repair`. -/
inductive RepairPlace where
  /-- At the next worker. -/
  | next
  /-- It has read the last sequence of a worker. -/
  | holding (workerId : Nat) (current : UInt64)
  /-- It has written it, in place of another one. -/
  | exchanged (workerId : Nat) (previous : UInt64)
  /-- It has found that the other one was not followed. -/
  | escalating (workerId : Nat)
  /-- It is to ask the worker to restart. -/
  | restarting (workerId : Nat)
  /-- It is to wake the worker. -/
  | notifying (workerId : Nat)
  deriving DecidableEq

/-- A task in `apply_repair`. -/
structure RepairCall where
  /-- The command. -/
  command : StreamRepairCommand
  /-- The workers that are left. -/
  left : List UInt16
  /-- Where it is. -/
  place : RepairPlace
  /-- What it has counted. -/
  result : RepairApplyResult

/-- A call begins. -/
def RepairCall.begin (command : StreamRepairCommand) : RepairCall where
  command
  left := command.workerIds
  place := .next
  result := .default

/-- What a call does to a worker. -/
inductive RepairEvent where
  /-- It updates the last sequence. -/
  | updated (workerId : Nat) (previous sequence : UInt64)
  /-- It asks the worker to restart. -/
  | restarted (workerId : Nat) (sequence : UInt64)
  deriving DecidableEq

/-- The next atomic step of a call. -/
def RepairCall.step (state : RepairState notifies) (call : RepairCall) :
    RepairState notifies × RepairCall × Option RepairEvent :=
  match call.place with
  | .next =>
    match call.left with
    | [] => (state, call, none)
    | workerId :: left =>
      match state.slot workerId.toNat with
      | none => (state, { call with left }, none)
      | some slot =>
        (state, { call with left, place := .holding workerId.toNat slot.lastSequence }, none)
  | .holding workerId current =>
    if call.command.sequence ≤ current then (state, { call with place := .next }, none)
    else
      match state.slot workerId with
      | none => (state, call, none)
      | some slot =>
        -- `compare_exchange` finds what was read before, or answers with what there is now.
        if slot.lastSequence = current then
          (state.put workerId { slot with lastSequence := call.command.sequence },
            { call with place := .exchanged workerId current },
            some (.updated workerId current call.command.sequence))
        else (state, { call with place := .holding workerId slot.lastSequence }, none)
  | .exchanged workerId previous =>
    match state.slot workerId with
    | none => (state, call, none)
    | some slot =>
      if slot.Unresolved previous then
        (state, { call with place := .escalating workerId }, none)
      else (state, { call with place := .restarting workerId }, none)
  | .escalating workerId =>
    match state.slot workerId with
    | none => (state, call, none)
    | some slot =>
      (state.put workerId { slot with credentialGeneration := slot.credentialGeneration + 1 },
        { call with
          place := .restarting workerId
          result :=
            { call.result with credentialResets := call.result.credentialResets + 1 } },
        none)
  | .restarting workerId =>
    match state.slot workerId with
    | none => (state, call, none)
    | some slot =>
      (state.put workerId { slot with restartGeneration := slot.restartGeneration + 1 },
        { call with place := .notifying workerId },
        some (.restarted workerId call.command.sequence))
  | .notifying workerId =>
    match state.slot workerId with
    | none => (state, call, none)
    | some slot =>
      (state.put workerId { slot with notify := notifies.notifyWaiters slot.notify },
        { call with
          place := .next
          result := { call.result with restarts := call.result.restarts + 1 } },
        none)

variable (notifies) in
/-- Where a task is in `changed`. -/
inductive ChangedPlace where
  /-- It is to read the generation. -/
  | reading
  /-- It has read the generation it had observed. -/
  | same
  /-- It awaits. -/
  | awaiting (future : notifies.Notified)
  /-- It has returned. -/
  | returned

variable (notifies) in
/-- A task in `changed`. -/
structure ChangedCall where
  /-- The worker. -/
  workerId : Nat
  /-- The generation it has observed. -/
  observed : UInt64
  /-- Where it is. -/
  place : ChangedPlace notifies

/-- The next atomic step of a worker that waits; without a slot it waits forever. -/
def ChangedCall.step (state : RepairState notifies) (call : ChangedCall notifies) :
    RepairState notifies × ChangedCall notifies :=
  match state.slot call.workerId with
  | none => (state, call)
  | some slot =>
    match call.place with
    | .reading =>
      if slot.restartGeneration ≠ call.observed then (state, { call with place := .returned })
      else (state, { call with place := .same })
    | .same => (state, { call with place := .awaiting (notifies.notified slot.notify) })
    | .awaiting future =>
      match notifies.poll slot.notify future with
      | (true, notify, _) =>
        (state.put call.workerId { slot with notify }, { call with place := .reading })
      | (false, notify, future) =>
        (state.put call.workerId { slot with notify }, { call with place := .awaiting future })
    | .returned => (state, call)

variable (notifies) in
/-- A task that uses the slots. -/
inductive RepairTask where
  /-- It applies a command. -/
  | repair (call : RepairCall)
  /-- It waits. -/
  | wait (call : ChangedCall notifies)

/-- What a task begins with. -/
inductive RepairBegin where
  /-- `apply_repair`. -/
  | applyRepair (command : StreamRepairCommand)
  /-- `changed`. -/
  | changed (workerId : Nat) (observed : UInt64)
  deriving DecidableEq

/-- A task begins. -/
def RepairTask.enter : RepairBegin → RepairTask notifies
  | .applyRepair command => .repair (.begin command)
  | .changed workerId observed => .wait ⟨workerId, observed, .reading⟩

/-- The next atomic step of a task. -/
def RepairTask.next (state : RepairState notifies) (task : RepairTask notifies) (_ : Unit) :
    RepairState notifies × RepairTask notifies × Option RepairEvent :=
  match task with
  | .repair call => ((call.step state).1, .repair (call.step state).2.1, (call.step state).2.2)
  | .wait call => ((call.step state).1, .wait (call.step state).2, none)

/-- Any number of tasks. -/
abbrev RepairPool (notifies : Notify) : Type :=
  Tasks.Pool (RepairState notifies) (RepairTask notifies)

/-- No task has begun. -/
def RepairPool.new (notifies : Notify) (desiredCount : Nat) : RepairPool notifies :=
  ⟨.new notifies desiredCount, []⟩

/-- One action. -/
abbrev RepairPool.step : RepairPool notifies → Tasks.Action RepairBegin Unit →
    RepairPool notifies × Option RepairEvent :=
  Tasks.Pool.step RepairTask.enter RepairTask.next

end Concurrent

end Focsq.Repair
