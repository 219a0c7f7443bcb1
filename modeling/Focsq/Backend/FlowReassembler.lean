import Mathlib.Data.List.AList
import Mathlib.Data.List.MinMax
import Focsq.Lib.Serial
import Focsq.Lib.Vec

/-!
# Reassembly of striped flows

A TCP flow is striped over many TURN paths, so its frames arrive out of order. The reassembler
of `shared/flow_frame.rs` keeps one state per flow: the next sequence number it will release,
the frames that arrived ahead of it, and the time at which the present gap opened. The output
queue is only ever appended to, so each operation returns the values it appends.

Time is the millisecond count of the caller; `saturating_sub` on it is truncated subtraction.
-/

namespace Focsq.FlowFrame

/-- `MAX_TRACKED_FLOWS` — flows kept before the table is cleared. -/
def maxTrackedFlows : Nat := 4096
/-- `MAX_PENDING_PER_FLOW` — frames one flow may hold back. -/
def maxPendingPerFlow : Nat := 96
/-- `MAX_PENDING_TOTAL` — frames all flows may hold back together. -/
def maxPendingTotal : Nat := 4096
/-- `GAP_RELEASE_AFTER_MS` — how long a missing frame holds back its successors. -/
def gapReleaseAfterMs : Nat := 12

/-- `FrameHeader` — the frame's sender, its flow and its place in the flow. -/
structure FrameHeader where
  /-- Incarnation of the sending sequencer. -/
  senderId : UInt64
  /-- Hash of the flow's addresses and ports. -/
  flowId : UInt64
  /-- Position in the flow, modulo 2³². -/
  sequence : UInt32
  deriving DecidableEq, Repr

/-- `ReassemblyKey` — one direction of one flow of one sender. -/
structure ReassemblyKey where
  /-- Incarnation of the sending sequencer. -/
  senderId : UInt64
  /-- Hash of the flow's addresses and ports. -/
  flowId : UInt64
  deriving DecidableEq, Repr

/-- The table key of a frame. -/
def FrameHeader.key (header : FrameHeader) : ReassemblyKey := ⟨header.senderId, header.flowId⟩

variable {T : Type}

/-- `Pending` — a frame held back until its predecessors arrive. -/
structure Pending (T : Type) where
  /-- Position in the flow. -/
  sequence : UInt32
  /-- The payload to release. -/
  value : T
  deriving DecidableEq, Repr

/-- `FlowState` — the receiving side of one flow. -/
structure FlowState (T : Type) where
  /-- The next sequence number to release in order. -/
  expected : UInt32
  /-- When the present gap opened, if its timer runs. -/
  gapStartedMs : Option Nat
  /-- Frames held back, in no particular order. -/
  pending : List (Pending T)
  deriving DecidableEq, Repr

/-- The state `or_insert_with` gives a flow that is not in the table. -/
def FlowState.fresh : FlowState T := ⟨0, none, []⟩

/-- `is_forward` — strictly ahead of the expected number, by less than half a turn. -/
def isForward (sequence expected : UInt32) : Bool :=
  sequence != expected && decide ((sequence - expected).toNat < 2 ^ 31)

/-- The loop of `drain_contiguous`; each turn removes one pending frame. -/
def drainLoop : Nat → FlowState T → FlowState T × List T
  | 0, state => (state, [])
  | fuel + 1, state =>
    match state.pending.zipIdx.find? (fun entry => entry.1.sequence == state.expected) with
    | none => (state, [])
    | some (pending, index) =>
      let (state, output) := drainLoop fuel
        { state with
          pending := Vec.swapRemove state.pending index
          expected := state.expected + 1 }
      (state, pending.value :: output)

/-- `drain_contiguous` — release pending frames as long as the expected one is among them. -/
def drainContiguous (state : FlowState T) : FlowState T × List T :=
  drainLoop state.pending.length state

/-- The pending frame `release_lowest` selects, with its index: the nearest one ahead. -/
def lowestForward (state : FlowState T) : Option (Pending T × Nat) :=
  (state.pending.zipIdx.filter (fun entry => isForward entry.1.sequence state.expected)).argmin
    (fun entry => (entry.1.sequence - state.expected).toNat)

/-- Take one pending frame out of order: the flow goes on after it and has no gap yet. -/
def FlowState.takeFrame (state : FlowState T) (pending : Pending T) (index : Nat) :
    FlowState T where
  expected := pending.sequence + 1
  gapStartedMs := none
  pending := Vec.swapRemove state.pending index

/-- Start the gap timer for the frames that stay pending. -/
def FlowState.rearm (state : FlowState T) (nowMs : Nat) : FlowState T :=
  if state.pending.isEmpty then state else { state with gapStartedMs := some nowMs }

/-- `release_lowest` — give up on the frames before the nearest pending one. -/
def releaseLowest (state : FlowState T) (nowMs : Nat) : FlowState T × List T :=
  match lowestForward state with
  | none => ({ state with gapStartedMs := none }, [])
  | some (pending, index) =>
    let (state, output) := drainContiguous (state.takeFrame pending index)
    (state.rearm nowMs, pending.value :: output)

/-- Whether the gap timer of a flow has run out. -/
def FlowState.expired (state : FlowState T) (nowMs : Nat) : Bool :=
  state.gapStartedMs.any (fun started => decide (gapReleaseAfterMs ≤ nowMs - started))

/-- `release_expired` — release the nearest frame once the gap timer has run out. -/
def releaseExpired (state : FlowState T) (nowMs : Nat) : FlowState T × List T :=
  if state.expired nowMs then releaseLowest state nowMs else (state, [])

/-- Run one release step and take the frames that left the flow off `pending_total`. -/
def accounted (step : FlowState T → FlowState T × List T) (state : FlowState T)
    (pendingTotal : Nat) : FlowState T × Nat × List T :=
  let pendingBefore := state.pending.length
  let (state, output) := step state
  (state, pendingTotal - (pendingBefore - state.pending.length), output)

/-- The last part of `push_at`: the frame is stored, the global limit is enforced, and the gap
timer is started if it does not run. -/
def storePending (state : FlowState T) (pendingTotal : Nat) (sequence : UInt32) (value : T)
    (nowMs : Nat) : FlowState T × Nat × List T :=
  let state := { state with pending := state.pending ++ [⟨sequence, value⟩] }
  let pendingTotal := pendingTotal + 1
  let (state, pendingTotal, overflow) :=
    if pendingTotal > maxPendingTotal then
      accounted (fun state => releaseLowest state nowMs) state pendingTotal
    else (state, pendingTotal, [])
  let state :=
    if state.gapStartedMs.isNone then { state with gapStartedMs := some nowMs } else state
  let (state, pendingTotal, late) :=
    accounted (fun state => releaseExpired state nowMs) state pendingTotal
  (state, pendingTotal, overflow ++ late)

/-- The middle part of `push_at`: a frame ahead of the expected one makes room for itself. -/
def pushAhead (state : FlowState T) (pendingTotal : Nat) (sequence : UInt32) (value : T)
    (nowMs : Nat) : FlowState T × Nat × List T :=
  let (state, pendingTotal, freed) :=
    if state.pending.length == maxPendingPerFlow then
      accounted (fun state => releaseLowest state nowMs) state pendingTotal
    else (state, pendingTotal, [])
  if pendingTotal == maxPendingTotal then
    if state.pending.isEmpty then
      ({ state with expected := sequence + 1, gapStartedMs := none }, pendingTotal,
        freed ++ [value])
    else
      let (state, pendingTotal, more) :=
        accounted (fun state => releaseLowest state nowMs) state pendingTotal
      let (state, pendingTotal, output) := storePending state pendingTotal sequence value nowMs
      (state, pendingTotal, freed ++ more ++ output)
  else
    let (state, pendingTotal, output) := storePending state pendingTotal sequence value nowMs
    (state, pendingTotal, freed ++ output)

/-- The part of `push_at` after the timer check: the frame is released, dropped or stored. -/
def pushChecked (state : FlowState T) (pendingTotal : Nat) (sequence : UInt32) (value : T)
    (nowMs : Nat) : FlowState T × Nat × List T :=
  if sequence == state.expected then
    let (state, pendingTotal, output) := accounted drainContiguous
      { state with expected := state.expected + 1, gapStartedMs := none } pendingTotal
    (state, pendingTotal, value :: output)
  else if !isForward sequence state.expected
      || state.pending.any (fun pending => pending.sequence == sequence) then
    (state, pendingTotal, [])
  else pushAhead state pendingTotal sequence value nowMs

/-- The body of `push_at` on the entry of one flow, with the table's `pending_total`. -/
def pushFlow (state : FlowState T) (pendingTotal : Nat) (sequence : UInt32) (value : T)
    (nowMs : Nat) : FlowState T × Nat × List T :=
  let (state, pendingTotal, late) :=
    accounted (fun state => releaseExpired state nowMs) state pendingTotal
  let (state, pendingTotal, output) := pushChecked state pendingTotal sequence value nowMs
  (state, pendingTotal, late ++ output)

/-- `FlowReassembler` — the table of flows and the number of frames they hold back. -/
structure FlowReassembler (T : Type) where
  /-- State of every tracked flow. -/
  flows : AList (fun _ : ReassemblyKey => FlowState T)
  /-- Frames held back by all flows. -/
  pendingTotal : Nat

/-- `FlowReassembler::new` — no flow is tracked. -/
def FlowReassembler.new : FlowReassembler T := ⟨∅, 0⟩

/-- The table `push_at` works on: cleared when it is full and the flow is not in it. -/
def FlowReassembler.withRoom (reassembler : FlowReassembler T) (key : ReassemblyKey) :
    FlowReassembler T :=
  if reassembler.flows.entries.length == maxTrackedFlows
      && (reassembler.flows.lookup key).isNone then
    .new
  else reassembler

/-- The entry of a flow, created when the flow is not tracked. -/
def FlowReassembler.flow (reassembler : FlowReassembler T) (key : ReassemblyKey) : FlowState T :=
  (reassembler.flows.lookup key).getD .fresh

/-- `FlowReassembler::push_at` — accept one frame; the second component is what it appends to
the output queue. -/
def FlowReassembler.pushAt (reassembler : FlowReassembler T) (header : FrameHeader) (value : T)
    (nowMs : Nat) : FlowReassembler T × List T :=
  let reassembler := reassembler.withRoom header.key
  let (state, pendingTotal, output) := pushFlow (reassembler.flow header.key)
    reassembler.pendingTotal header.sequence value nowMs
  ({ flows := reassembler.flows.insert header.key state, pendingTotal }, output)

/-- A frame that gives up its gap: frame 1 is held back until the timer runs out. -/
example :
    let first := FlowReassembler.new.pushAt ⟨17, 23, 1⟩ 1 0
    let second := first.1.pushAt ⟨17, 23, 2⟩ 2 gapReleaseAfterMs
    (first.2, second.2) = ([], [1, 2]) := by decide

end Focsq.FlowFrame
