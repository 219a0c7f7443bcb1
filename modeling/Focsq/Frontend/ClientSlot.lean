import Focsq.Lib.Tasks

/-!
# The token of the client

The functions of `simple.rs` that start and stop the client from Dart. `start_csqtt_client` keeps
the token of its run in `CANCEL_TOKEN` and calls `run_client`, and `stop_csqtt_client` cancels the
token that it finds there. Both can be called at any time.

The lock of `CANCEL_TOKEN` is never held across an `await`, so what is done under it is one step.
A token is made just before it is kept, and no other call knows it until then.
-/

namespace Focsq.ClientSlot

/-- What the calls share. -/
structure Slot where
  /-- The number of tokens made so far, which is the next one. -/
  made : Nat
  /-- `CANCEL_TOKEN` — the token kept, if any. -/
  token : Option Nat
  /-- The tokens on which `cancel` was called. -/
  cancelled : List Nat
  deriving DecidableEq

/-- No token is kept. -/
def Slot.new : Slot := ⟨0, none, []⟩

/-- What can be called. -/
inductive Call where
  /-- `start_csqtt_client`. -/
  | start
  /-- `stop_csqtt_client`. -/
  | stop
  deriving DecidableEq

/-- Where a call is. -/
inductive Place where
  /-- A start is to make its token and to keep it. -/
  | starting
  /-- Its `run_client` runs with this token. -/
  | running (token : Nat)
  /-- `run_client` has returned, and the slot is to be cleared. -/
  | clearing
  /-- A stop is to take the token. -/
  | stopping
  /-- It has returned. -/
  | returned
  deriving DecidableEq

/-- What is done to the slot. -/
inductive Event where
  /-- A run keeps its token. -/
  | kept (token : Nat)
  /-- A run clears it. -/
  | cleared
  deriving DecidableEq

/-- A call begins. -/
def Place.enter : Call → Place
  | .start => .starting
  | .stop => .stopping

/-- Keep a new token. -/
def Slot.keep (slot : Slot) : Slot := { slot with made := slot.made + 1, token := some slot.made }

/-- Clear the slot, whatever is kept there. -/
def Slot.clear (slot : Slot) : Slot := { slot with token := none }

/-- Take the token that is kept, and cancel it. -/
def Slot.take (slot : Slot) : Slot :=
  match slot.token with
  | some token => { slot with token := none, cancelled := token :: slot.cancelled }
  | none => slot

/-- The next step of a call. That of a run is to return, which it may do at any time. -/
def Place.next (slot : Slot) (place : Place) (_ : Unit) : Slot × Place × Option Event :=
  match place with
  | .starting => (slot.keep, .running slot.made, some (.kept slot.made))
  | .running _ => (slot, .clearing, none)
  | .clearing => (slot.clear, .returned, some .cleared)
  | .stopping => (slot.take, .returned, none)
  | .returned => (slot, .returned, none)

/-- Any number of calls. -/
abbrev CallPool : Type := Tasks.Pool Slot Place

/-- Nothing has been called. -/
def CallPool.new : CallPool := ⟨.new, []⟩

/-- One action. -/
abbrev CallPool.step : CallPool → Tasks.Action Call Unit → CallPool × Option Event :=
  Tasks.Pool.step Place.enter Place.next

end Focsq.ClientSlot
