import Focsq.Verif.FlowTable

/-!
# The reassembler does not look at its values

What a push releases, stores and drops depends on the headers and times alone. So a run can be
followed with values that name the pushes they came with, and what it says about these values holds
of the run it is about.
-/

namespace Focsq.FlowFrame

variable {T U : Type} (f : T → U)

/-- A pending frame with another value. -/
def Pending.map (pending : Pending T) : Pending U := ⟨pending.sequence, f pending.value⟩

/-- A flow with other values. -/
def FlowState.map (state : FlowState T) : FlowState U :=
  ⟨state.expected, state.gapStartedMs, state.pending.map (Pending.map f)⟩

/-- What a step on a flow gives with other values. -/
def mapStep (result : FlowState T × List T) : FlowState U × List U :=
  (result.1.map f, result.2.map f)

/-- What a counted step on a flow gives with other values. -/
def mapCounted (result : FlowState T × Nat × List T) : FlowState U × Nat × List U :=
  (result.1.map f, result.2.1, result.2.2.map f)

/-- The nearest of mapped elements is the image of the nearest one. -/
theorem argmin_map {α β : Type} (g : α → β) (measure : β → Nat) (values : List α) :
    (values.map g).argmin measure = (values.argmin (fun value => measure (g value))).map g := by
  induction values with
  | nil => rfl
  | cons value rest ih =>
    rw [List.map_cons, List.argmin_cons, List.argmin_cons, ih]
    cases rest.argmin (fun value => measure (g value)) with
    | none => rfl
    | some nearest =>
      simp only [Option.map_some]
      split <;> rfl

/-- The frames of a mapped flow with their indices. -/
theorem zipIdx_map_pending (pending : List (Pending T)) :
    (pending.map (Pending.map f)).zipIdx =
      pending.zipIdx.map (fun entry => (entry.1.map f, entry.2)) := by
  rw [List.zipIdx_map]
  rfl

/-- The drain loop. -/
theorem drainLoop_map (fuel : Nat) (state : FlowState T) :
    drainLoop fuel (state.map f) = mapStep f (drainLoop fuel state) := by
  induction fuel generalizing state with
  | zero => rfl
  | succ fuel ih =>
    rw [drainLoop, drainLoop]
    have search : (state.map f).pending.zipIdx.find?
        (fun entry => entry.1.sequence == (state.map f).expected) =
        (state.pending.zipIdx.find? (fun entry => entry.1.sequence == state.expected)).map
          (fun entry => (entry.1.map f, entry.2)) := by
      rw [FlowState.map, zipIdx_map_pending, List.find?_map]
      rfl
    rw [search]
    cases state.pending.zipIdx.find? (fun entry => entry.1.sequence == state.expected) with
    | none => rfl
    | some entry =>
      have rest := ih { state with
        pending := Vec.swapRemove state.pending entry.2
        expected := state.expected + 1 }
      have removed : ({ state.map f with
          pending := Vec.swapRemove (state.map f).pending entry.2
          expected := (state.map f).expected + 1 } : FlowState U) =
          FlowState.map f { state with
            pending := Vec.swapRemove state.pending entry.2
            expected := state.expected + 1 } := by
        simp only [FlowState.map, Vec.map_swapRemove]
      simp only [Option.map_some]
      rw [removed, rest]
      rfl

/-- As many frames are pending. -/
theorem length_map_pending (state : FlowState T) :
    (state.map f).pending.length = state.pending.length :=
  List.length_map _

/-- `drain_contiguous`. -/
theorem drainContiguous_map (state : FlowState T) :
    drainContiguous (state.map f) = mapStep f (drainContiguous state) := by
  rw [drainContiguous, length_map_pending]
  exact drainLoop_map f _ state

/-- The frame that `release_lowest` selects. -/
theorem lowestForward_map (state : FlowState T) :
    lowestForward (state.map f) =
      (lowestForward state).map (fun entry => (entry.1.map f, entry.2)) := by
  rw [lowestForward, FlowState.map, zipIdx_map_pending, List.filter_map, argmin_map]
  rfl

/-- `release_lowest`. -/
theorem releaseLowest_map (state : FlowState T) (nowMs : Nat) :
    releaseLowest (state.map f) nowMs = mapStep f (releaseLowest state nowMs) := by
  rw [releaseLowest, releaseLowest, lowestForward_map]
  cases lowestForward state with
  | none => rfl
  | some entry =>
    have taken : (state.map f).takeFrame (entry.1.map f) entry.2 =
        (state.takeFrame entry.1 entry.2).map f := by
      simp only [FlowState.takeFrame, FlowState.map, Vec.map_swapRemove]
      rfl
    simp only [Option.map_some]
    rw [taken, drainContiguous_map]
    generalize drainContiguous (state.takeFrame entry.1 entry.2) = drained
    simp only [mapStep, FlowState.rearm, FlowState.map, List.isEmpty_map]
    split <;> rfl

/-- `release_expired`. -/
theorem releaseExpired_map (state : FlowState T) (nowMs : Nat) :
    releaseExpired (state.map f) nowMs = mapStep f (releaseExpired state nowMs) := by
  have same : (state.map f).expired nowMs = state.expired nowMs := rfl
  rw [releaseExpired, releaseExpired, same, releaseLowest_map]
  split <;> rfl

/-- A counted release. -/
theorem accounted_map {step : FlowState T → FlowState T × List T}
    {other : FlowState U → FlowState U × List U} (state : FlowState T) (pendingTotal : Nat)
    (same : other (state.map f) = mapStep f (step state)) :
    accounted other (state.map f) pendingTotal =
      mapCounted f (accounted step state pendingTotal) := by
  simp only [accounted, same, mapStep, mapCounted, length_map_pending]

/-- A counted `release_lowest`. -/
theorem lowest_map (state : FlowState T) (pendingTotal : Nat) (nowMs : Nat) :
    accounted (fun state => releaseLowest state nowMs) (state.map f) pendingTotal =
      mapCounted f (accounted (fun state => releaseLowest state nowMs) state pendingTotal) :=
  accounted_map f state pendingTotal (releaseLowest_map f state nowMs)

/-- A counted `release_expired`. -/
theorem expired_map (state : FlowState T) (pendingTotal : Nat) (nowMs : Nat) :
    accounted (fun state => releaseExpired state nowMs) (state.map f) pendingTotal =
      mapCounted f (accounted (fun state => releaseExpired state nowMs) state pendingTotal) :=
  accounted_map f state pendingTotal (releaseExpired_map f state nowMs)

/-- The part of a push that stores its frame. -/
theorem storePending_map (state : FlowState T) (pendingTotal : Nat) (sequence : UInt32) (value : T)
    (nowMs : Nat) :
    storePending (state.map f) pendingTotal sequence (f value) nowMs =
      mapCounted f (storePending state pendingTotal sequence value nowMs) := by
  have stored : ({ state.map f with
      pending := (state.map f).pending ++ [⟨sequence, f value⟩] } : FlowState U) =
      FlowState.map f { state with pending := state.pending ++ [⟨sequence, value⟩] } := by
    simp [FlowState.map, Pending.map]
  have timed : ∀ state : FlowState T,
      (if (state.map f).gapStartedMs.isNone then
        { state.map f with gapStartedMs := some nowMs } else state.map f : FlowState U) =
      FlowState.map f (if state.gapStartedMs.isNone then
        { state with gapStartedMs := some nowMs } else state) := by
    intro state
    have same : (state.map f).gapStartedMs = state.gapStartedMs := rfl
    rw [same]
    split <;> rfl
  simp only [storePending, stored]
  by_cases above : pendingTotal + 1 > maxPendingTotal
  · simp only [if_pos above, lowest_map, mapCounted, timed, expired_map, List.map_append]
  · simp only [if_neg above, mapCounted, timed, expired_map, List.nil_append]

/-- The part of a push for a frame ahead of the expected one. -/
theorem pushAhead_map (state : FlowState T) (pendingTotal : Nat) (sequence : UInt32) (value : T)
    (nowMs : Nat) :
    pushAhead (state.map f) pendingTotal sequence (f value) nowMs =
      mapCounted f (pushAhead state pendingTotal sequence value nowMs) := by
  obtain ⟨⟨rest, total, early⟩, freed⟩ : ∃ freed, freed =
      if state.pending.length == maxPendingPerFlow then
        accounted (fun state => releaseLowest state nowMs) state pendingTotal
      else (state, pendingTotal, []) := ⟨_, rfl⟩
  have image : (if (state.map f).pending.length == maxPendingPerFlow then
      accounted (fun state => releaseLowest state nowMs) (state.map f) pendingTotal
      else (state.map f, pendingTotal, [])) = mapCounted f (rest, total, early) := by
    rw [length_map_pending, lowest_map, freed]
    split <;> rfl
  have empty : (rest.map f).pending.isEmpty = rest.pending.isEmpty := List.isEmpty_map
  rw [pushAhead, pushAhead, image, ← freed]
  dsimp only [mapCounted]
  by_cases crowded : (total == maxPendingTotal) = true
  · rw [if_pos crowded, if_pos crowded, empty]
    by_cases none : rest.pending.isEmpty = true
    · rw [if_pos none, if_pos none]
      simp only [FlowState.map, List.map_append, List.map_cons, List.map_nil]
    · rw [if_neg none, if_neg none]
      simp only [lowest_map, storePending_map, mapCounted, List.map_append]
  · rw [if_neg crowded, if_neg crowded]
    simp only [storePending_map, mapCounted, List.map_append]

/-- The part of a push after the timer check. -/
theorem pushChecked_map (state : FlowState T) (pendingTotal : Nat) (sequence : UInt32) (value : T)
    (nowMs : Nat) :
    pushChecked (state.map f) pendingTotal sequence (f value) nowMs =
      mapCounted f (pushChecked state pendingTotal sequence value nowMs) := by
  have known : (state.map f).pending.any (fun pending => pending.sequence == sequence) =
      state.pending.any (fun pending => pending.sequence == sequence) := List.any_map
  have drained := accounted_map f
    { state with expected := state.expected + 1, gapStartedMs := none } pendingTotal
    (drainContiguous_map f _)
  rw [pushChecked, pushChecked, known]
  change (if sequence == state.expected then _ else if !isForward sequence state.expected || _
    then _ else _) = _
  split
  · exact congrArg (fun result : FlowState U × Nat × List U =>
      (result.1, result.2.1, f value :: result.2.2)) drained
  · split
    · rfl
    · exact pushAhead_map f state pendingTotal sequence value nowMs

/-- A push. -/
theorem pushFlow_map (state : FlowState T) (pendingTotal : Nat) (sequence : UInt32) (value : T)
    (nowMs : Nat) :
    pushFlow (state.map f) pendingTotal sequence (f value) nowMs =
      mapCounted f (pushFlow state pendingTotal sequence value nowMs) := by
  rw [pushFlow, pushFlow, expired_map]
  simp only [mapCounted, pushChecked_map, List.map_append]

/-- A table holds the flows of another one with other values. -/
structure FlowReassembler.Images (reassembler : FlowReassembler T) (image : FlowReassembler U) :
    Prop where
  /-- The flows are the same but for their values. -/
  flows : Table.Maps (FlowState.map f) reassembler.flows image.flows
  /-- As many frames are pending. -/
  pendingTotal : image.pendingTotal = reassembler.pendingTotal

/-- An arrival with another value. -/
def Arrival.map (arrival : Arrival T) : Arrival U :=
  ⟨arrival.header, f arrival.value, arrival.nowMs⟩

variable {f} {reassembler : FlowReassembler T} {image : FlowReassembler U}

/-- Empty tables are images of each other. -/
theorem images_new : FlowReassembler.Images f (FlowReassembler.new : FlowReassembler T) .new :=
  ⟨rfl, rfl⟩

/-- The same flows are tracked. -/
theorem FlowReassembler.Images.withRoom (images : FlowReassembler.Images f reassembler image)
    (key : ReassemblyKey) :
    FlowReassembler.Images f (reassembler.withRoom key) (image.withRoom key) := by
  have size : image.flows.entries.length = reassembler.flows.entries.length := by
    rw [images.flows, List.length_map]
  have tracked : (image.flows.lookup key).isNone = (reassembler.flows.lookup key).isNone := by
    rw [images.flows.lookup, Option.isNone_map]
  unfold FlowReassembler.withRoom
  rw [size, tracked]
  split
  · exact images_new
  · exact images

/-- The entry of a flow. -/
theorem FlowReassembler.Images.flow (images : FlowReassembler.Images f reassembler image)
    (key : ReassemblyKey) : image.flow key = (reassembler.flow key).map f := by
  unfold FlowReassembler.flow
  rw [images.flows.lookup]
  cases reassembler.flows.lookup key <;> rfl

/-- A push on tables that differ in their values releases frames that differ in their values. -/
theorem FlowReassembler.Images.arrive (images : FlowReassembler.Images f reassembler image)
    (arrival : Arrival T) :
    (image.arrive (arrival.map f)).2 = (reassembler.arrive arrival).2.map f ∧
      FlowReassembler.Images f (reassembler.arrive arrival).1
        (image.arrive (arrival.map f)).1 := by
  have room := images.withRoom arrival.header.key
  have pushed := pushFlow_map f ((reassembler.withRoom arrival.header.key).flow arrival.header.key)
    (reassembler.withRoom arrival.header.key).pendingTotal arrival.header.sequence arrival.value
    arrival.nowMs
  rw [← room.flow, ← room.pendingTotal] at pushed
  simp only [FlowReassembler.arrive, FlowReassembler.pushAt, Arrival.map, pushed]
  rw [← room.pendingTotal]
  exact ⟨rfl, room.flows.insert arrival.header.key _, rfl⟩

end Focsq.FlowFrame
