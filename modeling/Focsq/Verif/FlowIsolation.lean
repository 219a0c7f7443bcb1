import Focsq.Lib.Copies
import Focsq.Verif.FlowAccount

/-!
# Flows do not influence each other

Flows share a table and the number of frames it holds back. While the table has room for all of
them, neither has an effect: a push does to its flow what it would do if there was no other one.
So the reassembler is a number of independent flows, one for each key.
-/

namespace Focsq.FlowFrame

variable {T : Type}

section Alone

/-- What `push_at` does with a frame ahead of the expected one when there is no other flow. -/
def FlowState.storeAhead (state : FlowState T) (arrival : Arrival T) : FlowState T × List T :=
  let freed :=
    if state.pending.length == maxPendingPerFlow then releaseLowest state arrival.nowMs
    else (state, [])
  let late := releaseExpired
    (freed.1.store arrival.header.sequence arrival.value arrival.nowMs) arrival.nowMs
  (late.1, freed.2 ++ late.2)

/-- What `push_at` does after the timer check when there is no other flow. -/
def FlowState.arriveChecked (state : FlowState T) (arrival : Arrival T) :
    FlowState T × List T :=
  if arrival.header.sequence == state.expected then
    let drained := drainContiguous { state with
      expected := state.expected + 1
      gapStartedMs := none }
    (drained.1, arrival.value :: drained.2)
  else if !isForward arrival.header.sequence state.expected
      || state.pending.any (fun pending => pending.sequence == arrival.header.sequence) then
    (state, [])
  else state.storeAhead arrival

/-- A flow on its own. -/
def FlowState.arrive (state : FlowState T) (arrival : Arrival T) : FlowState T × List T :=
  let late := releaseExpired state arrival.nowMs
  let pushed := late.1.arriveChecked arrival
  (pushed.1, late.2 ++ pushed.2)

/-- What is done to a flow is the same as on its own, and the frames that it holds back are
counted. -/
structure Exchanges (state : FlowState T) (pendingTotal : Nat) (result : FlowState T × Nat × List T)
    (alone : FlowState T × List T) : Prop where
  /-- The flow is the same. -/
  moved : result.1 = alone.1
  /-- So is what it releases. -/
  output : result.2.2 = alone.2
  /-- Frames are counted. -/
  counted : result.2.1 + state.pending.length = pendingTotal + alone.1.pending.length

/-- Frames that are taken away are counted. -/
theorem accounted_exchanges (step : FlowState T → FlowState T × List T) {state : FlowState T}
    {pendingTotal : Nat} (shrinks : (step state).1.pending.length ≤ state.pending.length)
    (covered : state.pending.length ≤ pendingTotal) :
    Exchanges state pendingTotal (accounted step state pendingTotal) (step state) where
  moved := rfl
  output := rfl
  counted := by
    rw [accounted_eq]
    dsimp only
    omega

/-- One step after another. -/
theorem Exchanges.append {state : FlowState T} {pendingTotal between : Nat}
    {first alone : FlowState T × List T} {result : FlowState T × Nat × List T}
    (early : Exchanges state pendingTotal (first.1, between, first.2) first)
    (late : Exchanges first.1 between result alone) :
    Exchanges state pendingTotal (result.1, result.2.1, first.2 ++ result.2.2)
      (alone.1, first.2 ++ alone.2) where
  moved := late.moved
  output := congrArg (first.2 ++ ·) late.output
  counted := by
    have before := early.counted
    have after := late.counted
    dsimp only at before after ⊢
    omega

/-- A frame is stored as if there was no other flow. -/
theorem storePending_exchanges (state : FlowState T) {pendingTotal : Nat} (sequence : UInt32)
    (value : T) (nowMs : Nat) (covered : state.pending.length ≤ pendingTotal)
    (below : pendingTotal < maxPendingTotal) :
    Exchanges state pendingTotal (storePending state pendingTotal sequence value nowMs)
      (releaseExpired (state.store sequence value nowMs) nowMs) := by
  have room : ¬pendingTotal + 1 > maxPendingTotal := by omega
  have stored : (state.store sequence value nowMs).pending.length = state.pending.length + 1 := by
    rw [FlowState.store, List.length_append, List.length_singleton]
  have timer : (if state.gapStartedMs.isNone = true then
      ({ expected := state.expected, gapStartedMs := some nowMs,
         pending := state.pending ++ [⟨sequence, value⟩] } : FlowState T)
      else { state with pending := state.pending ++ [⟨sequence, value⟩] }) =
      state.store sequence value nowMs := by
    unfold FlowState.store
    cases gap : state.gapStartedMs <;> simp
  have late := accounted_exchanges (fun state => releaseExpired state nowMs)
    (releaseExpired_frees (state.store sequence value nowMs) nowMs).shrinks
    (stored.le.trans (Nat.add_le_add_right covered 1))
  have result : storePending state pendingTotal sequence value nowMs =
      accounted (fun state => releaseExpired state nowMs) (state.store sequence value nowMs)
        (pendingTotal + 1) := by
    simp only [storePending, if_neg room, List.nil_append, timer]
  have counted := late.counted
  rw [stored] at counted
  rw [result]
  exact ⟨late.moved, late.output, by omega⟩

/-- So is a frame that makes room for itself. -/
theorem pushAhead_exchanges (state : FlowState T) {pendingTotal : Nat} (arrival : Arrival T)
    (covered : state.pending.length ≤ pendingTotal) (below : pendingTotal < maxPendingTotal) :
    Exchanges state pendingTotal
      (pushAhead state pendingTotal arrival.header.sequence arrival.value arrival.nowMs)
      (state.storeAhead arrival) := by
  unfold pushAhead FlowState.storeAhead
  by_cases full : (state.pending.length == maxPendingPerFlow) = true
  · have shorter := (releaseLowest_frees state arrival.nowMs).shrinks
    have freed := accounted_exchanges (fun state => releaseLowest state arrival.nowMs) shorter
      covered
    have other : ¬(pendingTotal - (state.pending.length -
        (releaseLowest state arrival.nowMs).1.pending.length) == maxPendingTotal) = true := by
      rw [beq_iff_eq]
      omega
    have stored := storePending_exchanges (releaseLowest state arrival.nowMs).1
      arrival.header.sequence arrival.value arrival.nowMs
      (by omega : (releaseLowest state arrival.nowMs).1.pending.length ≤ pendingTotal -
        (state.pending.length - (releaseLowest state arrival.nowMs).1.pending.length)) (by omega)
    rw [if_pos full, if_pos full, accounted_eq]
    dsimp only
    rw [if_neg other]
    exact Exchanges.append freed stored
  · have other : ¬(pendingTotal == maxPendingTotal) = true := by
      rw [beq_iff_eq]
      omega
    have stored := storePending_exchanges state arrival.header.sequence arrival.value
      arrival.nowMs covered below
    rw [if_neg full, if_neg full]
    dsimp only
    rw [if_neg other]
    exact ⟨stored.moved, congrArg ([] ++ ·) stored.output, stored.counted⟩

/-- So is every frame after the timer check. -/
theorem pushChecked_exchanges (state : FlowState T) {pendingTotal : Nat} (arrival : Arrival T)
    (covered : state.pending.length ≤ pendingTotal) (below : pendingTotal < maxPendingTotal) :
    Exchanges state pendingTotal
      (pushChecked state pendingTotal arrival.header.sequence arrival.value arrival.nowMs)
      (state.arriveChecked arrival) := by
  unfold pushChecked FlowState.arriveChecked
  by_cases inOrder : (arrival.header.sequence == state.expected) = true
  · have drained := accounted_exchanges drainContiguous (drainContiguous_frees
      { state with expected := state.expected + 1, gapStartedMs := none }).shrinks covered
    rw [if_pos inOrder, if_pos inOrder]
    exact ⟨drained.moved, congrArg (arrival.value :: ·) drained.output, drained.counted⟩
  · rw [if_neg inOrder, if_neg inOrder]
    by_cases dropped : (!isForward arrival.header.sequence state.expected
        || state.pending.any (fun pending => pending.sequence == arrival.header.sequence)) = true
    · rw [if_pos dropped, if_pos dropped]
      exact ⟨rfl, rfl, rfl⟩
    · rw [if_neg dropped, if_neg dropped]
      exact pushAhead_exchanges state arrival covered below

/-- So is every frame. -/
theorem pushFlow_exchanges (state : FlowState T) {pendingTotal : Nat} (arrival : Arrival T)
    (covered : state.pending.length ≤ pendingTotal) (below : pendingTotal < maxPendingTotal) :
    Exchanges state pendingTotal
      (pushFlow state pendingTotal arrival.header.sequence arrival.value arrival.nowMs)
      (state.arrive arrival) := by
  have shorter := (releaseExpired_frees state arrival.nowMs).shrinks
  have late := accounted_exchanges (fun state => releaseExpired state arrival.nowMs) shorter covered
  have pushed := pushChecked_exchanges (releaseExpired state arrival.nowMs).1 arrival
    (by omega : (releaseExpired state arrival.nowMs).1.pending.length ≤ pendingTotal -
      (state.pending.length - (releaseExpired state arrival.nowMs).1.pending.length)) (by omega)
  exact Exchanges.append late pushed

end Alone

section Table

/-- The flow that a frame belongs to. -/
def Arrival.key (arrival : Arrival T) : ReassemblyKey := arrival.header.key

/-- Independent flows. -/
abbrev arriveAll (states : ReassemblyKey → FlowState T) (arrival : Arrival T) :
    (ReassemblyKey → FlowState T) × List T :=
  Copies.stepAll Arrival.key FlowState.arrive states arrival

/-- Before the push there is room in the table for all flows. -/
def FlowReassembler.Spacious (keys : List ReassemblyKey) (reassembler : FlowReassembler T)
    (arrival : Arrival T) : Prop :=
  reassembler.buffered < maxPendingTotal ∧ arrival.header.key ∈ keys

/-- What a push does in a table with room for all flows. -/
structure ArrivesAlone (reassembler : FlowReassembler T) (arrival : Arrival T) : Prop where
  /-- It does to its flow what it would do to it on its own. -/
  moved : (reassembler.arrive arrival).1.flow arrival.header.key =
    ((reassembler.flow arrival.header.key).arrive arrival).1
  /-- It releases the same. -/
  output : (reassembler.arrive arrival).2 =
    ((reassembler.flow arrival.header.key).arrive arrival).2
  /-- It counts what the flow holds back. -/
  counted : (reassembler.arrive arrival).1.pendingTotal +
      (reassembler.flow arrival.header.key).pending.length =
    reassembler.pendingTotal +
      ((reassembler.flow arrival.header.key).arrive arrival).1.pending.length
  /-- It leaves other flows alone. -/
  others : ∀ key, key ≠ arrival.header.key →
    (reassembler.arrive arrival).1.flow key = reassembler.flow key
  /-- Only its flow is tracked in addition. -/
  tracked : (reassembler.arrive arrival).1.flows.keys ⊆
    arrival.header.key :: reassembler.flows.keys

/-- A push in a table with room for all flows. -/
theorem arrivesAlone {reassembler : FlowReassembler T} {arrival : Arrival T}
    (room : reassembler.withRoom arrival.header.key = reassembler)
    (covered : (reassembler.flow arrival.header.key).pending.length ≤ reassembler.pendingTotal)
    (below : reassembler.pendingTotal < maxPendingTotal) : ArrivesAlone reassembler arrival := by
  have exchanges := pushFlow_exchanges (reassembler.flow arrival.header.key) arrival covered below
  have result := arrive_eq room
  rw [exchanges.moved, exchanges.output] at result
  constructor
  · rw [result, FlowReassembler.flow, AList.lookup_insert, Option.getD_some]
  · rw [result]
  · rw [result]
    exact exchanges.counted
  · exact fun key other => arrive_elsewhere room other
  · exact arrive_tracked room

/-- The table has all flows, and counts what they hold back. -/
structure FlowReassembler.Holds (keys : List ReassemblyKey) (reassembler : FlowReassembler T)
    (states : ReassemblyKey → FlowState T) : Prop where
  /-- It has them. -/
  flows : ∀ key, reassembler.flow key = states key
  /-- It tracks no others. -/
  tracked : reassembler.flows.keys ⊆ keys
  /-- It counts what they hold back. -/
  counted : reassembler.pendingTotal = reassembler.buffered

/-- A new table has new flows. -/
theorem holds_new (keys : List ReassemblyKey) :
    (FlowReassembler.new : FlowReassembler T).Holds keys fun _ => .fresh where
  flows := fun _ => rfl
  tracked := List.nil_subset keys
  counted := rfl

/-- A push in a table with room for all flows is one to independent flows. -/
theorem arrive_copies {keys : List ReassemblyKey} (few : keys.dedup.length ≤ maxTrackedFlows)
    (reassembler : FlowReassembler T) (states : ReassemblyKey → FlowState T)
    (arrival : Arrival T) (holds : reassembler.Holds keys states)
    (spacious : reassembler.Spacious keys arrival) :
    (states arrival.header.key).pending.length < maxPendingTotal ∧
      (reassembler.arrive arrival).2 = (arriveAll states arrival).2 ∧
      (reassembler.arrive arrival).1.Holds keys (arriveAll states arrival).1 := by
  have room := FlowReassembler.withRoom_eq few holds.tracked spacious.2
  have part : (reassembler.flow arrival.header.key).pending.length ≤ reassembler.buffered := by
    rw [← reassembler.lookup_length arrival.header.key]
    exact Table.weight_le_total _ _ _
  have below := spacious.1
  have alone := arrivesAlone room (holds.counted ▸ part) (holds.counted ▸ below)
  have same := holds.flows arrival.header.key
  refine ⟨?_, by rw [alone.output, same]; rfl, ?_, ?_, ?_⟩
  · rw [← same]
    omega
  · intro key
    by_cases other : arrival.header.key = key
    · subst other
      rw [alone.moved, same]
      exact (@Copies.stepAll_self _ _ _ _ _ Arrival.key FlowState.arrive states arrival).symm
    · rw [alone.others key (Ne.symm other), holds.flows]
      exact (@Copies.stepAll_of_ne _ _ _ _ _ Arrival.key FlowState.arrive states _ _ other).symm
  · intro key member
    rcases List.mem_cons.mp (alone.tracked member) with rfl | known
    · exact spacious.2
    · exact holds.tracked known
  · have exchanged := (reassembler.withRoom arrival.header.key).buffered_insert arrival.header.key
      ((reassembler.arrive arrival).1.flow arrival.header.key)
      (reassembler.arrive arrival).1.pendingTotal
    have stored : (reassembler.arrive arrival).1 = FlowReassembler.mk
        ((reassembler.withRoom arrival.header.key).flows.insert arrival.header.key
          ((reassembler.arrive arrival).1.flow arrival.header.key))
        (reassembler.arrive arrival).1.pendingTotal := by
      rw [arrive_flow]
      rfl
    have counted := alone.counted
    rw [← stored, room, alone.moved] at exchanged
    have total := holds.counted
    omega

/-- The table has one flow only, and counts what it holds back. -/
structure FlowState.Only (key : ReassemblyKey) (state : FlowState T)
    (reassembler : FlowReassembler T) : Prop where
  /-- It has the flow. -/
  flow : reassembler.flow key = state
  /-- It tracks no other. -/
  tracked : reassembler.flows.keys ⊆ [key]
  /-- It counts what the flow holds back. -/
  counted : reassembler.pendingTotal = state.pending.length

/-- A push in a table with one flow only is one to this flow. -/
theorem arrive_single {key : ReassemblyKey} (state : FlowState T) (reassembler : FlowReassembler T)
    (arrival : Arrival T) (only : state.Only key reassembler)
    (room : state.pending.length < maxPendingTotal ∧ arrival.header.key = key) :
    True ∧ (state.arrive arrival).2 = (reassembler.arrive arrival).2 ∧
      (state.arrive arrival).1.Only key (reassembler.arrive arrival).1 := by
  obtain ⟨rfl, tracked, counted⟩ := only
  obtain ⟨below, rfl⟩ := room
  have few : [arrival.header.key].dedup.length ≤ maxTrackedFlows := by
    rw [List.dedup_eq_self.mpr (List.nodup_singleton _), List.length_singleton]
    decide
  have free := FlowReassembler.withRoom_eq few tracked List.mem_cons_self
  have alone := arrivesAlone free counted.ge (counted ▸ below)
  have total := alone.counted
  refine ⟨trivial, alone.output.symm, alone.moved, ?_, by omega⟩
  intro key member
  rcases List.mem_cons.mp (alone.tracked member) with rfl | known
  · exact List.mem_cons_self
  · exact tracked known

end Table

section Values

/-- What a flow releases, and what it holds back then, is what it held back. -/
theorem Released.keeps {before after : FlowState T} {first : UInt32} {run : List (Pending T)}
    (released : Released before after first run) {holds : T → Prop}
    (held : ∀ pending ∈ before.pending, holds pending.value) :
    (∀ value ∈ run.map (fun pending => pending.value), holds value) ∧
      ∀ pending ∈ after.pending, holds pending.value := by
  have inside (pending : Pending T) (member : pending ∈ run ++ after.pending) :
      holds pending.value := held pending (released.contents.mem_iff.mpr member)
  refine ⟨fun value member => ?_, fun pending member => ?_⟩
  · obtain ⟨pending, listed, rfl⟩ := List.mem_map.mp member
    exact inside pending (List.mem_append_left _ listed)
  · exact inside pending (List.mem_append_right _ member)

/-- Values of a flow are values that were pushed to it. -/
def Keeps (holds : T → Prop) (state : FlowState T) (result : FlowState T × List T) : Prop :=
  (∀ pending ∈ state.pending, holds pending.value) →
    (∀ value ∈ result.2, holds value) ∧ ∀ pending ∈ result.1.pending, holds pending.value

variable {holds : T → Prop}

/-- `release_lowest` keeps values. -/
theorem releaseLowest_keeps (state : FlowState T) (nowMs : Nat) :
    Keeps holds state (releaseLowest state nowMs) := by
  intro held
  rcases releaseLowest_cases state nowMs with ⟨_, result⟩ | ⟨_, _, _, _, _, output, released, _⟩
  · rw [result]
    exact ⟨fun value member => absurd member List.not_mem_nil, held⟩
  · rw [output]
    exact released.keeps held

/-- So does `release_expired`. -/
theorem releaseExpired_keeps (state : FlowState T) (nowMs : Nat) :
    Keeps holds state (releaseExpired state nowMs) := by
  unfold releaseExpired
  by_cases expired : state.expired nowMs = true
  · rw [if_pos expired]
    exact releaseLowest_keeps state nowMs
  · rw [if_neg expired]
    exact fun held => ⟨fun value member => absurd member List.not_mem_nil, held⟩

/-- One step after another keeps values. -/
theorem Keeps.append {state : FlowState T} {first second : FlowState T × List T}
    (early : Keeps holds state first) (late : Keeps holds first.1 second) :
    Keeps holds state (second.1, first.2 ++ second.2) := by
  intro held
  obtain ⟨before, between⟩ := early held
  obtain ⟨after, kept⟩ := late between
  refine ⟨fun value member => ?_, kept⟩
  rcases List.mem_append.mp member with old | new
  · exact before value old
  · exact after value new

/-- A frame that is stored has the value that was pushed. -/
theorem storeAhead_keeps (state : FlowState T) (arrival : Arrival T)
    (pushed : holds arrival.value) : Keeps holds state (state.storeAhead arrival) := by
  have stored (middle : FlowState T) : Keeps holds middle (releaseExpired
      (middle.store arrival.header.sequence arrival.value arrival.nowMs) arrival.nowMs) := by
    intro held
    refine releaseExpired_keeps _ _ fun pending member => ?_
    rcases List.mem_append.mp member with old | new
    · exact held pending old
    · rw [List.mem_singleton.mp new]
      exact pushed
  unfold FlowState.storeAhead
  by_cases full : (state.pending.length == maxPendingPerFlow) = true
  · rw [if_pos full]
    exact (releaseLowest_keeps state arrival.nowMs).append (stored _)
  · rw [if_neg full]
    exact stored state

/-- A flow on its own releases values that were pushed to it. -/
theorem FlowState.arrive_keeps (state : FlowState T) (arrival : Arrival T)
    (pushed : holds arrival.value) : Keeps holds state (state.arrive arrival) := by
  refine (releaseExpired_keeps state arrival.nowMs).append ?_
  unfold FlowState.arriveChecked
  split
  · intro held
    obtain ⟨run, output, released, _⟩ := drainContiguous_spec
      { (releaseExpired state arrival.nowMs).1 with
        expected := (releaseExpired state arrival.nowMs).1.expected + 1
        gapStartedMs := none }
    obtain ⟨values, kept⟩ := released.keeps held
    refine ⟨fun value member => ?_, kept⟩
    rcases List.mem_cons.mp member with rfl | drained
    · exact pushed
    · rw [output] at drained
      exact values value drained
  · split
    · exact fun held => ⟨fun value member => absurd member List.not_mem_nil, held⟩
    · exact storeAhead_keeps _ arrival pushed

end Values

section Run

/-- The keys of the frames that have one key. -/
theorem key_of_mem_inputsOf {arrivals : List (Arrival T)} {key : ReassemblyKey}
    {arrival : Arrival T} (member : arrival ∈ Copies.inputsOf Arrival.key key arrivals) :
    arrival.header.key = key := by
  have same := (List.mem_filter.mp member).2
  exact of_decide_eq_true same

/-- What one flow releases is what a flow on its own does, and the flow never has more frames than
the table can hold back. -/
theorem outputsOf_alone (arrivals : List (Arrival T))
    (few : (arrivals.map Arrival.key).dedup.length ≤ maxTrackedFlows)
    (below : Mealy.Along FlowReassembler.arrive
      (fun reassembler _ => reassembler.buffered < maxPendingTotal) .new arrivals)
    (key : ReassemblyKey) :
    Copies.outputsOf Arrival.key key arrivals
        (Mealy.outputs FlowReassembler.arrive .new arrivals) =
      Mealy.outputs FlowState.arrive .fresh (Copies.inputsOf Arrival.key key arrivals) ∧
    Mealy.Along FlowState.arrive (fun state _ => state.pending.length < maxPendingTotal) .fresh
      (Copies.inputsOf Arrival.key key arrivals) := by
  have spacious : Mealy.Along FlowReassembler.arrive
      (FlowReassembler.Spacious (arrivals.map Arrival.key)) .new arrivals :=
    Mealy.along_and_of_mem _ _ below fun arrival member => List.mem_map_of_mem member
  obtain ⟨same, along⟩ := Mealy.outputs_eq_of_admissible
    (FlowReassembler.Holds (arrivals.map Arrival.key)) (arrive_copies few) .new
    (fun _ => .fresh) arrivals (holds_new _) spacious
  have each := @Copies.along_stepAll _ _ _ _ _ Arrival.key FlowState.arrive
    (fun (state : FlowState T) _ => state.pending.length < maxPendingTotal) (fun _ => .fresh)
    arrivals key along
  refine ⟨?_, each⟩
  rw [same]
  exact @Copies.outputsOf_stepAll _ _ _ _ _ Arrival.key FlowState.arrive (fun _ => .fresh) arrivals
    key

/-- A flow on its own is a reassembler that is given no other flow. -/
theorem outputs_single (arrivals : List (Arrival T)) (key : ReassemblyKey)
    (keyed : ∀ arrival ∈ arrivals, arrival.header.key = key)
    (along : Mealy.Along FlowState.arrive
      (fun state _ => state.pending.length < maxPendingTotal) .fresh arrivals) :
    Mealy.outputs FlowState.arrive .fresh arrivals =
      Mealy.outputs FlowReassembler.arrive .new arrivals :=
  (Mealy.outputs_eq_of_admissible (FlowState.Only key) arrive_single _ .new arrivals
    ⟨rfl, List.nil_subset [key], rfl⟩ (Mealy.along_and_of_mem _ _ along keyed)).1

/-- A flow on its own releases values of its own. -/
theorem outputs_owned (arrivals : List (Arrival T)) (holds : T → Prop)
    (pushed : ∀ arrival ∈ arrivals, holds arrival.value) :
    ∀ output ∈ Mealy.outputs FlowState.arrive .fresh arrivals, ∀ value ∈ output, holds value := by
  have always : Mealy.Along FlowState.arrive (fun _ _ => True) (.fresh : FlowState T) arrivals :=
    Mealy.along_of_forall (fun _ _ => trivial) _ _
  have admissible := Mealy.along_and_of_mem _ _ always pushed
  exact Mealy.forall_outputs
    (fun state : FlowState T => ∀ pending ∈ state.pending, holds pending.value)
    (fun state arrival held here => (state.arrive_keeps arrival here.2 held).2)
    (fun state arrival held here => (state.arrive_keeps arrival here.2 held).1) _ arrivals
    (fun pending member => absurd member List.not_mem_nil) admissible

/-- As long as the table tracks all flows and holds back fewer than 4096 frames, each push to a flow
releases what it would release if the other flows did not exist; so the values of the flow are
released as they would be then. -/
theorem flows_isolated (arrivals : List (Arrival T))
    (few : (arrivals.map Arrival.key).dedup.length ≤ maxTrackedFlows)
    (below : Mealy.Along FlowReassembler.arrive
      (fun reassembler _ => reassembler.buffered < maxPendingTotal) .new arrivals)
    (key : ReassemblyKey) :
    Copies.outputsOf Arrival.key key arrivals
        (Mealy.outputs FlowReassembler.arrive .new arrivals) =
      Mealy.outputs FlowReassembler.arrive .new (Copies.inputsOf Arrival.key key arrivals) ∧
    ∀ owner : T → ReassemblyKey, (∀ arrival ∈ arrivals, owner arrival.value = arrival.key) →
      (Mealy.outputs FlowReassembler.arrive .new arrivals).flatten.filter
          (fun value => owner value = key) =
        (Mealy.outputs FlowReassembler.arrive .new
          (Copies.inputsOf Arrival.key key arrivals)).flatten := by
  obtain ⟨alone, along⟩ := outputsOf_alone arrivals few below key
  have single := outputs_single _ key (fun arrival member => key_of_mem_inputsOf member) along
  refine ⟨alone.trans single, fun owner owns => ?_⟩
  have owned : ∀ answered ∈ arrivals.zip (Mealy.outputs FlowReassembler.arrive .new arrivals),
      ∀ value ∈ answered.2, owner value = answered.1.key := by
    intro answered member value released
    have listed := @Copies.mem_outputsOf _ _ _ _ Arrival.key _ _ _ member
    rw [(outputsOf_alone arrivals few below answered.1.key).1] at listed
    refine outputs_owned _ (fun value => owner value = answered.1.key) (fun arrival within => ?_) _
      listed value released
    exact (owns arrival (List.mem_filter.mp within).1).trans (key_of_mem_inputsOf within)
  rw [Copies.filter_flatten owner key (Mealy.length_outputs _ _) owned, alone, single]

/-- A frame of one flow gives up its gap while the other flow goes on. -/
def gapRun : List (Arrival Nat) :=
  [⟨⟨1, 1, 1⟩, 11, 0⟩, ⟨⟨1, 2, 0⟩, 20, 3⟩, ⟨⟨1, 2, 2⟩, 22, 5⟩, ⟨⟨1, 1, 2⟩, 12, 13⟩,
    ⟨⟨1, 2, 1⟩, 21, 14⟩]

/-- The values of each flow are released as if there was no other one. -/
theorem gapRun_isolated :
    (Mealy.outputs FlowReassembler.arrive .new gapRun).flatten.filter
        (fun value => (if value < 20 then ⟨1, 1⟩ else ⟨1, 2⟩ : ReassemblyKey) = ⟨1, 1⟩) =
      (Mealy.outputs FlowReassembler.arrive .new
        [⟨⟨1, 1, 1⟩, 11, 0⟩, ⟨⟨1, 1, 2⟩, 12, 13⟩]).flatten :=
  (flows_isolated gapRun (by decide) (by decide) ⟨1, 1⟩).2
    (fun value => if value < 20 then ⟨1, 1⟩ else ⟨1, 2⟩) (by decide)

end Run

end Focsq.FlowFrame
