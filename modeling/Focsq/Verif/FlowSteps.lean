import Focsq.Backend.FlowReassembler

/-!
# What one release does to a flow

The release functions of the reassembler all remove frames from the buffer and move the expected
number past them. `Released` says this once, together with what can no longer be in the buffer
afterwards, and `releaseLowest_cases` says where the run starts; every invariant of the
reassembler is derived from these two.
-/

namespace Focsq.FlowFrame

open scoped List

variable {T : Type}

/-- Sequence numbers held back by a flow. -/
def FlowState.sequences (state : FlowState T) : List UInt32 :=
  state.pending.map (fun pending => pending.sequence)

/-- Arming the timer keeps the buffer. -/
@[simp]
theorem FlowState.rearm_pending (state : FlowState T) (nowMs : Nat) :
    (state.rearm nowMs).pending = state.pending := by
  unfold FlowState.rearm
  split <;> rfl

/-- Arming the timer keeps the expected number. -/
@[simp]
theorem FlowState.rearm_expected (state : FlowState T) (nowMs : Nat) :
    (state.rearm nowMs).expected = state.expected := by
  unfold FlowState.rearm
  split <;> rfl

/-- A frame and its index select it out of the buffer. -/
theorem pending_perm (pending : List (Pending T)) (entry : Pending T × Nat)
    (found : entry ∈ pending.zipIdx) :
    pending ~ entry.1 :: Vec.swapRemove pending entry.2 := by
  obtain ⟨inside, value⟩ := List.getElem?_eq_some_iff.mp (List.mem_zipIdx_iff_getElem?.mp found)
  rw [← value]
  exact Vec.swapRemove_perm pending entry.2 inside

/-- Being ahead is a positive distance of less than half a turn. -/
theorem isForward_iff (sequence expected : UInt32) :
    isForward sequence expected = true ↔
      0 < Serial.distance expected sequence ∧ Serial.distance expected sequence < 2 ^ 31 := by
  have zero := Serial.distance_eq_zero expected sequence
  simp only [isForward, Bool.and_eq_true, bne_iff_ne, ne_eq, decide_eq_true_eq, ← zero]
  unfold Serial.distance
  omega

/-- A release removed the run of frames that starts at `first`, and the frame after it is
missing. -/
structure Released (before after : FlowState T) (first : UInt32) (run : List (Pending T)) :
    Prop where
  /-- The run and the remaining frames are the frames before. -/
  contents : before.pending ~ run ++ after.pending
  /-- The run counts up from its first number. -/
  consecutive : run.map (fun pending => pending.sequence) =
    (List.range run.length).map (fun count => first + UInt32.ofNat count)
  /-- The expected number moved past the run. -/
  expected : after.expected = first + UInt32.ofNat run.length
  /-- The next frame is not pending. -/
  exhausted : after.expected ∉ after.sequences

/-- A release does not look at the timer of its result. -/
theorem Released.of_eq {before after other : FlowState T} {first : UInt32}
    {run : List (Pending T)} (released : Released before after first run)
    (pending : other.pending = after.pending) (expected : other.expected = after.expected) :
    Released before other first run where
  contents := pending ▸ released.contents
  consecutive := released.consecutive
  expected := expected ▸ released.expected
  exhausted := by
    simpa only [FlowState.sequences, pending, expected] using released.exhausted

/-- Taking the first frame of a run and releasing the rest of it releases the run. -/
theorem Released.cons {before middle after : FlowState T} {pending : Pending T}
    {run : List (Pending T)} (taken : before.pending ~ pending :: middle.pending)
    (rest : Released middle after (pending.sequence + 1) run) :
    Released before after pending.sequence (pending :: run) where
  contents := taken.trans (rest.contents.cons pending)
  consecutive := by
    rw [List.map_cons, rest.consecutive, List.length_cons, List.range_succ_eq_map, List.map_cons,
      List.map_map]
    congr 1
    · simp
    · apply List.map_congr_left
      intro count _
      simp only [Function.comp, Nat.succ_eq_add_one, UInt32.ofNat_add, UInt32.ofNat_one]
      ac_rfl
  expected := by
    rw [rest.expected, List.length_cons, UInt32.ofNat_add, UInt32.ofNat_one]
    ac_rfl
  exhausted := rest.exhausted

/-- With a turn for every pending frame the loop stops because the expected frame is missing. -/
theorem drainLoop_spec (fuel : Nat) (state : FlowState T) (enough : state.pending.length ≤ fuel) :
    ∃ run, (drainLoop fuel state).2 = run.map (fun pending => pending.value) ∧
      Released state (drainLoop fuel state).1 state.expected run ∧
      (drainLoop fuel state).1.gapStartedMs = state.gapStartedMs := by
  induction fuel generalizing state with
  | zero =>
    have empty : state.pending = [] := List.length_eq_zero_iff.mp (Nat.le_zero.mp enough)
    refine ⟨[], rfl, ⟨?_, rfl, ?_, ?_⟩, rfl⟩
    · simp [drainLoop]
    · simp [drainLoop]
    · simp [drainLoop, FlowState.sequences, empty]
  | succ fuel ih =>
    rw [drainLoop]
    cases search : state.pending.zipIdx.find?
        (fun entry => entry.1.sequence == state.expected) with
    | none =>
      refine ⟨[], rfl, ⟨by simp, rfl, by simp, ?_⟩, rfl⟩
      rw [List.find?_eq_none] at search
      intro present
      obtain ⟨pending, inside, same⟩ := List.mem_map.mp present
      obtain ⟨index, place, rfl⟩ := List.getElem_of_mem inside
      have absent := search (state.pending[index], index)
        (List.mem_zipIdx_iff_getElem?.mpr (by simp))
      exact absent (by simpa using same)
    | some entry =>
      obtain ⟨pending, index⟩ := entry
      have member := List.mem_of_find?_eq_some search
      have start : pending.sequence = state.expected := by
        simpa using List.find?_some search
      have moved := pending_perm state.pending (pending, index) member
      have shorter := moved.length_eq
      simp only [List.length_cons] at shorter
      obtain ⟨run, output, rest, gap⟩ := ih
        { state with
          pending := Vec.swapRemove state.pending index
          expected := state.expected + 1 } (by simp only; omega)
      refine ⟨pending :: run, ?_, ?_, gap⟩
      · simp only [output, List.map_cons]
      · rw [← start] at rest ⊢
        exact Released.cons moved rest

/-- `drain_contiguous` releases exactly the run of frames at the expected number. -/
theorem drainContiguous_spec (state : FlowState T) :
    ∃ run, (drainContiguous state).2 = run.map (fun pending => pending.value) ∧
      Released state (drainContiguous state).1 state.expected run ∧
      (drainContiguous state).1.gapStartedMs = state.gapStartedMs :=
  drainLoop_spec _ state (Nat.le_refl _)

/-- The selected frame is the nearest pending one ahead. -/
theorem lowestForward_some (state : FlowState T) (entry : Pending T × Nat)
    (selected : lowestForward state = some entry) :
    entry ∈ state.pending.zipIdx ∧ isForward entry.1.sequence state.expected = true ∧
      ∀ pending ∈ state.pending, isForward pending.sequence state.expected = true →
        Serial.distance state.expected entry.1.sequence ≤
          Serial.distance state.expected pending.sequence := by
  have member := List.argmin_mem selected
  obtain ⟨inside, ahead⟩ := List.mem_filter.mp member
  refine ⟨inside, ahead, ?_⟩
  intro pending present forward
  obtain ⟨index, place, rfl⟩ := List.getElem_of_mem present
  exact List.le_of_mem_argmin (a := (state.pending[index], index))
    (List.mem_filter.mpr ⟨List.mem_zipIdx_iff_getElem?.mpr (by simp), forward⟩) selected

/-- No frame is selected only when none is ahead. -/
theorem lowestForward_none (state : FlowState T) (selected : lowestForward state = none) :
    ∀ pending ∈ state.pending, isForward pending.sequence state.expected = false := by
  intro pending present
  obtain ⟨index, place, rfl⟩ := List.getElem_of_mem present
  rw [lowestForward, List.argmin_eq_none, List.filter_eq_nil_iff] at selected
  simpa using selected (state.pending[index], index) (List.mem_zipIdx_iff_getElem?.mpr (by simp))

/-- `release_lowest` only stops the timer when nothing is ahead, and otherwise releases the run
of the nearest frame and restarts the timer for what is left. -/
theorem releaseLowest_cases (state : FlowState T) (nowMs : Nat) :
    ((∀ pending ∈ state.pending, isForward pending.sequence state.expected = false) ∧
      releaseLowest state nowMs = ({ state with gapStartedMs := none }, [])) ∨
    ∃ lowest run,
      lowest ∈ state.pending ∧ isForward lowest.sequence state.expected = true ∧
      (∀ pending ∈ state.pending, isForward pending.sequence state.expected = true →
        Serial.distance state.expected lowest.sequence ≤
          Serial.distance state.expected pending.sequence) ∧
      (releaseLowest state nowMs).2 = (lowest :: run).map (fun pending => pending.value) ∧
      Released state (releaseLowest state nowMs).1 lowest.sequence (lowest :: run) ∧
      (releaseLowest state nowMs).1.gapStartedMs =
        if (releaseLowest state nowMs).1.pending = [] then none else some nowMs := by
  cases selected : lowestForward state with
  | none => exact Or.inl ⟨lowestForward_none state selected, by rw [releaseLowest, selected]⟩
  | some entry =>
    right
    obtain ⟨lowest, index⟩ := entry
    obtain ⟨member, ahead, nearest⟩ := lowestForward_some state _ selected
    have moved := pending_perm state.pending (lowest, index) member
    obtain ⟨run, output, drained, gap⟩ := drainContiguous_spec (state.takeFrame lowest index)
    refine ⟨lowest, run, moved.mem_iff.mpr List.mem_cons_self, ahead, nearest, ?_⟩
    simp only [releaseLowest, selected]
    generalize drainContiguous (state.takeFrame lowest index) = drain at output drained gap
    refine ⟨by rw [output, List.map_cons], ?_, ?_⟩
    · exact (Released.cons moved drained).of_eq (by simp) (by simp)
    · by_cases empty : drain.1.pending = []
      · simp [FlowState.rearm, empty, gap, FlowState.takeFrame]
      · simp [FlowState.rearm, empty]

/-- Distinct numbers before a release are distinct afterwards, and the run is gone. -/
theorem Released.distinct {before after : FlowState T} {first : UInt32} {run : List (Pending T)}
    (released : Released before after first run) (distinct : before.sequences.Nodup) :
    after.sequences.Nodup ∧
      ∀ sequence ∈ after.sequences, sequence ∉ run.map (fun pending => pending.sequence) := by
  have moved : before.sequences ~ run.map (fun pending => pending.sequence) ++ after.sequences := by
    rw [FlowState.sequences, FlowState.sequences, ← List.map_append]
    exact released.contents.map _
  have parts := List.nodup_append'.mp (moved.nodup_iff.mp distinct)
  exact ⟨parts.2.1, fun sequence after run => parts.2.2 run after⟩

/-- The numbers of a run are those within its length of the first one. -/
theorem Released.mem_run {before after : FlowState T} {first : UInt32} {run : List (Pending T)}
    (released : Released before after first run) (sequence : UInt32) :
    sequence ∈ run.map (fun pending => pending.sequence) ↔
      Serial.distance first sequence < run.length := by
  rw [released.consecutive, List.mem_map]
  constructor
  · rintro ⟨count, inside, rfl⟩
    rw [Serial.distance_add]
    exact Nat.lt_of_le_of_lt (Nat.mod_le _ _) (List.mem_range.mp inside)
  · intro inside
    exact ⟨_, List.mem_range.mpr inside, Serial.add_distance first sequence⟩

/-- A number was pending when it is within the run or still pending. -/
theorem Released.mem_before {before after : FlowState T} {first : UInt32}
    {run : List (Pending T)} (released : Released before after first run) (sequence : UInt32) :
    sequence ∈ before.sequences ↔
      Serial.distance first sequence < run.length ∨ sequence ∈ after.sequences := by
  rw [← released.mem_run, FlowState.sequences, FlowState.sequences, ← List.mem_append,
    ← List.map_append]
  exact (released.contents.map _).mem_iff

/-- What stays pending lies beyond the released run. -/
theorem Released.beyond {before after : FlowState T} {first : UInt32} {run : List (Pending T)}
    (released : Released before after first run) (distinct : before.sequences.Nodup) :
    ∀ sequence ∈ after.sequences, run.length < Serial.distance first sequence := by
  intro sequence present
  have outside := mt (released.mem_run sequence).mpr
    ((released.distinct distinct).2 sequence present)
  have next : Serial.distance first sequence ≠ run.length := by
    intro same
    have reached := Serial.add_distance first sequence
    rw [same, ← released.expected] at reached
    exact released.exhausted (reached ▸ present)
  omega

/-- The distance of what stays pending is shorter by the released run. -/
theorem Released.distance {before after : FlowState T} {first : UInt32} {run : List (Pending T)}
    (released : Released before after first run) (distinct : before.sequences.Nodup) :
    ∀ sequence ∈ after.sequences, Serial.distance after.expected sequence =
      Serial.distance first sequence - run.length := by
  intro sequence present
  have beyond := released.beyond distinct sequence present
  have whole := Serial.distance_lt first sequence
  have moved : Serial.distance first after.expected = run.length := by
    rw [released.expected, Serial.distance_add, Nat.mod_eq_of_lt (by omega)]
  rw [Serial.distance_rebase first after.expected sequence (by omega), moved]

end Focsq.FlowFrame
