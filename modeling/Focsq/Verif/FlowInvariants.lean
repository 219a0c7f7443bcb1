import Focsq.Lib.Mealy
import Focsq.Lib.Table
import Focsq.Verif.FlowSteps

/-!
# What the buffer of a flow may hold

Frames wait in the buffer of a flow for a predecessor, so each of them should be ahead of the
expected number. `FlowState.Ordered` is that condition together with the size limit. Every
release keeps it; storing a frame keeps it when the frame is still ahead of the expected number
at that moment. `push_at` checks this before it makes room in a full buffer, and making room
moves the expected number, so the condition on a push is `FlowState.Strands`.
-/

namespace Focsq.FlowFrame

open scoped List

variable {T : Type}

/-- Pending frames have distinct numbers ahead of the expected one, and there are not too many. -/
structure FlowState.Ordered (state : FlowState T) : Prop where
  /-- No number is pending twice. -/
  distinct : state.sequences.Nodup
  /-- Every pending frame waits for a predecessor. -/
  ahead : ∀ pending ∈ state.pending, isForward pending.sequence state.expected = true
  /-- The buffer keeps its limit. -/
  bounded : state.pending.length ≤ maxPendingPerFlow

/-- A flow that is not tracked is in order. -/
theorem ordered_fresh : (FlowState.fresh : FlowState T).Ordered :=
  ⟨List.nodup_nil, by simp [FlowState.fresh], Nat.zero_le _⟩

/-- A run released from a base that no pending frame is behind leaves the flow in order. -/
theorem Released.ordered {before after : FlowState T} {first : UInt32} {run : List (Pending T)}
    (released : Released before after first run) (distinct : before.sequences.Nodup)
    (near : ∀ pending ∈ before.pending, Serial.distance first pending.sequence < 2 ^ 31)
    (bounded : before.pending.length ≤ maxPendingPerFlow) : after.Ordered where
  distinct := (released.distinct distinct).1
  ahead := by
    intro pending present
    have listed : pending.sequence ∈ after.sequences := List.mem_map_of_mem present
    have beyond := released.beyond distinct _ listed
    have moved := released.distance distinct _ listed
    have origin := near pending (released.contents.mem_iff.mpr (List.mem_append_right run present))
    rw [isForward_iff]
    omega
  bounded := by
    have lengths := released.contents.length_eq
    rw [List.length_append] at lengths
    omega

/-- A release never adds a pending frame. -/
theorem Released.length {before after : FlowState T} {first : UInt32} {run : List (Pending T)}
    (released : Released before after first run) :
    before.pending.length = run.length + after.pending.length := by
  rw [released.contents.length_eq, List.length_append]

/-- In an ordered flow `release_lowest` removes at least one frame. -/
theorem releaseLowest_shrinks (state : FlowState T) (nowMs : Nat) (ordered : state.Ordered)
    (waiting : state.pending ≠ []) :
    (releaseLowest state nowMs).1.pending.length < state.pending.length := by
  rcases releaseLowest_cases state nowMs with ⟨behind, _⟩ | ⟨_, _, _, _, _, _, released, _⟩
  · obtain ⟨pending, present⟩ := List.exists_mem_of_ne_nil _ waiting
    exact absurd (behind pending present) (by simp [ordered.ahead pending present])
  · have lengths := released.length
    rw [List.length_cons] at lengths
    omega

/-- `release_lowest` keeps a flow in order. -/
theorem releaseLowest_ordered (state : FlowState T) (nowMs : Nat) (ordered : state.Ordered) :
    (releaseLowest state nowMs).1.Ordered := by
  rcases releaseLowest_cases state nowMs with
    ⟨_, result⟩ | ⟨lowest, run, present, _, nearest, _, released, _⟩
  · rw [result]
    exact ⟨ordered.distinct, ordered.ahead, ordered.bounded⟩
  · refine released.ordered ordered.distinct ?_ ordered.bounded
    intro pending member
    have close := nearest pending member (ordered.ahead pending member)
    have forward := (isForward_iff _ _).mp (ordered.ahead pending member)
    rw [Serial.distance_rebase _ _ _ close]
    omega

/-- A release step on its own account. -/
theorem accounted_eq (step : FlowState T → FlowState T × List T) (state : FlowState T)
    (pendingTotal : Nat) :
    accounted step state pendingTotal = ((step state).1,
      pendingTotal - (state.pending.length - (step state).1.pending.length), (step state).2) := rfl

/-- A timer that has just been set or stopped has not run out. -/
theorem releaseLowest_not_expired (state : FlowState T) (nowMs : Nat) :
    (releaseLowest state nowMs).1.expired nowMs = false := by
  rcases releaseLowest_cases state nowMs with ⟨_, result⟩ | ⟨_, _, _, _, _, _, _, gap⟩
  · rw [result]
    rfl
  · rw [FlowState.expired, gap]
    split
    · rfl
    · simp [gapReleaseAfterMs]

/-- After the timer check at a time the timer has not run out at that time. -/
theorem releaseExpired_not_expired (state : FlowState T) (nowMs : Nat) :
    (releaseExpired state nowMs).1.expired nowMs = false := by
  unfold releaseExpired
  split
  · exact releaseLowest_not_expired state nowMs
  · rename_i calm
    simpa using calm

/-- A flow with one more frame pending and its timer running. -/
def FlowState.store (state : FlowState T) (sequence : UInt32) (value : T) (nowMs : Nat) :
    FlowState T where
  expected := state.expected
  gapStartedMs := some (state.gapStartedMs.getD nowMs)
  pending := state.pending ++ [⟨sequence, value⟩]

/-- With room in the table and a timer that has not run out, storing a frame only stores it. -/
theorem storePending_calm (state : FlowState T) (pendingTotal : Nat) (sequence : UInt32)
    (value : T) (nowMs : Nat) (room : pendingTotal < maxPendingTotal)
    (calm : state.expired nowMs = false) :
    storePending state pendingTotal sequence value nowMs =
      (state.store sequence value nowMs, pendingTotal + 1, []) := by
  have below : ¬pendingTotal + 1 > maxPendingTotal := by omega
  simp only [storePending, if_neg below, List.nil_append]
  cases gap : state.gapStartedMs with
  | none =>
    simp [accounted_eq, releaseExpired, FlowState.expired, FlowState.store, gap, gapReleaseAfterMs]
  | some started =>
    have running : ¬gapReleaseAfterMs ≤ nowMs - started := by
      simpa [FlowState.expired, gap] using calm
    simp [accounted_eq, releaseExpired, FlowState.expired, FlowState.store, gap, running]

/-- Nothing is missing between the nearest pending frame and this one. -/
def FlowState.FillsLowestGap (state : FlowState T) (sequence : UInt32) : Prop :=
  ∀ middle, (∃ pending ∈ state.pending,
      Serial.distance state.expected pending.sequence < Serial.distance state.expected middle) →
    Serial.distance state.expected middle < Serial.distance state.expected sequence →
    middle ∈ state.sequences

/-- A run of frames ahead ends after its length, and at most half a turn away. -/
theorem Released.reach {state after : FlowState T} {lowest : Pending T} {run : List (Pending T)}
    (released : Released state after lowest.sequence (lowest :: run)) (ordered : state.Ordered)
    (ahead : isForward lowest.sequence state.expected = true) :
    Serial.distance lowest.sequence after.expected = (lowest :: run).length ∧
      Serial.distance state.expected after.expected =
        Serial.distance state.expected lowest.sequence + (lowest :: run).length ∧
      Serial.distance state.expected after.expected ≤ 2 ^ 31 := by
  have start := (isForward_iff _ _).mp ahead
  have count : (lowest :: run).length ≤ maxPendingPerFlow := by
    have lengths := released.length
    have bounded := ordered.bounded
    omega
  have step : Serial.distance lowest.sequence after.expected = (lowest :: run).length := by
    rw [released.expected, Serial.distance_add, Nat.mod_eq_of_lt]
    exact Nat.lt_of_le_of_lt count (by decide)
  have reach : Serial.distance state.expected after.expected =
      Serial.distance state.expected lowest.sequence + (lowest :: run).length := by
    rw [← step]
    apply Serial.distance_trans
    rw [step]
    exact Nat.lt_of_le_of_lt (Nat.add_le_add (Nat.le_of_lt start.2) count) (by decide)
  refine ⟨step, reach, ?_⟩
  -- The last frame of the run is ahead, and the expected number is the next one.
  let final := lowest.sequence + UInt32.ofNat run.length
  have offset : Serial.distance lowest.sequence final = run.length := by
    rw [Serial.distance_add, Nat.mod_eq_of_lt]
    exact Nat.lt_of_lt_of_le (Nat.lt_succ_of_lt (Nat.lt_of_succ_le count)) (by decide)
  have member : final ∈ state.sequences :=
    (released.mem_before final).mpr (Or.inl (by rw [offset, List.length_cons]; omega))
  obtain ⟨pending, inside, same⟩ := List.mem_map.mp member
  have close := ((isForward_iff _ _).mp (ordered.ahead pending inside)).2
  have whole : Serial.distance state.expected final =
      Serial.distance state.expected lowest.sequence + run.length := by
    rw [← offset]
    apply Serial.distance_trans
    rw [List.length_cons] at count
    rw [offset]
    exact Nat.lt_of_le_of_lt
      (Nat.add_le_add (Nat.le_of_lt start.2) (Nat.le_of_succ_le count)) (by decide)
  rw [same, whole] at close
  rw [reach, List.length_cons]
  omega

/-- Making room leaves a new frame ahead of the expected number exactly when some frame between
the nearest pending one and it is still missing. -/
theorem releaseLowest_forward (state : FlowState T) (nowMs : Nat) (sequence : UInt32)
    (ordered : state.Ordered) (waiting : state.pending ≠ [])
    (forward : isForward sequence state.expected = true) :
    isForward sequence (releaseLowest state nowMs).1.expected = true ↔
      ¬state.FillsLowestGap sequence := by
  rcases releaseLowest_cases state nowMs with
    ⟨behind, _⟩ | ⟨lowest, run, present, ahead, nearest, _, released, _⟩
  · obtain ⟨pending, present⟩ := List.exists_mem_of_ne_nil _ waiting
    exact absurd (behind pending present) (by simp [ordered.ahead pending present])
  generalize (releaseLowest state nowMs).1 = after at released
  have target := (isForward_iff _ _).mp forward
  obtain ⟨step, reach, last⟩ := released.reach ordered ahead
  have fills : state.FillsLowestGap sequence ↔
      Serial.distance state.expected sequence ≤
        Serial.distance state.expected after.expected := by
    constructor
    · intro filled
      by_contra beyond
      have reached := filled after.expected
        ⟨lowest, present, by rw [reach, List.length_cons]; omega⟩ (by omega)
      rcases (released.mem_before _).mp reached with inside | after
      · rw [step] at inside
        exact Nat.lt_irrefl _ inside
      · exact released.exhausted after
    · rintro close middle ⟨pending, inside, below⟩ above
      have low := nearest pending inside (ordered.ahead pending inside)
      apply (released.mem_before middle).mpr
      left
      rw [Serial.distance_rebase state.expected lowest.sequence middle (by omega)]
      omega
  rw [fills, isForward_iff, Nat.not_le]
  rcases Nat.lt_trichotomy (Serial.distance state.expected after.expected)
    (Serial.distance state.expected sequence) with beyond | same | behind
  · rw [Serial.distance_rebase _ _ _ (Nat.le_of_lt beyond)]
    omega
  · rw [Serial.distance_injective _ _ _ same, Serial.distance_self]
    omega
  · rw [Serial.distance_behind _ _ _ behind]
    omega

/-- Storing a new frame keeps the pending numbers distinct. -/
theorem nodup_append_pending (state : FlowState T) (sequence : UInt32) (value : T)
    (distinct : state.sequences.Nodup) (new : sequence ∉ state.sequences) :
    ((state.pending ++ [Pending.mk sequence value]).map
      (fun pending => pending.sequence)).Nodup := by
  rw [List.map_append, List.nodup_append']
  refine ⟨distinct, List.nodup_singleton _, ?_⟩
  intro other pending last
  rw [List.map_singleton, List.mem_singleton] at last
  subst last
  exact new pending

/-- A stored frame leaves the flow in order exactly when it is ahead of the expected number. -/
theorem store_ordered_iff (state : FlowState T) (sequence : UInt32) (value : T) (nowMs : Nat)
    (ordered : state.Ordered) (new : sequence ∉ state.sequences)
    (space : state.pending.length < maxPendingPerFlow) :
    (state.store sequence value nowMs).Ordered ↔ isForward sequence state.expected = true := by
  constructor
  · intro stored
    exact stored.ahead ⟨sequence, value⟩ (List.mem_append_right _ List.mem_cons_self)
  · intro forward
    refine ⟨nodup_append_pending state sequence value ordered.distinct new, ?_, ?_⟩
    · intro pending member
      rcases List.mem_append.mp member with old | last
      · exact ordered.ahead pending old
      · rw [List.mem_singleton] at last
        exact last ▸ forward
    · rw [FlowState.store, List.length_append]
      exact space

/-- A full buffer or a full table, with a frame of this flow that can be released. -/
def FlowState.Crowded (state : FlowState T) (pendingTotal : Nat) : Prop :=
  state.pending ≠ [] ∧
    (state.pending.length = maxPendingPerFlow ∨ pendingTotal = maxPendingTotal)

/-- What `push_at` relies on when it looks at the entry of a flow. -/
structure FlowState.Settled (state : FlowState T) (pendingTotal : Nat) : Prop where
  /-- The buffer is in order. -/
  ordered : state.Ordered
  /-- The timer only runs while frames are pending. -/
  running : state.gapStartedMs.isSome → state.pending ≠ []
  /-- The pending frames of the flow are counted. -/
  counted : state.pending.length ≤ pendingTotal
  /-- The table keeps its limit. -/
  limited : pendingTotal ≤ maxPendingTotal

/-- In a crowded flow the nearest frame makes room for the new one. -/
theorem pushAhead_crowded (state : FlowState T) (pendingTotal : Nat) (sequence : UInt32)
    (value : T) (nowMs : Nat) (settled : state.Settled pendingTotal)
    (crowded : state.Crowded pendingTotal) :
    pushAhead state pendingTotal sequence value nowMs =
      ((releaseLowest state nowMs).1.store sequence value nowMs,
        pendingTotal -
          (state.pending.length - (releaseLowest state nowMs).1.pending.length) + 1,
        (releaseLowest state nowMs).2) := by
  have fewer := releaseLowest_shrinks state nowMs settled.ordered crowded.1
  have counted := settled.counted
  have limited := settled.limited
  have room : pendingTotal -
      (state.pending.length - (releaseLowest state nowMs).1.pending.length) <
        maxPendingTotal := by omega
  have stored := storePending_calm _ _ sequence value nowMs room
    (releaseLowest_not_expired state nowMs)
  by_cases full : state.pending.length = maxPendingPerFlow
  · have below : (pendingTotal -
        (state.pending.length - (releaseLowest state nowMs).1.pending.length) ==
          maxPendingTotal) = false := by simpa using Nat.ne_of_lt room
    simp only [pushAhead, full, beq_self_eq_true, ↓reduceIte, accounted_eq] at stored below ⊢
    simp only [below, Bool.false_eq_true, ↓reduceIte, stored, List.append_nil]
  · have total := crowded.2.resolve_left full
    have notFull : (state.pending.length == maxPendingPerFlow) = false := by simpa using full
    have waiting : state.pending.isEmpty = false := by simpa using crowded.1
    rw [total] at stored ⊢
    simp only [pushAhead, notFull, Bool.false_eq_true, ↓reduceIte, beq_self_eq_true, waiting,
      accounted_eq, stored, List.nil_append, List.append_nil]

/-- With the table full a flow that holds nothing back skips to the new frame. -/
theorem pushAhead_forced (state : FlowState T) (sequence : UInt32)
    (value : T) (nowMs : Nat) (empty : state.pending = []) :
    pushAhead state maxPendingTotal sequence value nowMs =
      ({ state with expected := sequence + 1, gapStartedMs := none }, maxPendingTotal,
        [value]) := by
  simp [pushAhead, empty, maxPendingPerFlow]

/-- With room in the buffer and in the table the frame is only stored. -/
theorem pushAhead_roomy (state : FlowState T) (pendingTotal : Nat) (sequence : UInt32)
    (value : T) (nowMs : Nat) (space : state.pending.length < maxPendingPerFlow)
    (room : pendingTotal < maxPendingTotal) (calm : state.expired nowMs = false) :
    pushAhead state pendingTotal sequence value nowMs =
      (state.store sequence value nowMs, pendingTotal + 1, []) := by
  have notFull : (state.pending.length == maxPendingPerFlow) = false := by
    simpa using Nat.ne_of_lt space
  have notTotal : (pendingTotal == maxPendingTotal) = false := by
    simpa using Nat.ne_of_lt room
  simp only [pushAhead, notFull, notTotal, Bool.false_eq_true, ↓reduceIte, List.nil_append,
    storePending_calm state pendingTotal sequence value nowMs room calm]

/-- What a push does to a settled flow whose timer has been checked: the new state, the new
`pending_total` and what the push itself releases. -/
inductive PushCase (state : FlowState T) (pendingTotal : Nat) (sequence : UInt32) (value : T)
    (nowMs : Nat) : FlowState T × Nat × List T → Prop
  /-- The expected frame goes out, and the run after it. -/
  | inOrder (next : FlowState T) (run : List (Pending T))
      (due : sequence = state.expected)
      (released : Released { state with expected := state.expected + 1, gapStartedMs := none }
        next (state.expected + 1) run)
      (stopped : next.gapStartedMs = none) :
      PushCase state pendingTotal sequence value nowMs
        (next, pendingTotal - (state.pending.length - next.pending.length),
          value :: run.map (fun pending => pending.value))
  /-- A frame behind the expected one or pending already is dropped. -/
  | dropped (early : sequence ≠ state.expected)
      (useless : isForward sequence state.expected = false ∨ sequence ∈ state.sequences) :
      PushCase state pendingTotal sequence value nowMs (state, pendingTotal, [])
  /-- With the table full a flow that holds nothing back skips to the new frame. -/
  | forced (forward : isForward sequence state.expected = true) (empty : state.pending = [])
      (full : pendingTotal = maxPendingTotal) :
      PushCase state pendingTotal sequence value nowMs
        ({ state with expected := sequence + 1, gapStartedMs := none }, pendingTotal, [value])
  /-- With room in the buffer and in the table the frame is stored. -/
  | stored (forward : isForward sequence state.expected = true)
      (new : sequence ∉ state.sequences) (space : state.pending.length < maxPendingPerFlow)
      (room : pendingTotal < maxPendingTotal) :
      PushCase state pendingTotal sequence value nowMs
        (state.store sequence value nowMs, pendingTotal + 1, [])
  /-- In a crowded flow the nearest frame makes room first. -/
  | crowded (forward : isForward sequence state.expected = true)
      (new : sequence ∉ state.sequences) (crowded : state.Crowded pendingTotal) :
      PushCase state pendingTotal sequence value nowMs
        ((releaseLowest state nowMs).1.store sequence value nowMs,
          pendingTotal -
            (state.pending.length - (releaseLowest state nowMs).1.pending.length) + 1,
          (releaseLowest state nowMs).2)

/-- A timer that has not run out leaves the flow as it is. -/
theorem releaseExpired_calm (state : FlowState T) (nowMs : Nat)
    (calm : state.expired nowMs = false) : releaseExpired state nowMs = (state, []) := by
  rw [releaseExpired, calm]
  rfl

/-- The part of `push_at` after the timer check does one of the five things. -/
theorem pushCase_of_settled (state : FlowState T) (pendingTotal : Nat) (sequence : UInt32)
    (value : T) (nowMs : Nat) (settled : state.Settled pendingTotal)
    (calm : state.expired nowMs = false) :
    PushCase state pendingTotal sequence value nowMs
      (pushChecked state pendingTotal sequence value nowMs) := by
  rw [pushChecked]
  by_cases due : sequence = state.expected
  · obtain ⟨run, output, released, stopped⟩ := drainContiguous_spec
      { state with expected := state.expected + 1, gapStartedMs := none }
    simp only [due, beq_self_eq_true, ↓reduceIte, accounted_eq, output]
    exact .inOrder _ run rfl released stopped
  have early : (sequence == state.expected) = false := by simpa using due
  simp only [early, Bool.false_eq_true, ↓reduceIte]
  by_cases useless : isForward sequence state.expected = false ∨ sequence ∈ state.sequences
  · have dropped : (!isForward sequence state.expected
        || state.pending.any (fun pending => pending.sequence == sequence)) = true := by
      simpa [FlowState.sequences] using useless
    simp only [dropped, ↓reduceIte]
    exact .dropped due useless
  obtain ⟨forward, new⟩ := not_or.mp useless
  rw [Bool.not_eq_false] at forward
  have kept : (!isForward sequence state.expected
      || state.pending.any (fun pending => pending.sequence == sequence)) = false := by
    simpa [FlowState.sequences, forward] using new
  simp only [kept, Bool.false_eq_true, ↓reduceIte]
  by_cases crowded : state.Crowded pendingTotal
  · rw [pushAhead_crowded state pendingTotal sequence value nowMs settled crowded]
    exact .crowded forward new crowded
  by_cases full : pendingTotal = maxPendingTotal
  · have empty : state.pending = [] := by
      by_contra waiting
      exact crowded ⟨waiting, Or.inr full⟩
    subst full
    rw [pushAhead_forced state sequence value nowMs empty]
    exact .forced forward empty rfl
  · have space : state.pending.length < maxPendingPerFlow := by
      refine Nat.lt_of_le_of_ne settled.ordered.bounded (fun same => ?_)
      refine crowded ⟨fun empty => ?_, Or.inl same⟩
      rw [empty, List.length_nil] at same
      exact absurd same (by decide)
    have room : pendingTotal < maxPendingTotal := Nat.lt_of_le_of_ne settled.limited full
    rw [pushAhead_roomy state pendingTotal sequence value nowMs space room calm]
    exact .stored forward new space room

/-- The timer check keeps a flow settled, and releases a frame if it releases anything. -/
theorem releaseExpired_settled (state : FlowState T) (pendingTotal : Nat) (nowMs : Nat)
    (settled : state.Settled pendingTotal) :
    (releaseExpired state nowMs).1.Settled (pendingTotal -
        (state.pending.length - (releaseExpired state nowMs).1.pending.length)) ∧
      (state.expired nowMs = true →
        (releaseExpired state nowMs).1.pending.length < state.pending.length) := by
  have counted := settled.counted
  have limited := settled.limited
  cases calm : state.expired nowMs with
  | false =>
    rw [releaseExpired_calm state nowMs calm]
    simpa using settled
  | true =>
    have waiting : state.pending ≠ [] := by
      apply settled.running
      unfold FlowState.expired at calm
      cases gap : state.gapStartedMs with
      | none => simp [gap] at calm
      | some started => rfl
    have fewer := releaseLowest_shrinks state nowMs settled.ordered waiting
    simp only [releaseExpired, calm, ↓reduceIte]
    refine ⟨⟨releaseLowest_ordered state nowMs settled.ordered, ?_, by omega, by omega⟩,
      fun _ => fewer⟩
    rcases releaseLowest_cases state nowMs with ⟨_, result⟩ | ⟨_, _, _, _, _, _, _, gap⟩
    · rw [result]
      simp
    · rw [gap]
      split <;> simp_all

/-- Every push keeps the count of the table exact and within its limit, and stops the timer of
an empty buffer. -/
theorem PushCase.counts {state : FlowState T} {pendingTotal : Nat} {sequence : UInt32} {value : T}
    {nowMs : Nat} {result : FlowState T × Nat × List T}
    (case : PushCase state pendingTotal sequence value nowMs result)
    (settled : state.Settled pendingTotal) :
    result.2.1 + state.pending.length = pendingTotal + result.1.pending.length ∧
      result.2.1 ≤ maxPendingTotal ∧
      (result.1.gapStartedMs.isSome → result.1.pending ≠ []) := by
  have counted := settled.counted
  have limited := settled.limited
  cases case with
  | inOrder next run due released stopped =>
    have lengths := released.length
    simp only at lengths ⊢
    refine ⟨by omega, by omega, by simp [stopped]⟩
  | dropped early useless => exact ⟨rfl, limited, settled.running⟩
  | forced forward empty full => exact ⟨rfl, limited, by simp⟩
  | stored forward new space room =>
    simp only [FlowState.store, List.length_append, List.length_singleton]
    exact ⟨by omega, by omega, by simp⟩
  | crowded forward new crowded =>
    have fewer := releaseLowest_shrinks state nowMs settled.ordered crowded.1
    simp only [FlowState.store, List.length_append, List.length_singleton]
    exact ⟨by omega, by omega, by simp⟩

/-- The frame is ahead now, but making room in the crowded flow gives up the gap it fills. -/
def FlowState.Overtaken (state : FlowState T) (pendingTotal : Nat) (sequence : UInt32) : Prop :=
  state.Crowded pendingTotal ∧ isForward sequence state.expected = true ∧
    sequence ∉ state.sequences ∧ state.FillsLowestGap sequence

/-- After the timer check a push leaves the flow in order unless its frame is overtaken. -/
theorem PushCase.ordered_iff {state : FlowState T} {pendingTotal : Nat} {sequence : UInt32}
    {value : T} {nowMs : Nat} {result : FlowState T × Nat × List T}
    (case : PushCase state pendingTotal sequence value nowMs result)
    (settled : state.Settled pendingTotal) :
    result.1.Ordered ↔ ¬state.Overtaken pendingTotal sequence := by
  have ordered := settled.ordered
  cases case with
  | inOrder next run due released stopped =>
    refine iff_of_true ?_ (fun overtaken => ?_)
    · refine released.ordered ordered.distinct ?_ ordered.bounded
      intro pending present
      have ahead := (isForward_iff _ _).mp (ordered.ahead pending present)
      have other : pending.sequence ≠ state.expected := by
        intro same
        rw [same, Serial.distance_self] at ahead
        exact Nat.lt_irrefl 0 ahead.1
      have closer := Serial.distance_succ state.expected pending.sequence other
      omega
    · have forward := overtaken.2.1
      rw [due, isForward_iff, Serial.distance_self] at forward
      exact Nat.lt_irrefl 0 forward.1
  | dropped early useless =>
    refine iff_of_true ordered (fun overtaken => ?_)
    rcases useless with behind | present
    · exact absurd overtaken.2.1 (by simp [behind])
    · exact overtaken.2.2.1 present
  | forced forward empty full =>
    refine iff_of_true ⟨?_, ?_, ?_⟩ (fun overtaken => overtaken.1.1 empty)
    · simp [FlowState.sequences, empty]
    · simp [empty]
    · simp [empty]
  | stored forward new space room =>
    refine iff_of_true
      ((store_ordered_iff state sequence value nowMs ordered new space).mpr forward) ?_
    rintro ⟨⟨_, full | full⟩, _⟩
    · exact Nat.ne_of_lt space full
    · exact Nat.ne_of_lt room full
  | crowded forward new crowded =>
    have fewer := releaseLowest_shrinks state nowMs ordered crowded.1
    have bounded := ordered.bounded
    have absent : sequence ∉ (releaseLowest state nowMs).1.sequences := by
      intro present
      rcases releaseLowest_cases state nowMs with ⟨_, result⟩ | ⟨_, _, _, _, _, _, released, _⟩
      · rw [result] at present
        exact new present
      · exact new ((released.mem_before sequence).mpr (Or.inr present))
    rw [store_ordered_iff _ sequence value nowMs (releaseLowest_ordered state nowMs ordered)
      absent (by omega), releaseLowest_forward state nowMs sequence ordered crowded.1 forward]
    simp only [FlowState.Overtaken, crowded, forward, new, not_false_eq_true, true_and]

/-- The push stores its frame behind the expected number: the timer has not run out, so nothing
has been released for it, and the frame is overtaken. -/
def FlowState.Strands (state : FlowState T) (pendingTotal : Nat) (sequence : UInt32)
    (nowMs : Nat) : Prop :=
  state.expired nowMs = false ∧ state.Overtaken pendingTotal sequence

/-- Once the timer has released a frame the flow is not crowded. -/
theorem releaseExpired_overtaken (state : FlowState T) (pendingTotal : Nat) (sequence : UInt32)
    (nowMs : Nat) (settled : state.Settled pendingTotal) :
    (releaseExpired state nowMs).1.Overtaken (pendingTotal -
        (state.pending.length - (releaseExpired state nowMs).1.pending.length)) sequence ↔
      state.Strands pendingTotal sequence nowMs := by
  cases calm : state.expired nowMs with
  | false =>
    rw [releaseExpired_calm state nowMs calm]
    simp [FlowState.Strands, calm]
  | true =>
    have fewer := (releaseExpired_settled state pendingTotal nowMs settled).2 calm
    have bounded := settled.ordered.bounded
    have counted := settled.counted
    have limited := settled.limited
    refine iff_of_false ?_ (by simp [FlowState.Strands, calm])
    rintro ⟨⟨_, full | full⟩, _⟩
    · omega
    · omega

/-- A push leaves a settled flow in order exactly when it does not strand its frame. -/
theorem pushFlow_ordered_iff (state : FlowState T) (pendingTotal : Nat) (sequence : UInt32)
    (value : T) (nowMs : Nat) (settled : state.Settled pendingTotal) :
    (pushFlow state pendingTotal sequence value nowMs).1.Ordered ↔
      ¬state.Strands pendingTotal sequence nowMs := by
  have checked := (releaseExpired_settled state pendingTotal nowMs settled).1
  have case := pushCase_of_settled _ _ sequence value nowMs checked
    (releaseExpired_not_expired state nowMs)
  rw [← releaseExpired_overtaken state pendingTotal sequence nowMs settled]
  exact case.ordered_iff checked

/-- A push is the timer check followed by the rest, on the account the check leaves. -/
theorem pushFlow_eq (state : FlowState T) (pendingTotal : Nat) (sequence : UInt32) (value : T)
    (nowMs : Nat) :
    pushFlow state pendingTotal sequence value nowMs =
      ((pushChecked (releaseExpired state nowMs).1 (pendingTotal -
          (state.pending.length - (releaseExpired state nowMs).1.pending.length)) sequence value
          nowMs).1,
        (pushChecked (releaseExpired state nowMs).1 (pendingTotal -
          (state.pending.length - (releaseExpired state nowMs).1.pending.length)) sequence value
          nowMs).2.1,
        (releaseExpired state nowMs).2 ++ (pushChecked (releaseExpired state nowMs).1
          (pendingTotal - (state.pending.length -
            (releaseExpired state nowMs).1.pending.length)) sequence value nowMs).2.2) := rfl

/-- A push keeps the count of the table exact and within its limit, and stops the timer of an
empty buffer. -/
theorem pushFlow_counts (state : FlowState T) (pendingTotal : Nat) (sequence : UInt32)
    (value : T) (nowMs : Nat) (settled : state.Settled pendingTotal) :
    let result := pushFlow state pendingTotal sequence value nowMs
    result.2.1 + state.pending.length = pendingTotal + result.1.pending.length ∧
      result.2.1 ≤ maxPendingTotal ∧
      (result.1.gapStartedMs.isSome → result.1.pending ≠ []) := by
  have checked := releaseExpired_settled state pendingTotal nowMs settled
  have case := pushCase_of_settled _ _ sequence value nowMs checked.1
    (releaseExpired_not_expired state nowMs)
  have counted := settled.counted
  have fewer : (releaseExpired state nowMs).1.pending.length ≤ state.pending.length := by
    cases calm : state.expired nowMs with
    | false => rw [releaseExpired_calm state nowMs calm]
    | true => exact Nat.le_of_lt (checked.2 calm)
  obtain ⟨count, limited, running⟩ := case.counts checked.1
  rw [pushFlow_eq]
  refine ⟨?_, limited, running⟩
  dsimp only
  omega

end Focsq.FlowFrame
