import Focsq.Verif.FlowTable

/-!
# When the gap timer runs

Frames may wait only as long as a timer runs, so a flow that holds frames back should have its
timer set after every push. Storing a frame sets it and giving up a gap sets it again. Two exits
of `push_at` do not: releasing the expected frame stops the timer although later frames may have
to wait on, and a timer that runs out with no frame ahead is stopped for good. `Disarms` says in
terms of the flow before the push when one of these is taken.
-/

namespace Focsq.FlowFrame

open scoped List

variable {T : Type}

/-- Frames wait only while the timer runs. -/
def FlowState.Armed (state : FlowState T) : Prop :=
  state.pending ≠ [] → state.gapStartedMs.isSome = true

/-- The timer of a flow that holds frames back was set less than its period ago. -/
def FlowState.TimerHolds (state : FlowState T) (nowMs : Nat) : Prop :=
  state.pending ≠ [] →
    ∃ started, state.gapStartedMs = some started ∧ nowMs - started < gapReleaseAfterMs

/-- No pending frame is nearer than this one. -/
def FlowState.Nearest (state : FlowState T) (lowest : Pending T) : Prop :=
  lowest ∈ state.pending ∧ isForward lowest.sequence state.expected = true ∧
    ∀ pending ∈ state.pending, isForward pending.sequence state.expected = true →
      Serial.distance state.expected lowest.sequence ≤
        Serial.distance state.expected pending.sequence

/-- Counting from a base, the number is the first one that is not pending. -/
def FlowState.FirstMissing (state : FlowState T) (base sequence : UInt32) : Prop :=
  sequence ∉ state.sequences ∧
    ∀ other, Serial.distance base other < Serial.distance base sequence → other ∈ state.sequences

/-- Counting from a base, some frame is pending beyond a number that stays missing once the frame
has arrived. -/
def FlowState.Retains (state : FlowState T) (base sequence : UInt32) : Prop :=
  ∃ pending ∈ state.pending, ∃ missing, missing ∉ state.sequences ∧ missing ≠ sequence ∧
    Serial.distance base missing < Serial.distance base pending.sequence

/-- The pushes that stop the timer of a flow although it goes on holding frames back. -/
inductive FlowState.Disarms (state : FlowState T) (sequence : UInt32) (nowMs : Nat) : Prop
  /-- The expected frame arrives, and a later one is still missing. -/
  | inOrder (calm : state.expired nowMs = true →
        ∀ pending ∈ state.pending, isForward pending.sequence state.expected = false)
      (due : sequence = state.expected) (retained : state.Retains (sequence + 1) sequence)
  /-- The timer has run out, so that the frame after the nearest pending ones is expected; it
  arrives, and a later one is still missing. -/
  | overdue (lapsed : state.expired nowMs = true) (lowest : Pending T)
      (nearest : state.Nearest lowest) (due : state.FirstMissing lowest.sequence sequence)
      (retained : state.Retains lowest.sequence sequence)
  /-- The timer has run out over frames that are all stranded, and the new one is dropped. -/
  | stranded (lapsed : state.expired nowMs = true)
      (behind : ∀ pending ∈ state.pending, isForward pending.sequence state.expected = false)
      (waiting : state.pending ≠ []) (early : sequence ≠ state.expected)
      (useless : isForward sequence state.expected = false ∨ sequence ∈ state.sequences)

/-- With the timer not run out, holding is the same as being armed. -/
theorem FlowState.timerHolds_iff (state : FlowState T) (nowMs : Nat)
    (calm : state.expired nowMs = false) : state.TimerHolds nowMs ↔ state.Armed := by
  unfold FlowState.TimerHolds FlowState.Armed
  unfold FlowState.expired at calm
  cases gap : state.gapStartedMs with
  | none => simp
  | some started =>
    have running : nowMs - started < gapReleaseAfterMs := by
      simpa [gap] using calm
    simp [running]

/-- A frame beyond the released run stays pending. -/
theorem Released.remains {before after : FlowState T} {first : UInt32} {run : List (Pending T)}
    (released : Released before after first run) (pending : Pending T)
    (present : pending ∈ before.pending)
    (beyond : run.length ≤ Serial.distance first pending.sequence) : pending ∈ after.pending := by
  rcases List.mem_append.mp (released.contents.mem_iff.mp present) with inside | remaining
  · have near := (released.mem_run pending.sequence).mp (List.mem_map_of_mem inside)
    omega
  · exact remaining

/-- A missing number is not nearer than the end of the released run. -/
theorem Released.missing_beyond {before after : FlowState T} {first : UInt32}
    {run : List (Pending T)} (released : Released before after first run) (missing : UInt32)
    (absent : missing ∉ before.sequences) : run.length ≤ Serial.distance first missing := by
  by_contra near
  exact absent ((released.mem_before missing).mpr (Or.inl (by omega)))

/-- The end of a released run is at its length, as long as something stays pending beyond it. -/
theorem Released.distance_expected {before after : FlowState T} {first : UInt32}
    {run : List (Pending T)} (released : Released before after first run)
    (short : run.length < 2 ^ 32) : Serial.distance first after.expected = run.length := by
  rw [released.expected, Serial.distance_add, Nat.mod_eq_of_lt short]

/-- The end of a released run was not pending before. -/
theorem Released.expected_missing {before after : FlowState T} {first : UInt32}
    {run : List (Pending T)} (released : Released before after first run)
    (short : run.length < 2 ^ 32) : after.expected ∉ before.sequences := by
  intro present
  rcases (released.mem_before _).mp present with near | remaining
  · rw [released.distance_expected short] at near
    exact Nat.lt_irrefl _ near
  · exact released.exhausted remaining

/-- A release leaves a frame behind exactly when a number before that frame is missing. -/
theorem Released.remaining_iff {before after : FlowState T} {first : UInt32}
    {run : List (Pending T)} (released : Released before after first run)
    (distinct : before.sequences.Nodup) :
    after.pending ≠ [] ↔ ∃ pending ∈ before.pending, ∃ missing, missing ∉ before.sequences ∧
      Serial.distance first missing < Serial.distance first pending.sequence := by
  constructor
  · intro waiting
    obtain ⟨pending, present⟩ := List.exists_mem_of_ne_nil _ waiting
    have beyond := released.beyond distinct _ (List.mem_map_of_mem present)
    have short := Nat.lt_trans beyond (Serial.distance_lt first pending.sequence)
    refine ⟨pending, released.contents.mem_iff.mpr (List.mem_append_right _ present),
      after.expected, released.expected_missing short, ?_⟩
    rwa [released.distance_expected short]
  · rintro ⟨pending, present, missing, absent, farther⟩
    have limit := released.missing_beyond missing absent
    exact List.ne_nil_of_mem (released.remains pending present (by omega))

/-- Releasing the expected frame leaves frames behind exactly when it retains some. -/
theorem inOrder_remaining_iff {state next : FlowState T} {run : List (Pending T)}
    (sequence : UInt32) (distinct : state.sequences.Nodup)
    (released : Released { state with expected := sequence + 1, gapStartedMs := none } next
      (sequence + 1) run) :
    next.pending ≠ [] ↔ state.Retains (sequence + 1) sequence := by
  rw [released.remaining_iff distinct]
  constructor
  · rintro ⟨pending, present, missing, absent, farther⟩
    refine ⟨pending, present, missing, absent, ?_, farther⟩
    rintro rfl
    have whole := Serial.distance_lt (missing + 1) pending.sequence
    rw [Serial.distance_succ_self] at farther
    omega
  · rintro ⟨pending, present, missing, absent, _, farther⟩
    exact ⟨pending, present, missing, absent, farther⟩

/-- After a release, the frame at its end arrives and leaves frames behind exactly when, counting
from the first released frame, it is the first missing one and some frame waits for another. -/
theorem Released.retains_iff {before after : FlowState T} {first : UInt32}
    {run : List (Pending T)} (released : Released before after first run)
    (distinct : before.sequences.Nodup) (sequence : UInt32) :
    (sequence = after.expected ∧ after.Retains (sequence + 1) sequence) ↔
      before.FirstMissing first sequence ∧ before.Retains first sequence := by
  constructor
  · rintro ⟨due, pending, present, missing, absent, other, farther⟩
    have beyond := released.beyond distinct _ (List.mem_map_of_mem present)
    have whole := Serial.distance_lt first pending.sequence
    have short : run.length < 2 ^ 32 := by omega
    have reach : Serial.distance first sequence = run.length := by
      rw [due, released.distance_expected short]
    -- From the end of the run on, distances from the two bases differ by a constant.
    have far : Serial.distance (sequence + 1) pending.sequence + 1 =
        Serial.distance first pending.sequence - run.length := by
      rw [Serial.distance_succ _ _ (fun same => by rw [same] at beyond; omega),
        Serial.distance_rebase first sequence _ (by omega), reach]
    have ahead : run.length < Serial.distance first missing := by
      by_contra near
      have apart := Serial.distance_ne first missing sequence other
      have behind := Serial.distance_behind first sequence missing (by omega)
      have step := Serial.distance_succ sequence missing other
      omega
    have close : Serial.distance (sequence + 1) missing + 1 =
        Serial.distance first missing - run.length := by
      rw [Serial.distance_succ _ _ other, Serial.distance_rebase first sequence _ (by omega), reach]
    refine ⟨⟨due ▸ released.expected_missing short, ?_⟩, pending,
      released.contents.mem_iff.mpr (List.mem_append_right _ present), missing, ?_, other,
      by omega⟩
    · intro earlier nearer
      exact (released.mem_before earlier).mpr (Or.inl (by omega))
    · intro inside
      rcases (released.mem_before missing).mp inside with near | remaining
      · omega
      · exact absent remaining
  · rintro ⟨⟨absent, filled⟩, pending, present, missing, lost, other, farther⟩
    have limit := released.missing_beyond sequence absent
    have short : run.length < 2 ^ 32 := Nat.lt_of_le_of_lt limit (Serial.distance_lt _ _)
    have reach : Serial.distance first sequence = run.length := by
      by_contra apart
      refine released.expected_missing short (filled _ ?_)
      rw [released.distance_expected short]
      omega
    have due : sequence = after.expected := by
      apply Serial.distance_injective first
      rw [reach, released.distance_expected short]
    have beyond := released.missing_beyond missing lost
    have apart := Serial.distance_ne first missing sequence other
    have close : Serial.distance (sequence + 1) missing + 1 =
        Serial.distance first missing - run.length := by
      rw [Serial.distance_succ _ _ other, Serial.distance_rebase first sequence _ (by omega), reach]
    have far : Serial.distance (sequence + 1) pending.sequence + 1 =
        Serial.distance first pending.sequence - run.length := by
      rw [Serial.distance_succ _ _ (fun same => by rw [same] at farther; omega),
        Serial.distance_rebase first sequence _ (by omega), reach]
    refine ⟨due, pending, released.remains pending present (by omega), missing, ?_, other,
      by omega⟩
    exact fun remaining => lost ((released.mem_before missing).mpr (Or.inr remaining))

/-- A flow that can take a frame: its timer has not run out, and the frame is new to it. -/
structure FlowState.Receptive (state : FlowState T) (sequence : UInt32) (nowMs : Nat) : Prop where
  /-- No number is pending twice. -/
  distinct : state.sequences.Nodup
  /-- The timer has not run out. -/
  calm : state.expired nowMs = false
  /-- The frame is not pending. -/
  new : sequence ∉ state.sequences

/-- `release_lowest` keeps numbers distinct and adds none. -/
theorem releaseLowest_sequences (state : FlowState T) (nowMs : Nat)
    (distinct : state.sequences.Nodup) :
    (releaseLowest state nowMs).1.sequences.Nodup ∧
      ∀ sequence ∈ (releaseLowest state nowMs).1.sequences, sequence ∈ state.sequences := by
  rcases releaseLowest_cases state nowMs with ⟨_, result⟩ | ⟨_, _, _, _, _, _, released, _⟩
  · rw [result]
    exact ⟨distinct, fun sequence present => present⟩
  · exact ⟨(released.distinct distinct).1,
      fun sequence present => (released.mem_before sequence).mpr (Or.inr present)⟩

/-- Making room leaves a flow that can take the frame. -/
theorem FlowState.Receptive.releaseLowest {state : FlowState T} {sequence : UInt32} {nowMs : Nat}
    (receptive : state.Receptive sequence nowMs) :
    (releaseLowest state nowMs).1.Receptive sequence nowMs where
  distinct := (releaseLowest_sequences state nowMs receptive.distinct).1
  calm := releaseLowest_not_expired state nowMs
  new := fun present => receptive.new
    ((releaseLowest_sequences state nowMs receptive.distinct).2 sequence present)

/-- What holds of a flow after every push, but for the setting of its timer. -/
structure FlowState.Checked (state : FlowState T) (nowMs : Nat) : Prop where
  /-- No number is pending twice. -/
  distinct : state.sequences.Nodup
  /-- The timer has not run out. -/
  calm : state.expired nowMs = false

/-- Starting the timer of a flow. -/
theorem FlowState.Checked.start {state : FlowState T} {nowMs : Nat}
    (checked : state.Checked nowMs) :
    let started :=
      if state.gapStartedMs.isNone then { state with gapStartedMs := some nowMs } else state
    started.Checked nowMs ∧ started.gapStartedMs.isSome = true := by
  cases gap : state.gapStartedMs with
  | none =>
    simp only [Option.isNone_none, ↓reduceIte, Option.isSome_some, and_true]
    exact ⟨checked.distinct, by simp [FlowState.expired, gapReleaseAfterMs]⟩
  | some started =>
    simp only [Option.isNone_some, Bool.false_eq_true, ↓reduceIte, gap, Option.isSome_some,
      and_true]
    exact checked

/-- Storing a frame arms the timer, whether or not the table overflows. -/
theorem storePending_armed (state : FlowState T) (pendingTotal : Nat) (sequence : UInt32)
    (value : T) (nowMs : Nat) (receptive : state.Receptive sequence nowMs) :
    (storePending state pendingTotal sequence value nowMs).1.Checked nowMs ∧
      (storePending state pendingTotal sequence value nowMs).1.Armed := by
  have stored : ({ state with pending := state.pending ++ [⟨sequence, value⟩] } :
      FlowState T).Checked nowMs :=
    ⟨nodup_append_pending state sequence value receptive.distinct receptive.new, receptive.calm⟩
  have settled : ∀ after : FlowState T, after.Checked nowMs →
      (releaseExpired (if after.gapStartedMs.isNone then
        { after with gapStartedMs := some nowMs } else after) nowMs).1.Checked nowMs ∧
      (releaseExpired (if after.gapStartedMs.isNone then
        { after with gapStartedMs := some nowMs } else after) nowMs).1.Armed := by
    intro after checked
    obtain ⟨started, running⟩ := checked.start
    rw [releaseExpired_calm _ nowMs started.calm]
    exact ⟨started, fun _ => running⟩
  by_cases overflow : pendingTotal + 1 > maxPendingTotal
  · simp only [storePending, if_pos overflow, accounted_eq]
    exact settled _ ⟨(releaseLowest_sequences _ nowMs stored.distinct).1,
      releaseLowest_not_expired _ nowMs⟩
  · simp only [storePending, if_neg overflow, accounted_eq]
    exact settled _ stored

/-- Every way to make room for a frame ahead leaves the timer armed. -/
theorem pushAhead_armed (state : FlowState T) (pendingTotal : Nat) (sequence : UInt32)
    (value : T) (nowMs : Nat) (receptive : state.Receptive sequence nowMs) :
    (pushAhead state pendingTotal sequence value nowMs).1.Checked nowMs ∧
      (pushAhead state pendingTotal sequence value nowMs).1.Armed := by
  have forced : ∀ after : FlowState T, after.pending.isEmpty = true →
      ({ after with expected := sequence + 1, gapStartedMs := none } :
        FlowState T).Checked nowMs ∧
      ({ after with expected := sequence + 1, gapStartedMs := none } : FlowState T).Armed := by
    intro after empty
    rw [List.isEmpty_iff] at empty
    exact ⟨⟨by simp [FlowState.sequences, empty], rfl⟩, fun waiting => absurd empty waiting⟩
  have stored {before : FlowState T} (ready : before.Receptive sequence nowMs) (total : Nat) :=
    storePending_armed before total sequence value nowMs ready
  unfold pushAhead
  by_cases full : (state.pending.length == maxPendingPerFlow) = true
  · simp only [full, ↓reduceIte, accounted_eq]
    split
    · split
      · exact forced _ ‹_›
      · dsimp only
        exact stored receptive.releaseLowest.releaseLowest _
    · dsimp only
      exact stored receptive.releaseLowest _
  · simp only [full, Bool.false_eq_true, ↓reduceIte, accounted_eq]
    split
    · split
      · exact forced _ ‹_›
      · dsimp only
        exact stored receptive.releaseLowest _
    · dsimp only
      exact stored receptive _

/-- After the timer check, the timer is left unset exactly when the expected frame retains others
or a dropped frame finds it unset. -/
theorem pushChecked_armed_iff (state : FlowState T) (pendingTotal : Nat) (sequence : UInt32)
    (value : T) (nowMs : Nat) (checked : state.Checked nowMs) :
    (pushChecked state pendingTotal sequence value nowMs).1.Checked nowMs ∧
      ((pushChecked state pendingTotal sequence value nowMs).1.Armed ↔
        ¬(sequence = state.expected ∧ state.Retains (sequence + 1) sequence) ∧
          ¬(sequence ≠ state.expected ∧
            (isForward sequence state.expected = false ∨ sequence ∈ state.sequences) ∧
              ¬state.Armed)) := by
  rw [pushChecked]
  by_cases due : sequence = state.expected
  · obtain ⟨run, _, released, stopped⟩ := drainContiguous_spec
      { state with expected := state.expected + 1, gapStartedMs := none }
    simp only [due, beq_self_eq_true, ↓reduceIte, accounted_eq]
    refine ⟨⟨(released.distinct checked.distinct).1, by simp [FlowState.expired, stopped]⟩, ?_⟩
    rw [← inOrder_remaining_iff state.expected checked.distinct released]
    simp [FlowState.Armed, stopped]
  have early : (sequence == state.expected) = false := by simpa using due
  simp only [early, Bool.false_eq_true, ↓reduceIte]
  by_cases useless : isForward sequence state.expected = false ∨ sequence ∈ state.sequences
  · have dropped : (!isForward sequence state.expected
        || state.pending.any (fun pending => pending.sequence == sequence)) = true := by
      simpa [FlowState.sequences] using useless
    simp only [dropped, ↓reduceIte]
    exact ⟨checked, by simp [due, useless]⟩
  obtain ⟨forward, new⟩ := not_or.mp useless
  rw [Bool.not_eq_false] at forward
  have kept : (!isForward sequence state.expected
      || state.pending.any (fun pending => pending.sequence == sequence)) = false := by
    simpa [FlowState.sequences, forward] using new
  simp only [kept, Bool.false_eq_true, ↓reduceIte]
  obtain ⟨after, armed⟩ := pushAhead_armed state pendingTotal sequence value nowMs
    ⟨checked.distinct, checked.calm, new⟩
  exact ⟨after, by simp [armed, due, useless]⟩

/-- A push leaves the timer of its flow armed exactly when it does not disarm it. -/
theorem pushFlow_armed_iff (state : FlowState T) (pendingTotal : Nat) (sequence : UInt32)
    (value : T) (nowMs : Nat) (distinct : state.sequences.Nodup) (armed : state.Armed) :
    (pushFlow state pendingTotal sequence value nowMs).1.Checked nowMs ∧
      ((pushFlow state pendingTotal sequence value nowMs).1.Armed ↔
        ¬state.Disarms sequence nowMs) := by
  rw [pushFlow_eq]
  cases lapsed : state.expired nowMs with
  | false =>
    rw [releaseExpired_calm state nowMs lapsed]
    obtain ⟨after, iff⟩ := pushChecked_armed_iff state _ sequence value nowMs ⟨distinct, lapsed⟩
    refine ⟨after, iff.trans ?_⟩
    constructor
    · rintro ⟨inOrder, _⟩ (⟨_, due, retained⟩ | ⟨lapsed', _⟩ | ⟨lapsed', _⟩)
      · exact inOrder ⟨due, retained⟩
      · rw [lapsed] at lapsed'
        cases lapsed'
      · rw [lapsed] at lapsed'
        cases lapsed'
    · intro safe
      refine ⟨fun kept => safe (.inOrder (by simp [lapsed]) kept.1 kept.2), ?_⟩
      exact fun unarmed => unarmed.2.2 armed
  | true =>
    have check : releaseExpired state nowMs = releaseLowest state nowMs := by
      rw [releaseExpired, lapsed]
      rfl
    rw [check]
    have kept := (releaseLowest_sequences state nowMs distinct).1
    obtain ⟨after, iff⟩ := pushChecked_armed_iff (releaseLowest state nowMs).1
      (pendingTotal - (state.pending.length - (releaseLowest state nowMs).1.pending.length))
      sequence value nowMs ⟨kept, releaseLowest_not_expired state nowMs⟩
    refine ⟨after, iff.trans ?_⟩
    rcases releaseLowest_cases state nowMs with
      ⟨behind, result⟩ | ⟨lowest, run, present, ahead, closest, _, released, gap⟩
    · rw [result]
      constructor
      · rintro ⟨inOrder, useful⟩ (⟨_, due, retained⟩ | ⟨_, other, nearest, _⟩ | _)
        · exact inOrder ⟨due, retained⟩
        · exact absurd nearest.2.1 (by simp [behind other nearest.1])
        · rename_i waiting early useless
          exact useful ⟨early, useless, fun running => by simpa using running waiting⟩
      · intro safe
        refine ⟨fun kept => safe (.inOrder (fun _ => behind) kept.1 kept.2), ?_⟩
        rintro ⟨early, useless, unarmed⟩
        refine safe (.stranded lapsed behind (fun empty => unarmed ?_) early useless)
        exact fun waiting => absurd empty waiting
    · have running : (releaseLowest state nowMs).1.Armed := by
        intro waiting
        rw [gap, if_neg waiting]
        rfl
      have nearest : state.Nearest lowest := ⟨present, ahead, closest⟩
      have retains := released.retains_iff distinct sequence
      constructor
      · rintro ⟨inOrder, _⟩ (⟨calm, _⟩ | ⟨_, other, closer, due, retained⟩ | ⟨_, behind, _⟩)
        · exact absurd ahead (by simp [calm lapsed lowest present])
        · have same : other.sequence = lowest.sequence := by
            apply Serial.distance_injective state.expected
            exact Nat.le_antisymm (closer.2.2 lowest present ahead)
              (closest other closer.1 closer.2.1)
          exact inOrder (retains.mpr ⟨same ▸ due, same ▸ retained⟩)
        · exact absurd ahead (by simp [behind lowest present])
      · intro safe
        refine ⟨fun retained => ?_, fun unarmed => unarmed.2.2 running⟩
        obtain ⟨due, retained⟩ := retains.mp retained
        exact safe (.overdue lapsed lowest nearest due retained)

/-- The pending numbers are distinct and the timer is armed. -/
def FlowState.Watched (state : FlowState T) : Prop := state.sequences.Nodup ∧ state.Armed

/-- Every flow is watched. -/
def FlowReassembler.Watched (reassembler : FlowReassembler T) : Prop :=
  ∀ key state, reassembler.flows.lookup key = some state → state.Watched

/-- The push stops the timer of its flow although the flow goes on holding frames back. -/
def FlowReassembler.Disarms (reassembler : FlowReassembler T) (arrival : Arrival T) : Prop :=
  ((reassembler.withRoom arrival.header.key).flow arrival.header.key).Disarms
    arrival.header.sequence arrival.nowMs

/-- Right after a push the timer of its flow is set as it should be. -/
def FlowReassembler.TimerHolds (reassembler : FlowReassembler T) (arrival : Arrival T) : Prop :=
  ((reassembler.arrive arrival).1.flow arrival.header.key).TimerHolds arrival.nowMs

/-- A new reassembler has no timer to watch. -/
theorem watched_new : (FlowReassembler.new : FlowReassembler T).Watched := by
  simp [FlowReassembler.Watched, FlowReassembler.new]

/-- The entry of a flow in a watched table is watched. -/
theorem FlowReassembler.Watched.flow {reassembler : FlowReassembler T}
    (watched : reassembler.Watched) (key : ReassemblyKey) :
    (reassembler.flow key).Watched := by
  refine reassembler.flow_of_forall key watched ⟨List.nodup_nil, fun waiting => ?_⟩
  exact absurd rfl waiting

/-- Clearing a full table keeps it watched. -/
theorem FlowReassembler.Watched.withRoom {reassembler : FlowReassembler T}
    (watched : reassembler.Watched) (key : ReassemblyKey) : (reassembler.withRoom key).Watched := by
  unfold FlowReassembler.withRoom
  split
  · exact watched_new
  · exact watched

/-- In a watched table a push leaves the timer set exactly when it does not disarm it, and the
table is then still watched. -/
theorem arrive_timerHolds_iff (reassembler : FlowReassembler T) (arrival : Arrival T)
    (watched : reassembler.Watched) :
    (reassembler.TimerHolds arrival ↔ ¬reassembler.Disarms arrival) ∧
      (reassembler.TimerHolds arrival → (reassembler.arrive arrival).1.Watched) := by
  have admitted := watched.withRoom arrival.header.key
  obtain ⟨distinct, armed⟩ := admitted.flow arrival.header.key
  obtain ⟨checked, iff⟩ := pushFlow_armed_iff _
    (reassembler.withRoom arrival.header.key).pendingTotal arrival.header.sequence arrival.value
    arrival.nowMs distinct armed
  have holds := FlowState.timerHolds_iff _ arrival.nowMs checked.calm
  rw [FlowReassembler.TimerHolds, arrive_flow]
  refine ⟨holds.trans iff, fun after => ?_⟩
  exact Table.forall_insert FlowState.Watched _ _ _
    admitted ⟨checked.distinct, holds.mp after⟩

/-- A run without a disarming push leaves every timer watched. -/
theorem run_watched (arrivals : List (Arrival T))
    (safe : Mealy.Along FlowReassembler.arrive
      (fun reassembler arrival => ¬reassembler.Disarms arrival) .new arrivals) :
    (Mealy.final FlowReassembler.arrive .new arrivals).Watched := by
  refine Mealy.invariant FlowReassembler.Watched ?_ _ _ watched_new safe
  intro reassembler arrival watched kept
  obtain ⟨iff, next⟩ := arrive_timerHolds_iff reassembler arrival watched
  exact next (iff.mpr kept)

/-- A missing frame holds the frames after it back no longer than the timer runs: a timer is set
for them, and once it has run out the next push of the flow releases the nearest of them. -/
def FlowReassembler.GivesUp (reassembler : FlowReassembler T) (next : Arrival T) : Prop :=
  let state := reassembler.flow next.header.key
  ∀ pending ∈ state.pending, isForward pending.sequence state.expected = true →
    ∃ started, state.gapStartedMs = some started ∧
      (gapReleaseAfterMs ≤ next.nowMs - started → ∃ lowest, state.Nearest lowest ∧
        ∃ rest, (reassembler.arrive next).2 = lowest.value :: rest)

/-- With an armed timer a missing frame is given up in time. -/
theorem arrive_givesUp (reassembler : FlowReassembler T) (next : Arrival T)
    (armed : (reassembler.flow next.header.key).Armed) : reassembler.GivesUp next := by
  intro pending present ahead
  obtain ⟨started, gap⟩ := Option.isSome_iff_exists.mp (armed (List.ne_nil_of_mem present))
  refine ⟨started, gap, fun late => ?_⟩
  have lapsed : (reassembler.flow next.header.key).expired next.nowMs = true := by
    simpa only [FlowState.expired, gap, Option.any_some, decide_eq_true_eq] using late
  have tracked : reassembler.withRoom next.header.key = reassembler := by
    have found : (reassembler.flows.lookup next.header.key).isNone = false := by
      cases lookup : reassembler.flows.lookup next.header.key with
      | none => simp [FlowReassembler.flow, lookup, FlowState.fresh] at present
      | some state => rfl
    simp [FlowReassembler.withRoom, found]
  rcases releaseLowest_cases (reassembler.flow next.header.key) next.nowMs with
    ⟨behind, _⟩ | ⟨lowest, run, inside, forward, closest, output, _⟩
  · exact absurd ahead (by simp [behind pending present])
  refine ⟨lowest, ⟨inside, forward, closest⟩, ?_⟩
  simp only [FlowReassembler.arrive, FlowReassembler.pushAt, tracked, pushFlow_eq, releaseExpired]
  rw [if_pos lapsed, output, List.map_cons, List.cons_append]
  exact ⟨_, rfl⟩

/-- In every run, the timer of the pushed flow is set after each push exactly when no push of the
run disarms it; and then missing frames are given up in time. -/
theorem run_timerHolds_iff (arrivals : List (Arrival T)) :
    (Mealy.Along FlowReassembler.arrive FlowReassembler.TimerHolds .new arrivals ↔
      Mealy.Along FlowReassembler.arrive
        (fun reassembler arrival => ¬reassembler.Disarms arrival) .new arrivals) ∧
    (Mealy.Along FlowReassembler.arrive FlowReassembler.TimerHolds .new arrivals →
      ∀ next, (Mealy.final FlowReassembler.arrive .new arrivals).GivesUp next) := by
  have iff : Mealy.Along FlowReassembler.arrive FlowReassembler.TimerHolds .new arrivals ↔
      Mealy.Along FlowReassembler.arrive
        (fun reassembler arrival => ¬reassembler.Disarms arrival) .new arrivals := by
    refine Mealy.along_congr FlowReassembler.Watched ?_ ?_ _ _ watched_new
    · intro reassembler arrival watched
      exact (arrive_timerHolds_iff reassembler arrival watched).2
    · intro reassembler arrival watched
      exact (arrive_timerHolds_iff reassembler arrival watched).1
  refine ⟨iff, fun kept next => ?_⟩
  exact arrive_givesUp _ next ((run_watched arrivals (iff.mp kept)).flow next.header.key).2

/-- Frame 0 arrives while frame 2 waits: frame 2 goes on waiting for frame 1 without a timer. -/
theorem expectedFrame_disarms :
    ¬∀ arrivals : List (Arrival Unit),
      (arrivals.map (fun arrival => arrival.nowMs)).Pairwise (· ≤ ·) →
        Mealy.Along FlowReassembler.arrive FlowReassembler.TimerHolds .new arrivals := by
  intro holds
  have run := holds [⟨⟨17, 23, 2⟩, (), 0⟩, ⟨⟨17, 23, 0⟩, (), 1⟩] (by decide)
  obtain ⟨started, gap, _⟩ := run.2.1 (by decide)
  have stopped : (((FlowReassembler.new.arrive ⟨⟨17, 23, 2⟩, (), 0⟩).1.arrive
      ⟨⟨17, 23, 0⟩, (), 1⟩).1.flow ⟨17, 23⟩).gapStartedMs = none := by decide
  exact absurd (gap.symm.trans stopped) (by simp)

end Focsq.FlowFrame
