import Focsq.Verif.FlowTable

/-!
# What a push takes in and lets out

A push may release frames in five places, and each of them lowers `pending_total` by what the
buffer lost. `Passes` says for any part of a push which frames it lets out, in which order, and
that it counted them; nothing is assumed of the order of the buffer, so the law holds for frames
that arrive in any way. The accounting of the table follows from it.
-/

namespace Focsq.FlowFrame

open scoped List

variable {T : Type}

/-- Frames leave a flow one by one: each is less than half a turn ahead of the number expected
next, and its successor is expected then. -/
inductive Emits : UInt32 → List (Pending T) → UInt32 → Prop where
  /-- Nothing leaves. -/
  | nil (expected : UInt32) : Emits expected [] expected
  /-- One frame leaves. -/
  | cons {expected after : UInt32} {frame : Pending T} {run : List (Pending T)}
      (ahead : Serial.distance expected frame.sequence < 2 ^ 31)
      (rest : Emits (frame.sequence + 1) run after) : Emits expected (frame :: run) after

/-- One run after another. -/
theorem Emits.append {expected between after : UInt32} {first second : List (Pending T)}
    (early : Emits expected first between) (late : Emits between second after) :
    Emits expected (first ++ second) after := by
  induction early with
  | nil => exact late
  | cons ahead _ ih => exact .cons ahead (ih late)

/-- When nothing leaves, the same number is expected. -/
theorem Emits.steady {expected after : UInt32} {run : List (Pending T)}
    (emits : Emits expected run after) (none : run.length = 0) : after = expected := by
  cases emits with
  | nil => rfl
  | cons => cases none

/-- Consecutive frames may leave when the first of them may. -/
theorem emits_of_consecutive (expected first : UInt32) (run : List (Pending T))
    (consecutive : run.map (fun pending => pending.sequence) =
      (List.range run.length).map (fun count => first + UInt32.ofNat count))
    (starts : if run = [] then first = expected else Serial.distance expected first < 2 ^ 31) :
    Emits expected run (first + UInt32.ofNat run.length) := by
  induction run generalizing expected first with
  | nil =>
    have same : first = expected := starts
    simpa [same] using Emits.nil expected
  | cons frame run ih =>
    rw [List.length_cons, List.range_succ_eq_map, List.map_cons, List.map_cons, List.map_map,
      List.cons.injEq] at consecutive
    obtain ⟨head, tail⟩ := consecutive
    have lowest : frame.sequence = first := by simpa using head
    have later : run.map (fun pending => pending.sequence) =
        (List.range run.length).map (fun count => (first + 1) + UInt32.ofNat count) := by
      rw [tail]
      apply List.map_congr_left
      intro count _
      simp only [Function.comp, Nat.succ_eq_add_one, UInt32.ofNat_add, UInt32.ofNat_one]
      ac_rfl
    have rest := ih (first + 1) (first + 1) later (by split <;> simp)
    have reached : first + 1 + UInt32.ofNat run.length =
        first + UInt32.ofNat (frame :: run).length := by
      rw [List.length_cons, UInt32.ofNat_add, UInt32.ofNat_one]
      ac_rfl
    rw [reached, ← lowest] at rest
    rw [← lowest] at starts ⊢
    exact .cons starts rest

/-- A release lets its run out when the first frame of it may leave. -/
theorem Released.emits {before after : FlowState T} {first expected : UInt32}
    {run : List (Pending T)} (released : Released before after first run)
    (starts : if run = [] then first = expected else Serial.distance expected first < 2 ^ 31) :
    Emits expected run after.expected := by
  rw [released.expected]
  exact emits_of_consecutive expected first run released.consecutive starts

/-- A step takes the given frames in and lets the output out. -/
def Frees (before : FlowState T) (given : List (Pending T)) (after : FlowState T)
    (output : List T) : Prop :=
  ∃ run, output = run.map (fun pending => pending.value) ∧
    before.pending ++ given ~ run ++ after.pending ∧ Emits before.expected run after.expected

/-- `drain_contiguous` only lets frames out. -/
theorem drainContiguous_frees (state : FlowState T) :
    Frees state [] (drainContiguous state).1 (drainContiguous state).2 := by
  obtain ⟨run, output, released, _⟩ := drainContiguous_spec state
  refine ⟨run, output, by simpa using released.contents, released.emits ?_⟩
  split <;> simp

/-- So does `release_lowest`. -/
theorem releaseLowest_frees (state : FlowState T) (nowMs : Nat) :
    Frees state [] (releaseLowest state nowMs).1 (releaseLowest state nowMs).2 := by
  rcases releaseLowest_cases state nowMs with
    ⟨_, result⟩ | ⟨lowest, run, _, ahead, _, output, released, _⟩
  · rw [result]
    exact ⟨[], rfl, by simp, .nil _⟩
  · have near := ((isForward_iff _ _).mp ahead).2
    refine ⟨lowest :: run, output, by simpa using released.contents, released.emits ?_⟩
    rw [if_neg (List.cons_ne_nil lowest run)]
    exact near

/-- So does `release_expired`. -/
theorem releaseExpired_frees (state : FlowState T) (nowMs : Nat) :
    Frees state [] (releaseExpired state nowMs).1 (releaseExpired state nowMs).2 := by
  unfold releaseExpired
  by_cases expired : state.expired nowMs = true
  · rw [if_pos expired]
    exact releaseLowest_frees state nowMs
  · rw [if_neg expired]
    exact ⟨[], rfl, by simp, .nil _⟩

/-- What is not kept has left. -/
theorem Frees.length {before after : FlowState T} {given : List (Pending T)} {output : List T}
    (frees : Frees before given after output) :
    before.pending.length + given.length = output.length + after.pending.length := by
  obtain ⟨run, rfl, contents, _⟩ := frees
  simpa using contents.length_eq

/-- Without a new frame the buffer does not grow. -/
theorem Frees.shrinks {before after : FlowState T} {output : List T}
    (frees : Frees before [] after output) : after.pending.length ≤ before.pending.length := by
  have lengths := frees.length
  rw [List.length_nil] at lengths
  omega

/-- `release_lowest` lets a frame out when one is ahead. -/
theorem releaseLowest_lt (state : FlowState T) (nowMs : Nat) (frame : Pending T)
    (present : frame ∈ state.pending) (ahead : isForward frame.sequence state.expected = true) :
    (releaseLowest state nowMs).1.pending.length < state.pending.length := by
  rcases releaseLowest_cases state nowMs with
    ⟨behind, _⟩ | ⟨lowest, run, _, _, _, _, released, _⟩
  · rw [behind frame present] at ahead
    cases ahead
  · have lengths := released.contents.length_eq
    simp only [List.length_append, List.length_cons] at lengths
    omega

/-- A part of a push takes the given frames in, lets its output out, and counts what the buffer
gained or lost. -/
structure Passes (before : FlowState T) (pendingTotal : Nat) (given : List (Pending T))
    (result : FlowState T × Nat × List T) : Prop where
  /-- Frames move between the buffer and the output. -/
  frees : Frees before given result.1 result.2.2
  /-- `pending_total` follows the buffer. -/
  counted : result.2.1 + before.pending.length = pendingTotal + result.1.pending.length

/-- Doing nothing lets nothing out. -/
theorem passes_nothing (state : FlowState T) (pendingTotal : Nat) :
    Passes state pendingTotal [] (state, pendingTotal, []) :=
  ⟨⟨[], rfl, by simp, .nil _⟩, rfl⟩

/-- One part of a push after another. -/
theorem Passes.append {before : FlowState T} {pendingTotal : Nat} {given more : List (Pending T)}
    {early late : FlowState T × Nat × List T} (one : Passes before pendingTotal given early)
    (two : Passes early.1 early.2.1 more late) :
    Passes before pendingTotal (given ++ more) (late.1, late.2.1, early.2.2 ++ late.2.2) := by
  obtain ⟨⟨run, output, contents, emits⟩, counted⟩ := one
  obtain ⟨⟨rest, following, others, later⟩, total⟩ := two
  rw [output, following]
  refine ⟨⟨run ++ rest, (List.map_append).symm, ?_, emits.append later⟩, ?_⟩
  · have moved := contents.append_right more
    rw [List.append_assoc, List.append_assoc] at moved
    rw [List.append_assoc]
    exact moved.trans (others.append_left run)
  · dsimp only at counted total ⊢
    omega

/-- Timers do not matter. -/
theorem Passes.of_eq {before other : FlowState T} {pendingTotal : Nat} {given : List (Pending T)}
    {result : FlowState T × Nat × List T} (passes : Passes before pendingTotal given result)
    (pending : other.pending = before.pending) (expected : other.expected = before.expected) :
    Passes other pendingTotal given result := by
  refine ⟨?_, pending ▸ passes.counted⟩
  unfold Frees
  rw [pending, expected]
  exact passes.frees

/-- A release whose losses are taken off `pending_total` is counted. -/
theorem accounted_passes (step : FlowState T → FlowState T × List T) (state : FlowState T)
    (pendingTotal : Nat) (frees : Frees state [] (step state).1 (step state).2)
    (covered : state.pending.length ≤ pendingTotal) :
    Passes state pendingTotal [] (accounted step state pendingTotal) := by
  have lengths := frees.length
  rw [accounted_eq]
  refine ⟨frees, ?_⟩
  dsimp only
  simp only [List.length_nil, Nat.add_zero] at lengths
  omega

/-- It never raises `pending_total`. -/
theorem accounted_le (step : FlowState T → FlowState T × List T) (state : FlowState T)
    (pendingTotal : Nat) : (accounted step state pendingTotal).2.1 ≤ pendingTotal :=
  Nat.sub_le _ _

/-- Where `pending_total` stays, nothing has left and the same number is expected. -/
theorem Passes.steady {before : FlowState T} {pendingTotal : Nat}
    {result : FlowState T × Nat × List T} (passes : Passes before pendingTotal [] result)
    (same : result.2.1 = pendingTotal) : result.1.expected = before.expected := by
  have lengths := passes.frees.length
  have counted := passes.counted
  obtain ⟨run, output, _, emits⟩ := passes.frees
  rw [output, List.length_map, List.length_nil] at lengths
  exact emits.steady (by omega)

/-- The part of a push that releases the nearest frame. -/
theorem lowest_passes (state : FlowState T) (pendingTotal : Nat) (nowMs : Nat)
    (covered : state.pending.length ≤ pendingTotal) :
    Passes state pendingTotal []
      (accounted (fun state => releaseLowest state nowMs) state pendingTotal) :=
  accounted_passes _ state pendingTotal (releaseLowest_frees state nowMs) covered

/-- The part of a push that releases the nearest frame of an old gap. -/
theorem expired_passes (state : FlowState T) (pendingTotal : Nat) (nowMs : Nat)
    (covered : state.pending.length ≤ pendingTotal) :
    Passes state pendingTotal []
      (accounted (fun state => releaseExpired state nowMs) state pendingTotal) :=
  accounted_passes _ state pendingTotal (releaseExpired_frees state nowMs) covered

/-- What a part of a push leaves in the buffer is counted in `pending_total`. -/
theorem Passes.covered {before : FlowState T} {pendingTotal : Nat} {given : List (Pending T)}
    {result : FlowState T × Nat × List T} (passes : Passes before pendingTotal given result)
    (covered : before.pending.length ≤ pendingTotal) :
    result.1.pending.length ≤ result.2.1 := by
  have counted := passes.counted
  omega

/-- A frame is stored, and a full table releases one for it: the frame itself is ahead then. -/
theorem storePending_passes (state : FlowState T) (pendingTotal : Nat) (sequence : UInt32)
    (value : T) (nowMs : Nat) (covered : state.pending.length ≤ pendingTotal)
    (limited : pendingTotal ≤ maxPendingTotal)
    (ahead : pendingTotal = maxPendingTotal → isForward sequence state.expected = true) :
    Passes state pendingTotal [⟨sequence, value⟩]
        (storePending state pendingTotal sequence value nowMs) ∧
      (storePending state pendingTotal sequence value nowMs).2.1 ≤ maxPendingTotal := by
  let stored : FlowState T := { state with pending := state.pending ++ [⟨sequence, value⟩] }
  have size : stored.pending.length = state.pending.length + 1 := List.length_append
  have storing : Passes state pendingTotal [⟨sequence, value⟩] (stored, pendingTotal + 1, []) := by
    refine ⟨⟨[], rfl, List.Perm.refl _, .nil _⟩, ?_⟩
    dsimp only
    omega
  let freed := if pendingTotal + 1 > maxPendingTotal then
      accounted (fun state => releaseLowest state nowMs) stored (pendingTotal + 1)
    else (stored, pendingTotal + 1, [])
  have freeing : Passes stored (pendingTotal + 1) [] freed ∧ freed.2.1 ≤ maxPendingTotal := by
    by_cases above : pendingTotal + 1 > maxPendingTotal
    · have release := lowest_passes stored (pendingTotal + 1) nowMs (by omega)
      have shorter := releaseLowest_lt stored nowMs ⟨sequence, value⟩
        (List.mem_append_right _ List.mem_cons_self) (ahead (by omega))
      have counted := release.counted
      simp only [freed, if_pos above]
      refine ⟨release, ?_⟩
      rw [accounted_eq] at counted ⊢
      dsimp only at counted ⊢
      omega
    · simp only [freed, if_neg above]
      exact ⟨passes_nothing _ _, by omega⟩
  obtain ⟨release, bounded⟩ := freeing
  let timed : FlowState T :=
    if freed.1.gapStartedMs.isNone then { freed.1 with gapStartedMs := some nowMs } else freed.1
  have pending : timed.pending = freed.1.pending := by
    simp only [timed]
    split <;> rfl
  have expected : timed.expected = freed.1.expected := by
    simp only [timed]
    split <;> rfl
  have rest : timed.pending.length ≤ freed.2.1 := by
    rw [pending]
    exact release.covered (by omega)
  have late := (expired_passes timed freed.2.1 nowMs rest).of_eq pending.symm expected.symm
  have lower := accounted_le (fun state => releaseExpired state nowMs) timed freed.2.1
  exact ⟨storing.append (release.append late), lower.trans bounded⟩

/-- A frame ahead of the expected number is let out or stored. -/
theorem pushAhead_passes (state : FlowState T) (pendingTotal : Nat) (sequence : UInt32)
    (value : T) (nowMs : Nat) (covered : state.pending.length ≤ pendingTotal)
    (limited : pendingTotal ≤ maxPendingTotal)
    (ahead : isForward sequence state.expected = true) :
    Passes state pendingTotal [⟨sequence, value⟩]
        (pushAhead state pendingTotal sequence value nowMs) ∧
      (pushAhead state pendingTotal sequence value nowMs).2.1 ≤ maxPendingTotal := by
  let freed := if state.pending.length == maxPendingPerFlow then
      accounted (fun state => releaseLowest state nowMs) state pendingTotal
    else (state, pendingTotal, [])
  have freeing : Passes state pendingTotal [] freed ∧ freed.2.1 ≤ pendingTotal := by
    by_cases full : (state.pending.length == maxPendingPerFlow) = true
    · simp only [freed, if_pos full]
      exact ⟨lowest_passes state pendingTotal nowMs covered, accounted_le _ _ _⟩
    · simp only [freed, if_neg full]
      exact ⟨passes_nothing _ _, Nat.le_refl _⟩
  obtain ⟨release, lower⟩ := freeing
  have rest := release.covered covered
  by_cases crowded : freed.2.1 = maxPendingTotal
  · -- The total is still at its limit, so nothing was released and the frame is ahead as before.
    have still : isForward sequence freed.1.expected = true := by
      rw [release.steady (by omega)]
      exact ahead
    by_cases empty : freed.1.pending = []
    · have result : pushAhead state pendingTotal sequence value nowMs =
          ({ freed.1 with expected := sequence + 1, gapStartedMs := none }, freed.2.1,
            freed.2.2 ++ [value]) := by
        simp only [pushAhead, freed] at crowded empty ⊢
        rw [if_pos (beq_iff_eq.mpr crowded), if_pos (List.isEmpty_iff.mpr empty)]
      have bypass : Passes freed.1 freed.2.1 [⟨sequence, value⟩]
          ({ freed.1 with expected := sequence + 1, gapStartedMs := none }, freed.2.1,
            [value]) := by
        have near := ((isForward_iff _ _).mp still).2
        refine ⟨⟨[⟨sequence, value⟩], rfl, ?_, .cons near (.nil _)⟩, rfl⟩
        simp [empty]
      rw [result]
      exact ⟨release.append bypass, lower.trans limited⟩
    · let more := accounted (fun state => releaseLowest state nowMs) freed.1 freed.2.1
      have another : Passes freed.1 freed.2.1 [] more :=
        lowest_passes freed.1 freed.2.1 nowMs rest
      have below : more.2.1 ≤ freed.2.1 := accounted_le _ _ _
      have store := storePending_passes more.1 more.2.1 sequence value nowMs
        (another.covered rest) (by omega) (by
          intro full
          rw [another.steady (by omega)]
          exact still)
      have result : pushAhead state pendingTotal sequence value nowMs =
          ((storePending more.1 more.2.1 sequence value nowMs).1,
            (storePending more.1 more.2.1 sequence value nowMs).2.1,
            freed.2.2 ++ (more.2.2 ++ (storePending more.1 more.2.1 sequence value nowMs).2.2)) := by
        rw [← List.append_assoc]
        simp only [pushAhead, freed, more] at crowded empty ⊢
        rw [if_pos (beq_iff_eq.mpr crowded), if_neg (by simpa using empty)]
      have passes := release.append (another.append store.1)
      dsimp only at passes
      rw [result]
      dsimp only
      exact ⟨passes, store.2⟩
  · have store := storePending_passes freed.1 freed.2.1 sequence value nowMs rest (by omega)
      (fun full => absurd full crowded)
    have result : pushAhead state pendingTotal sequence value nowMs =
        ((storePending freed.1 freed.2.1 sequence value nowMs).1,
          (storePending freed.1 freed.2.1 sequence value nowMs).2.1,
          freed.2.2 ++ (storePending freed.1 freed.2.1 sequence value nowMs).2.2) := by
      simp only [pushAhead, freed] at crowded ⊢
      rw [if_neg (by simpa using crowded)]
    have passes := release.append store.1
    rw [result]
    dsimp only
    exact ⟨passes, store.2⟩

/-- After the timer check a frame is turned away: it is neither the expected one nor ahead of it,
or it is already pending. -/
def FlowState.Rejects (state : FlowState T) (sequence : UInt32) : Prop :=
  sequence ≠ state.expected ∧
    (isForward sequence state.expected = false ∨ sequence ∈ state.sequences)

instance (state : FlowState T) (sequence : UInt32) : Decidable (state.Rejects sequence) :=
  inferInstanceAs (Decidable (_ ∧ _))

/-- The frames of one push that are taken in. -/
def FlowState.taken (state : FlowState T) (sequence : UInt32) (value : T) : List (Pending T) :=
  if state.Rejects sequence then [] else [⟨sequence, value⟩]

/-- After the timer check a frame is taken in unless it is rejected. -/
theorem pushChecked_passes (state : FlowState T) (pendingTotal : Nat) (sequence : UInt32)
    (value : T) (nowMs : Nat) (covered : state.pending.length ≤ pendingTotal)
    (limited : pendingTotal ≤ maxPendingTotal) :
    Passes state pendingTotal (state.taken sequence value)
        (pushChecked state pendingTotal sequence value nowMs) ∧
      (pushChecked state pendingTotal sequence value nowMs).2.1 ≤ maxPendingTotal := by
  by_cases inOrder : sequence = state.expected
  · let next : FlowState T :=
      { state with expected := state.expected + 1, gapStartedMs := none }
    have drained := accounted_passes drainContiguous next pendingTotal
      (drainContiguous_frees next) covered
    have first : Passes state pendingTotal [⟨sequence, value⟩] (next, pendingTotal, [value]) := by
      refine ⟨⟨[⟨sequence, value⟩], rfl, List.perm_append_comm, ?_⟩, rfl⟩
      rw [inOrder]
      exact .cons (by simp) (.nil _)
    have accepts : state.taken sequence value = [⟨sequence, value⟩] :=
      if_neg (fun rejects => rejects.1 inOrder)
    have result : pushChecked state pendingTotal sequence value nowMs =
        ((accounted drainContiguous next pendingTotal).1,
          (accounted drainContiguous next pendingTotal).2.1,
          [value] ++ (accounted drainContiguous next pendingTotal).2.2) := by
      simp only [pushChecked, inOrder, next, beq_self_eq_true, if_true, List.singleton_append]
    rw [result, accepts]
    exact ⟨first.append drained, (accounted_le _ _ _).trans limited⟩
  · have known : (state.pending.any (fun pending => pending.sequence == sequence)) = true ↔
        sequence ∈ state.sequences := by
      simp [FlowState.sequences, List.any_eq_true]
    by_cases rejected : state.Rejects sequence
    · have result : pushChecked state pendingTotal sequence value nowMs =
          (state, pendingTotal, []) := by
        rw [pushChecked, if_neg (by simpa using inOrder), if_pos]
        rw [Bool.or_eq_true, known, Bool.not_eq_true']
        exact rejected.2
      have rejects : state.taken sequence value = [] := if_pos rejected
      rw [result, rejects]
      exact ⟨passes_nothing _ _, limited⟩
    · have ahead : isForward sequence state.expected = true ∧ sequence ∉ state.sequences := by
        simpa [FlowState.Rejects, inOrder] using rejected
      have result : pushChecked state pendingTotal sequence value nowMs =
          pushAhead state pendingTotal sequence value nowMs := by
        rw [pushChecked, if_neg (by simpa using inOrder), if_neg]
        rw [Bool.or_eq_true, known, Bool.not_eq_true']
        rintro (behind | pending)
        · rw [ahead.1] at behind
          cases behind
        · exact ahead.2 pending
      have accepts : state.taken sequence value = [⟨sequence, value⟩] := if_neg rejected
      rw [result, accepts]
      exact pushAhead_passes state pendingTotal sequence value nowMs covered limited ahead.1

/-- The body of a push takes its frame in unless it is rejected after the timer check. -/
theorem pushFlow_passes (state : FlowState T) (pendingTotal : Nat) (sequence : UInt32)
    (value : T) (nowMs : Nat) (covered : state.pending.length ≤ pendingTotal)
    (limited : pendingTotal ≤ maxPendingTotal) :
    Passes state pendingTotal ((releaseExpired state nowMs).1.taken sequence value)
        (pushFlow state pendingTotal sequence value nowMs) ∧
      (pushFlow state pendingTotal sequence value nowMs).2.1 ≤ maxPendingTotal := by
  have late := expired_passes state pendingTotal nowMs covered
  have lower := accounted_le (fun state => releaseExpired state nowMs) state pendingTotal
  have pushed := pushChecked_passes (releaseExpired state nowMs).1
    (accounted (fun state => releaseExpired state nowMs) state pendingTotal).2.1 sequence value
    nowMs (late.covered covered) (lower.trans limited)
  exact ⟨late.append pushed.1, pushed.2⟩

section Table

/-- What the table says about its size holds. -/
structure FlowReassembler.Accounted (reassembler : FlowReassembler T) : Prop where
  /-- `pending_total` is the sum of the buffers of all flows. -/
  counted : reassembler.pendingTotal = reassembler.buffered
  /-- It keeps its limit. -/
  limited : reassembler.pendingTotal ≤ maxPendingTotal
  /-- So does the number of tracked flows. -/
  tracked : reassembler.flows.entries.length ≤ maxTrackedFlows

/-- Nothing is pending in a new table. -/
theorem accounted_new : (FlowReassembler.new : FlowReassembler T).Accounted :=
  ⟨rfl, Nat.zero_le _, Nat.zero_le _⟩

variable {reassembler : FlowReassembler T}

/-- Making room keeps the accounts. -/
theorem FlowReassembler.Accounted.withRoom (accounted : reassembler.Accounted)
    (key : ReassemblyKey) : (reassembler.withRoom key).Accounted := by
  unfold FlowReassembler.withRoom
  split
  · exact accounted_new
  · exact accounted

/-- The buffer of one flow is part of the total. -/
theorem FlowReassembler.Accounted.covered (accounted : reassembler.Accounted)
    (key : ReassemblyKey) : (reassembler.flow key).pending.length ≤ reassembler.pendingTotal := by
  rw [accounted.counted, FlowReassembler.buffered, ← reassembler.lookup_length key]
  exact Table.weight_le_total _ _ _

/-- What a push does to its flow. -/
theorem FlowReassembler.Accounted.passes (accounted : reassembler.Accounted)
    (arrival : Arrival T) :
    Passes (reassembler.flow arrival.header.key) reassembler.pendingTotal
        ((releaseExpired (reassembler.flow arrival.header.key) arrival.nowMs).1.taken
          arrival.header.sequence arrival.value)
        (pushFlow (reassembler.flow arrival.header.key) reassembler.pendingTotal
          arrival.header.sequence arrival.value arrival.nowMs) ∧
      (pushFlow (reassembler.flow arrival.header.key) reassembler.pendingTotal
        arrival.header.sequence arrival.value arrival.nowMs).2.1 ≤ maxPendingTotal :=
  pushFlow_passes _ _ _ _ _ (accounted.covered arrival.header.key) accounted.limited

/-- With the room that `push_at` makes, one more flow fits in the table. -/
theorem FlowReassembler.Accounted.fits (accounted : reassembler.Accounted) (key : ReassemblyKey)
    (absent : key ∉ (reassembler.withRoom key).flows) :
    (reassembler.withRoom key).flows.entries.length < maxTrackedFlows := by
  have tracked := (accounted.withRoom key).tracked
  unfold FlowReassembler.withRoom at absent tracked ⊢
  by_cases clears : (reassembler.flows.entries.length == maxTrackedFlows &&
      (reassembler.flows.lookup key).isNone) = true
  · have empty : (FlowReassembler.new : FlowReassembler T).flows.entries.length = 0 := rfl
    rw [if_pos clears, empty]
    decide
  · rw [if_neg clears] at absent tracked ⊢
    have missing : reassembler.flows.lookup key = none := AList.lookup_eq_none.mpr absent
    have other : reassembler.flows.entries.length ≠ maxTrackedFlows := by
      simpa [missing] using clears
    omega

/-- Every push keeps the accounts. -/
theorem arrive_accounted (reassembler : FlowReassembler T) (arrival : Arrival T)
    (accounted : reassembler.Accounted) : (reassembler.arrive arrival).1.Accounted := by
  have room := accounted.withRoom arrival.header.key
  have fits := accounted.fits arrival.header.key
  rw [FlowReassembler.arrive, FlowReassembler.pushAt]
  generalize reassembler.withRoom arrival.header.key = table at room fits
  obtain ⟨passes, limited⟩ := room.passes arrival
  refine ⟨?_, limited, ?_⟩
  · have exchanged := table.buffered_insert arrival.header.key
      (pushFlow (table.flow arrival.header.key) table.pendingTotal arrival.header.sequence
        arrival.value arrival.nowMs).1
      (pushFlow (table.flow arrival.header.key) table.pendingTotal arrival.header.sequence
        arrival.value arrival.nowMs).2.1
    rw [← room.counted] at exchanged
    exact Nat.add_right_cancel (passes.counted.trans exchanged.symm)
  · dsimp only
    rw [Table.length_insert]
    by_cases known : arrival.header.key ∈ table.flows
    · rw [if_pos known]
      exact room.tracked
    · rw [if_neg known]
      exact fits known

/-- After every run, `pending_total` is the number of frames in all buffers and at most its
limit, and no more flows are tracked than their limit. -/
theorem memory_accounted (arrivals : List (Arrival T)) :
    let reassembler := Mealy.final FlowReassembler.arrive .new arrivals
    reassembler.pendingTotal =
        (reassembler.flows.entries.map (fun entry => entry.2.pending.length)).sum ∧
      reassembler.pendingTotal ≤ maxPendingTotal ∧
      reassembler.flows.entries.length ≤ maxTrackedFlows := by
  have reached := Mealy.final_invariant FlowReassembler.Accounted arrive_accounted _ arrivals
    (accounted_new (T := T))
  exact ⟨reached.counted, reached.limited, reached.tracked⟩

end Table

end Focsq.FlowFrame
