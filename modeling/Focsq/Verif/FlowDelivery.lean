import Focsq.Verif.FlowTable

/-!
# Lossless delivery

As long as there is room and no timer runs out, a push releases the frame and the run after it,
drops a duplicate, or stores the frame. `Progress` relates the state of a flow to the frames that
have arrived: those before the expected number have been released, and the others that arrived
are pending. A flow all of whose frames have arrived has then released all of them in order.
-/

namespace Focsq.FlowFrame

open scoped List

variable {T : Type}

/-- The state of a flow whose frames `position < limit` carry `value position`, after the frames
at the positions `arrived` came in at the times `times`. -/
structure FlowState.Progress (state : FlowState T) (limit : Nat) (value : Nat → T)
    (arrived times : Nat → Prop) : Prop where
  /-- Only frames of the flow are released. -/
  reached : state.expected.toNat ≤ limit
  /-- Pending frames are frames of the flow, and not yet due. -/
  held : ∀ pending ∈ state.pending, state.expected.toNat < pending.sequence.toNat ∧
    pending.sequence.toNat < limit ∧ pending.value = value pending.sequence.toNat
  /-- A frame that arrived is released or pending. -/
  covered : ∀ position, arrived position → position < state.expected.toNat ∨
    ∃ pending ∈ state.pending, pending.sequence.toNat = position
  /-- The present gap opened when some frame arrived. -/
  opened : ∀ started, state.gapStartedMs = some started → times started

/-- A flow of which nothing arrived. -/
theorem progress_fresh (limit : Nat) (value : Nat → T) :
    (FlowState.fresh : FlowState T).Progress limit value (fun _ => False) (fun _ => False) where
  reached := Nat.zero_le _
  held := by simp [FlowState.fresh]
  covered := by simp
  opened := by simp [FlowState.fresh]

/-- Progress depends on the sets of arrived positions and times only. -/
theorem FlowState.Progress.congr {state : FlowState T} {limit : Nat} {value : Nat → T}
    {arrived times arrived' times' : Nat → Prop}
    (progress : state.Progress limit value arrived times)
    (fewer : ∀ position, arrived' position → arrived position)
    (later : ∀ time, times time → times' time) : state.Progress limit value arrived' times' where
  reached := progress.reached
  held := progress.held
  covered := fun position here => progress.covered position (fewer position here)
  opened := fun started gap => later started (progress.opened started gap)

/-- Within the first half turn, ahead means greater. -/
theorem isForward_iff_lt (sequence expected : UInt32) (small : sequence.toNat < 2 ^ 31)
    (reached : expected.toNat ≤ 2 ^ 31) :
    isForward sequence expected = true ↔ expected.toNat < sequence.toNat := by
  rw [isForward_iff]
  rcases Nat.le_total expected.toNat sequence.toNat with order | order
  · rw [Serial.distance_of_le _ _ order]
    omega
  · have back := Serial.distance_of_le _ _ order
    rcases Nat.eq_zero_or_pos (Serial.distance sequence expected) with same | apart
    · rw [Serial.distance_eq_zero] at same
      rw [same, Serial.distance_self]
      omega
    · have around := Serial.distance_behind sequence expected sequence (by simpa using apart)
      rw [Serial.distance_self] at around
      omega

/-- The numbers of a run released below the limit count up without a wrap. -/
theorem Released.expected_toNat {before after : FlowState T} {first : UInt32}
    {run : List (Pending T)} (released : Released before after first run)
    (bounded : before.pending.length ≤ maxPendingPerFlow) (limit : Nat) (small : limit ≤ 2 ^ 31)
    (start : first.toNat ≤ limit)
    (held : ∀ pending ∈ before.pending, first.toNat ≤ pending.sequence.toNat ∧
      pending.sequence.toNat < limit) :
    after.expected.toNat = first.toNat + run.length ∧ after.expected.toNat ≤ limit := by
  have lengths := released.length
  have short : run.length < 2 ^ 32 := by
    have window : maxPendingPerFlow < 2 ^ 32 := by decide
    omega
  have reached : first.toNat + run.length ≤ limit := by
    cases length : run.length with
    | zero => exact start
    | succ count =>
      have place := Serial.distance_add first count
      rw [Nat.mod_eq_of_lt (by omega)] at place
      have member := (released.mem_before (first + UInt32.ofNat count)).mpr
        (Or.inl (by omega))
      obtain ⟨last, present, same⟩ := List.mem_map.mp member
      obtain ⟨order, below⟩ := held last present
      have apart := Serial.distance_of_le _ _ order
      rw [same] at apart order below
      omega
  have total : after.expected.toNat = first.toNat + run.length := by
    rw [released.expected, UInt32.toNat_add, UInt32.toNat_ofNat', Nat.mod_eq_of_lt short,
      Nat.mod_eq_of_lt (by omega)]
  omega

/-- The values of a run are those of consecutive positions. -/
theorem Released.values {before after : FlowState T} {first : UInt32}
    {run : List (Pending T)} (released : Released before after first run) (value : Nat → T)
    (small : first.toNat + run.length < 2 ^ 32)
    (carries : ∀ pending ∈ before.pending, pending.value = value pending.sequence.toNat) :
    run.map (fun pending => pending.value) =
      (List.range run.length).map (fun count => value (first.toNat + count)) := by
  have named : run.map (fun pending => pending.value) =
      (run.map (fun pending => pending.sequence)).map (fun sequence => value sequence.toNat) := by
    rw [List.map_map]
    exact List.map_congr_left (fun pending inside =>
      carries pending (released.contents.mem_iff.mpr (List.mem_append_left _ inside)))
  rw [named, released.consecutive, List.map_map]
  refine List.map_congr_left (fun count inside => ?_)
  have below := List.mem_range.mp inside
  simp only [Function.comp]
  rw [UInt32.toNat_add, UInt32.toNat_ofNat', Nat.mod_eq_of_lt (by omega : count < 2 ^ 32),
    Nat.mod_eq_of_lt (by omega)]

/-- What the push of the frame at a position does to the progress of its flow. -/
structure FlowState.Advances (before after : FlowState T) (released : List T) (limit : Nat)
    (value : Nat → T) (arrived times : Nat → Prop) (position nowMs : Nat) : Prop where
  /-- The frame has arrived. -/
  progress : after.Progress limit value (fun other => arrived other ∨ position = other)
    (fun time => times time ∨ nowMs = time)
  /-- The values released continue those released before. -/
  continued : (List.range after.expected.toNat).map value =
    (List.range before.expected.toNat).map value ++ released

section Push

variable {state : FlowState T} {limit : Nat} {value : Nat → T} {arrived times : Nat → Prop}

/-- The expected frame goes out, and the run after it. -/
theorem FlowState.Progress.inOrder (progress : state.Progress limit value arrived times)
    (small : limit ≤ 2 ^ 31) (ordered : state.Ordered) (genuine : state.expected.toNat < limit)
    (nowMs : Nat) {next : FlowState T} {run : List (Pending T)}
    (released : Released { state with expected := state.expected + 1, gapStartedMs := none }
      next (state.expected + 1) run)
    (stopped : next.gapStartedMs = none) :
    state.Advances next
      (value state.expected.toNat :: run.map (fun pending => pending.value))
      limit value arrived times state.expected.toNat nowMs := by
  have first : (state.expected + 1).toNat = state.expected.toNat + 1 := by
    rw [UInt32.toNat_add, UInt32.toNat_one, Nat.mod_eq_of_lt (by omega)]
  obtain ⟨total, below⟩ := released.expected_toNat ordered.bounded limit small
    (by omega) (fun pending present => ⟨by rw [first]; exact (progress.held pending present).1,
      (progress.held pending present).2.1⟩)
  rw [first] at total
  have values := released.values value (by omega)
    (fun pending present => (progress.held pending present).2.2)
  have distances : ∀ pending ∈ state.pending,
      Serial.distance (state.expected + 1) pending.sequence =
        pending.sequence.toNat - (state.expected.toNat + 1) := by
    intro pending present
    have order := (progress.held pending present).1
    rw [Serial.distance_of_le _ _ (by omega), first]
  constructor
  · constructor
    · exact below
    · intro pending present
      have inside : pending ∈ state.pending :=
        released.contents.mem_iff.mpr (List.mem_append_right run present)
      have beyond := released.beyond ordered.distinct _ (List.mem_map_of_mem present)
      rw [distances pending inside] at beyond
      exact ⟨by omega, (progress.held pending inside).2⟩
    · rintro position (old | rfl)
      · rcases progress.covered position old with before | ⟨pending, present, same⟩
        · left
          omega
        · rcases List.mem_append.mp (released.contents.mem_iff.mp present) with gone | stays
          · left
            have near := (released.mem_run _).mp (List.mem_map_of_mem gone)
            rw [distances pending present] at near
            omega
          · exact Or.inr ⟨pending, stays, same⟩
      · left
        omega
    · simp [stopped]
  · rw [total, List.range_add, List.range_succ, values, first]
    simp only [List.map_append, List.map_cons, List.map_map, List.append_assoc,
      List.singleton_append, Function.comp_def]

/-- A frame that was released or is pending changes nothing. -/
theorem FlowState.Progress.dropped (progress : state.Progress limit value arrived times)
    (position nowMs : Nat)
    (useless : position < state.expected.toNat ∨
      ∃ pending ∈ state.pending, pending.sequence.toNat = position) :
    state.Advances state [] limit value arrived times position nowMs := by
  constructor
  · constructor
    · exact progress.reached
    · exact progress.held
    · intro other here
      cases here with
      | inl old => exact progress.covered other old
      | inr same => exact same ▸ useless
    · exact fun started gap => Or.inl (progress.opened started gap)
  · rw [List.append_nil]

/-- A frame ahead of the expected one is kept. -/
theorem FlowState.Progress.stored (progress : state.Progress limit value arrived times)
    (sequence : UInt32) (nowMs : Nat) (ahead : state.expected.toNat < sequence.toNat)
    (genuine : sequence.toNat < limit) :
    state.Advances (state.store sequence (value sequence.toNat) nowMs) [] limit value arrived
      times sequence.toNat nowMs := by
  constructor
  · constructor
    · exact progress.reached
    · intro pending present
      cases List.mem_append.mp present with
      | inl old => exact progress.held pending old
      | inr last =>
        rw [List.mem_singleton] at last
        subst last
        exact ⟨ahead, genuine, rfl⟩
    · intro position here
      cases here with
      | inl old =>
        rcases progress.covered position old with before | ⟨pending, present, same⟩
        · exact Or.inl before
        · exact Or.inr ⟨pending, List.mem_append_left _ present, same⟩
      | inr same => exact Or.inr ⟨_, List.mem_append_right _ (List.mem_singleton.mpr rfl), same⟩
    · intro started gap
      cases before : state.gapStartedMs with
      | none => exact Or.inr (by simpa [FlowState.store, before] using gap)
      | some since =>
        left
        apply progress.opened
        simpa [FlowState.store, before] using gap
  · simp [FlowState.store]

/-- With room and no timer run out, the push of a genuine frame advances its flow. -/
theorem FlowState.Progress.push (progress : state.Progress limit value arrived times)
    (small : limit ≤ 2 ^ 31) (pendingTotal : Nat) (settled : state.Settled pendingTotal)
    (space : state.pending.length < maxPendingPerFlow) (room : pendingTotal < maxPendingTotal)
    (sequence : UInt32) (genuine : sequence.toNat < limit) (nowMs : Nat)
    (close : ∀ time, times time → nowMs - time < gapReleaseAfterMs) :
    let result := pushFlow state pendingTotal sequence (value sequence.toNat) nowMs
    state.Advances result.1 result.2.2 limit value arrived times sequence.toNat nowMs := by
  have calm : state.expired nowMs = false := by
    unfold FlowState.expired
    cases gap : state.gapStartedMs with
    | none => rfl
    | some started =>
      have recent := close started (progress.opened started gap)
      simpa using recent
  have reached := progress.reached
  have forward := isForward_iff_lt sequence state.expected (by omega) (by omega)
  rw [pushFlow_eq, releaseExpired_calm state nowMs calm]
  simp only [Nat.sub_self, Nat.sub_zero, List.nil_append]
  have case := pushCase_of_settled state pendingTotal sequence (value sequence.toNat) nowMs
    settled calm
  generalize pushChecked state pendingTotal sequence (value sequence.toNat) nowMs = result at case
  cases case with
  | inOrder next run due released stopped =>
    subst due
    exact progress.inOrder small settled.ordered genuine nowMs released stopped
  | dropped early useless =>
    apply progress.dropped
    cases useless with
    | inl behind =>
      left
      have other : sequence.toNat ≠ state.expected.toNat :=
        fun same => early (UInt32.toNat_inj.mp same)
      have notAhead := mt forward.mpr (by simp [behind])
      omega
    | inr present =>
      right
      obtain ⟨pending, inside, same⟩ := List.mem_map.mp present
      exact ⟨pending, inside, congrArg UInt32.toNat same⟩
  | forced _ _ full => exact absurd full (Nat.ne_of_lt room)
  | stored ahead new _ _ => exact progress.stored sequence nowMs (forward.mp ahead) genuine
  | crowded _ _ crowded =>
    cases crowded.2 with
    | inl full => exact absurd full (Nat.ne_of_lt space)
    | inr full => exact absurd full (Nat.ne_of_lt room)

end Push

/-- A flow all of whose frames have arrived has released them all. -/
theorem FlowState.Progress.finished {state : FlowState T} {limit : Nat} {value : Nat → T}
    {arrived times : Nat → Prop} (progress : state.Progress limit value arrived times)
    (complete : ∀ position, position < limit → arrived position) :
    state.expected.toNat = limit ∧ state.pending = [] := by
  have reached := progress.reached
  have done : state.expected.toNat = limit := by
    by_contra short
    rcases progress.covered _ (complete state.expected.toNat (by omega)) with
      before | ⟨pending, present, same⟩
    · exact Nat.lt_irrefl _ before
    · have ahead := (progress.held pending present).1
      omega
  refine ⟨done, List.eq_nil_iff_forall_not_mem.mpr (fun pending present => ?_)⟩
  obtain ⟨ahead, below, _⟩ := progress.held pending present
  omega

/-- Arrivals of frames of flows: the frames of the flow `key` have the positions below `limit key`
and carry `value key`. They may come in any order and be repeated, but come within one period of
the gap timer. -/
structure Genuine (limit : ReassemblyKey → Nat) (value : ReassemblyKey → Nat → T)
    (arrivals : List (Arrival T)) : Prop where
  /-- The table can track all flows. -/
  few : (arrivals.map (fun arrival => arrival.header.key)).dedup.length ≤ maxTrackedFlows
  /-- Positions do not exceed half a turn. -/
  small : ∀ key, limit key ≤ 2 ^ 31
  /-- Every arrival is a frame of its flow. -/
  frames : ∀ arrival ∈ arrivals,
    arrival.header.sequence.toNat < limit arrival.header.key ∧
      arrival.value = value arrival.header.key arrival.header.sequence.toNat
  /-- All times lie within less than the period of the timer. -/
  close : ∀ first ∈ arrivals, ∀ second ∈ arrivals,
    first.nowMs - second.nowMs < gapReleaseAfterMs

/-- The first part of genuine arrivals is genuine. -/
theorem Genuine.first {limit : ReassemblyKey → Nat} {value : ReassemblyKey → Nat → T}
    {arrivals later : List (Arrival T)} (genuine : Genuine limit value (arrivals ++ later)) :
    Genuine limit value arrivals where
  few := by
    refine Nat.le_trans ?_ genuine.few
    refine (List.subperm_of_subset (List.nodup_dedup _) (fun key member => ?_)).length_le
    rw [List.mem_dedup] at member ⊢
    rw [List.map_append]
    exact List.mem_append_left _ member
  small := genuine.small
  frames := fun arrival present => genuine.frames arrival (List.mem_append_left _ present)
  close := fun first present second other => genuine.close first (List.mem_append_left _ present)
    second (List.mem_append_left _ other)

/-- Before the push there is room in the buffer of its flow and in the table. -/
def FlowReassembler.Roomy (reassembler : FlowReassembler T) (arrival : Arrival T) : Prop :=
  (reassembler.flow arrival.header.key).pending.length < maxPendingPerFlow ∧
    reassembler.buffered < maxPendingTotal

instance (reassembler : FlowReassembler T) (arrival : Arrival T) :
    Decidable (reassembler.Roomy arrival) :=
  inferInstanceAs (Decidable (_ ∧ _))

/-- What a run appends to the output queue in the pushes of one flow. -/
def emitted (arrivals : List (Arrival T)) (key : ReassemblyKey) : List T :=
  ((arrivals.zip (Mealy.outputs FlowReassembler.arrive .new arrivals)).filter
    (fun step => step.1.header.key == key)).flatMap (fun step => step.2)

/-- One more push appends its output to the queue of its own flow. -/
theorem emitted_append (arrivals : List (Arrival T)) (arrival : Arrival T) (key : ReassemblyKey) :
    emitted (arrivals ++ [arrival]) key = emitted arrivals key ++
      if arrival.header.key = key then
        ((Mealy.final FlowReassembler.arrive .new arrivals).arrive arrival).2
      else [] := by
  unfold emitted
  rw [Mealy.outputs_append, List.zip_append (Mealy.length_outputs _ _).symm, List.filter_append,
    List.flatMap_append]
  congr 1
  by_cases same : arrival.header.key = key
  · simp [Mealy.outputs, same]
  · simp [Mealy.outputs, same]

/-- The state of a reassembler after some arrivals, as far as delivery is concerned. -/
structure Delivered (limit : ReassemblyKey → Nat) (value : ReassemblyKey → Nat → T)
    (arrivals : List (Arrival T)) (reassembler : FlowReassembler T) : Prop where
  /-- The table is consistent. -/
  consistent : reassembler.Consistent
  /-- Only flows of the arrivals are tracked. -/
  tracked : ∀ key ∈ reassembler.flows.keys, ∃ arrival ∈ arrivals, arrival.header.key = key
  /-- Every flow has made the progress that its arrivals allow. -/
  progress : ∀ key, (reassembler.flow key).Progress (limit key) (value key)
    (fun position => ∃ arrival ∈ arrivals,
      arrival.header.key = key ∧ arrival.header.sequence.toNat = position)
    (fun time => ∃ arrival ∈ arrivals, arrival.nowMs = time)
  /-- Every flow has released the frames before its expected one. -/
  released : ∀ key, emitted arrivals key =
    (List.range (reassembler.flow key).expected.toNat).map (value key)

/-- Nothing is delivered before the first arrival. -/
theorem delivered_new (limit : ReassemblyKey → Nat) (value : ReassemblyKey → Nat → T) :
    Delivered limit value [] .new where
  consistent := consistent_new
  tracked := by simp [FlowReassembler.new]
  progress := fun key => (progress_fresh (limit key) (value key)).congr (by simp) (by simp)
  released := fun key => rfl

/-- A table that tracks flows of the arrivals only is not cleared. -/
theorem Delivered.withRoom {limit : ReassemblyKey → Nat} {value : ReassemblyKey → Nat → T}
    {arrivals : List (Arrival T)} {reassembler : FlowReassembler T}
    (delivered : Delivered limit value arrivals reassembler) (arrival : Arrival T)
    (genuine : Genuine limit value (arrivals ++ [arrival])) :
    reassembler.withRoom arrival.header.key = reassembler := by
  refine FlowReassembler.withRoom_eq genuine.few (fun key known => ?_) (by simp)
  obtain ⟨earlier, present, same⟩ := delivered.tracked key known
  exact List.mem_map.mpr ⟨earlier, List.mem_append_left _ present, same⟩

/-- One more genuine arrival is delivered as far as possible. -/
theorem Delivered.arrive {limit : ReassemblyKey → Nat} {value : ReassemblyKey → Nat → T}
    {arrivals : List (Arrival T)}
    (delivered : Delivered limit value arrivals
      (Mealy.final FlowReassembler.arrive .new arrivals)) (arrival : Arrival T)
    (genuine : Genuine limit value (arrivals ++ [arrival]))
    (roomy : (Mealy.final FlowReassembler.arrive .new arrivals).Roomy arrival) :
    Delivered limit value (arrivals ++ [arrival])
      (Mealy.final FlowReassembler.arrive .new (arrivals ++ [arrival])) := by
  have last : arrival ∈ arrivals ++ [arrival] := by simp
  have frame := genuine.frames arrival last
  have kept := delivered.withRoom arrival genuine
  have settled := delivered.consistent.settled arrival.header.key
  have emittedNext := emitted_append arrivals arrival
  have finalNext : Mealy.final FlowReassembler.arrive .new (arrivals ++ [arrival]) =
      ((Mealy.final FlowReassembler.arrive .new arrivals).arrive arrival).1 :=
    Mealy.final_append _ _ _
  rw [finalNext]
  generalize Mealy.final FlowReassembler.arrive .new arrivals = reassembler at *
  have room : reassembler.pendingTotal < maxPendingTotal := by
    rw [delivered.consistent.counted]
    exact roomy.2
  have safe : ¬reassembler.Strands arrival := by
    rw [FlowReassembler.Strands, kept]
    rintro ⟨_, ⟨_, full | full⟩, _⟩
    · exact Nat.ne_of_lt roomy.1 full
    · exact Nat.ne_of_lt room full
  have close : ∀ time, (∃ earlier ∈ arrivals, earlier.nowMs = time) →
      arrival.nowMs - time < gapReleaseAfterMs := by
    rintro time ⟨earlier, present, rfl⟩
    exact genuine.close arrival last earlier (List.mem_append_left _ present)
  obtain ⟨progress, output⟩ := (delivered.progress arrival.header.key).push (genuine.small _) _
    settled roomy.1 room arrival.header.sequence frame.1 arrival.nowMs close
  rw [← frame.2] at progress output
  have moved := arrive_flow reassembler arrival
  rw [kept] at moved
  have appended := congrArg Prod.snd (arrive_eq kept)
  refine ⟨arrive_consistent reassembler arrival delivered.consistent safe, ?_, ?_, ?_⟩
  · intro key member
    rcases List.mem_cons.mp (arrive_tracked kept member) with rfl | known
    · exact ⟨arrival, by simp, rfl⟩
    · obtain ⟨earlier, present, same⟩ := delivered.tracked key known
      exact ⟨earlier, List.mem_append_left _ present, same⟩
  · intro key
    by_cases same : key = arrival.header.key
    · subst same
      rw [moved]
      refine progress.congr ?_ ?_
      · rintro position ⟨which, member, sameKey, rfl⟩
        rcases List.mem_append.mp member with earlier | last
        · exact Or.inl ⟨which, earlier, sameKey, rfl⟩
        · exact Or.inr (by rw [List.mem_singleton.mp last])
      · rintro time (⟨which, member, rfl⟩ | rfl)
        · exact ⟨which, List.mem_append_left _ member, rfl⟩
        · exact ⟨arrival, by simp, rfl⟩
    · rw [arrive_elsewhere kept same]
      refine (delivered.progress key).congr ?_ ?_
      · rintro position ⟨which, member, sameKey, rfl⟩
        rcases List.mem_append.mp member with earlier | last
        · exact ⟨which, earlier, sameKey, rfl⟩
        · rw [List.mem_singleton.mp last] at sameKey
          exact absurd sameKey.symm same
      · rintro time ⟨which, member, rfl⟩
        exact ⟨which, List.mem_append_left _ member, rfl⟩
  · intro key
    rw [emittedNext, delivered.released]
    by_cases same : arrival.header.key = key
    · subst same
      rw [if_pos rfl, moved, output, appended]
    · rw [if_neg same, arrive_elsewhere kept (Ne.symm same), List.append_nil]

/-- A roomy run of genuine arrivals delivers as far as possible after every push. -/
theorem delivered_run {limit : ReassemblyKey → Nat} {value : ReassemblyKey → Nat → T}
    (arrivals : List (Arrival T)) (genuine : Genuine limit value arrivals)
    (roomy : Mealy.Along FlowReassembler.arrive FlowReassembler.Roomy .new arrivals) :
    Delivered limit value arrivals (Mealy.final FlowReassembler.arrive .new arrivals) := by
  induction arrivals using List.reverseRecOn with
  | nil => exact delivered_new limit value
  | append_singleton arrivals arrival ih =>
    obtain ⟨before, last⟩ := (Mealy.along_append _ _ _).mp roomy
    exact (ih genuine.first before).arrive arrival genuine last.1

/-- Once all frames of all flows have arrived, whatever their order and repetitions, each flow has
released its values once and in order, and nothing is pending. -/
theorem lossless_delivery (limit : ReassemblyKey → Nat) (value : ReassemblyKey → Nat → T)
    (arrivals : List (Arrival T)) (genuine : Genuine limit value arrivals)
    (complete : ∀ key position, position < limit key →
      ∃ arrival ∈ arrivals, arrival.header.key = key ∧ arrival.header.sequence.toNat = position)
    (roomy : Mealy.Along FlowReassembler.arrive FlowReassembler.Roomy .new arrivals) :
    (∀ key, emitted arrivals key = (List.range (limit key)).map (value key)) ∧
      (∀ key, ((Mealy.final FlowReassembler.arrive .new arrivals).flow key).pending = []) ∧
      (Mealy.final FlowReassembler.arrive .new arrivals).pendingTotal = 0 := by
  have delivered := delivered_run arrivals genuine roomy
  have finished := fun key => (delivered.progress key).finished (complete key)
  refine ⟨fun key => ?_, fun key => (finished key).2, ?_⟩
  · rw [delivered.released key, (finished key).1]
  · rw [delivered.consistent.counted]
    refine Table.total_eq_zero _ _ (fun key state found => ?_)
    have empty := (finished key).2
    rw [FlowReassembler.flow, found] at empty
    exact List.length_eq_zero_iff.mpr empty

/-- Two interleaved flows, with a frame repeated and the first frame last. -/
def interleavedRun : List (Arrival Nat) :=
  [⟨⟨1, 1, 1⟩, 11, 3⟩, ⟨⟨1, 2, 0⟩, 20, 0⟩, ⟨⟨1, 1, 1⟩, 11, 5⟩, ⟨⟨1, 1, 0⟩, 10, 11⟩]

/-- Both flows of the interleaved run come out in order. -/
theorem interleavedRun_delivered :
    emitted interleavedRun ⟨1, 1⟩ = [10, 11] ∧ emitted interleavedRun ⟨1, 2⟩ = [20] := by
  have delivered := lossless_delivery
    (fun key => if key = ⟨1, 1⟩ then 2 else if key = ⟨1, 2⟩ then 1 else 0)
    (fun key position => key.flowId.toNat * 10 + position)
    interleavedRun
    { few := by decide
      small := by
        intro key
        split
        · decide
        · split <;> decide
      frames := by decide
      close := by decide }
    (by
      intro key position below
      by_cases first : key = ⟨1, 1⟩
      · subst first
        exact (by decide : ∀ position < 2, ∃ arrival ∈ interleavedRun, arrival.header.key =
          ⟨1, 1⟩ ∧ arrival.header.sequence.toNat = position) position below
      · by_cases second : key = ⟨1, 2⟩
        · subst second
          exact (by decide : ∀ position < 1, ∃ arrival ∈ interleavedRun, arrival.header.key =
            ⟨1, 2⟩ ∧ arrival.header.sequence.toNat = position) position below
        · rw [if_neg first, if_neg second] at below
          exact absurd below (Nat.not_lt_zero _))
    (by decide)
  exact ⟨delivered.1 ⟨1, 1⟩, delivered.1 ⟨1, 2⟩⟩

end Focsq.FlowFrame
