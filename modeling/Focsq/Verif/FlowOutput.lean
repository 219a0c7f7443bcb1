import Focsq.Verif.FlowAccount
import Focsq.Verif.FlowIsolation
import Focsq.Verif.FlowValues

/-!
# What leaves a flow between two clearings

Between two clearings of the table the frames of a flow leave in the order of their numbers, none
twice, and every frame that does not leave is pending or was turned away when it came. To tell
pushes with equal values apart, the run is followed with values that name the push they came with;
the reassembler does not look at values, so this says everything about the run itself.
-/

namespace Focsq.FlowFrame

open scoped List

variable {T : Type}

/-- The push finds the table full and its flow untracked, and clears the table. -/
def FlowReassembler.Clears (reassembler : FlowReassembler T) (key : ReassemblyKey) : Prop :=
  reassembler.flows.entries.length = maxTrackedFlows ∧ reassembler.flows.lookup key = none

instance (reassembler : FlowReassembler T) (key : ReassemblyKey) :
    Decidable (reassembler.Clears key) :=
  inferInstanceAs (Decidable (_ ∧ _))

/-- A full table has room after it is cleared. -/
theorem FlowReassembler.Clears.withRoom {reassembler : FlowReassembler T} {key : ReassemblyKey}
    (clears : reassembler.Clears key) : reassembler.withRoom key = .new := by
  rw [FlowReassembler.withRoom, if_pos]
  rw [Bool.and_eq_true, beq_iff_eq, Option.isNone_iff_eq_none]
  exact clears

/-- Other tables have room as they are. -/
theorem FlowReassembler.withRoom_of_not_clears {reassembler : FlowReassembler T}
    {key : ReassemblyKey} (keeps : ¬reassembler.Clears key) :
    reassembler.withRoom key = reassembler := by
  rw [FlowReassembler.withRoom, if_neg]
  rw [Bool.and_eq_true, beq_iff_eq, Option.isNone_iff_eq_none]
  exact keeps

/-- A new table is not cleared. -/
theorem not_clears_new (key : ReassemblyKey) :
    ¬(FlowReassembler.new : FlowReassembler T).Clears key := by
  rintro ⟨full, _⟩
  have empty : (FlowReassembler.new : FlowReassembler T).flows.entries.length = 0 := rfl
  rw [empty] at full
  cases full

/-- The push is turned away: its flow, after it gave up an old gap, does not expect the frame, and
the frame is not ahead of the expected one or is already pending. -/
def FlowReassembler.Rejects (reassembler : FlowReassembler T) (arrival : Arrival T) : Prop :=
  (releaseExpired ((reassembler.withRoom arrival.key).flow arrival.key)
    arrival.nowMs).1.Rejects arrival.header.sequence

instance (reassembler : FlowReassembler T) (arrival : Arrival T) :
    Decidable (reassembler.Rejects arrival) :=
  inferInstanceAs (Decidable (FlowState.Rejects _ _))

/-- The frame of a push. -/
def Arrival.frame (arrival : Arrival T) : Pending T := ⟨arrival.header.sequence, arrival.value⟩

/-- Frames that a run brings for a flow. -/
def offered (key : ReassemblyKey) (arrivals : List (Arrival T)) : List (Pending T) :=
  (Copies.inputsOf Arrival.key key arrivals).map Arrival.frame

/-- Values that leave a flow in a run from a table, in the order of the output queue. -/
def released (reassembler : FlowReassembler T) (key : ReassemblyKey)
    (arrivals : List (Arrival T)) : List T :=
  (Copies.outputsOf Arrival.key key arrivals
    (Mealy.outputs FlowReassembler.arrive reassembler arrivals)).flatten

/-- Frames of a flow that are turned away in a run from a table. -/
def dropped (reassembler : FlowReassembler T) (key : ReassemblyKey) :
    List (Arrival T) → List (Pending T)
  | [] => []
  | arrival :: rest =>
    (if arrival.key = key ∧ reassembler.Rejects arrival then [arrival.frame] else []) ++
      dropped (reassembler.arrive arrival).1 key rest

/-- In a run that does not clear the table, the frames that were pending and those that come leave
one after another, are turned away, or are pending at the end. -/
structure Ledger (before after : FlowState T) (offers output : List (Pending T))
    (drops : List (Pending T)) : Prop where
  /-- No frame is lost or repeated. -/
  contents : before.pending ++ offers ~ output ++ after.pending ++ drops
  /-- Frames leave in order. -/
  emits : Emits before.expected output after.expected

/-- What a push does to its flow. -/
theorem arrive_ledger (reassembler : FlowReassembler T) (arrival : Arrival T)
    (accounted : reassembler.Accounted) (keeps : ¬reassembler.Clears arrival.key) :
    ∃ run, (reassembler.arrive arrival).2 = run.map (fun pending => pending.value) ∧
      Ledger (reassembler.flow arrival.key) ((reassembler.arrive arrival).1.flow arrival.key)
        [arrival.frame] run (if reassembler.Rejects arrival then [arrival.frame] else []) := by
  have room : reassembler.withRoom arrival.header.key = reassembler :=
    FlowReassembler.withRoom_of_not_clears keeps
  obtain ⟨run, output, contents, emits⟩ := (accounted.passes arrival).1.frees
  have rejects : reassembler.Rejects arrival ↔
      (releaseExpired (reassembler.flow arrival.header.key) arrival.nowMs).1.Rejects
        arrival.header.sequence := by
    rw [FlowReassembler.Rejects, Arrival.key, room]
  have flow := arrive_flow reassembler arrival
  rw [room] at flow
  refine ⟨run, ?_, ?_, ?_⟩
  · rw [arrive_eq room]
    exact output
  · rw [Arrival.key, flow]
    by_cases away : reassembler.Rejects arrival
    · rw [FlowState.taken, if_pos (rejects.mp away), List.append_nil] at contents
      rw [if_pos away]
      exact contents.append_right _
    · rw [FlowState.taken, if_neg (mt rejects.mpr away)] at contents
      rw [if_neg away, List.append_nil]
      exact contents
  · rw [Arrival.key, flow]
    exact emits

/-- One stretch of a flow after another. -/
theorem Ledger.append {before between after : FlowState T}
    {offers more output late drops others : List (Pending T)}
    (one : Ledger before between offers output drops)
    (two : Ledger between after more late others) :
    Ledger before after (offers ++ more) (output ++ late) (drops ++ others) where
  contents := by
    classical
    rw [List.perm_iff_count]
    intro frame
    have first := one.contents.count_eq frame
    have second := two.contents.count_eq frame
    simp only [List.count_append] at first second ⊢
    omega
  emits := one.emits.append two.emits

/-- What a run that does not clear the table does to a flow. -/
theorem run_ledger (reassembler : FlowReassembler T) (key : ReassemblyKey)
    (arrivals : List (Arrival T)) (accounted : reassembler.Accounted)
    (keeps : Mealy.Along FlowReassembler.arrive
      (fun reassembler arrival => ¬reassembler.Clears arrival.key) reassembler arrivals) :
    ∃ run, released reassembler key arrivals = run.map (fun pending => pending.value) ∧
      Ledger (reassembler.flow key)
        ((Mealy.final FlowReassembler.arrive reassembler arrivals).flow key)
        (offered key arrivals) run (dropped reassembler key arrivals) := by
  induction arrivals generalizing reassembler with
  | nil =>
    refine ⟨[], rfl, ?_, .nil _⟩
    simp [offered, Copies.inputsOf, Mealy.final, dropped]
  | cons arrival rest ih =>
    obtain ⟨first, later⟩ := keeps
    obtain ⟨others, output, ledger⟩ := ih _ (arrive_accounted reassembler arrival accounted) later
    by_cases same : arrival.key = key
    · subst same
      obtain ⟨run, values, step⟩ := arrive_ledger reassembler arrival accounted first
      have leaves : released reassembler arrival.key (arrival :: rest) =
          (reassembler.arrive arrival).2 ++
            released (reassembler.arrive arrival).1 arrival.key rest := by
        rw [released, Mealy.outputs, Copies.outputsOf_cons, if_pos rfl, List.flatten_cons]
        rfl
      have comes : offered arrival.key (arrival :: rest) =
          [arrival.frame] ++ offered arrival.key rest := by
        rw [offered, Copies.inputsOf_cons, if_pos rfl, List.map_cons]
        rfl
      refine ⟨run ++ others, ?_, ?_⟩
      · rw [leaves, values, output, List.map_append]
      · have both := step.append ledger
        rw [comes, dropped, Mealy.final]
        simpa only [true_and] using both
    · have still : (reassembler.arrive arrival).1.flow key = reassembler.flow key :=
        arrive_elsewhere (FlowReassembler.withRoom_of_not_clears first) (Ne.symm same)
      have leaves : released reassembler key (arrival :: rest) =
          released (reassembler.arrive arrival).1 key rest := by
        rw [released, Mealy.outputs, Copies.outputsOf_cons, if_neg same]
        rfl
      have comes : offered key (arrival :: rest) = offered key rest := by
        rw [offered, Copies.inputsOf_cons, if_neg same]
        rfl
      refine ⟨others, leaves.trans output, ?_⟩
      rw [comes, dropped, if_neg (fun both => same both.1), List.nil_append, ← still]
      exact ledger

/-- Part of a run between two clearings of the table. -/
abbrev Stretch (before stretch : List (Arrival T)) : Prop :=
  Mealy.Between FlowReassembler.arrive
    (fun reassembler arrival => reassembler.Clears arrival.key) .new before stretch

/-- A push that clears the table goes on as one on a new table. -/
theorem FlowReassembler.Clears.arrive {reassembler : FlowReassembler T} {arrival : Arrival T}
    (clears : reassembler.Clears arrival.key) :
    reassembler.arrive arrival = FlowReassembler.new.arrive arrival := by
  have room : reassembler.withRoom arrival.header.key = .new := clears.withRoom
  have empty : (FlowReassembler.new : FlowReassembler T).withRoom arrival.header.key = .new :=
    FlowReassembler.withRoom_of_not_clears (not_clears_new _)
  rw [FlowReassembler.arrive, FlowReassembler.arrive, FlowReassembler.pushAt,
    FlowReassembler.pushAt, room, empty]

/-- It turns frames away as a new table does. -/
theorem FlowReassembler.Clears.rejects {reassembler : FlowReassembler T} {arrival : Arrival T}
    (clears : reassembler.Clears arrival.key) :
    reassembler.Rejects arrival ↔ FlowReassembler.new.Rejects arrival := by
  have empty : (FlowReassembler.new : FlowReassembler T).withRoom arrival.key = .new :=
    FlowReassembler.withRoom_of_not_clears (not_clears_new _)
  rw [FlowReassembler.Rejects, FlowReassembler.Rejects, clears.withRoom, empty]

/-- What a stretch does to a flow is what it does to a new one. -/
theorem Stretch.ledger {before stretch : List (Arrival T)} (between : Stretch before stretch)
    (key : ReassemblyKey) :
    let reassembler := Mealy.final FlowReassembler.arrive .new before
    ∃ run, released reassembler key stretch = run.map (fun pending => pending.value) ∧
      Ledger .fresh ((Mealy.final FlowReassembler.arrive reassembler stretch).flow key)
        (offered key stretch) run (dropped reassembler key stretch) := by
  intro reassembler
  have fresh : (FlowReassembler.new : FlowReassembler T).flow key = .fresh := rfl
  cases stretch with
  | nil =>
    have start : before = [] := between.empty
    subst start
    exact run_ledger .new key [] accounted_new trivial
  | cons first rest =>
    obtain ⟨begins, later⟩ := between.starts
    have same : reassembler.arrive first = FlowReassembler.new.arrive first ∧
        (reassembler.Rejects first ↔ FlowReassembler.new.Rejects first) := by
      rcases begins with rfl | clears
      · exact ⟨rfl, Iff.rfl⟩
      · exact ⟨clears.arrive, clears.rejects⟩
    rw [same.1] at later
    have ledger := run_ledger .new key (first :: rest) accounted_new
      ⟨not_clears_new first.key, later⟩
    rw [fresh] at ledger
    simpa only [released, Mealy.outputs, Mealy.final, dropped, same.1, same.2] using ledger

section Numbered

/-- The value of a push in a run whose values name the pushes. -/
structure Push (T : Type) where
  /-- The push. -/
  arrival : Arrival T
  /-- Its place in the run. -/
  place : Nat
  deriving DecidableEq, Repr

/-- The value of the push itself. -/
def Push.value (push : Push T) : T := push.arrival.value

/-- The number of its frame. -/
def Push.sequence (push : Push T) : UInt32 := push.arrival.header.sequence

/-- The pushes of a run with their place in it as their values. -/
def numbered (arrivals : List (Arrival T)) : List (Arrival (Push T)) :=
  arrivals.zipIdx.map (fun entry => ⟨entry.1.header, ⟨entry.1, entry.2⟩, entry.1.nowMs⟩)

/-- Forgetting the places gives the run itself. -/
theorem numbered_map (arrivals : List (Arrival T)) :
    (numbered arrivals).map (Arrival.map Push.value) = arrivals := by
  have forget : (Arrival.map Push.value) ∘ (fun entry : Arrival T × Nat =>
      (⟨entry.1.header, ⟨entry.1, entry.2⟩, entry.1.nowMs⟩ : Arrival (Push T))) = Prod.fst := rfl
  rw [numbered, List.map_map, forget, List.zipIdx_map_fst]

/-- The run releases what the run with places does, without the places. -/
theorem outputs_numbered (arrivals : List (Arrival T)) :
    Mealy.outputs FlowReassembler.arrive .new arrivals =
      (Mealy.outputs FlowReassembler.arrive .new (numbered arrivals)).map
        (List.map Push.value) := by
  have simulates : ∀ (reassembler : FlowReassembler (Push T)) (image : FlowReassembler T)
      (arrival : Arrival (Push T)), FlowReassembler.Images Push.value reassembler image →
      (image.arrive (arrival.map Push.value)).2 =
          (reassembler.arrive arrival).2.map Push.value ∧
        FlowReassembler.Images Push.value (reassembler.arrive arrival).1
          (image.arrive (arrival.map Push.value)).1 :=
    fun _ _ arrival images => images.arrive arrival
  have both := Mealy.outputs_map_of_related _ _ _ simulates _ _ (numbered arrivals) images_new
  rw [numbered_map] at both
  exact both.1

/-- Pushes of a part of a run are distinct and carry their own numbers. -/
theorem offered_numbered (arrivals : List (Arrival T)) (key : ReassemblyKey)
    {part : List (Arrival (Push T))} (inside : part <:+: numbered arrivals) :
    ((offered key part).map (fun pending => pending.value)).Nodup ∧
      ∀ pending ∈ offered key part, pending.sequence = pending.value.sequence := by
  have chosen : offered key part <+ (numbered arrivals).map Arrival.frame :=
    ((List.filter_sublist).trans inside.sublist).map Arrival.frame
  constructor
  · have places : ((numbered arrivals).map Arrival.frame).map
        (fun pending => pending.value.place) = List.range' 0 arrivals.length := by
      rw [numbered, List.map_map, List.map_map, ← List.zipIdx_map_snd 0 arrivals]
      rfl
    have distinct : (((offered key part).map (fun pending => pending.value)).map
        Push.place).Nodup := by
      have fewer := chosen.map (fun pending => pending.value.place)
      rw [places] at fewer
      rw [List.map_map]
      exact List.Nodup.sublist fewer List.nodup_range'
    exact List.Nodup.of_map Push.place distinct
  · intro pending member
    have found := chosen.subset member
    rw [numbered, List.map_map, List.mem_map] at found
    obtain ⟨entry, _, rfl⟩ := found
    rfl

/-- The next frame of a flow is ahead of the last one by at most half a turn. -/
theorem Emits.chain {expected after : UInt32} {run : List (Pending T)}
    (emits : Emits expected run after) :
    (run.map (fun pending => pending.sequence)).IsChain (fun last next =>
      1 ≤ Serial.distance last next ∧ Serial.distance last next ≤ 2 ^ 31) := by
  induction emits with
  | nil => exact .nil
  | @cons _ _ last _ _ rest ih =>
    cases rest with
    | nil => exact .singleton _
    | @cons _ _ next _ near _ =>
      refine .cons_cons ?_ ih
      by_cases same : next.sequence = last.sequence
      · have far := Serial.distance_succ_self last.sequence
        rw [same] at near
        omega
      · have step := Serial.distance_succ last.sequence next.sequence same
        dsimp only
        omega

/-- In every run and every part of it between two clearings of the table, the numbers that leave a
flow go up by at most half a turn each, no push leaves twice, and every push has left, is pending or
was turned away when it came. -/
theorem output_in_order_once (arrivals : List (Arrival T)) :
    Mealy.outputs FlowReassembler.arrive .new arrivals =
        (Mealy.outputs FlowReassembler.arrive .new (numbered arrivals)).map
          (List.map Push.value) ∧
      ∀ before stretch, before ++ stretch <+: numbered arrivals → Stretch before stretch →
        ∀ key,
          let reassembler := Mealy.final FlowReassembler.arrive .new before
          let left := released reassembler key stretch
          ((left.map Push.sequence).IsChain (fun last next =>
            1 ≤ Serial.distance last next ∧ Serial.distance last next ≤ 2 ^ 31)) ∧
          left.Nodup ∧
          (offered key stretch).map (fun pending => pending.value) ~
            left ++
            ((Mealy.final FlowReassembler.arrive reassembler stretch).flow key).pending.map
              (fun pending => pending.value) ++
            (dropped reassembler key stretch).map (fun pending => pending.value) := by
  refine ⟨outputs_numbered arrivals, ?_⟩
  intro before stretch part between key reassembler left
  obtain ⟨run, output, ledger⟩ := between.ledger key
  have inside : stretch <:+: numbered arrivals :=
    (List.suffix_append before stretch).isInfix.trans part.isInfix
  obtain ⟨distinct, genuine⟩ := offered_numbered arrivals key inside
  have contents : offered key stretch ~ run ++
      ((Mealy.final FlowReassembler.arrive reassembler stretch).flow key).pending ++
        dropped reassembler key stretch := ledger.contents
  have all := contents.map (fun pending => pending.value)
  rw [List.map_append, List.map_append, ← output] at all
  have numbers : left.map Push.sequence =
      run.map (fun pending => pending.sequence) := by
    simp only [left]
    rw [output, List.map_map]
    apply List.map_congr_left
    intro pending member
    have came := contents.mem_iff.mpr (List.mem_append_left _ (List.mem_append_left _ member))
    exact (genuine pending came).symm
  refine ⟨?_, ?_, all⟩
  · rw [numbers]
    exact ledger.emits.chain
  · have every := all.nodup_iff.mp distinct
    rw [List.append_assoc] at every
    exact (List.nodup_append'.mp every).1

/-- Frame 1 waits for frame 0, which comes twice, and both leave before frame 2. -/
def repeatingRun : List (Arrival Nat) :=
  [⟨⟨17, 23, 1⟩, 8, 0⟩, ⟨⟨17, 23, 0⟩, 8, 3⟩, ⟨⟨17, 23, 0⟩, 8, 4⟩, ⟨⟨17, 23, 2⟩, 9, 5⟩]

/-- Nothing of it is lost or repeated: the second frame 0 is turned away. -/
theorem repeatingRun_output :
    (released .new ⟨17, 23⟩ (numbered repeatingRun)).map Push.place = [1, 0, 3] ∧
      (released .new ⟨17, 23⟩ (numbered repeatingRun)).Nodup :=
  ⟨by decide +kernel,
    ((output_in_order_once repeatingRun).2 [] (numbered repeatingRun) (List.prefix_refl _)
      ⟨.inl rfl, by decide +kernel⟩ ⟨17, 23⟩).2.1⟩

end Numbered

end Focsq.FlowFrame
