import Focsq.Verif.FlowInvariants

/-!
# The reassembler over whole runs

A run is a list of arrivals. The table is consistent when every flow is in order, timers run only
over pending frames and `pending_total` is the number of pending frames and within its limit. A
push keeps the table consistent unless it strands its frame, and stranding is exactly what breaks
the order of the flow.
-/

namespace Focsq.FlowFrame

variable {T : Type}

/-- One call of `push_at`. -/
structure Arrival (T : Type) where
  /-- Where the frame belongs. -/
  header : FrameHeader
  /-- Its payload. -/
  value : T
  /-- The time of the call. -/
  nowMs : Nat
  deriving DecidableEq, Repr

/-- One step of a run. -/
def FlowReassembler.arrive (reassembler : FlowReassembler T) (arrival : Arrival T) :
    FlowReassembler T × List T :=
  reassembler.pushAt arrival.header arrival.value arrival.nowMs

/-- Number of frames all flows hold back. -/
def FlowReassembler.buffered (reassembler : FlowReassembler T) : Nat :=
  Table.total (fun state => state.pending.length) reassembler.flows

/-- Every tracked flow is in order: no pending frame is stranded. -/
def FlowReassembler.Orderly (reassembler : FlowReassembler T) : Prop :=
  ∀ key state, reassembler.flows.lookup key = some state → state.Ordered

/-- What `push_at` relies on in the table. -/
structure FlowReassembler.Consistent (reassembler : FlowReassembler T) : Prop where
  /-- Every flow is in order. -/
  orderly : reassembler.Orderly
  /-- Timers run only while frames are pending. -/
  running : ∀ key state, reassembler.flows.lookup key = some state →
    state.gapStartedMs.isSome → state.pending ≠ []
  /-- `pending_total` is the number of pending frames. -/
  counted : reassembler.pendingTotal = reassembler.buffered
  /-- The table keeps its limit. -/
  limited : reassembler.pendingTotal ≤ maxPendingTotal

/-- The push stores its frame behind the expected number of its flow. -/
def FlowReassembler.Strands (reassembler : FlowReassembler T) (arrival : Arrival T) : Prop :=
  let reassembler := reassembler.withRoom arrival.header.key
  (reassembler.flow arrival.header.key).Strands reassembler.pendingTotal
    arrival.header.sequence arrival.nowMs

/-- A new reassembler is consistent. -/
theorem consistent_new : (FlowReassembler.new : FlowReassembler T).Consistent where
  orderly := by simp [FlowReassembler.Orderly, FlowReassembler.new]
  running := by simp [FlowReassembler.new]
  counted := rfl
  limited := Nat.zero_le _

/-- Clearing a full table keeps it consistent. -/
theorem FlowReassembler.Consistent.withRoom {reassembler : FlowReassembler T}
    (consistent : reassembler.Consistent) (key : ReassemblyKey) :
    (reassembler.withRoom key).Consistent := by
  unfold FlowReassembler.withRoom
  split
  · exact consistent_new
  · exact consistent

/-- A table that tracks flows of a short list only is not cleared for one of them. -/
theorem FlowReassembler.withRoom_eq {reassembler : FlowReassembler T} {keys : List ReassemblyKey}
    (few : keys.dedup.length ≤ maxTrackedFlows) (tracked : reassembler.flows.keys ⊆ keys)
    {key : ReassemblyKey} (listed : key ∈ keys) : reassembler.withRoom key = reassembler := by
  unfold FlowReassembler.withRoom
  rw [if_neg]
  intro clears
  simp only [Bool.and_eq_true, beq_iff_eq, Option.isNone_iff_eq_none] at clears
  have untracked : key ∉ reassembler.flows.keys := AList.lookup_eq_none.mp clears.2
  have distinct : (key :: reassembler.flows.keys).Nodup :=
    List.nodup_cons.mpr ⟨untracked, reassembler.flows.keys_nodup⟩
  have inside : key :: reassembler.flows.keys ⊆ keys.dedup := by
    intro other member
    rw [List.mem_dedup]
    rcases List.mem_cons.mp member with rfl | known
    · exact listed
    · exact tracked known
  have count := (List.subperm_of_subset distinct inside).length_le
  rw [List.length_cons, AList.keys, List.keys, List.length_map, clears.1] at count
  omega

/-- What holds of every tracked flow and of a new one holds of the entry of a flow. -/
theorem FlowReassembler.flow_of_forall {holds : FlowState T → Prop}
    (reassembler : FlowReassembler T) (key : ReassemblyKey)
    (tracked : ∀ key state, reassembler.flows.lookup key = some state → holds state)
    (fresh : holds .fresh) : holds (reassembler.flow key) := by
  unfold FlowReassembler.flow
  cases found : reassembler.flows.lookup key with
  | none => exact fresh
  | some state => exact tracked key state found

/-- The weight of a table entry is the number of frames its flow holds back. -/
theorem FlowReassembler.lookup_length (reassembler : FlowReassembler T) (key : ReassemblyKey) :
    ((reassembler.flows.lookup key).map (fun state => state.pending.length)).getD 0 =
      (reassembler.flow key).pending.length := by
  unfold FlowReassembler.flow
  cases reassembler.flows.lookup key <;> rfl

/-- The entry of a flow in a consistent table is settled. -/
theorem FlowReassembler.Consistent.settled {reassembler : FlowReassembler T}
    (consistent : reassembler.Consistent) (key : ReassemblyKey) :
    (reassembler.flow key).Settled reassembler.pendingTotal where
  ordered := reassembler.flow_of_forall key consistent.orderly ordered_fresh
  running := reassembler.flow_of_forall key consistent.running (by simp [FlowState.fresh])
  counted := by
    rw [consistent.counted, FlowReassembler.buffered, ← reassembler.lookup_length key]
    exact Table.weight_le_total _ _ _
  limited := consistent.limited

/-- Insertion exchanges the pending frames of the flow. -/
theorem FlowReassembler.buffered_insert (reassembler : FlowReassembler T) (key : ReassemblyKey)
    (state : FlowState T) (pendingTotal : Nat) :
    (FlowReassembler.mk (reassembler.flows.insert key state) pendingTotal).buffered +
        (reassembler.flow key).pending.length =
      reassembler.buffered + state.pending.length := by
  rw [← reassembler.lookup_length key]
  exact Table.total_insert _ _ _ _

/-- The entry of a flow right after a push to it. -/
theorem arrive_flow (reassembler : FlowReassembler T) (arrival : Arrival T) :
    (reassembler.arrive arrival).1.flow arrival.header.key =
      (pushFlow ((reassembler.withRoom arrival.header.key).flow arrival.header.key)
        (reassembler.withRoom arrival.header.key).pendingTotal arrival.header.sequence arrival.value
        arrival.nowMs).1 := by
  simp only [FlowReassembler.flow, FlowReassembler.arrive, FlowReassembler.pushAt,
    AList.lookup_insert, Option.getD_some]

section Room

variable {reassembler : FlowReassembler T} {arrival : Arrival T}
  (room : reassembler.withRoom arrival.header.key = reassembler)

include room

/-- A push in a table with room. -/
theorem arrive_eq : reassembler.arrive arrival =
    ({ flows := reassembler.flows.insert arrival.header.key
        (pushFlow (reassembler.flow arrival.header.key) reassembler.pendingTotal
          arrival.header.sequence arrival.value arrival.nowMs).1
       pendingTotal := (pushFlow (reassembler.flow arrival.header.key) reassembler.pendingTotal
          arrival.header.sequence arrival.value arrival.nowMs).2.1 },
      (pushFlow (reassembler.flow arrival.header.key) reassembler.pendingTotal
        arrival.header.sequence arrival.value arrival.nowMs).2.2) := by
  rw [FlowReassembler.arrive, FlowReassembler.pushAt, room]

/-- It leaves other flows alone. -/
theorem arrive_elsewhere {key : ReassemblyKey} (other : key ≠ arrival.header.key) :
    (reassembler.arrive arrival).1.flow key = reassembler.flow key := by
  rw [arrive_eq room, FlowReassembler.flow, AList.lookup_insert_ne other]
  rfl

/-- Only its flow is tracked in addition. -/
theorem arrive_tracked : (reassembler.arrive arrival).1.flows.keys ⊆
    arrival.header.key :: reassembler.flows.keys := by
  intro key member
  rw [arrive_eq room] at member
  rw [List.mem_cons]
  exact AList.mem_insert _ |>.mp member

end Room

/-- A push leaves every flow in order exactly when it does not strand its frame. -/
theorem arrive_orderly_iff (reassembler : FlowReassembler T) (arrival : Arrival T)
    (consistent : reassembler.Consistent) :
    (reassembler.arrive arrival).1.Orderly ↔ ¬reassembler.Strands arrival := by
  have admitted := consistent.withRoom arrival.header.key
  have result := pushFlow_ordered_iff _ _ arrival.header.sequence arrival.value arrival.nowMs
    (admitted.settled arrival.header.key)
  refine Iff.trans ⟨fun orderly => ?_, fun ordered => ?_⟩ result
  · exact orderly arrival.header.key _ (AList.lookup_insert _)
  · exact Table.forall_insert FlowState.Ordered _ _ _ admitted.orderly ordered

/-- A push that does not strand its frame keeps the table consistent. -/
theorem arrive_consistent (reassembler : FlowReassembler T) (arrival : Arrival T)
    (consistent : reassembler.Consistent) (safe : ¬reassembler.Strands arrival) :
    (reassembler.arrive arrival).1.Consistent := by
  have admitted := consistent.withRoom arrival.header.key
  obtain ⟨count, limited, running⟩ := pushFlow_counts _ _ arrival.header.sequence arrival.value
    arrival.nowMs (admitted.settled arrival.header.key)
  refine ⟨(arrive_orderly_iff reassembler arrival consistent).mpr safe, ?_, ?_, limited⟩
  · exact Table.forall_insert _ _ _ _ admitted.running running
  · have exchanged := (reassembler.withRoom arrival.header.key).buffered_insert arrival.header.key
      (pushFlow ((reassembler.withRoom arrival.header.key).flow arrival.header.key)
        (reassembler.withRoom arrival.header.key).pendingTotal arrival.header.sequence
        arrival.value arrival.nowMs).1
      (pushFlow ((reassembler.withRoom arrival.header.key).flow arrival.header.key)
        (reassembler.withRoom arrival.header.key).pendingTotal arrival.header.sequence
        arrival.value arrival.nowMs).2.1
    rw [← admitted.counted] at exchanged
    refine Nat.add_right_cancel (Eq.trans count exchanged.symm)

/-- In every run, no flow ever holds a stranded, repeated or surplus frame exactly when no push
of the run strands its frame. -/
theorem run_orderly_iff (arrivals : List (Arrival T)) :
    (∀ begun, begun <+: arrivals →
        (Mealy.final FlowReassembler.arrive .new begun).Orderly) ↔
      Mealy.Along FlowReassembler.arrive (fun reassembler arrival => ¬reassembler.Strands arrival)
        .new arrivals := by
  rw [Mealy.forall_final_iff, and_iff_right (consistent_new (T := T)).orderly]
  refine Mealy.along_congr FlowReassembler.Consistent ?_ ?_ _ _ consistent_new
  · intro reassembler arrival consistent orderly
    exact arrive_consistent reassembler arrival consistent
      ((arrive_orderly_iff reassembler arrival consistent).mp orderly)
  · intro reassembler arrival consistent
    exact arrive_orderly_iff reassembler arrival consistent

/-- Frames 10 to 105 fill the buffer of a flow; frame 5 is ahead of the expected number 0 then. -/
def crowdingRun : List (Arrival Unit) :=
  (List.range 96).map (fun count => ⟨⟨17, 23, UInt32.ofNat (10 + count)⟩, (), 0⟩) ++
    [⟨⟨17, 23, 5⟩, (), 0⟩]

/-- Making room for frame 5 releases frames 10 to 105, and frame 5 is then stored behind them. -/
theorem crowdingRun_strands :
    ¬∀ arrivals : List (Arrival Unit),
      (arrivals.map (fun arrival => arrival.nowMs)).Pairwise (· ≤ ·) →
        (Mealy.final FlowReassembler.arrive .new arrivals).Orderly := by
  intro orderly
  have ordered := FlowReassembler.flow_of_forall _ ⟨17, 23⟩ (orderly crowdingRun (by decide))
    ordered_fresh
  have behind : ((Mealy.final FlowReassembler.arrive .new crowdingRun).flow ⟨17, 23⟩).pending.all
      (fun pending => isForward pending.sequence
        ((Mealy.final FlowReassembler.arrive .new crowdingRun).flow ⟨17, 23⟩).expected) =
      false := by decide +kernel
  rw [List.all_eq_true.mpr ordered.ahead] at behind
  cases behind

end Focsq.FlowFrame
