import Focsq.Lib.Mealy
import Focsq.Lib.Table
import Focsq.Verif.FlowFrame

/-!
# The places that the sequencer gives

Between two rollovers the table of the sequencer holds, for every flow, how many of its packets it
has numbered. So the packets of each flow are numbered from zero, whatever other flows and unframed
packets come between them, and the table is full exactly when the packets belong to as many flows
as it has room for.
-/

namespace Focsq.FlowFrame

/-- Flows of the packets that are framed. -/
def flowsOf (packets : List (List UInt8)) : List UInt64 := packets.filterMap tcpFlowId

/-- The table is full and the packet belongs to a flow that is not in it. -/
def FlowSequencer.Rolls (sequencer : FlowSequencer) (packet : List UInt8) : Prop :=
  sequencer.sequences.entries.length = maxTrackedFlows ∧
    ∃ flowId ∈ tcpFlowId packet, flowId ∉ sequencer.sequences

instance (sequencer : FlowSequencer) (packet : List UInt8) : Decidable (sequencer.Rolls packet) :=
  inferInstanceAs (Decidable (_ ∧ _))

/-- The table counts the packets of each flow, under one sender. -/
structure FlowSequencer.Counts (sequencer : FlowSequencer) (sender : UInt64)
    (flows : List UInt64) : Prop where
  /-- The sender. -/
  sender : sequencer.senderId = sender
  /-- Flows that had a packet are tracked. -/
  tracked : ∀ flowId, flowId ∈ sequencer.sequences ↔ flowId ∈ flows
  /-- The next place of a flow is the number of its packets. -/
  next : ∀ flowId, (sequencer.sequences.lookup flowId).getD 0 =
    UInt32.ofNat (flows.count flowId)
  /-- The table keeps its limit. -/
  limited : sequencer.sequences.entries.length ≤ maxTrackedFlows

/-- An empty table has counted nothing. -/
theorem counts_empty (sender : UInt64) :
    (FlowSequencer.mk sender ∅).Counts sender [] where
  sender := rfl
  tracked := by simp
  next := by simp
  limited := Nat.zero_le _

/-- There is an entry for every flow. -/
theorem FlowSequencer.Counts.length {sequencer : FlowSequencer} {sender : UInt64}
    {flows : List UInt64} (counts : sequencer.Counts sender flows) :
    sequencer.sequences.entries.length = flows.dedup.length := by
  have same : sequencer.sequences.keys.Perm flows.dedup := by
    rw [List.perm_ext_iff_of_nodup sequencer.sequences.keys_nodup flows.nodup_dedup]
    intro flowId
    rw [List.mem_dedup, ← counts.tracked]
    rfl
  have keys : sequencer.sequences.keys.length = sequencer.sequences.entries.length :=
    List.length_map _
  rw [← keys]
  exact same.length_eq

/-- Without a rollover there is room for the flow of the packet. -/
theorem FlowSequencer.makeRoom_of_not_rolls {sequencer : FlowSequencer} {packet : List UInt8}
    {flowId : UInt64} (framed : tcpFlowId packet = some flowId)
    (keeps : ¬sequencer.Rolls packet) : sequencer.makeRoom flowId = sequencer := by
  rw [FlowSequencer.makeRoom, if_neg]
  rintro ⟨full, other⟩
  exact keeps ⟨full, flowId, framed, other⟩

/-- A sender is never zero. -/
theorem max_one_ne_zero (value : UInt64) : max value 1 ≠ 0 := by
  intro zero
  change (if value ≤ 1 then 1 else value) = 0 at zero
  split at zero
  · cases zero
  · rename_i large
    subst zero
    exact large (by decide)

/-- A rollover goes on with an empty table under another sender. -/
theorem FlowSequencer.Rolls.next {sequencer : FlowSequencer} {packet : List UInt8}
    (rolls : sequencer.Rolls packet) :
    ∃ sender, sender ≠ 0 ∧ sequencer.next packet = (FlowSequencer.mk sender ∅).next packet := by
  obtain ⟨full, flowId, framed, other⟩ := rolls
  have cleared : sequencer.makeRoom flowId =
      ⟨max (mix64 (sequencer.senderId + 0x9e3779b97f4a7c15)) 1, ∅⟩ := if_pos ⟨full, other⟩
  have empty : ∀ sender, (FlowSequencer.mk sender ∅).makeRoom flowId = ⟨sender, ∅⟩ := by
    intro sender
    rw [FlowSequencer.makeRoom, if_neg]
    rintro ⟨some, _⟩
    cases some
  refine ⟨max (mix64 (sequencer.senderId + 0x9e3779b97f4a7c15)) 1, max_one_ne_zero _, ?_⟩
  rw [Option.mem_def] at framed
  simp only [FlowSequencer.next, framed, cleared, empty]

/-- A packet that is not framed changes nothing. -/
theorem next_unframed (sequencer : FlowSequencer) {packet : List UInt8}
    (unframed : tcpFlowId packet = none) : sequencer.next packet = (sequencer, none) := by
  simp only [FlowSequencer.next, unframed]

/-- A framed packet is given the number of packets of its flow before it. -/
theorem FlowSequencer.Counts.framed {sequencer : FlowSequencer} {sender : UInt64}
    {flows : List UInt64} (counts : sequencer.Counts sender flows) {packet : List UInt8}
    {flowId : UInt64} (framed : tcpFlowId packet = some flowId)
    (keeps : ¬sequencer.Rolls packet) :
    (sequencer.next packet).2 = some ⟨sender, flowId, UInt32.ofNat (flows.count flowId)⟩ ∧
      (sequencer.next packet).1.Counts sender (flows ++ [flowId]) := by
  have result : sequencer.next packet =
      (⟨sequencer.senderId, sequencer.sequences.insert flowId
          (UInt32.ofNat (flows.count flowId) + 1)⟩,
        some ⟨sender, flowId, UInt32.ofNat (flows.count flowId)⟩) := by
    simp only [FlowSequencer.next, framed, FlowSequencer.makeRoom_of_not_rolls framed keeps,
      counts.next, counts.sender]
  rw [result]
  refine ⟨rfl, counts.sender, ?_, ?_, ?_⟩
  · intro other
    rw [AList.mem_insert, counts.tracked, List.mem_append, List.mem_singleton, or_comm]
  · intro other
    rw [List.count_append, List.count_singleton]
    by_cases same : other = flowId
    · subst same
      rw [AList.lookup_insert, Option.getD_some, if_pos (beq_self_eq_true _), UInt32.ofNat_add,
        UInt32.ofNat_one]
    · have apart : ¬(flowId == other) = true := by
        rw [beq_iff_eq]
        exact Ne.symm same
      rw [AList.lookup_insert_ne same, counts.next, if_neg apart, Nat.add_zero]
  · dsimp only
    rw [Table.length_insert]
    have limited := counts.limited
    by_cases known : flowId ∈ sequencer.sequences
    · rw [if_pos known]
      exact limited
    · have room : sequencer.sequences.entries.length ≠ maxTrackedFlows :=
        fun full => keeps ⟨full, flowId, framed, known⟩
      rw [if_neg known]
      omega

/-- Headers of the packets that are framed. -/
def headersOf (sequencer : FlowSequencer) (packets : List (List UInt8)) : List FrameHeader :=
  (Mealy.outputs FlowSequencer.next sequencer packets).reduceOption

/-- What a run without a rollover numbers. -/
theorem FlowSequencer.Counts.run {sequencer : FlowSequencer} {sender : UInt64}
    {flows : List UInt64} (counts : sequencer.Counts sender flows) (packets : List (List UInt8))
    (keeps : Mealy.Along FlowSequencer.next
      (fun sequencer packet => ¬sequencer.Rolls packet) sequencer packets) :
    (Mealy.final FlowSequencer.next sequencer packets).Counts sender
        (flows ++ flowsOf packets) ∧
      (∀ header ∈ headersOf sequencer packets, header.senderId = sender) ∧
      (headersOf sequencer packets).map (fun header => header.flowId) = flowsOf packets ∧
      ∀ flowId, ((headersOf sequencer packets).filter
          (fun header => header.flowId = flowId)).map (fun header => header.sequence) =
        (List.range' (flows.count flowId) ((flowsOf packets).count flowId)).map UInt32.ofNat := by
  induction packets generalizing sequencer flows with
  | nil =>
    have none : headersOf sequencer [] = [] := rfl
    rw [none]
    exact ⟨by simpa [flowsOf, Mealy.final] using counts, by simp, rfl, by simp [flowsOf]⟩
  | cons packet rest ih =>
    obtain ⟨first, later⟩ := keeps
    cases framed : tcpFlowId packet with
    | none =>
      have result := next_unframed sequencer framed
      rw [result] at later
      have others := ih counts later
      have same : headersOf sequencer (packet :: rest) = headersOf sequencer rest := by
        rw [headersOf, Mealy.outputs, result]
        rfl
      have flowsSame : flowsOf (packet :: rest) = flowsOf rest := List.filterMap_cons_none framed
      rw [Mealy.final, result, same, flowsSame]
      exact others
    | some flowId =>
      obtain ⟨output, counted⟩ := counts.framed framed first
      obtain ⟨last, sent, numbered, places⟩ := ih counted later
      have headers : headersOf sequencer (packet :: rest) =
          ⟨sender, flowId, UInt32.ofNat (flows.count flowId)⟩ ::
            headersOf (sequencer.next packet).1 rest := by
        rw [headersOf, Mealy.outputs, output]
        rfl
      have flowsMore : flowsOf (packet :: rest) = flowId :: flowsOf rest :=
        List.filterMap_cons_some framed
      rw [Mealy.final, headers, flowsMore]
      refine ⟨?_, ?_, ?_, ?_⟩
      · rw [List.append_cons]
        exact last
      · rw [List.forall_mem_cons]
        exact ⟨rfl, sent⟩
      · rw [List.map_cons, numbered]
      · intro other
        have tail := places other
        rw [List.count_append, List.count_singleton] at tail
        rw [List.filter_cons, List.count_cons]
        by_cases same : flowId = other
        · subst same
          rw [if_pos (beq_self_eq_true _)] at tail ⊢
          rw [if_pos (decide_eq_true rfl), List.map_cons, tail, List.range'_succ, List.map_cons]
        · have apart : ¬(flowId == other) = true := by
            rw [beq_iff_eq]
            exact same
          rw [if_neg apart, Nat.add_zero] at tail
          rw [if_neg apart, Nat.add_zero, if_neg (by simpa using same)]
          exact tail

/-- Part of a run between two rollovers. -/
abbrev Incarnation (seed : UInt64) (before stretch : List (List UInt8)) : Prop :=
  Mealy.Between FlowSequencer.next FlowSequencer.Rolls (.withSenderId seed) before stretch

/-- An empty table does not roll over. -/
theorem not_rolls_empty (sender : UInt64) (packet : List UInt8) :
    ¬(FlowSequencer.mk sender ∅).Rolls packet := by
  rintro ⟨full, _⟩
  cases full

/-- Every part of a run between two rollovers goes as from an empty table of one sender. -/
theorem Incarnation.fresh {seed : UInt64} {before stretch : List (List UInt8)}
    (between : Incarnation seed before stretch) :
    let sequencer := Mealy.final FlowSequencer.next (.withSenderId seed) before
    ∃ sender, sender ≠ 0 ∧
      Mealy.Along FlowSequencer.next (fun sequencer packet => ¬sequencer.Rolls packet)
        ⟨sender, ∅⟩ stretch ∧
      Mealy.final FlowSequencer.next sequencer stretch =
        Mealy.final FlowSequencer.next ⟨sender, ∅⟩ stretch ∧
      headersOf sequencer stretch = headersOf ⟨sender, ∅⟩ stretch := by
  intro sequencer
  cases stretch with
  | nil =>
    have start : before = [] := between.empty
    subst start
    exact ⟨max seed 1, max_one_ne_zero seed, trivial, rfl, rfl⟩
  | cons first rest =>
    obtain ⟨begins, later⟩ := between.starts
    have same : ∃ sender, sender ≠ 0 ∧
        sequencer.next first = (FlowSequencer.mk sender ∅).next first := by
      rcases begins with rfl | rolls
      · exact ⟨max seed 1, max_one_ne_zero seed, rfl⟩
      · exact rolls.next
    obtain ⟨sender, nonzero, same⟩ := same
    rw [same] at later
    refine ⟨sender, nonzero, ⟨not_rolls_empty sender first, later⟩, ?_, ?_⟩
    · rw [Mealy.final, Mealy.final, same]
    · rw [headersOf, headersOf, Mealy.outputs, Mealy.outputs, same]

/-- A run keeps the table within its limit, whether it rolls over or not. -/
theorem next_limited (sequencer : FlowSequencer) (packet : List UInt8)
    (limited : sequencer.sequences.entries.length ≤ maxTrackedFlows) :
    (sequencer.next packet).1.sequences.entries.length ≤ maxTrackedFlows := by
  cases framed : tcpFlowId packet with
  | none =>
    rw [next_unframed sequencer framed]
    exact limited
  | some flowId =>
    simp only [FlowSequencer.next, framed]
    rw [Table.length_insert]
    unfold FlowSequencer.makeRoom
    by_cases rolls : sequencer.sequences.entries.length = maxTrackedFlows ∧
        flowId ∉ sequencer.sequences
    · have empty : (∅ : AList (fun _ : UInt64 => UInt32)).entries.length = 0 := rfl
      rw [if_pos rolls, if_neg (AList.notMem_empty flowId), empty]
      decide
    · rw [if_neg rolls]
      by_cases known : flowId ∈ sequencer.sequences
      · rw [if_pos known]
        exact limited
      · have room : sequencer.sequences.entries.length ≠ maxTrackedFlows :=
          fun full => rolls ⟨full, known⟩
        rw [if_neg known]
        omega

/-- The table never holds more flows than its limit. Between two rollovers all headers carry one
sender, which is not zero, and the headers of each flow count up from zero; and the table rolls
over only when as many flows as it has room for had packets and the packet is of another one. -/
theorem sequencer_numbers (seed : UInt64) (before stretch : List (List UInt8)) :
    let sequencer := Mealy.final FlowSequencer.next (.withSenderId seed) before
    sequencer.sequences.entries.length ≤ maxTrackedFlows ∧
      (Incarnation seed before stretch →
        (∃ sender, sender ≠ 0 ∧
          ∀ header ∈ headersOf sequencer stretch, header.senderId = sender) ∧
        (headersOf sequencer stretch).map (fun header => header.flowId) = flowsOf stretch ∧
        (∀ flowId, ((headersOf sequencer stretch).filter
            (fun header => header.flowId = flowId)).map (fun header => header.sequence) =
          (List.range ((flowsOf stretch).count flowId)).map UInt32.ofNat) ∧
        ∀ packet, (Mealy.final FlowSequencer.next sequencer stretch).Rolls packet →
          (flowsOf stretch).dedup.length = maxTrackedFlows ∧
            ∃ flowId ∈ tcpFlowId packet, flowId ∉ flowsOf stretch) := by
  intro sequencer
  refine ⟨?_, ?_⟩
  · exact Mealy.final_invariant
      (fun sequencer : FlowSequencer => sequencer.sequences.entries.length ≤ maxTrackedFlows)
      next_limited _ _ (Nat.zero_le _)
  · intro between
    obtain ⟨sender, nonzero, keeps, last, headers⟩ := between.fresh
    obtain ⟨counts, sent, flows, places⟩ := (counts_empty sender).run stretch keeps
    simp only [List.nil_append, List.count_nil, ← List.range_eq_range'] at counts places
    rw [headers]
    refine ⟨⟨sender, nonzero, sent⟩, flows, places, ?_⟩
    rintro packet rolls
    rw [last] at rolls
    obtain ⟨full, flowId, framed, other⟩ := rolls
    rw [counts.length] at full
    rw [counts.tracked] at other
    exact ⟨full, flowId, framed, other⟩

/-- A connection is opened twice, with a packet between that is not framed. -/
def synRun : List (List UInt8) := [synBytes, [], synBytes]

/-- Its packets are numbered 0 and 1. -/
theorem synRun_numbered :
    ((headersOf (.withSenderId 7) synRun).filter
      (fun header => header.flowId = (tcpFlowId synBytes).getD 0)).map
        (fun header => header.sequence) = [0, 1] :=
  (((sequencer_numbers 7 [] synRun).2 ⟨.inl rfl, by decide +kernel⟩).2.2.1
    ((tcpFlowId synBytes).getD 0)).trans (by decide +kernel)

end Focsq.FlowFrame
