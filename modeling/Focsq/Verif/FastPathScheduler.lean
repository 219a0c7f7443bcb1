import Focsq.Backend.FastPathScheduler
import Focsq.Lib.Mealy
import Focsq.Lib.Stripes

/-!
# Stripes over a constant list of workers

As long as the list of workers does not change, the cursor of a class is a function of how many of
its packets there were. Packets of other classes do not matter.
-/

namespace Focsq.Dispatcher

open StripedScheduler

variable {ω : Type}

/-- Chunks are not empty. -/
theorem streamChunk_pos (packetClass : PacketClass) : 0 < packetClass.streamChunk := by
  cases packetClass <;> decide

/-- Each class has a cursor of its own. -/
theorem index_injective {left right : PacketClass} (same : left.index.val = right.index.val) :
    left = right := by
  cases left <;> cases right <;> first | rfl | cases same

/-- The cursor of a class that was moved. -/
@[simp]
theorem cursor_setCursor (scheduler : FastPathScheduler ω) (packetClass : PacketClass)
    (cursor : RoundRobinCursor) : (scheduler.setCursor packetClass cursor).cursor packetClass =
      cursor :=
  Vector.getElem_set_self _

/-- The cursor of another class. -/
theorem cursor_setCursor_other (scheduler : FastPathScheduler ω) {moved other : PacketClass}
    (cursor : RoundRobinCursor) (different : other ≠ moved) :
    (scheduler.setCursor moved cursor).cursor other = scheduler.cursor other :=
  Vector.getElem_set_ne moved.index.isLt other.index.isLt
    fun same => different (index_injective same).symm

/-- Moving a cursor keeps the workers. -/
@[simp]
theorem workers_setCursor (scheduler : FastPathScheduler ω) (packetClass : PacketClass)
    (cursor : RoundRobinCursor) :
    (scheduler.setCursor packetClass cursor).workers = scheduler.workers := rfl

/-- The cursors of a new scheduler. -/
@[simp]
theorem cursor_new (packetClass : PacketClass) :
    (FastPathScheduler.new : FastPathScheduler ω).cursor packetClass = ⟨0, 0⟩ :=
  Vector.getElem_replicate _

/-- The same number of workers changes nothing. -/
theorem syncWorkerCount_same {scheduler : FastPathScheduler ω} {workerCount : Nat}
    (same : scheduler.workerCount = workerCount) :
    scheduler.syncWorkerCount workerCount = scheduler :=
  if_neg (not_not.mpr same)

/-- Synchronising keeps the workers. -/
theorem syncWorkerCount_workers (scheduler : FastPathScheduler ω) (workerCount : Nat) :
    (scheduler.syncWorkerCount workerCount).workers = scheduler.workers := by
  unfold FastPathScheduler.syncWorkerCount
  split_ifs <;> rfl

/-- Afterwards the number is the new one. -/
theorem syncWorkerCount_workerCount (scheduler : FastPathScheduler ω) (workerCount : Nat) :
    (scheduler.syncWorkerCount workerCount).workerCount = workerCount := by
  by_cases same : scheduler.workerCount = workerCount
  · rw [syncWorkerCount_same same, same]
  · simp only [FastPathScheduler.syncWorkerCount, ne_eq, same, not_false_eq_true, if_true]

/-- The cursors are set back when the number is another one. -/
theorem syncWorkerCount_cursor (scheduler : FastPathScheduler ω) (workerCount : Nat)
    (packetClass : PacketClass) :
    (scheduler.syncWorkerCount workerCount).cursor packetClass =
      if scheduler.workerCount = workerCount then scheduler.cursor packetClass
      else ⟨0, 0⟩ := by
  by_cases same : scheduler.workerCount = workerCount
  · rw [syncWorkerCount_same same, if_pos same]
  · simp only [FastPathScheduler.syncWorkerCount, ne_eq, same, not_false_eq_true, if_true,
      if_false]
    exact Vector.getElem_replicate _

/-- Without workers a packet gets no slot. -/
theorem begin_none {scheduler : FastPathScheduler ω} {source : List ω} {packet : List UInt8}
    (none : (scheduler.load source (packetClass packet)).workerCount = 0) :
    scheduler.begin source packet = (scheduler.load source (packetClass packet), .none) := by
  unfold FastPathScheduler.begin
  dsimp only
  rw [FastPathScheduler.beginForClass, if_pos none]

/-- A packet gets the slot of the cursor of its class, which is moved. -/
theorem begin_some {scheduler : FastPathScheduler ω} {source : List ω} {packet : List UInt8}
    (some : (scheduler.load source (packetClass packet)).workerCount ≠ 0) :
    scheduler.begin source packet =
      ((scheduler.load source (packetClass packet)).setCursor (packetClass packet)
          (((scheduler.load source (packetClass packet)).cursor (packetClass packet)).advance
            (packetClass packet).streamChunk
            (scheduler.load source (packetClass packet)).workerCount),
        .some ⟨((scheduler.load source (packetClass packet)).cursor
          (packetClass packet)).currentWorker, packetClass packet⟩) := by
  unfold FastPathScheduler.begin
  dsimp only
  rw [FastPathScheduler.beginForClass, if_neg some]
  dsimp only
  rw [syncWorkerCount_same rfl]

/-- What is left of the chunk that a cursor is in or begins. -/
theorem advance_remaining (cursor : RoundRobinCursor) (chunk workerCount : Nat) :
    (cursor.advance chunk workerCount).remaining =
      (if cursor.remaining = 0 then chunk else cursor.remaining) - 1 := by
  unfold RoundRobinCursor.advance
  dsimp only
  split_ifs <;> rfl

/-- A cursor stays at its worker until the chunk is complete. -/
theorem advance_within {cursor : RoundRobinCursor} {chunk workerCount : Nat}
    (within : (cursor.advance chunk workerCount).remaining ≠ 0) :
    (cursor.advance chunk workerCount).currentWorker = cursor.currentWorker := by
  rw [advance_remaining] at within
  unfold RoundRobinCursor.advance
  dsimp only
  rw [if_neg within]

/-- A cursor stays at workers. -/
theorem advance_inside {cursor : RoundRobinCursor} {workerCount : Nat} (chunk : Nat)
    (inside : cursor.currentWorker < workerCount) :
    (cursor.advance chunk workerCount).currentWorker < workerCount := by
  unfold RoundRobinCursor.advance
  dsimp only
  split_ifs <;> (dsimp only; omega)

/-- Where the cursor of a class is after so many packets. -/
def cursorAfter (chunk count k : Nat) : RoundRobinCursor :=
  ⟨Stripes.slot chunk count k, Stripes.left chunk k⟩

/-- One packet moves a cursor on. -/
theorem advance_cursorAfter {chunk count : Nat} (positive : 0 < chunk) (some : 0 < count)
    (k : Nat) :
    (cursorAfter chunk count k).advance chunk count = cursorAfter chunk count (k + 1) := by
  unfold RoundRobinCursor.advance cursorAfter
  dsimp only
  rw [Stripes.slot_succ chunk count k positive some, ← Stripes.left_succ chunk k positive]
  split_ifs <;> rfl

/-- The cursors are where so many packets of each class have moved them. -/
structure Striding (source : List ω) (seen : PacketClass → Nat)
    (scheduler : FastPathScheduler ω) : Prop where
  /-- Those of all classes. -/
  cursor : ∀ packetClass, scheduler.cursor packetClass =
    cursorAfter packetClass.streamChunk source.length (seen packetClass)
  /-- The workers were loaded for the first packet. -/
  loaded : (∃ packetClass, seen packetClass ≠ 0) →
    scheduler.workers = source ∧ scheduler.workerCount = source.length

/-- Before the first packet nothing was moved. -/
theorem cursorAfter_zero (chunk count : Nat) : cursorAfter chunk count 0 = ⟨0, 0⟩ := by
  simp [cursorAfter, Stripes.slot, Stripes.left]

/-- Loading the same workers keeps the cursors. -/
theorem Striding.load {source : List ω} {seen : PacketClass → Nat}
    {scheduler : FastPathScheduler ω} (striding : Striding source seen scheduler)
    (packetClass : PacketClass) :
    (scheduler.load source packetClass).workers = source ∧
      (scheduler.load source packetClass).workerCount = source.length ∧
      ∀ other : PacketClass, (scheduler.load source packetClass).cursor other =
        cursorAfter other.streamChunk source.length (seen other) := by
  by_cases first : ∀ other, seen other = 0
  · have between : (scheduler.cursor packetClass).remaining = 0 := by
      rw [striding.cursor, first, cursorAfter_zero]
    unfold FastPathScheduler.load
    rw [if_pos between]
    refine ⟨syncWorkerCount_workers _ _, syncWorkerCount_workerCount _ _, fun other => ?_⟩
    rw [syncWorkerCount_cursor]
    have here := striding.cursor other
    rw [first, cursorAfter_zero] at here ⊢
    split_ifs
    · exact here
    · rfl
  · obtain ⟨workers, workerCount⟩ := striding.loaded (not_forall.mp first)
    have same : { scheduler with workers := source } = scheduler := by rw [← workers]
    have unchanged : scheduler.load source packetClass = scheduler := by
      unfold FastPathScheduler.load
      rw [same, syncWorkerCount_same workerCount, ite_self]
    rw [unchanged]
    exact ⟨workers, workerCount, striding.cursor⟩

/-- One packet moves the cursor of its class, and gets the slot it was at. -/
theorem Striding.begin {source : List ω} {seen : PacketClass → Nat}
    {scheduler : FastPathScheduler ω} (striding : Striding source seen scheduler)
    (some : source ≠ []) (packet : List UInt8) :
    (scheduler.begin source packet).2 =
        .some ⟨Stripes.slot (packetClass packet).streamChunk source.length
          (seen (packetClass packet)), packetClass packet⟩ ∧
      Striding source
        (fun other => if other = packetClass packet then seen other + 1 else seen other)
        (scheduler.begin source packet).1 := by
  obtain ⟨workers, workerCount, cursors⟩ := striding.load (packetClass packet)
  have positive : 0 < source.length := List.length_pos_iff.mpr some
  rw [begin_some (by omega), workerCount, cursors]
  refine ⟨rfl, fun other => ?_, fun _ => ⟨workers, workerCount⟩⟩
  by_cases same : other = packetClass packet
  · rw [same, cursor_setCursor, advance_cursorAfter (streamChunk_pos _) positive, if_pos rfl]
  · rw [cursor_setCursor_other _ _ same, cursors, if_neg same]

/-- How many packets of a class there are. -/
def ofClass (packets : List (List UInt8)) (kind : PacketClass) : Nat :=
  packets.countP fun packet => packetClass packet = kind

/-- After any packets the cursors are where those of each class have moved them. -/
theorem striding_final (source : List ω) (some : source ≠ []) (packets : List (List UInt8)) :
    Striding source (ofClass packets)
      (Mealy.final (fun scheduler packet => scheduler.begin source packet)
        FastPathScheduler.new packets) := by
  induction packets using List.reverseRecOn with
  | nil =>
    refine ⟨fun other => ?_, fun seen => ?_⟩
    · exact (cursor_new other).trans (cursorAfter_zero _ _).symm
    · obtain ⟨other, seen⟩ := seen
      exact absurd rfl seen
  | append_singleton packets packet ih =>
    rw [Mealy.final_append]
    have counted : ofClass (packets ++ [packet]) = fun other =>
        if other = packetClass packet then ofClass packets other + 1
        else ofClass packets other := by
      funext other
      by_cases same : other = packetClass packet
      · simp [ofClass, same]
      · simp [ofClass, same, Ne.symm same]
    rw [counted]
    exact (ih.begin some packet).2

/-- With a constant list of workers the packets of each class go around the workers by chunks,
whatever packets of other classes come in between; the slot is that of a worker. -/
theorem begin_fair (source : List ω) (some : source ≠ []) (packets : List (List UInt8))
    (position : Nat) (packet : List UInt8) (here : packets[position]? = .some packet) :
    (Mealy.outputs (fun scheduler packet => scheduler.begin source packet)
        FastPathScheduler.new packets)[position]? =
      .some (.some
        { startSlot := ofClass (packets.take position) (packetClass packet) /
            (packetClass packet).streamChunk % source.length
          packetClass := packetClass packet }) ∧
      ofClass (packets.take position) (packetClass packet) /
          (packetClass packet).streamChunk % source.length <
        (Mealy.final (fun scheduler packet => scheduler.begin source packet)
          FastPathScheduler.new (packets.take (position + 1))).workers.length := by
  have striding := striding_final source some (packets.take position)
  have positive : 0 < source.length := List.length_pos_iff.mpr some
  constructor
  · rw [Mealy.getElem?_outputs, here, Option.map_some, (striding.begin some packet).1]
    rfl
  · have next : packets.take (position + 1) = packets.take position ++ [packet] := by
      rw [List.take_add_one, here, Option.toList_some]
    rw [next, Mealy.final_append]
    have seen := (striding.begin some packet).2.loaded ⟨packetClass packet, by simp⟩
    exact Nat.lt_of_lt_of_eq (Nat.mod_lt _ positive) (congrArg List.length seen.1).symm

/-- Four short packets and a longer one before another short one. -/
def mixedPackets : List (List UInt8) := [[], [], [], List.replicate 200 0, [], []]

/-- With two workers the last of these packets begins the chunk of the second one. -/
theorem mixedPackets_fair :
    (Mealy.outputs (fun scheduler packet => scheduler.begin ['a', 'b'] packet)
      FastPathScheduler.new mixedPackets)[5]? = some (some ⟨1, .small⟩) :=
  (begin_fair ['a', 'b'] (by decide) mixedPackets 5 [] rfl).1.trans (by decide +kernel)

end Focsq.Dispatcher
