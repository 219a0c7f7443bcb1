import Mathlib.Data.Nat.Bitwise
import Mathlib.Data.Nat.Dist
import Focsq.Backend.ReplayWindow
import Focsq.Lib.SlidingWindow

/-!
# The replay window is a sliding window of 16384 counters
-/

namespace Focsq.Session

/-- Places in the ring. -/
theorem bitIndex_eq (counter : UInt64) : bitIndex counter = counter.toNat % 16384 :=
  UInt64.toNat_mod _ _

/-- The mask of a counter is a single bit. -/
theorem bitMask_toNat (counter : UInt64) :
    (bitMask counter).toNat = 2 ^ (counter.toNat % 64) := by
  have place : (UInt64.ofNat (bitIndex counter % 64)).toNat = counter.toNat % 64 := by
    rw [UInt64.toNat_ofNat', bitIndex_eq]
    omega
  have bound : counter.toNat % 64 < 64 := Nat.mod_lt _ (by decide)
  rw [bitMask, UInt64.toNat_shiftLeft, place, Nat.mod_eq_of_lt bound, Nat.shiftLeft_eq,
    UInt64.toNat_one, one_mul, Nat.mod_eq_of_lt]
  exact Nat.pow_lt_pow_right (by decide) bound

/-- Testing a counter reads one bit of its word. -/
theorem testBit_eq (seen : Vector UInt64 256) (counter : UInt64) :
    testBit seen counter =
      (seen.get (wordIndex counter)).toNat.testBit (counter.toNat % 64) := by
  show (seen[wordIndex counter] &&& bitMask counter != 0) =
    (seen[wordIndex counter]).toNat.testBit (counter.toNat % 64)
  have masked : (seen[wordIndex counter] &&& bitMask counter).toNat =
      ((seen[wordIndex counter]).toNat.testBit (counter.toNat % 64)).toNat *
        2 ^ (counter.toNat % 64) := by
    rw [UInt64.toNat_and, bitMask_toNat, Nat.and_two_pow]
  cases bit : (seen[wordIndex counter]).toNat.testBit (counter.toNat % 64) with
  | false =>
    rw [bit, Bool.toNat_false, zero_mul, ← UInt64.toNat_zero, UInt64.toNat_inj] at masked
    rw [masked]
    rfl
  | true =>
    rw [bit, Bool.toNat_true, one_mul] at masked
    rw [bne_iff_ne]
    intro zero
    rw [zero, UInt64.toNat_zero] at masked
    exact absurd masked.symm (Nat.two_pow_pos _).ne'

/-- Two counters share a bit when they differ by a multiple of the ring. -/
theorem same_bit_iff (left right : UInt64) :
    (wordIndex left = wordIndex right ∧ left.toNat % 64 = right.toNat % 64) ↔
      left.toNat % 16384 = right.toNat % 16384 := by
  simp only [wordIndex, Fin.mk.injEq, bitIndex_eq]
  omega

/-- Marking a counter changes its word only. -/
theorem get_setBit (seen : Vector UInt64 256) (marked counter : UInt64) :
    (setBit seen marked).get (wordIndex counter) =
      if wordIndex marked = wordIndex counter then seen.get (wordIndex marked) ||| bitMask marked
      else seen.get (wordIndex counter) := by
  simp only [Fin.ext_iff]
  exact Vector.getElem_set _ _

/-- Clearing a counter changes its word only. -/
theorem get_clearBit (seen : Vector UInt64 256) (cleared counter : UInt64) :
    (clearBit seen cleared).get (wordIndex counter) =
      if wordIndex cleared = wordIndex counter then
        seen.get (wordIndex cleared) &&& ~~~bitMask cleared
      else seen.get (wordIndex counter) := by
  simp only [Fin.ext_iff]
  exact Vector.getElem_set _ _

/-- Marking a counter marks it and keeps the other marks. -/
theorem testBit_setBit (seen : Vector UInt64 256) (marked counter : UInt64) :
    testBit (setBit seen marked) counter =
      (decide (marked.toNat % 16384 = counter.toNat % 16384) || testBit seen counter) := by
  have iff := same_bit_iff marked counter
  simp only [testBit_eq, get_setBit]
  by_cases word : wordIndex marked = wordIndex counter
  · simp only [word, ↓reduceIte, UInt64.toNat_or, bitMask_toNat, Nat.testBit_or,
      Nat.testBit_two_pow, true_and] at iff ⊢
    rw [decide_eq_decide.mpr iff, Bool.or_comm]
  · have apart : ¬marked.toNat % 16384 = counter.toNat % 16384 := fun same => word (iff.mpr same).1
    rw [if_neg word, decide_eq_false apart, Bool.false_or]

/-- Clearing a counter clears its mark and keeps the other marks. -/
theorem testBit_clearBit (seen : Vector UInt64 256) (cleared counter : UInt64) :
    testBit (clearBit seen cleared) counter =
      (!decide (cleared.toNat % 16384 = counter.toNat % 16384) && testBit seen counter) := by
  have iff := same_bit_iff cleared counter
  have mask : (~~~bitMask cleared).toNat.testBit (counter.toNat % 64) =
      !decide (cleared.toNat % 64 = counter.toNat % 64) := by
    have width : UInt64.size - 1 - 2 ^ (cleared.toNat % 64) =
        2 ^ 64 - (2 ^ (cleared.toNat % 64) + 1) := by
      rw [Nat.sub_sub, Nat.add_comm 1]
      rfl
    have small : 2 ^ (cleared.toNat % 64) < 2 ^ 64 :=
      Nat.pow_lt_pow_right (by decide) (Nat.mod_lt _ (by decide))
    have inside : counter.toNat % 64 < 64 := Nat.mod_lt _ (by decide)
    rw [UInt64.toNat_not, bitMask_toNat, width, Nat.testBit_two_pow_sub_succ small,
      Nat.testBit_two_pow, decide_eq_true inside, Bool.true_and]
  simp only [testBit_eq, get_clearBit]
  by_cases word : wordIndex cleared = wordIndex counter
  · simp only [word, ↓reduceIte, UInt64.toNat_and, Nat.testBit_and, mask, true_and] at iff ⊢
    rw [decide_eq_decide.mpr iff, Bool.and_comm]
  · have apart : ¬cleared.toNat % 16384 = counter.toNat % 16384 :=
      fun same => word (iff.mpr same).1
    rw [if_neg word, decide_eq_false apart, Bool.not_false, Bool.true_and]

/-- A cleared ring marks nothing. -/
theorem testBit_empty (counter : UInt64) :
    testBit (Vector.replicate 256 0) counter = false := by
  rw [testBit_eq]
  show (Vector.replicate 256 (0 : UInt64))[(wordIndex counter).val].toNat.testBit _ = false
  rw [Vector.getElem_replicate]
  exact Nat.zero_testBit _

/-- Clearing the counters after the highest one clears their marks and keeps the others. -/
theorem testBit_clearRange (seen : Vector UInt64 256) (highest counter : UInt64) (start count : Nat)
    (fits : highest.toNat + start + count ≤ 2 ^ 64) :
    testBit ((List.range' start count).foldl
        (fun seen i => clearBit seen (highest + UInt64.ofNat i)) seen) counter = true ↔
      testBit seen counter = true ∧ ∀ i, start ≤ i → i < start + count →
        (highest.toNat + i) % 16384 ≠ counter.toNat % 16384 := by
  induction count generalizing seen start with
  | zero =>
    rw [List.range'_zero, List.foldl_nil, and_iff_left]
    intro i low high
    omega
  | succ count ih =>
    have place : (highest + UInt64.ofNat start).toNat = highest.toNat + start := by
      rw [UInt64.toNat_add, UInt64.toNat_ofNat']
      omega
    rw [List.range'_succ, List.foldl_cons, ih _ (start + 1) (by omega), testBit_clearBit, place]
    simp only [Bool.and_eq_true, Bool.not_eq_true', decide_eq_false_iff_not]
    constructor
    · intro cleared
      refine ⟨cleared.1.2, fun i low high => ?_⟩
      by_cases first : i = start
      · exact first ▸ cleared.1.1
      · exact cleared.2 i (by omega) (by omega)
    · intro kept
      exact ⟨⟨kept.2 start (by omega) (by omega), kept.1⟩,
        fun i low high => kept.2 i (by omega) (by omega)⟩

/-- `16384` — how many counters the ring can tell apart. -/
def windowSize : Nat := 16384

/-- A replay window keeps what a sliding window of its size still needs. -/
structure ReplayWindow.Refines (window : ReplayWindow) (model : SlidingWindow.Window) : Prop where
  /-- Both have the same highest counter. -/
  highest : window.highest.map UInt64.toNat = model.highest
  /-- Within the window the marked counters are the accepted ones. -/
  marks : ∀ counter : UInt64, (∀ highest, model.highest = some highest →
      counter.toNat ≤ highest ∧ highest < counter.toNat + windowSize) →
    (testBit window.seen counter = true ↔ counter.toNat ∈ model.accepted)

/-- Both start empty. -/
theorem refines_default : ReplayWindow.default.Refines .empty where
  highest := rfl
  marks := by
    intro counter _
    show testBit (Vector.replicate 256 0) counter = true ↔ counter.toNat ∈ []
    rw [testBit_empty]
    simp

/-- Marking the new highest counter on top of the marks that are still in the window. -/
theorem ReplayWindow.Refines.advance {window : ReplayWindow} {model : SlidingWindow.Window}
    (refines : window.Refines model) (sound : model.Sound) (counter : UInt64)
    (higher : ∀ highest, model.highest = some highest → highest < counter.toNat)
    (seen : Vector UInt64 256)
    (kept : ∀ other : UInt64, other.toNat < counter.toNat →
      counter.toNat < other.toNat + windowSize →
        (testBit seen other = true ↔
          testBit window.seen other = true ∧ ∀ highest, model.highest = some highest →
            other.toNat ≤ highest)) :
    (ReplayWindow.mk (some counter) (setBit seen counter)).Refines
      ⟨some counter.toNat, counter.toNat :: model.accepted⟩ := by
  refine ⟨rfl, fun other inside => ?_⟩
  obtain ⟨below, recent⟩ := inside counter.toNat rfl
  simp only [testBit_setBit, Bool.or_eq_true, decide_eq_true_eq, List.mem_cons]
  by_cases same : other.toNat = counter.toNat
  · simp [same]
  · have apart : ¬counter.toNat % 16384 = other.toNat % 16384 := by
      unfold windowSize at recent
      omega
    have old := kept other (by omega) recent
    simp only [apart, false_or, same, old]
    constructor
    · intro marked
      refine (refines.marks other (fun highest top => ?_)).mp marked.1
      have bound := higher highest top
      exact ⟨marked.2 highest top, by omega⟩
    · intro accepted
      have bounded : ∀ highest, model.highest = some highest → other.toNat ≤ highest := by
        intro highest top
        obtain ⟨bound, is, below⟩ := sound.bounded _ accepted
        rw [top] at is
        exact Option.some.inj is ▸ below
      refine ⟨(refines.marks other (fun highest top => ?_)).mpr accepted, bounded⟩
      have bound := higher highest top
      exact ⟨bounded highest top, by omega⟩

/-- A counter above the highest one is taken by both. -/
theorem ReplayWindow.Refines.accept_newer {window : ReplayWindow} {model : SlidingWindow.Window}
    (refines : window.Refines model) (sound : model.Sound) {counter highest : UInt64}
    (top : window.highest = some highest) (same : model.highest = some highest.toNat)
    (newer : counter > highest) :
    (window.accept counter).2 = (model.accept windowSize counter.toNat).2 ∧
      (window.accept counter).1.Refines (model.accept windowSize counter.toNat).1 := by
  have order : highest.toNat < counter.toNat := UInt64.lt_iff_toNat_lt.mp newer
  have taken : model.takes windowSize counter.toNat = true := by
    simp [SlidingWindow.Window.takes, same, order]
  have shift : (counter - highest).toNat = counter.toNat - highest.toNat :=
    UInt64.toNat_sub_of_le _ _ (UInt64.le_iff_toNat_le.mpr (Nat.le_of_lt order))
  simp only [ReplayWindow.accept, top, if_pos newer, SlidingWindow.Window.accept, taken,
    ↓reduceIte, same, Option.elim_some, Nat.max_eq_left (Nat.le_of_lt order), true_and]
  apply refines.advance sound counter (by simpa [same] using order)
  intro other below recent
  simp only [same, Option.some.injEq, forall_eq']
  unfold windowSize at recent
  split
  · rename_i far
    rw [ge_iff_le, UInt64.le_iff_toNat_le, shift] at far
    have beyond : ¬other.toNat ≤ highest.toNat := by
      have size : UInt64.toNat 16384 = 16384 := rfl
      omega
    simp [testBit_empty, beyond]
  · rename_i near
    rw [ge_iff_le, UInt64.le_iff_toNat_le, shift] at near
    have size : UInt64.toNat 16384 = 16384 := rfl
    have width := counter.toNat_lt
    rw [testBit_clearRange _ _ _ _ _ (by rw [shift]; omega), shift]
    refine and_congr_right (fun _ => ?_)
    constructor
    · intro apart
      by_contra beyond
      exact apart (other.toNat - highest.toNat) (by omega) (by omega) (by congr 1; omega)
    · intro bound i low high
      omega

/-- A counter up to the highest one is taken by both if it is neither too old nor marked. -/
theorem ReplayWindow.Refines.accept_older {window : ReplayWindow} {model : SlidingWindow.Window}
    (refines : window.Refines model) {counter highest : UInt64}
    (top : window.highest = some highest) (same : model.highest = some highest.toNat)
    (newer : ¬counter > highest) :
    (window.accept counter).2 = (model.accept windowSize counter.toNat).2 ∧
      (window.accept counter).1.Refines (model.accept windowSize counter.toNat).1 := by
  have order : counter.toNat ≤ highest.toNat := by
    rw [gt_iff_lt, UInt64.lt_iff_toNat_lt] at newer
    omega
  have age : (highest - counter).toNat = highest.toNat - counter.toNat :=
    UInt64.toNat_sub_of_le _ _ (UInt64.le_iff_toNat_le.mpr order)
  have notNewer : ¬highest.toNat < counter.toNat := by omega
  have size : UInt64.toNat 16384 = 16384 := rfl
  by_cases old : highest - counter ≥ 16384
  · have late : ¬highest.toNat - counter.toNat < windowSize := by
      rw [ge_iff_le, UInt64.le_iff_toNat_le, age, size] at old
      unfold windowSize
      omega
    simp only [ReplayWindow.accept, top, if_neg newer, if_pos old,
      SlidingWindow.Window.accept, SlidingWindow.Window.takes, same, notNewer, late,
      decide_false, Bool.false_or, Bool.false_and, Bool.false_eq_true, ↓reduceIte, true_and]
    exact refines
  have recent : highest.toNat < counter.toNat + windowSize := by
    rw [ge_iff_le, UInt64.le_iff_toNat_le, age, size] at old
    unfold windowSize
    omega
  have near : highest.toNat - counter.toNat < windowSize := by omega
  have mark := refines.marks counter (by simpa [same] using ⟨order, recent⟩)
  cases marked : testBit window.seen counter with
  | true =>
    have known : model.accepted.contains counter.toNat = true := by
      simpa using mark.mp marked
    simp only [ReplayWindow.accept, top, if_neg newer, if_neg old, marked, ↓reduceIte,
      SlidingWindow.Window.accept, SlidingWindow.Window.takes, same, notNewer, near, known,
      decide_true, decide_false, Bool.not_true, Bool.and_false, Bool.or_false,
      Bool.false_eq_true, true_and]
    exact refines
  | false =>
    have unknown : model.accepted.contains counter.toNat = false := by
      simpa [marked] using mark
    simp only [ReplayWindow.accept, top, if_neg newer, if_neg old, marked, ↓reduceIte,
      SlidingWindow.Window.accept, SlidingWindow.Window.takes, same, notNewer, near, unknown,
      decide_true, decide_false, Bool.not_false, Bool.and_true, Bool.false_or,
      Bool.false_eq_true, Option.elim_some, Nat.max_eq_right order, true_and]
    refine ⟨rfl, fun other inside => ?_⟩
    obtain ⟨below, late⟩ := inside highest.toNat rfl
    have before := refines.marks other (by simpa [same] using ⟨below, late⟩)
    have place : counter.toNat % 16384 = other.toNat % 16384 ↔
        other.toNat = counter.toNat := by
      unfold windowSize at late recent
      omega
    simp only [testBit_setBit, Bool.or_eq_true, decide_eq_true_eq, List.mem_cons, place,
      before]

/-- Offering a counter to both has the same answer and keeps the refinement. -/
theorem ReplayWindow.Refines.accept {window : ReplayWindow} {model : SlidingWindow.Window}
    (refines : window.Refines model) (sound : model.Sound) (counter : UInt64) :
    (window.accept counter).2 = (model.accept windowSize counter.toNat).2 ∧
      (window.accept counter).1.Refines (model.accept windowSize counter.toNat).1 := by
  have agrees := refines.highest
  cases top : window.highest with
  | none =>
    rw [top] at agrees
    have fresh : model.highest = none := agrees.symm
    have taken : model.takes windowSize counter.toNat = true := by
      simp [SlidingWindow.Window.takes, fresh]
    simp only [ReplayWindow.accept, top, SlidingWindow.Window.accept, taken, ↓reduceIte, fresh,
      Option.elim_none, true_and]
    exact refines.advance sound counter (by simp [fresh]) window.seen (by simp [fresh])
  | some highest =>
    rw [top] at agrees
    have same : model.highest = some highest.toNat := agrees.symm
    by_cases newer : counter > highest
    · exact refines.accept_newer sound top same newer
    · exact refines.accept_older top same newer

/-- A run of counters has the same answers from both. -/
theorem ReplayWindow.Refines.outputs {window : ReplayWindow} {model : SlidingWindow.Window}
    (refines : window.Refines model) (sound : model.Sound) (counters : List UInt64) :
    Mealy.outputs ReplayWindow.accept window counters =
      Mealy.outputs (SlidingWindow.Window.accept windowSize) model
        (counters.map UInt64.toNat) := by
  induction counters generalizing window model with
  | nil => rfl
  | cons counter rest ih =>
    obtain ⟨answer, next⟩ := refines.accept sound counter
    simp only [List.map_cons, Mealy.outputs, answer]
    rw [ih next (sound.accept windowSize counter.toNat)]

/-- The candidate of `accept_rtp` lies in the block of the highest counter. -/
theorem candidate_toNat (highest : UInt64) (sequence : UInt16) :
    ((highest &&& ~~~65535) ||| sequence.toUInt64).toNat =
      65536 * (highest.toNat / 65536) + sequence.toNat := by
  have masked : (highest &&& ~~~65535).toNat = 2 ^ 16 * (highest.toNat / 2 ^ 16) := by
    rw [UInt64.toNat_and, UInt64.toNat_not]
    apply Nat.eq_of_testBit_eq
    intro i
    have mask : UInt64.size - 1 - UInt64.toNat 65535 = 2 ^ 64 - ((2 ^ 16 - 1) + 1) := rfl
    rw [Nat.testBit_and, mask, Nat.testBit_two_pow_sub_succ (by decide),
      Nat.testBit_two_pow_sub_one, Nat.testBit_two_pow_mul, Nat.testBit_div_two_pow]
    by_cases high : i < 64
    · by_cases low : i < 16
      · simp [low]
      · have back : i - 16 + 16 = i := by omega
        simp [high, low, back, Nat.not_lt.mp low]
    · have beyond : highest.toNat.testBit i = false := by
        apply Nat.testBit_lt_two_pow
        exact Nat.lt_of_lt_of_le highest.toNat_lt (Nat.pow_le_pow_right (by decide) (by omega))
      have back : i - 16 + 16 = i := by omega
      simp [high, beyond, back]
  rw [UInt64.toNat_or, masked, UInt16.toNat_toUInt64,
    ← Nat.two_pow_add_eq_or_of_lt sequence.toNat_lt]
  rfl

/-- Saturating addition stops at the largest number. -/
theorem saturatingAdd_toNat (left right : UInt64) :
    (saturatingAdd left right).toNat = min (left.toNat + right.toNat) (2 ^ 64 - 1) := by
  unfold saturatingAdd
  split
  · rw [UInt64.toNat_add]
    omega
  · rw [UInt64.toNat_ofNat']
    omega

/-- The arithmetic of the extension, on natural numbers. -/
def extension (highest sequence : Nat) : Nat :=
  let extended := 65536 * (highest / 65536) + sequence
  if min (extended + 32768) (2 ^ 64 - 1) < highest then min (extended + 65536) (2 ^ 64 - 1)
  else if extended > min (highest + 32768) (2 ^ 64 - 1) ∧ extended ≥ 65536 then extended - 65536
  else extended

/-- The extension computes on 64-bit words what `extension` computes on numbers. -/
theorem extendRtp_toNat (highest : UInt64) (sequence : UInt16) :
    (extendRtp (some highest) sequence).toNat = extension highest.toNat sequence.toNat := by
  have candidate := candidate_toNat highest sequence
  have low := saturatingAdd_toNat ((highest &&& ~~~65535) ||| sequence.toUInt64) halfTurn
  have high := saturatingAdd_toNat ((highest &&& ~~~65535) ||| sequence.toUInt64) turn
  have top := saturatingAdd_toNat highest halfTurn
  have half : halfTurn.toNat = 32768 := rfl
  have full : turn.toNat = 65536 := rfl
  rw [candidate, half] at low
  rw [candidate, full] at high
  rw [half] at top
  simp only [extendRtp, extension, UInt64.lt_iff_toNat_lt, gt_iff_lt, ge_iff_le,
    UInt64.le_iff_toNat_le, low, top, candidate, full]
  split
  · exact high
  · split
    · rename_i later
      rw [UInt64.toNat_sub_of_le _ _ (by
        rw [UInt64.le_iff_toNat_le, candidate, full]
        exact later.2), candidate, full]
    · exact candidate

/-- The extension finds the counter less than half a turn away from the highest one. -/
theorem extension_near (highest sequence counter : Nat) (width : highest < 2 ^ 64)
    (congruent : counter % 65536 = sequence) (fits : counter < 2 ^ 64)
    (behind : highest < counter + 32768) (ahead : counter < highest + 32768) :
    extension highest sequence = counter := by
  unfold extension
  dsimp only
  split
  · omega
  · split
    · omega
    · omega

/-- The extension is congruent to the sequence number, unless it stops at the largest counter. -/
theorem extension_cases (highest sequence : Nat) (small : sequence < 65536)
    (width : highest < 2 ^ 64) :
    extension highest sequence < 2 ^ 64 ∧ (extension highest sequence % 65536 = sequence ∨
      extension highest sequence = 2 ^ 64 - 1 ∧ 2 ^ 64 - 32768 + sequence < highest) := by
  unfold extension
  dsimp only
  split
  · rcases Nat.le_total (65536 * (highest / 65536) + sequence + 65536) (2 ^ 64 - 1) with
      fits | beyond
    · rw [Nat.min_eq_left fits]
      omega
    · rw [Nat.min_eq_right beyond]
      omega
  · split
    · omega
    · omega

/-- A sequence number extends to the same counter again as long as the highest counter has not
moved half a turn beyond it. -/
theorem extension_again (earlier later sequence : Nat) (small : sequence < 65536)
    (before : earlier < 2 ^ 64) (width : later < 2 ^ 64)
    (reached : extension earlier sequence ≤ later)
    (near : later < extension earlier sequence + 32768) :
    extension later sequence = extension earlier sequence := by
  obtain ⟨fits, congruent | ⟨top, high⟩⟩ := extension_cases earlier sequence small before
  · exact extension_near later sequence _ width congruent fits near (by omega)
  · have last : later = 2 ^ 64 - 1 := by omega
    rw [top, last, extension, if_pos (by omega), Nat.min_eq_right (by omega)]

/-- Below half of the counters nothing saturates: the extension is the candidate in the block of the
highest counter unless one in a neighbouring block is strictly nearer. -/
theorem extension_nearest (highest sequence : Nat) (small : sequence < 65536)
    (below : highest < 2 ^ 63) :
    extension highest sequence % 65536 = sequence ∧
      ∀ other, other % 65536 = sequence →
        Nat.dist (extension highest sequence) highest ≤ Nat.dist other highest ∧
        (Nat.dist other highest = Nat.dist (extension highest sequence) highest →
          other = extension highest sequence ∨
            extension highest sequence / 65536 = highest / 65536) := by
  have block : 65536 * (highest / 65536) + highest % 65536 = highest := Nat.div_add_mod _ _
  have place : highest % 65536 < 65536 := Nat.mod_lt _ (by decide)
  have cases : extension highest sequence =
      if sequence + 32768 < highest % 65536 then 65536 * (highest / 65536) + sequence + 65536
      else if highest % 65536 + 32768 < sequence ∧ 65536 ≤ highest then
        65536 * (highest / 65536) + sequence - 65536
      else 65536 * (highest / 65536) + sequence := by
    unfold extension
    dsimp only
    split_ifs <;> omega
  rw [cases]
  unfold Nat.dist
  split
  · refine ⟨by omega, fun other congruent => ⟨by omega, by omega⟩⟩
  · split
    · refine ⟨by omega, fun other congruent => ⟨by omega, by omega⟩⟩
    · refine ⟨by omega, fun other congruent => ⟨by omega, by omega⟩⟩

/-- What `accept_rtp` passes on to `accept` is the counter with this sequence number that is nearest
to the highest one; of two that are equally near, the one in the block of the highest. -/
theorem acceptRtp_nearest (window : ReplayWindow) (highest : UInt64) (sequence : UInt16)
    (top : window.highest = some highest) (below : highest.toNat < 2 ^ 63) :
    let counter := extendRtp window.highest sequence
    window.acceptRtp sequence = window.accept counter ∧
      counter.toNat % 2 ^ 16 = sequence.toNat ∧
      ∀ other, other % 2 ^ 16 = sequence.toNat →
        Nat.dist counter.toNat highest.toNat ≤ Nat.dist other highest.toNat ∧
        (Nat.dist other highest.toNat = Nat.dist counter.toNat highest.toNat →
          other = counter.toNat ∨ counter.toNat / 2 ^ 16 = highest.toNat / 2 ^ 16) := by
  have nearest := extension_nearest highest.toNat sequence.toNat sequence.toNat_lt below
  rw [← extendRtp_toNat, ← top] at nearest
  exact ⟨rfl, nearest⟩

/-- Both halves of a block: 32768 behind the highest counter is in its own block, 32769 behind is
taken for one of the next block. -/
theorem acceptRtp_nearest_half :
    Nat.dist (extendRtp (some 98304) 0).toNat 98304 ≤ Nat.dist 131072 98304 ∧
      extendRtp (some 98304) 0 = 65536 ∧ extendRtp (some 98305) 0 = 131072 :=
  ⟨((acceptRtp_nearest ⟨some 98304, Vector.replicate 256 0⟩ 98304 0 rfl (by decide)).2.2
    131072 (by decide)).1, by decide, by decide⟩

end Focsq.Session
