import Focsq.Verif.ReplayWindow

/-!
# Runs of sequence numbers

Packets carry the low 16 bits of their index. If every packet arrives near the largest index so
far, the extended counters are the indices up to the offset fixed by the first packet, and the
window then accepts each index once. The offset puts the first packet into block zero, so a packet
from before that block has no counter at all.
-/

namespace Focsq.Session

open SlidingWindow (firsts)

/-- The ring of a session and the set of all accepted counters give the same answers to every run
of 64-bit counters. -/
theorem accept_eq_window (counters : List UInt64) :
    Mealy.outputs ReplayWindow.accept .default counters =
      Mealy.outputs (SlidingWindow.Window.accept 16384) .empty (counters.map UInt64.toNat) :=
  refines_default.outputs SlidingWindow.sound_empty counters

/-- The sequence number on the wire of the packet with an index. -/
def wireSequence (start : UInt16) (index : Nat) : UInt16 := start + UInt16.ofNat index

/-- Every index is near the largest one before it. -/
def NearFrom (largest : Nat) : List Nat → Prop
  | [] => True
  | index :: rest =>
    (largest < index + 16384 ∧ index < largest + 2 ^ 15) ∧ NearFrom (max largest index) rest

/-- Every index after the first is near the largest one before it. -/
def Near : List Nat → Prop
  | [] => True
  | first :: rest => NearFrom first rest

/-- The counter of an index, when the packet with index `first` was the first to arrive. -/
def counterOf (start : UInt16) (first index : Nat) : Nat :=
  (wireSequence start first).toNat + index - first

/-- Every index has a 64-bit counter. -/
def Counted (start : UInt16) : List Nat → Prop
  | [] => True
  | first :: rest => ∀ index ∈ first :: rest,
    first ≤ (wireSequence start first).toNat + index ∧ counterOf start first index < 2 ^ 64

/-- Nearness is decided index by index. -/
instance decidableNearFrom (largest : Nat) :
    (indices : List Nat) → Decidable (NearFrom largest indices)
  | [] => inferInstanceAs (Decidable True)
  | index :: rest =>
    have := decidableNearFrom (max largest index) rest
    inferInstanceAs (Decidable (_ ∧ _))

/-- Nearness of a list is nearness to its first index. -/
instance decidableNear : (indices : List Nat) → Decidable (Near indices)
  | [] => inferInstanceAs (Decidable True)
  | first :: rest => inferInstanceAs (Decidable (NearFrom first rest))

/-- The sequence number on the wire is the index from the start, modulo 2¹⁶. -/
theorem wireSequence_toNat (start : UInt16) (index : Nat) :
    (wireSequence start index).toNat = (start.toNat + index) % 65536 := by
  rw [wireSequence, UInt16.toNat_add, UInt16.toNat_ofNat']
  omega

/-- One packet near the largest index: the window treats it as its counter. -/
theorem acceptRtp_near (start : UInt16) (first largest index : Nat) {window : ReplayWindow}
    {model : SlidingWindow.Window} (refines : window.Refines model) (sound : model.Sound)
    (top : model.highest = some (counterOf start first largest))
    (old : first ≤ (wireSequence start first).toNat + largest)
    (near : largest < index + 16384 ∧ index < largest + 2 ^ 15)
    (counted : first ≤ (wireSequence start first).toNat + index)
    (fits : counterOf start first index < 2 ^ 64) :
    (window.acceptRtp (wireSequence start index)).2 =
        (model.accept windowSize (counterOf start first index)).2 ∧
      (window.acceptRtp (wireSequence start index)).1.Refines
        (model.accept windowSize (counterOf start first index)).1 := by
  have agrees := refines.highest
  rw [top] at agrees
  obtain ⟨highest, held, same⟩ := Option.map_eq_some_iff.mp agrees
  have extended : (extendRtp window.highest (wireSequence start index)).toNat =
      counterOf start first index := by
    rw [held, extendRtp_toNat, same]
    apply extension_near
    · rw [← same]
      exact highest.toNat_lt
    · rw [wireSequence_toNat, counterOf, wireSequence_toNat]
      rw [wireSequence_toNat] at counted
      omega
    · exact fits
    · unfold counterOf
      omega
    · unfold counterOf
      omega
  have step := refines.accept sound (extendRtp window.highest (wireSequence start index))
  rw [extended] at step
  exact step

/-- A run of packets near the largest index is a run of their counters, none of them too old. -/
theorem outputs_near (start : UInt16) (first largest : Nat) (indices : List Nat)
    {window : ReplayWindow} {model : SlidingWindow.Window} (refines : window.Refines model)
    (sound : model.Sound) (top : model.highest = some (counterOf start first largest))
    (old : first ≤ (wireSequence start first).toNat + largest)
    (near : NearFrom largest indices)
    (counted : ∀ index ∈ indices, first ≤ (wireSequence start first).toNat + index ∧
      counterOf start first index < 2 ^ 64) :
    Mealy.outputs ReplayWindow.acceptRtp window (indices.map (wireSequence start)) =
        Mealy.outputs (SlidingWindow.Window.accept windowSize) model
          (indices.map (counterOf start first)) ∧
      Mealy.Along (SlidingWindow.Window.accept windowSize)
        (SlidingWindow.Window.Recent windowSize) model (indices.map (counterOf start first)) := by
  induction indices generalizing largest window model with
  | nil => exact ⟨rfl, trivial⟩
  | cons index rest ih =>
    obtain ⟨valid, fits⟩ := counted index List.mem_cons_self
    obtain ⟨answer, next⟩ := acceptRtp_near start first largest index refines sound top old
      near.1 valid fits
    have highest := SlidingWindow.Window.accept_highest windowSize model
      (counterOf start first index) _ top
    have largest_counter : max (counterOf start first index) (counterOf start first largest) =
        counterOf start first (max largest index) := by
      unfold counterOf
      omega
    rw [largest_counter] at highest
    obtain ⟨outputs, along⟩ := ih (max largest index) next (sound.accept _ _) highest (by omega)
      near.2 (fun other member => counted other (List.mem_cons_of_mem index member))
    refine ⟨?_, ?_, along⟩
    · simp only [List.map_cons, Mealy.outputs, answer, outputs]
    · intro highest same
      rw [top] at same
      rw [← Option.some.inj same]
      have recent := near.1.1
      unfold counterOf windowSize
      omega

/-- If every packet is near the largest index before it and has a counter, the replay window
accepts exactly the first arrival of each. -/
theorem acceptRtp_exactly_once (start : UInt16) (indices : List Nat) (near : Near indices)
    (counted : Counted start indices) :
    Mealy.outputs ReplayWindow.acceptRtp .default (indices.map (wireSequence start)) =
      firsts [] indices := by
  cases indices with
  | nil => rfl
  | cons first rest =>
    have injective : ∀ left ∈ [] ++ first :: rest, ∀ right ∈ [] ++ first :: rest,
        counterOf start first left = counterOf start first right → left = right := by
      intro left present right other same
      have leftCounted := (counted left present).1
      have rightCounted := (counted right other).1
      unfold counterOf at same
      omega
    have zero : counterOf start first first = (wireSequence start first).toUInt64.toNat := by
      rw [counterOf, Nat.add_sub_cancel, UInt16.toNat_toUInt64]
    obtain ⟨answer, next⟩ := refines_default.accept SlidingWindow.sound_empty
      (wireSequence start first).toUInt64
    rw [← zero] at answer next
    obtain ⟨outputs, along⟩ := outputs_near start first first rest next
      (SlidingWindow.sound_empty.accept _ _) rfl (Nat.le_add_left _ _) near
      (fun index member => counted index (List.mem_cons_of_mem first member))
    have run : Mealy.outputs ReplayWindow.acceptRtp .default
        ((first :: rest).map (wireSequence start)) =
          Mealy.outputs (SlidingWindow.Window.accept windowSize) .empty
            ((first :: rest).map (counterOf start first)) := by
      simp only [List.map_cons, Mealy.outputs, ← answer, ← outputs]
      rfl
    have recent : Mealy.Along (SlidingWindow.Window.accept windowSize)
        (SlidingWindow.Window.Recent windowSize) .empty
          ((first :: rest).map (counterOf start first)) := by
      refine ⟨?_, along⟩
      intro highest top
      cases top
    rw [run, SlidingWindow.outputs_eq_firsts windowSize .empty _ SlidingWindow.sound_empty recent]
    exact SlidingWindow.firsts_map (counterOf start first) [] (first :: rest) injective

/-- Packets around a rollover of the sequence number, one of them repeated, are each accepted
once. -/
theorem rollover_accepted_once :
    Mealy.outputs ReplayWindow.acceptRtp .default
      ([0, 1, 3, 2, 1].map (wireSequence 65534)) = [true, true, true, true, false] :=
  acceptRtp_exactly_once 65534 [0, 1, 3, 2, 1] (by decide) (by
    show ∀ index ∈ [0, 1, 3, 2, 1], _
    decide)

/-- Packet 2 is late and from before the block of the first one. Its extension runs ahead of the
block, and packet 5 is accepted a second time. -/
theorem earlyPacket_replays :
    ¬∀ (start : UInt16) (indices : List Nat), Near indices →
      Mealy.outputs ReplayWindow.acceptRtp .default (indices.map (wireSequence start)) =
        firsts [] indices := by
  intro once
  have outputs := once 65533 [5, 2, 5] (by decide)
  exact absurd outputs (by decide +kernel)

end Focsq.Session
