import Mathlib.Data.List.Nodup
import Mathlib.Data.List.Perm.Basic

/-!
# Unordered removal from a vector, its chunks, counting, and keys

Removing an element in constant time moves the last element into its place. The order of the
remaining elements is not kept, so every fact about the result is a fact about permutations.

The chunks of a vector are its parts of a given length, and a shorter one at the end. How many
elements meet a condition changes with one element by what that element counts for. An element whose
key is that of no other one is found by its key.
-/

namespace Vec

open List (Perm)
open scoped List

variable {α : Type*}

/-- Remove the element at an index, moving the last element into its place. -/
def swapRemove (values : List α) (index : Nat) : List α :=
  match values.getLast? with
  | none => []
  | some last => (values.set index last).dropLast

/-- One more element counts for itself. -/
theorem countP_concat (holds : α → Bool) (values : List α) (last : α) :
    (values ++ [last]).countP holds = values.countP holds + (holds last).toNat := by
  rw [List.countP_append, List.countP_singleton]
  cases holds last <;> rfl

/-- Overwriting one element exchanges what it counts for. -/
theorem countP_set (holds : α → Bool) (values : List α) (index : Nat) (old new : α)
    (here : values[index]? = some old) :
    (values.set index new).countP holds + (holds old).toNat =
      values.countP holds + (holds new).toNat := by
  induction values generalizing index with
  | nil => cases here
  | cons first rest ih =>
    cases index with
    | zero =>
      cases here
      rw [List.set_cons_zero, List.countP_cons, List.countP_cons]
      cases holds old <;> cases holds new <;> simp
    | succ index =>
      have later := ih index here
      rw [List.set_cons_succ, List.countP_cons, List.countP_cons]
      omega

/-- Removal does not look at the elements. -/
theorem map_swapRemove {β : Type*} (f : α → β) (values : List α) (index : Nat) :
    swapRemove (values.map f) index = (swapRemove values index).map f := by
  unfold swapRemove
  rw [List.getLast?_map]
  cases values.getLast? with
  | none => rfl
  | some last => simp only [Option.map_some, ← List.map_set, List.map_dropLast]

/-- Overwriting one element exchanges it for the new one, up to order. -/
theorem set_perm (values : List α) (index : Nat) (inside : index < values.length) (last : α) :
    last :: values ~ values[index] :: values.set index last := by
  have original : values = values.take index ++ values[index] :: values.drop (index + 1) := by
    rw [List.getElem_cons_drop, List.take_append_drop]
  calc
    last :: values
      = last :: (values.take index ++ values[index] :: values.drop (index + 1)) := by
        rw [← original]
    _ ~ last :: values[index] :: (values.take index ++ values.drop (index + 1)) :=
        List.perm_middle.cons last
    _ ~ values[index] :: last :: (values.take index ++ values.drop (index + 1)) :=
        List.Perm.swap _ _ _
    _ ~ values[index] :: (values.take index ++ last :: values.drop (index + 1)) :=
        List.perm_middle.symm.cons _
    _ = values[index] :: values.set index last := by
        rw [List.set_eq_take_append_cons_drop, if_pos inside]

/-- The removed element and the remaining ones are the original elements. -/
theorem swapRemove_perm (values : List α) (index : Nat) (inside : index < values.length) :
    values ~ values[index] :: swapRemove values index := by
  obtain ⟨front, last, rfl⟩ : ∃ front last, values = front ++ [last] := by
    rcases List.eq_nil_or_concat values with empty | ⟨front, last, shape⟩
    · subst empty
      simp at inside
    · exact ⟨front, last, by simpa using shape⟩
  simp only [swapRemove, List.getLast?_append, List.getLast?_singleton, Option.some_or]
  by_cases atEnd : index = front.length
  · subst atEnd
    simp only [List.getElem_concat_length, List.set_append_right _ _ (Nat.le_refl _),
      Nat.sub_self, List.set_cons_zero, List.dropLast_concat]
    exact List.perm_append_singleton last front
  · have inFront : index < front.length := by
      simp only [List.length_append, List.length_singleton] at inside
      omega
    rw [List.set_append_left _ _ inFront, List.dropLast_concat,
      List.getElem_append_left inFront]
    exact (List.perm_append_singleton last front).trans (set_perm front index inFront last)

/-- The loop of `chunks`; each turn takes one chunk. -/
def chunksLoop (size : Nat) : Nat → List α → List (List α)
  | 0, _ => []
  | turns + 1, values =>
    if values.isEmpty then [] else values.take size :: chunksLoop size turns (values.drop size)

/-- Parts of a length, one after the other. -/
def chunks (size : Nat) (values : List α) : List (List α) :=
  chunksLoop size values.length values

/-- Together they are the vector. -/
theorem flatten_chunks (size : Nat) (positive : 0 < size) (values : List α) :
    (chunks size values).flatten = values := by
  have general (turns : Nat) (values : List α) (enough : values.length ≤ turns) :
      (chunksLoop size turns values).flatten = values := by
    induction turns generalizing values with
    | zero => exact (List.length_eq_zero_iff.mp (Nat.le_zero.mp enough)).symm
    | succ turns ih =>
      cases values with
      | nil => rfl
      | cons value rest =>
        have fewer : ((value :: rest).drop size).length ≤ turns := by
          rw [List.length_drop]
          rw [List.length_cons] at enough ⊢
          omega
        have later := ih _ fewer
        simp only [chunksLoop, List.isEmpty_cons, Bool.false_eq_true, if_false, List.flatten_cons]
        rw [later, List.take_append_drop]
  exact general values.length values (Nat.le_refl _)

/-- No chunk is longer than asked for. -/
theorem length_of_mem_chunks {size : Nat} {values chunk : List α}
    (member : chunk ∈ chunks size values) : chunk.length ≤ size := by
  have general (turns : Nat) (values : List α) (member : chunk ∈ chunksLoop size turns values) :
      chunk.length ≤ size := by
    induction turns generalizing values with
    | zero => cases member
    | succ turns ih =>
      rw [chunksLoop] at member
      split at member
      · cases member
      · rcases List.mem_cons.mp member with first | later
        · rw [first]
          exact List.length_take_le _ _
        · exact ih _ later
  exact general _ _ member

/-- A vector is what comes before an index, the element there and what comes after. -/
theorem split_at {values : List α} {index : Nat} {value : α}
    (here : values[index]? = some value) :
    values = values.take index ++ value :: values.drop (index + 1) := by
  rw [← (List.getElem?_eq_some_iff.mp here).2, ← List.drop_eq_getElem_cons,
    List.take_append_drop]

section Keys

variable {κ : Type*} {key : α → κ}

/-- Where no two elements have the same key, the others have other keys. -/
theorem others_of_nodup {before after : List α} {value : α}
    (once : ((before ++ value :: after).map key).Nodup) :
    ∀ other ∈ before ++ after, key other ≠ key value := by
  intro other member same
  rw [List.map_append, List.map_cons] at once
  apply (List.nodup_cons.mp (List.nodup_middle.mp once)).1
  rw [← List.map_append, ← same]
  exact List.mem_map_of_mem member

/-- There the element with a key is the one that is found. -/
theorem find?_key [BEq κ] [LawfulBEq κ] {values : List α} (once : (values.map key).Nodup)
    {value : α} (member : value ∈ values) :
    values.find? (key · == key value) = some value := by
  obtain ⟨before, after, among⟩ := List.append_of_mem member
  have others := others_of_nodup (among ▸ once)
  rw [among, List.find?_append, List.find?_eq_none.mpr, Option.none_or]
  · exact List.find?_cons_of_pos BEq.rfl
  · intro other earlier same
    exact others other (List.mem_append_left _ earlier) (beq_iff_eq.mp same)

end Keys

end Vec
