import Mathlib.Algebra.Order.Group.Nat
import Mathlib.Data.List.Basic

/-!
# Stripes

A sequence is cut into chunks of one length, and the chunks go around a number of slots. Element
`k` is in chunk `k / chunk`, its slot is `k / chunk % count`, and of the chunk that is begun when
`k` elements are there, `left chunk k` are missing.
-/

namespace Stripes

/-- The slot of an element. -/
def slot (chunk count k : Nat) : Nat := k / chunk % count

/-- How many elements are missing of the chunk that is begun. -/
def left (chunk k : Nat) : Nat := (chunk - k % chunk) % chunk

/-- The next element ends its chunk, or it does not. -/
theorem next_cases (chunk k : Nat) (positive : 0 < chunk) :
    k % chunk + 1 = chunk ∧ (k + 1) % chunk = 0 ∧ (k + 1) / chunk = k / chunk + 1 ∨
      k % chunk + 1 < chunk ∧ (k + 1) % chunk = k % chunk + 1 ∧ (k + 1) / chunk = k / chunk := by
  have split := Nat.div_add_mod k chunk
  rcases Nat.eq_or_lt_of_le (Nat.succ_le_of_lt (Nat.mod_lt k positive)) with last | within
  · have whole : k + 1 = chunk * (k / chunk + 1) := by
      rw [Nat.mul_add, Nat.mul_one]
      omega
    refine .inl ⟨last, ?_, ?_⟩
    · rw [whole, Nat.mul_mod_right]
    · rw [whole, Nat.mul_div_cancel_left _ positive]
  · have part : k + 1 = k % chunk + 1 + chunk * (k / chunk) := by omega
    refine .inr ⟨within, ?_, ?_⟩
    · calc
        (k + 1) % chunk = (k % chunk + 1 + chunk * (k / chunk)) % chunk := by rw [← part]
        _ = k % chunk + 1 := by rw [Nat.add_mul_mod_self_left, Nat.mod_eq_of_lt within]
    · calc
        (k + 1) / chunk = (k % chunk + 1 + chunk * (k / chunk)) / chunk := by rw [← part]
        _ = k / chunk := by
          rw [Nat.add_mul_div_left _ _ positive, Nat.div_eq_of_lt within, Nat.zero_add]

/-- Nothing is missing between chunks. -/
theorem left_eq_zero (chunk k : Nat) (positive : 0 < chunk) :
    left chunk k = 0 ↔ k % chunk = 0 := by
  have small := Nat.mod_lt k positive
  unfold left
  by_cases between : k % chunk = 0
  · simp [between]
  · rw [Nat.mod_eq_of_lt (by omega)]
    omega

/-- Within a chunk, what is missing fills it. -/
theorem left_of_mod_ne (chunk k : Nat) (positive : 0 < chunk) (within : k % chunk ≠ 0) :
    left chunk k = chunk - k % chunk := by
  have small := Nat.mod_lt k positive
  exact Nat.mod_eq_of_lt (by omega)

/-- The next element is one of the missing ones, or begins a chunk. -/
theorem left_succ (chunk k : Nat) (positive : 0 < chunk) :
    left chunk (k + 1) = (if left chunk k = 0 then chunk else left chunk k) - 1 := by
  rcases next_cases chunk k positive with ⟨last, mod, _⟩ | ⟨within, mod, _⟩
  · rw [(left_eq_zero chunk (k + 1) positive).mpr mod]
    by_cases between : k % chunk = 0
    · rw [if_pos ((left_eq_zero chunk k positive).mpr between)]
      omega
    · rw [if_neg (mt (left_eq_zero chunk k positive).mp between),
        left_of_mod_ne chunk k positive between]
      omega
  · rw [left_of_mod_ne chunk (k + 1) positive (by omega), mod]
    by_cases between : k % chunk = 0
    · rw [if_pos ((left_eq_zero chunk k positive).mpr between)]
      omega
    · rw [if_neg (mt (left_eq_zero chunk k positive).mp between),
        left_of_mod_ne chunk k positive between]
      omega

/-- The slot moves on when a chunk is complete, and comes round. -/
theorem slot_succ (chunk count k : Nat) (positive : 0 < chunk) (some : 0 < count) :
    slot chunk count (k + 1) =
      if left chunk (k + 1) = 0 then
        if slot chunk count k + 1 = count then 0 else slot chunk count k + 1
      else slot chunk count k := by
  unfold slot
  rcases next_cases chunk k positive with ⟨_, mod, next⟩ | ⟨_, mod, next⟩
  · rw [if_pos ((left_eq_zero chunk (k + 1) positive).mpr mod), next]
    have small := Nat.mod_lt (k / chunk) some
    rcases next_cases count (k / chunk) some with ⟨last, around, _⟩ | ⟨within, around, _⟩
    · rw [if_pos last, around]
    · rw [if_neg (by omega), around]
  · rw [if_neg (mt (left_eq_zero chunk (k + 1) positive).mp (by omega)), next]

section Uniform

variable {ι : Type*}

/-- All elements of a chunk are the same. -/
def Uniform (chunk : Nat) (items : List ι) : Prop :=
  ∀ i j x y, i / chunk = j / chunk → items[i]? = some x → items[j]? = some y → x = y

/-- An empty sequence has no chunks. -/
theorem uniform_nil (chunk : Nat) : Uniform chunk ([] : List ι) := by
  intro i j x y same first
  simp at first

/-- An element earlier in the same chunk is as the last one. -/
theorem Uniform.eq_last {chunk : Nat} {items : List ι} (uniform : Uniform chunk items)
    (positive : 0 < chunk) {item x : ι} {j : Nat} (same : items.length / chunk = j / chunk)
    (last : items.length % chunk ≠ 0 → items.getLast? = some item)
    (here : items[j]? = some x) : x = item := by
  have before : j < items.length := (List.getElem?_eq_some_iff.mp here).1
  have within : items.length % chunk ≠ 0 := by
    intro between
    have whole := Nat.div_add_mod items.length chunk
    have part := Nat.div_add_mod j chunk
    rw [same] at whole
    omega
  have final := last within
  rw [List.getLast?_eq_getElem?] at final
  refine uniform j (items.length - 1) x item ?_ here final
  rw [← same]
  have cases := next_cases chunk (items.length - 1) positive
  rw [Nat.sub_add_cancel (by omega)] at cases
  rcases cases with ⟨_, mod, _⟩ | ⟨_, _, next⟩
  · exact absurd mod within
  · exact next

/-- What a longer sequence holds was there, or is the new element. -/
theorem getElem?_concat_cases {items : List ι} {item x : ι} {i : Nat}
    (here : (items ++ [item])[i]? = some x) :
    items[i]? = some x ∨ i = items.length ∧ x = item := by
  rw [List.getElem?_append] at here
  by_cases earlier : i < items.length
  · rw [if_pos earlier] at here
    exact .inl here
  · rw [if_neg earlier] at here
    obtain ⟨bound, same⟩ := List.getElem?_eq_some_iff.mp here
    rw [List.length_singleton] at bound
    rw [List.getElem_singleton] at same
    exact .inr ⟨by omega, same.symm⟩

/-- A sequence stays uniform when within a chunk the last element is repeated. -/
theorem Uniform.concat {chunk : Nat} {items : List ι} (uniform : Uniform chunk items)
    (positive : 0 < chunk) {item : ι}
    (last : items.length % chunk ≠ 0 → items.getLast? = some item) :
    Uniform chunk (items ++ [item]) := by
  intro i j x y same first second
  rcases getElem?_concat_cases first with left | ⟨rfl, rfl⟩
  · rcases getElem?_concat_cases second with right | ⟨rfl, rfl⟩
    · exact uniform i j x y same left right
    · exact uniform.eq_last positive same.symm last left
  · rcases getElem?_concat_cases second with right | ⟨_, rfl⟩
    · exact (uniform.eq_last positive same last right).symm
    · rfl

end Uniform

end Stripes
