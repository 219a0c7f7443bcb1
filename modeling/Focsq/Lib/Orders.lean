import Mathlib.Order.Basic

/-!
# Comparing by the first difference

Two sequences are compared position by position, up to the first position where they differ. Three
comparisons of three sequences fit together if they do at the first position where not all of the
three are equal.
-/

namespace Orders

section Coherence

/-- Three comparisons, of the first thing with the second one, of the second one with the third one
and of the first one with the third one, fit together. -/
def Coherent (left right outer : Ordering) : Prop :=
  (left = .eq → outer = right) ∧ (right = .eq → outer = left) ∧ (left = right → outer = left)

variable {left right outer nextLeft nextRight nextOuter : Ordering}

/-- What is not greater than what is not greater is not greater. -/
theorem Coherent.trans (coherent : Coherent left right outer) (below : left ≠ .gt)
    (under : right ≠ .gt) : outer ≠ .gt := by
  obtain ⟨same, last, both⟩ := coherent
  cases left with
  | gt => exact absurd rfl below
  | eq => exact same rfl ▸ under
  | lt =>
    cases right with
    | gt => exact absurd rfl under
    | eq => exact last rfl ▸ below
    | lt => exact both rfl ▸ below

/-- Where two of three are equal already, the next comparisons cannot disturb what fits together. -/
theorem Coherent.andThen (coherent : Coherent left right outer)
    (next : left = .eq → right = .eq → Coherent nextLeft nextRight nextOuter) :
    Coherent (left.then nextLeft) (right.then nextRight) (outer.then nextOuter) := by
  obtain ⟨same, last, both⟩ := coherent
  cases left with
  | eq =>
    rw [same rfl]
    cases right with
    | eq => exact next rfl rfl
    | lt => exact ⟨fun _ => rfl, nofun, Eq.symm⟩
    | gt => exact ⟨fun _ => rfl, nofun, Eq.symm⟩
  | lt =>
    cases right with
    | eq => rw [last rfl]; exact ⟨nofun, fun _ => rfl, fun _ => rfl⟩
    | lt => rw [both rfl]; exact ⟨nofun, nofun, fun _ => rfl⟩
    | gt => exact ⟨nofun, nofun, nofun⟩
  | gt =>
    cases right with
    | eq => rw [last rfl]; exact ⟨nofun, fun _ => rfl, fun _ => rfl⟩
    | lt => exact ⟨nofun, nofun, nofun⟩
    | gt => rw [both rfl]; exact ⟨nofun, nofun, fun _ => rfl⟩

/-- The comparisons of an order fit together. -/
theorem coherent_of_transCmp {α : Type*} {cmp : α → α → Ordering} [Std.TransCmp cmp] (a b c : α) :
    Coherent (cmp a b) (cmp b c) (cmp a c) := by
  refine ⟨fun same => Std.TransCmp.congr_left same, fun same => (Std.TransCmp.congr_right same).symm,
    fun both => ?_⟩
  cases below : cmp a b with
  | eq => rw [Std.TransCmp.congr_left below, ← both, below]
  | lt => exact Std.TransCmp.lt_trans below (both ▸ below)
  | gt => exact Std.TransCmp.gt_trans below (both ▸ below)

end Coherence

section Sequences

/-- The first of so many comparisons that is no equality. -/
def firstDifference (orders : Nat → Ordering) : Nat → Ordering
  | 0 => .eq
  | count + 1 => (firstDifference orders count).then (orders count)

/-- There is no difference if and only if all are equal. -/
theorem firstDifference_eq_eq {orders : Nat → Ordering} {count : Nat} :
    firstDifference orders count = .eq ↔ ∀ index < count, orders index = .eq := by
  induction count with
  | zero => exact iff_of_true rfl fun index small => absurd small (Nat.not_lt_zero index)
  | succ count ih =>
    rw [firstDifference, Ordering.then_eq_eq, ih, Nat.forall_lt_succ_right]

/-- Turning every comparison around turns the result around. -/
theorem firstDifference_swap (orders : Nat → Ordering) (count : Nat) :
    firstDifference (fun index => (orders index).swap) count = (firstDifference orders count).swap := by
  induction count with
  | zero => rfl
  | succ count ih => rw [firstDifference, firstDifference, ih, Ordering.swap_then]

/-- Equalities behind the end make no difference. -/
theorem firstDifference_extend {orders : Nat → Ordering} {count : Nat}
    (equal : ∀ index ≥ count, orders index = .eq) (more : Nat) :
    firstDifference orders (count + more) = firstDifference orders count := by
  induction more with
  | zero => rfl
  | succ more ih =>
    rw [← Nat.add_assoc, firstDifference, ih, equal _ (Nat.le_add_right _ _), Ordering.then_eq]

/-- The first comparison comes first. -/
theorem firstDifference_succ (orders : Nat → Ordering) (count : Nat) :
    firstDifference orders (count + 1) =
      (orders 0).then (firstDifference (fun index => orders (index + 1)) count) := by
  induction count with
  | zero => rw [firstDifference, firstDifference, firstDifference, Ordering.then_eq]; rfl
  | succ count ih => rw [firstDifference, ih, Ordering.then_assoc, firstDifference]

/-- Sequences fit together if they do at every position up to the first one where not all three are
equal. -/
theorem coherent_firstDifference {left right outer : Nat → Ordering}
    (coherent : ∀ index, (∀ earlier < index, left earlier = .eq ∧ right earlier = .eq) →
      Coherent (left index) (right index) (outer index)) (count : Nat) :
    Coherent (firstDifference left count) (firstDifference right count)
      (firstDifference outer count) := by
  induction count with
  | zero => exact ⟨fun _ => rfl, fun _ => rfl, fun _ => rfl⟩
  | succ count ih =>
    refine ih.andThen fun leftEqual rightEqual => coherent count fun earlier small => ?_
    exact ⟨firstDifference_eq_eq.mp leftEqual earlier small,
      firstDifference_eq_eq.mp rightEqual earlier small⟩

/-- Lists are compared by the first difference of their elements, where what is missing is below
everything. -/
theorem compare_eq_firstDifference {α : Type*} [Ord α] (xs ys : List α) :
    compare xs ys =
      firstDifference (fun index => compare xs[index]? ys[index]?) (max xs.length ys.length) := by
  induction xs generalizing ys with
  | nil =>
    cases ys with
    | nil => rfl
    | cons y ys =>
      have count : max ([] : List α).length (y :: ys).length = ys.length + 1 := by simp
      rw [count, firstDifference_succ]
      rfl
  | cons x xs ih =>
    cases ys with
    | nil =>
      have count : max (x :: xs).length ([] : List α).length = xs.length + 1 := by simp
      rw [count, firstDifference_succ]
      rfl
    | cons y ys =>
      have count : max (x :: xs).length (y :: ys).length = max xs.length ys.length + 1 := by
        rw [List.length_cons, List.length_cons]
        omega
      rw [count, firstDifference_succ, List.compare_cons_cons, ih]
      rfl

end Sequences

end Orders
