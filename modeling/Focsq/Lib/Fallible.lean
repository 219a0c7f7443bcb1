import Mathlib.Data.List.Basic

/-!
# Computations that may fail

What is known of a computation from the result of a sequence, a loop or a choice that it is part of.
-/

namespace Fallible

variable {ε α β : Type}

/-- A sequence that has a result went through both of its parts. -/
theorem bind_eq_ok {first : Except ε α} {second : α → Except ε β} {result : β}
    (done : first >>= second = .ok result) :
    ∃ value, first = .ok value ∧ second value = .ok result := by
  cases first with
  | error reason => cases done
  | ok value => exact ⟨value, rfl, done⟩

/-- A computation has a result or fails. -/
theorem toBool_iff {computation : Except ε α} :
    computation.toBool = true ↔ ∃ result, computation = .ok result := by
  cases computation with
  | error reason => exact iff_of_false Bool.false_ne_true fun ⟨_, same⟩ => by cases same
  | ok result => exact iff_of_true rfl ⟨result, rfl⟩

/-- A check that was passed. -/
theorem of_ite_error {condition : Prop} [Decidable condition] {reason : ε} {rest : Except ε α}
    {result : α} (done : (if condition then .error reason else rest) = .ok result) :
    ¬condition ∧ rest = .ok result := by
  by_cases failed : condition
  · rw [if_pos failed] at done
    cases done
  · rw [if_neg failed] at done
    exact ⟨failed, done⟩

end Fallible
