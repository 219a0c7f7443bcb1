import Mathlib.Algebra.Ring.Nat
import Focsq.Lib.Mealy

/-!
# What a run costs

Each step of a run costs something, and what all of them cost together is bounded by a potential:
a step may cost what it takes off the potential, and what it is allowed beside that.
-/

namespace Mealy

variable {σ α ο : Type*} (step : σ → α → σ × ο)

/-- What the steps of a run cost together. -/
def cost (price : σ → α → ℕ) (state : σ) : List α → ℕ
  | [] => 0
  | input :: rest => price state input + cost price (step state input).1 rest

variable {step}

/-- A run whose steps cost what they take off a potential, and what they are allowed beside that,
costs no more than the potential at its start and what it is allowed. -/
theorem cost_le (price allowance : σ → α → ℕ) (potential : σ → ℕ) (holds : σ → Prop)
    (keeps : ∀ state input, holds state → holds (step state input).1)
    (pays : ∀ state input, holds state →
      price state input + potential (step state input).1 ≤ potential state + allowance state input)
    (state : σ) (inputs : List α) (start : holds state) :
    cost step price state inputs + potential (final step state inputs) ≤
      potential state + cost step allowance state inputs := by
  induction inputs generalizing state with
  | nil => exact Nat.le_of_eq (Nat.add_comm _ _)
  | cons input rest ih =>
    have here := pays state input start
    have later := ih _ (keeps state input start)
    simp only [cost, final]
    omega

/-- A run whose steps are all free is free. -/
theorem cost_eq_zero {price : σ → α → ℕ} (holds : σ → Prop)
    (keeps : ∀ state input, holds state → holds (step state input).1)
    (free : ∀ state input, holds state → price state input = 0)
    (state : σ) (inputs : List α) (start : holds state) : cost step price state inputs = 0 := by
  induction inputs generalizing state with
  | nil => rfl
  | cons input rest ih => rw [cost, free state input start, ih _ (keeps state input start)]

/-- What does not depend on the state is the sum over the inputs. -/
theorem cost_eq_sum (factor : ℕ) (price : α → ℕ) (state : σ) (inputs : List α) :
    cost step (fun _ input => factor * price input) state inputs =
      factor * (inputs.map price).sum := by
  induction inputs generalizing state with
  | nil => rfl
  | cons input rest ih => rw [cost, ih, List.map_cons, List.sum_cons, Nat.mul_add]

section Events

variable {ε : Type*} {react : σ → α → σ × Option ε}

end Events

end Mealy
