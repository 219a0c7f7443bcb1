import Mathlib.Data.List.Basic

/-!
# Loops

A loop is a turn that is made again and again. It is run with fuel, one unit for every turn, and
ends with some fuel if no turn that it comes to leaves everything as it is.
-/

namespace Loops

/-- What a turn leads to. -/
inductive Turn (σ ρ : Type*) where
  /-- The loop is left. -/
  | done (result : ρ)
  /-- There is another turn. -/
  | again (state : σ)

variable {σ ρ : Type*}

/-- The result of a loop, if there is enough fuel. -/
def run (turn : σ → Turn σ ρ) : Nat → σ → Option ρ
  | 0, _ => none
  | fuel + 1, state =>
    match turn state with
    | .done result => some result
    | .again state => run turn fuel state

/-- What a loop comes to. -/
inductive Reached (turn : σ → Turn σ ρ) (start : σ) : σ → Prop where
  /-- The start. -/
  | start : Reached turn start start
  /-- One turn on. -/
  | next {state next : σ} (before : Reached turn start state) (again : turn state = .again next) :
    Reached turn start next

variable {turn : σ → Turn σ ρ} {start state : σ}

/-- A loop that comes to a turn that is made for ever does not end. -/
theorem run_eq_none (reached : Reached turn start state)
    (endless : ∀ fuel, run turn fuel state = none) (fuel : Nat) : run turn fuel start = none := by
  induction reached generalizing fuel with
  | start => exact endless fuel
  | next _ again ih =>
    refine ih (fun fuel => ?_) fuel
    cases fuel with
    | zero => rfl
    | succ fuel =>
      rw [run, again]
      exact endless fuel

/-- A turn that leaves everything as it is is made for ever. -/
theorem run_stuck (stuck : turn state = .again state) (fuel : Nat) :
    run turn fuel state = none := by
  induction fuel with
  | zero => rfl
  | succ fuel ih =>
    rw [run, stuck]
    exact ih

/-- A loop ends if every turn that it comes to makes a number smaller. -/
theorem run_isSome (measure : σ → Nat)
    (smaller : ∀ state next, Reached turn start state → turn state = .again next →
      measure next < measure state)
    (reached : Reached turn start state) {fuel : Nat} (enough : measure state < fuel) :
    (run turn fuel state).isSome = true := by
  induction fuel generalizing state with
  | zero => exact absurd enough (Nat.not_lt_zero _)
  | succ fuel ih =>
    rw [run]
    cases result : turn state with
    | done result => rfl
    | again next =>
      have less := smaller state next reached result
      exact ih (reached.next result) (Nat.lt_of_lt_of_le less (Nat.lt_succ_iff.mp enough))

/-- If every turn either makes a number smaller or leaves everything as it is, then the loop ends if
and only if it comes to no turn of the second kind. -/
theorem ends_iff (measure : σ → Nat)
    (turns : ∀ state next, Reached turn start state → turn state = .again next →
      next = state ∨ measure next < measure state) :
    (∃ fuel, (run turn fuel start).isSome = true) ↔
      ∀ state, Reached turn start state → turn state ≠ .again state := by
  constructor
  · rintro ⟨fuel, ends⟩ state reached stuck
    rw [run_eq_none reached (run_stuck stuck) fuel] at ends
    cases ends
  · intro moves
    refine ⟨measure start + 1, run_isSome measure (fun state next reached again => ?_) .start
      (Nat.lt_succ_self _)⟩
    rcases turns state next reached again with same | less
    · exact absurd (same ▸ again) (moves state reached)
    · exact less

/-- What holds of every result that a turn can lead to holds of the result of the loop. -/
theorem run_result {holds : ρ → Prop} (turns : ∀ state result, turn state = .done result → holds result)
    {fuel : Nat} {result : ρ} (ended : run turn fuel start = some result) : holds result := by
  induction fuel generalizing start with
  | zero => cases ended
  | succ fuel ih =>
    rw [run] at ended
    cases made : turn start with
    | done found =>
      rw [made] at ended
      exact turns start result (by rw [made, Option.some.inj ended])
    | again next =>
      rw [made] at ended
      exact ih ended

end Loops
