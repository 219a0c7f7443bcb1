import Focsq.Backend.SelectiveFec
import Focsq.Lib.Mealy

/-!
# The budget for packets that are sent twice

A budget gains at most one token in each interval and holds at most a burst, so what it grants in a
window of time is bounded by the burst and the intervals of the window. An interval that has begun
before the window counts as well, provided that the budget is up to date when the window begins: a
refill adds at most `u32::MAX` intervals at once, and after a longer pause the rest is still to come.
-/

namespace Focsq.SelectiveFec

/-- Refilling adds tokens for whole intervals that have passed, up to the burst. -/
theorem Budget.refilled_spec (budget : Budget) (now : Nat)
    (full : budget.tokens ≤ duplicateBurst) :
    ∃ intervals, (budget.refilled now).updated = budget.updated + refillInterval * intervals ∧
      refillInterval * intervals ≤ now - budget.updated ∧
      (budget.refilled now).tokens ≤ budget.tokens + intervals ∧
      (budget.refilled now).tokens ≤ duplicateBurst := by
  have whole : refillInterval * ((now - budget.updated) / refillInterval) ≤
      now - budget.updated := Nat.mul_div_le _ _
  unfold Budget.refilled
  dsimp only
  split
  · have fewer : min ((now - budget.updated) / refillInterval) u32Max ≤
        (now - budget.updated) / refillInterval := Nat.min_le_left _ _
    have scaled := Nat.mul_le_mul_left refillInterval fewer
    exact ⟨_, rfl, scaled.trans whole, (Nat.min_le_left _ _).trans (Nat.min_le_left _ _),
      Nat.min_le_right _ _⟩
  · exact ⟨0, rfl, Nat.zero_le _, Nat.le_refl _, full⟩

/-- A refill that is not cut short leaves less than one interval. -/
theorem Budget.refilled_current (budget : Budget) (now : Nat)
    (soon : now < budget.updated + 2 ^ 32 * refillInterval) :
    now < (budget.refilled now).updated + refillInterval := by
  have positive : 0 < refillInterval := by decide
  have rest := Nat.lt_mul_div_succ (now - budget.updated) positive
  rw [Nat.mul_add, Nat.mul_one] at rest
  have few : (now - budget.updated) / refillInterval ≤ u32Max := by
    have below : (now - budget.updated) / refillInterval < 2 ^ 32 :=
      Nat.div_lt_of_lt_mul (by rw [Nat.mul_comm]; omega)
    unfold u32Max
    omega
  unfold Budget.refilled
  dsimp only
  split
  · rw [Nat.min_eq_left few]
    dsimp only
    omega
  · rename_i none
    have zero : (now - budget.updated) / refillInterval = 0 := not_not.mp none
    rw [zero, Nat.mul_zero] at rest
    omega

/-- A token is taken when the call is granted. -/
theorem Budget.allow_tokens (budget : Budget) (now : Nat) :
    (budget.allow now).1.tokens + (budget.allow now).2.toNat = (budget.refilled now).tokens ∧
      (budget.allow now).1.updated = (budget.refilled now).updated := by
  unfold Budget.allow
  dsimp only
  split
  · rename_i empty
    exact ⟨by simp, rfl⟩
  · exact ⟨by simp only [Bool.toNat_true]; omega, rfl⟩

/-- Calls of a window that are granted. -/
def granted (first last : Nat) (budget : Budget) (times : List Nat) : Nat :=
  (times.zip (Mealy.outputs Budget.allow budget times)).countP
    fun call => decide (first ≤ call.1) && decide (call.1 ≤ last) && call.2

/-- The first call counts when it is in the window and granted. -/
theorem granted_cons (first last : Nat) (budget : Budget) (now : Nat) (times : List Nat) :
    granted first last budget (now :: times) = granted first last (budget.allow now).1 times +
      if first ≤ now ∧ now ≤ last then (budget.allow now).2.toNat else 0 := by
  unfold granted
  rw [Mealy.outputs, List.zip_cons_cons, List.countP_cons]
  cases (budget.allow now).2 <;> simp

/-- When a call comes after the window, so do all later ones, and none of them counts. -/
theorem granted_beyond (first last : Nat) (budget : Budget) {now : Nat} {rest : List Nat}
    (beyond : last < now) (after : ∀ other ∈ rest, now ≤ other) :
    granted first last budget (now :: rest) = 0 := by
  have late : ∀ other ∈ now :: rest, last < other := by
    intro other member
    rcases List.mem_cons.mp member with rfl | tail
    · exact beyond
    · exact Nat.lt_of_lt_of_le beyond (after other tail)
  generalize now :: rest = times at late
  induction times generalizing budget with
  | nil => rfl
  | cons call others ih =>
    obtain ⟨past, more⟩ := List.forall_mem_cons.mp late
    have outside : ¬(first ≤ call ∧ call ≤ last) := by omega
    rw [granted_cons, if_neg outside, ih _ more]

/-- From any state on, what is granted up to a time is bounded by the tokens left and the intervals
still to be added for. -/
theorem granted_le (first last : Nat) (budget : Budget) (times : List Nat)
    (full : budget.tokens ≤ duplicateBurst) (ordered : times.Pairwise (· ≤ ·)) :
    granted first last budget times ≤
      budget.tokens + (last - budget.updated) / refillInterval := by
  induction times generalizing budget with
  | nil => exact Nat.zero_le _
  | cons now rest ih =>
    obtain ⟨after, later⟩ := List.pairwise_cons.mp ordered
    by_cases beyond : last < now
    · rw [granted_beyond first last budget beyond after]
      exact Nat.zero_le _
    · obtain ⟨intervals, updated, passed, gained, burst⟩ := budget.refilled_spec now full
      obtain ⟨spent, same⟩ := budget.allow_tokens now
      have rest_le := ih (budget.allow now).1 (by omega) later
      have positive : 0 < refillInterval := by decide
      have share : intervals ≤ (last - budget.updated) / refillInterval := by
        rw [Nat.le_div_iff_mul_le positive, Nat.mul_comm]
        omega
      have left : (last - (budget.allow now).1.updated) / refillInterval =
          (last - budget.updated) / refillInterval - intervals := by
        rw [same, updated, ← Nat.sub_sub, Nat.sub_mul_div]
      have one : (if first ≤ now ∧ now ≤ last then (budget.allow now).2.toNat else 0) ≤
          (budget.allow now).2.toNat := by
        split <;> omega
      rw [left] at rest_le
      rw [granted_cons]
      omega

/-- The first call of a window finds a budget that a refill brings up to date. -/
def Current (first last : Nat) (budget : Budget) (times : List Nat) : Prop :=
  ∀ before now after, times = before ++ now :: after → (∀ earlier ∈ before, earlier < first) →
    first ≤ now → now ≤ last →
      now < (Mealy.final Budget.allow budget before).updated + 2 ^ 32 * refillInterval

/-- A call keeps the budget within the burst. -/
theorem Budget.allow_burst (budget : Budget) (now : Nat)
    (full : budget.tokens ≤ duplicateBurst) : (budget.allow now).1.tokens ≤ duplicateBurst := by
  obtain ⟨_, _, _, _, burst⟩ := budget.refilled_spec now full
  have spent := (budget.allow_tokens now).1
  omega

/-- What is granted in a window that begins with a current budget. -/
theorem granted_window (first last : Nat) (budget : Budget) (times : List Nat)
    (full : budget.tokens ≤ duplicateBurst) (ordered : times.Pairwise (· ≤ ·))
    (current : Current first last budget times) :
    granted first last budget times ≤ duplicateBurst + (last - first) / refillInterval + 1 := by
  induction times generalizing budget with
  | nil => exact Nat.zero_le _
  | cons now rest ih =>
    obtain ⟨after, later⟩ := List.pairwise_cons.mp ordered
    by_cases early : now < first
    · have others : Current first last (budget.allow now).1 rest := by
        intro before call tail split earlier from_first to_last
        refine current (now :: before) call tail (by rw [split]; rfl) ?_ from_first to_last
        intro other member
        rcases List.mem_cons.mp member with rfl | inside
        · exact early
        · exact earlier other inside
      have outside : ¬(first ≤ now ∧ now ≤ last) := by omega
      rw [granted_cons, if_neg outside]
      exact ih _ (budget.allow_burst now full) later others
    · by_cases beyond : last < now
      · rw [granted_beyond first last budget beyond after]
        exact Nat.zero_le _
      · have soon := current [] now rest rfl (by simp) (by omega) (by omega)
        have fresh := budget.refilled_current now soon
        obtain ⟨_, _, _, _, burst⟩ := budget.refilled_spec now full
        obtain ⟨spent, same⟩ := budget.allow_tokens now
        have rest_le := granted_le first last (budget.allow now).1 rest
          (budget.allow_burst now full) later
        have inside : first ≤ now ∧ now ≤ last := by omega
        have positive : 0 < refillInterval := by decide
        have share : (last - (budget.allow now).1.updated) / refillInterval ≤
            (last - first) / refillInterval + 1 := by
          rw [same, ← Nat.add_div_right _ positive]
          exact Nat.div_le_div_right (by omega)
        rw [granted_cons, if_pos inside]
        omega

/-- Twelve calls right after a pause of three times `u32::MAX` intervals. -/
def pausedCalls : List Nat := List.replicate 12 (3 * u32Max * refillInterval)

/-- All of them are granted: the budget is filled again at the second and third of them. -/
theorem pausedCalls_granted :
    ¬∀ made times, (made :: times).Pairwise (· ≤ ·) → ∀ first last,
      granted first last (.new made) times ≤
        duplicateBurst + (last - first) / refillInterval + 1 := by
  intro limited
  have ordered : (0 :: pausedCalls).Pairwise (· ≤ ·) := by decide +kernel
  have bound := limited 0 pausedCalls ordered (3 * u32Max * refillInterval)
    (3 * u32Max * refillInterval)
  revert bound
  decide +kernel

/-- For every nondecreasing sequence of call times and every window whose first call comes less than
2³² intervals after the time up to which the budget was filled, what is granted in the window is
bounded by the burst, the intervals of the window and one more. -/
theorem granted_bounded (made : Nat) (times : List Nat) (ordered : (made :: times).Pairwise (· ≤ ·))
    (first last : Nat) (current : Current first last (.new made) times) :
    granted first last (.new made) times ≤
      duplicateBurst + (last - first) / refillInterval + 1 :=
  granted_window first last (.new made) times (Nat.le_refl _)
    (List.pairwise_cons.mp ordered).2 current

/-- Until 2³² intervals have passed since the budget was made, it is always current. -/
theorem current_of_lt (made first last : Nat) (times : List Nat)
    (young : last < made + 2 ^ 32 * refillInterval) : Current first last (.new made) times := by
  intro before now after _ _ _ inside
  have grows : made ≤ (Mealy.final Budget.allow (.new made) before).updated ∧
      (Mealy.final Budget.allow (.new made) before).tokens ≤ duplicateBurst := by
    refine Mealy.final_invariant (fun budget : Budget => made ≤ budget.updated ∧
      budget.tokens ≤ duplicateBurst) ?_ _ before ⟨Nat.le_refl _, Nat.le_refl _⟩
    rintro budget call ⟨later, full⟩
    obtain ⟨intervals, updated, _, _, _⟩ := budget.refilled_spec call full
    refine ⟨?_, budget.allow_burst call full⟩
    rw [(budget.allow_tokens call).2, updated]
    exact later.trans (Nat.le_add_right _ _)
  omega

/-- The bound is reached: a burst, and one more as soon as an interval is over that began before. -/
theorem granted_bounded_reached :
    granted 19999999 20000000 (.new 0) (List.replicate 10 19999999 ++ [20000000, 20000000]) = 11 ∧
      granted 19999999 20000000 (.new 0) (List.replicate 10 19999999 ++ [20000000, 20000000]) ≤
        duplicateBurst + (20000000 - 19999999) / refillInterval + 1 := by
  exact ⟨by decide +kernel, granted_bounded 0 _ (by decide +kernel) _ _
    (current_of_lt 0 _ _ _ (by decide))⟩

end Focsq.SelectiveFec
