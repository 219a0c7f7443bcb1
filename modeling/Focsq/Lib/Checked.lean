import Mathlib.Algebra.Group.Nat.Defs
import Mathlib.Data.List.Basic

/-!
# Arithmetic that panics

Numbers without a sign, of a given number of bits. A sum, a difference or a product that is out of
range, a division by zero and an index behind the end are panics. A loop over a range hands a state
on from one turn to the next and stops at the first panic.
-/

namespace Checked

/-- Why a computation stops. -/
inductive Panic where
  /-- A sum or a product is too large. -/
  | overflow
  /-- A difference is negative. -/
  | underflow
  /-- A division by zero. -/
  | division
  /-- A position where there is nothing. -/
  | outside
  deriving DecidableEq

/-- `+`. -/
def add (bits left right : Nat) : Except Panic Nat :=
  if left + right < 2 ^ bits then .ok (left + right) else .error .overflow

/-- `-`. -/
def sub (left right : Nat) : Except Panic Nat :=
  if right ≤ left then .ok (left - right) else .error .underflow

/-- `*`. -/
def mul (bits left right : Nat) : Except Panic Nat :=
  if left * right < 2 ^ bits then .ok (left * right) else .error .overflow

/-- `/`. -/
def div (left right : Nat) : Except Panic Nat :=
  if right = 0 then .error .division else .ok (left / right)

/-- `%`. -/
def rem (left right : Nat) : Except Panic Nat :=
  if right = 0 then .error .division else .ok (left % right)

/-- An element of a list. -/
def index {α : Type} (values : List α) (position : Nat) : Except Panic α :=
  match values[position]? with
  | some value => .ok value
  | none => .error .outside

/-- `for turn in 0..count`. -/
def forRange {σ : Type} (body : Nat → σ → Except Panic σ) : Nat → σ → Except Panic σ
  | 0, state => .ok state
  | count + 1, state => do
    let state ← forRange body count state
    body count state

/-- A computation comes to a result that meets a condition. -/
def Yields {α : Type} (computation : Except Panic α) (holds : α → Prop) : Prop :=
  ∃ result, computation = .ok result ∧ holds result

/-- A computation panics. -/
def Panics {α : Type} (computation : Except Panic α) : Prop :=
  ∃ reason, computation = .error reason

section Rules

variable {α β σ : Type}

/-- A result. -/
theorem yields_ok {result : α} {holds : α → Prop} (meets : holds result) :
    Yields (.ok result) holds := ⟨result, rfl, meets⟩

/-- A weaker condition. -/
theorem Yields.mono {computation : Except Panic α} {holds weaker : α → Prop}
    (yields : Yields computation holds) (implies : ∀ result, holds result → weaker result) :
    Yields computation weaker := by
  obtain ⟨result, same, meets⟩ := yields
  exact ⟨result, same, implies result meets⟩

/-- One computation after the other. -/
theorem Yields.bind {first : Except Panic α} {next : α → Except Panic β} {middle : α → Prop}
    {holds : β → Prop} (before : Yields first middle)
    (after : ∀ result, middle result → Yields (next result) holds) :
    Yields (first >>= next) holds := by
  obtain ⟨result, same, meets⟩ := before
  rw [same]
  exact after result meets

/-- A panic of the first computation. -/
theorem Panics.bind {first : Except Panic α} (panics : Panics first)
    (next : α → Except Panic β) : Panics (first >>= next) := by
  obtain ⟨reason, failed⟩ := panics
  exact ⟨reason, by rw [failed]; rfl⟩

/-- A panic of the second computation, or of the first one. -/
theorem panics_after {first : Except Panic α} {next : α → Except Panic β}
    (panics : ∀ result, first = .ok result → Panics (next result)) : Panics (first >>= next) := by
  cases result : first with
  | error reason => exact ⟨reason, rfl⟩
  | ok value => exact panics value result

/-- A sum in range. -/
theorem yields_add {bits left right : Nat} (small : left + right < 2 ^ bits) :
    Yields (add bits left right) (· = left + right) := ⟨_, if_pos small, rfl⟩

/-- A difference that is not negative. -/
theorem yields_sub {left right : Nat} (ordered : right ≤ left) :
    Yields (sub left right) (· = left - right) := ⟨_, if_pos ordered, rfl⟩

/-- A product in range. -/
theorem yields_mul {bits left right : Nat} (small : left * right < 2 ^ bits) :
    Yields (mul bits left right) (· = left * right) := ⟨_, if_pos small, rfl⟩

/-- A quotient. -/
theorem yields_div {left right : Nat} (positive : 0 < right) :
    Yields (div left right) (· = left / right) := ⟨_, if_neg (Nat.ne_of_gt positive), rfl⟩

/-- A remainder. -/
theorem yields_rem {left right : Nat} (positive : 0 < right) :
    Yields (rem left right) (· = left % right) := ⟨_, if_neg (Nat.ne_of_gt positive), rfl⟩

/-- An element at a position. -/
theorem yields_index {values : List α} {position : Nat} (inside : position < values.length) :
    Yields (index values position) (· ∈ values) :=
  ⟨values[position], by rw [index, List.getElem?_eq_getElem inside], List.getElem_mem inside⟩

/-- A product out of range. -/
theorem panics_mul {bits left right : Nat} (large : 2 ^ bits ≤ left * right) :
    Panics (mul bits left right) := ⟨_, if_neg (Nat.not_lt.mpr large)⟩

/-- A negative difference. -/
theorem panics_sub {left right : Nat} (less : left < right) : Panics (sub left right) :=
  ⟨_, if_neg (Nat.not_le.mpr less)⟩

/-- A loop keeps what every turn keeps. -/
theorem yields_forRange {body : Nat → σ → Except Panic σ} (holds : Nat → σ → Prop) {count : Nat}
    {state : σ} (start : holds 0 state)
    (keeps : ∀ turn < count, ∀ state, holds turn state →
      Yields (body turn state) (holds (turn + 1))) :
    Yields (forRange body count state) (holds count) := by
  induction count with
  | zero => exact yields_ok start
  | succ count ih =>
    have before := ih fun turn before => keeps turn (Nat.lt_succ_of_lt before)
    exact Yields.bind before fun state reached =>
      keeps count (Nat.lt_succ_self count) state reached

/-- A loop with a turn that panics in every state. -/
theorem panics_forRange {body : Nat → σ → Except Panic σ} {count turn : Nat}
    (inside : turn < count) (panics : ∀ state, Panics (body turn state)) (state : σ) :
    Panics (forRange body count state) := by
  induction count with
  | zero => exact absurd inside (Nat.not_lt_zero turn)
  | succ count ih =>
    rcases Nat.lt_succ_iff_lt_or_eq.mp inside with before | last
    · exact Panics.bind (ih before) _
    · exact panics_after fun state _ => last ▸ panics state

end Rules

section Results

variable {α β : Type}

/-- A result of two computations is one of the second, for a result of the first. -/
theorem ok_of_bind {first : Except Panic α} {next : α → Except Panic β} {result : β}
    (done : (first >>= next) = .ok result) :
    ∃ middle, first = .ok middle ∧ next middle = .ok result := by
  cases found : first with
  | error reason =>
    rw [found] at done
    cases done
  | ok middle =>
    rw [found] at done
    exact ⟨middle, rfl, done⟩

/-- A sum that is found. -/
theorem ok_of_add {bits left right result : Nat} (done : add bits left right = .ok result) :
    result = left + right := by
  unfold add at done
  split at done
  · exact (Except.ok.inj done).symm
  · cases done

/-- A difference that is found. -/
theorem ok_of_sub {left right result : Nat} (done : sub left right = .ok result) :
    result = left - right := by
  unfold sub at done
  split at done
  · exact (Except.ok.inj done).symm
  · cases done

/-- A product that is found. -/
theorem ok_of_mul {bits left right result : Nat} (done : mul bits left right = .ok result) :
    result = left * right := by
  unfold mul at done
  split at done
  · exact (Except.ok.inj done).symm
  · cases done

/-- A quotient that is found. -/
theorem ok_of_div {left right result : Nat} (done : div left right = .ok result) :
    result = left / right := by
  unfold div at done
  split at done
  · cases done
  · exact (Except.ok.inj done).symm

/-- A remainder that is found. -/
theorem ok_of_rem {left right result : Nat} (done : rem left right = .ok result) :
    result = left % right := by
  unfold rem at done
  split at done
  · cases done
  · exact (Except.ok.inj done).symm

/-- An element that is found. -/
theorem ok_of_index {values : List α} {position : Nat} {result : α}
    (done : index values position = .ok result) : result ∈ values := by
  unfold index at done
  split at done
  · rename_i value found
    exact Except.ok.inj done ▸ List.mem_of_getElem? found
  · cases done

end Results

end Checked
