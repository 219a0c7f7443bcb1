import Mathlib.Data.UInt

/-!
# Serial numbers modulo 2³²

A 32-bit serial number has no order of its own; it is ahead of a base by the number of
increments that lead from the base to it. Every comparison of wrapping counters reduces to
this distance, and moving the base along the direction of travel subtracts from it.
-/

namespace Serial

/-- Increments from `base` to `serial`, modulo 2³². -/
def distance (base serial : UInt32) : Nat := (serial - base).toNat

/-- A distance is a 32-bit number. -/
theorem distance_lt (base serial : UInt32) : distance base serial < 2 ^ 32 :=
  (serial - base).toNat_lt

/-- The base is its own only serial at distance zero. -/
theorem distance_eq_zero (base serial : UInt32) : distance base serial = 0 ↔ serial = base := by
  rw [distance, ← UInt32.toNat_zero, UInt32.toNat_inj]
  exact sub_eq_zero

/-- Every base is at distance zero from itself. -/
@[simp]
theorem distance_self (base : UInt32) : distance base base = 0 := by
  rw [distance_eq_zero]

/-- From one base, a distance names one serial. -/
theorem distance_injective (base left right : UInt32)
    (same : distance base left = distance base right) : left = right :=
  sub_left_inj.mp (UInt32.toNat_inj.mp same)

/-- From one base, distinct serials are at distinct distances. -/
theorem distance_ne (base left right : UInt32) (distinct : left ≠ right) :
    distance base left ≠ distance base right :=
  fun same => distinct (distance_injective base left right same)

/-- A base moved forward to a serial it has not passed keeps the remaining distance. -/
theorem distance_rebase (base middle serial : UInt32)
    (between : distance base middle ≤ distance base serial) :
    distance middle serial = distance base serial - distance base middle := by
  have split : serial - middle = (serial - base) - (middle - base) :=
    (sub_sub_sub_cancel_right serial middle base).symm
  rw [distance, split, UInt32.toNat_sub_of_le _ _ (UInt32.le_iff_toNat_le.mpr between)]
  rfl

/-- A serial behind a moved base is almost one full turn ahead of it. -/
theorem distance_behind (base middle serial : UInt32)
    (behind : distance base serial < distance base middle) :
    distance middle serial = 2 ^ 32 - (distance base middle - distance base serial) := by
  have back := distance_rebase base serial middle (Nat.le_of_lt behind)
  have positive : 0 < distance serial middle := by omega
  have turn : distance middle serial + distance serial middle = 2 ^ 32 := by
    have hm := UInt32.toNat_sub serial middle
    have hs := UInt32.toNat_sub middle serial
    have bm := middle.toNat_lt
    have bs := serial.toNat_lt
    unfold distance at positive ⊢
    omega
  omega

/-- One increment of the base brings every other serial one step closer. -/
theorem distance_succ (base serial : UInt32) (other : serial ≠ base) :
    distance (base + 1) serial + 1 = distance base serial := by
  have positive : distance base serial ≠ 0 := fun zero => other ((distance_eq_zero _ _).mp zero)
  have one : distance base (base + 1) = 1 := by
    rw [distance, add_sub_cancel_left]
    rfl
  have rebased := distance_rebase base (base + 1) serial (by omega)
  omega

/-- One increment of the base sends the base itself to the far end. -/
theorem distance_succ_self (base : UInt32) : distance (base + 1) base = 2 ^ 32 - 1 := by
  have one : distance base (base + 1) = 1 := by
    rw [distance, add_sub_cancel_left]
    rfl
  have behind := distance_behind base (base + 1) base (by rw [one, distance_self]; decide)
  rw [one, distance_self] at behind
  exact behind

/-- Distances add up as long as they stay within one turn. -/
theorem distance_trans (base middle serial : UInt32)
    (small : distance base middle + distance middle serial < 2 ^ 32) :
    distance base serial = distance base middle + distance middle serial := by
  have split : serial - base = (middle - base) + (serial - middle) := by
    rw [add_comm, sub_add_sub_cancel]
  rw [distance, split, UInt32.toNat_add]
  exact Nat.mod_eq_of_lt small

/-- The distance to a serial reached by a count of increments is the count, up to full turns. -/
theorem distance_add (base : UInt32) (count : Nat) :
    distance base (base + UInt32.ofNat count) = count % 2 ^ 32 := by
  rw [distance, add_sub_cancel_left, UInt32.toNat_ofNat']

/-- Counting the distance from a base reaches the serial. -/
theorem add_distance (base serial : UInt32) :
    base + UInt32.ofNat (distance base serial) = serial := by
  apply distance_injective base
  rw [distance_add, Nat.mod_eq_of_lt (distance_lt base serial)]

/-- Without a wrap, the distance is the difference of the numbers. -/
theorem distance_of_le (base serial : UInt32) (order : base.toNat ≤ serial.toNat) :
    distance base serial = serial.toNat - base.toNat :=
  UInt32.toNat_sub_of_le serial base (UInt32.le_iff_toNat_le.mpr order)

end Serial
