import Mathlib.Data.Nat.Basic
import Focsq.Backend.CaptchaSlider

/-!
# The tiles of a slider puzzle

Swaps of tiles permute them. Where the edges of the tiles are, how far apart they are, and when the
arithmetic that finds a tile and samples a pixel of it stays in range.
-/

namespace Focsq.CaptchaSlider

open Checked

section Permutations

/-- Swaps permute what is in an array. -/
theorem swapPairs_perm {tileCount : Nat} {mapping result : Array Nat} {swaps : List Nat}
    (done : swapPairs tileCount mapping swaps = .ok result) :
    result.toList.Perm mapping.toList := by
  fun_induction swapPairs tileCount mapping swaps with
  | case1 => cases done
  | case2 mapping first second rest inside ih =>
    have swapped : (mapping.swapIfInBounds first second).toList.Perm mapping.toList := by
      unfold Array.swapIfInBounds
      split
      · split
        · exact (Array.swap_perm _ _).toList
        · exact .refl _
      · exact .refl _
    exact (ih done).trans swapped
  | case3 =>
    cases done
    exact .refl _

end Permutations

section Edges

/-- Where a tile begins, of so many in an extent. -/
def edge (tile extent gridSize : Nat) : Nat := tile * extent / gridSize

variable {tile extent gridSize : Nat}

/-- Every tile is as long as the extent divided by their number, without the remainder. -/
theorem edge_add_le (tile extent gridSize : Nat) :
    edge tile extent gridSize + extent / gridSize ≤ edge (tile + 1) extent gridSize := by
  unfold edge
  rw [Nat.add_mul, Nat.one_mul]
  exact Nat.div_add_div_le_add_div

/-- No tile is longer than a bound for all of them. -/
theorem edge_le_add {bound : Nat} (positive : 0 < gridSize) (short : extent ≤ bound * gridSize) :
    edge (tile + 1) extent gridSize ≤ edge tile extent gridSize + bound := by
  unfold edge
  calc (tile + 1) * extent / gridSize
      ≤ (tile * extent + bound * gridSize) / gridSize := by
        apply Nat.div_le_div_right
        rw [Nat.add_mul, Nat.one_mul]
        exact Nat.add_le_add_left short _
    _ = tile * extent / gridSize + bound := Nat.add_mul_div_right _ _ positive

/-- The tiles fill the extent. -/
theorem edge_last (positive : 0 < gridSize) : edge gridSize extent gridSize = extent :=
  Nat.mul_div_cancel_left extent positive

/-- A tile is inside the extent. -/
theorem edge_le (positive : 0 < gridSize) (inside : tile ≤ gridSize) :
    edge tile extent gridSize ≤ extent := by
  unfold edge
  calc tile * extent / gridSize ≤ gridSize * extent / gridSize :=
        Nat.div_le_div_right (Nat.mul_le_mul_right _ inside)
    _ = extent := Nat.mul_div_cancel_left extent positive

/-- If the extent is longer than so many times a bound, then one of the tiles is longer. -/
theorem exists_longer {bound : Nat} (positive : 0 < gridSize) (long : bound * gridSize < extent) :
    ∃ tile < gridSize, edge tile extent gridSize + bound < edge (tile + 1) extent gridSize := by
  by_contra none
  have next : ∀ tile < gridSize,
      edge (tile + 1) extent gridSize ≤ edge tile extent gridSize + bound :=
    fun tile inside => Nat.not_lt.mp fun longer => none ⟨tile, inside, longer⟩
  have short : ∀ tile ≤ gridSize, edge tile extent gridSize ≤ bound * tile := by
    intro tile inside
    induction tile with
    | zero => exact Nat.le_of_eq (by rw [edge, Nat.zero_mul, Nat.zero_div, Nat.mul_zero])
    | succ tile ih =>
      have before := ih (Nat.le_of_succ_le inside)
      have step := next tile inside
      rw [Nat.mul_succ]
      omega
  have whole := short gridSize (Nat.le_refl _)
  rw [edge_last positive] at whole
  omega

/-- The last tile is not empty. -/
theorem last_tile_pos (positive : 0 < gridSize) (some : 0 < extent) :
    edge (gridSize - 1) extent gridSize < edge (gridSize - 1 + 1) extent gridSize := by
  rw [Nat.sub_add_cancel positive, edge_last positive, edge, Nat.div_lt_iff_lt_mul positive,
    Nat.mul_comm extent]
  exact Nat.mul_lt_mul_of_pos_right (Nat.sub_lt positive Nat.one_pos) some

end Edges

section Rectangles

variable {gridSize : Nat}

/-- Where a tile of a picture is. -/
def rectAt (image : DynamicImage) (gridSize position : Nat) : Rect where
  minX := edge (position % gridSize) image.width.toNat gridSize
  minY := edge (position / gridSize) image.height.toNat gridSize
  maxX := edge (position % gridSize + 1) image.width.toNat gridSize
  maxY := edge (position / gridSize + 1) image.height.toNat gridSize

/-- A size that `split_steps` admits. -/
structure GridSize (gridSize : Nat) : Prop where
  /-- There is a tile. -/
  positive : 0 < gridSize
  /-- There are not too many. -/
  small : gridSize ≤ maxSliderGrid

/-- What is behind a guard that lets a result through. -/
theorem ok_of_guard {α : Type} {condition : Prop} [Decidable condition] {reason : String}
    {value result : α} (done : (if condition then .error reason else .ok value) =
      (.ok result : Except String α)) : ¬condition ∧ value = result := by
  split at done
  · cases done
  · rename_i passes
    exact ⟨passes, Except.ok.inj done⟩

/-- A grid of this size is admitted. -/
theorem gridSize_of_splitSteps {steps tail : List Nat} {attempts : Nat}
    (admitted : splitSteps steps = .ok (gridSize, tail, attempts)) : GridSize gridSize := by
  unfold splitSteps at admitted
  split at admitted
  · split at admitted
    · cases admitted
    · rename_i fine
      have same := congrArg Prod.fst (ok_of_guard admitted).2
      subst same
      exact ⟨Nat.pos_of_ne_zero fun zero => fine (.inl zero),
        Nat.not_lt.mp fun large => fine (.inr large)⟩
  · cases admitted

/-- Small numbers fit in 32 bits. -/
theorem asU32_small {value : Nat} (small : value ≤ maxSliderGrid) : asU32 value = value :=
  Nat.mod_eq_of_lt (Nat.lt_of_le_of_lt small (by decide))

/-- The edge of a tile is found if the extent is not too large. -/
theorem yields_tileEdge (grid : GridSize gridSize) {tile extent : Nat} (inside : tile ≤ gridSize)
    (short : extent ≤ 65536 * gridSize) :
    Yields (tileEdge tile extent gridSize) (· = edge tile extent gridSize) := by
  have bound : tile * extent ≤ 16 * (65536 * 16) :=
    Nat.mul_le_mul (Nat.le_trans inside grid.small)
      (Nat.le_trans short (Nat.mul_le_mul_left 65536 grid.small))
  unfold tileEdge
  rw [asU32_small grid.small]
  refine (yields_mul (Nat.lt_of_le_of_lt bound (by decide))).bind fun product same => ?_
  rw [same]
  exact yields_div grid.positive

/-- An edge that is found is where the tile begins. -/
theorem edge_of_tileEdge (grid : GridSize gridSize) {tile extent found : Nat}
    (result : tileEdge tile extent gridSize = .ok found) : found = edge tile extent gridSize := by
  unfold tileEdge at result
  obtain ⟨product, multiplied, divided⟩ := ok_of_bind result
  rw [asU32_small grid.small] at divided
  rw [ok_of_div divided, ok_of_mul multiplied]
  rfl

/-- A position in the grid has a row. -/
theorem row_lt {position : Nat} (inside : position < gridSize * gridSize) :
    position / gridSize < gridSize :=
  Nat.div_lt_of_lt_mul inside

/-- A tile is found in a picture that is not too large. -/
theorem yields_tileRect {image : DynamicImage} (grid : GridSize gridSize) {position : Nat}
    (inside : position < gridSize * gridSize) (narrow : image.width.toNat ≤ 65536 * gridSize)
    (low : image.height.toNat ≤ 65536 * gridSize) :
    Yields (tileRect image gridSize position) (· = rectAt image gridSize position) := by
  have column := Nat.mod_lt position grid.positive
  have row := row_lt inside
  have word {value : Nat} (less : value < gridSize) : asU32 value = value :=
    asU32_small (Nat.le_of_lt (Nat.lt_of_lt_of_le less grid.small))
  have one {value : Nat} (less : value < gridSize) : Yields (add 32 value 1) (· = value + 1) :=
    yields_add (Nat.lt_of_le_of_lt (Nat.le_trans less grid.small) (by decide))
  unfold tileRect
  refine (yields_rem grid.positive).bind fun first same => ?_
  subst same
  refine (yields_div grid.positive).bind fun second same => ?_
  subst same
  rw [word column, word row]
  refine (yields_tileEdge grid (Nat.le_of_lt column) narrow).bind fun minX left => ?_
  refine (yields_tileEdge grid (Nat.le_of_lt row) low).bind fun minY top => ?_
  refine (one column).bind fun next same => ?_
  subst same
  refine (yields_tileEdge grid column narrow).bind fun maxX right => ?_
  refine (one row).bind fun next same => ?_
  subst same
  refine (yields_tileEdge grid row low).bind fun maxY bottom => ?_
  exact yields_ok (by rw [rectAt, left, top, right, bottom])

/-- A tile that is found is where it should be. -/
theorem rectAt_of_tileRect {image : DynamicImage} (grid : GridSize gridSize) {position : Nat}
    (inside : position < gridSize * gridSize) {rect : Rect}
    (found : tileRect image gridSize position = .ok rect) :
    rect = rectAt image gridSize position := by
  have word {value : Nat} (less : value < gridSize) : asU32 value = value :=
    asU32_small (Nat.le_of_lt (Nat.lt_of_lt_of_le less grid.small))
  unfold tileRect at found
  obtain ⟨column, remaining, found⟩ := ok_of_bind found
  obtain ⟨row, divided, found⟩ := ok_of_bind found
  rw [ok_of_rem remaining, ok_of_div divided, word (Nat.mod_lt position grid.positive),
    word (row_lt inside)] at found
  obtain ⟨minX, left, found⟩ := ok_of_bind found
  obtain ⟨minY, top, found⟩ := ok_of_bind found
  obtain ⟨nextColumn, added, found⟩ := ok_of_bind found
  rw [ok_of_add added] at found
  obtain ⟨maxX, right, found⟩ := ok_of_bind found
  obtain ⟨nextRow, added, found⟩ := ok_of_bind found
  rw [ok_of_add added] at found
  obtain ⟨maxY, bottom, found⟩ := ok_of_bind found
  rw [← Except.ok.inj found, edge_of_tileEdge grid left, edge_of_tileEdge grid top,
    edge_of_tileEdge grid right, edge_of_tileEdge grid bottom]
  rfl

end Rectangles

end Focsq.CaptchaSlider
