import Focsq.Verif.SliderTiles

/-!
# When a slider can be scored

A guess is scored without a panic if every tile has at least one pixel and at most `65536` in both
directions; a picture without pixels and a single tile have no seams to look at. In all other cases
a seam is looked at where a coordinate is out of range, so that the condition is exact.
-/

namespace Focsq.CaptchaSlider

open Checked

section Cells

variable {image : DynamicImage} {gridSize row column : Nat}

/-- Where the tile in a row and a column is. -/
structure CellAt (image : DynamicImage) (gridSize row column position : Nat) : Prop where
  /-- Its left edge. -/
  minX : (rectAt image gridSize position).minX = edge column image.width.toNat gridSize
  /-- Its upper edge. -/
  minY : (rectAt image gridSize position).minY = edge row image.height.toNat gridSize
  /-- Its right edge. -/
  maxX : (rectAt image gridSize position).maxX = edge (column + 1) image.width.toNat gridSize
  /-- Its lower edge. -/
  maxY : (rectAt image gridSize position).maxY = edge (row + 1) image.height.toNat gridSize

/-- A tile is in its row and its column. -/
theorem cellAt (image : DynamicImage) (row : Nat) (inside : column < gridSize) :
    CellAt image gridSize row column (row * gridSize + column) := by
  have quotient : (row * gridSize + column) / gridSize = row := by
    rw [Nat.mul_comm, Nat.mul_add_div (Nat.zero_lt_of_lt inside), Nat.div_eq_of_lt inside,
      Nat.add_zero]
  have remainder : (row * gridSize + column) % gridSize = column := by
    rw [Nat.mul_comm, Nat.mul_add_mod, Nat.mod_eq_of_lt inside]
  constructor <;> rw [rectAt, quotient, remainder]

/-- A row and a column are a position in the grid. -/
theorem position_lt (rowInside : row < gridSize) (columnInside : column < gridSize) :
    row * gridSize + column < gridSize * gridSize :=
  calc row * gridSize + column < row * gridSize + gridSize := Nat.add_lt_add_left columnInside _
    _ = (row + 1) * gridSize := (Nat.succ_mul row gridSize).symm
    _ ≤ gridSize * gridSize := Nat.mul_le_mul_right gridSize rowInside

/-- The width of a tile is found. -/
theorem yields_width (position : Nat) : Yields (rectAt image gridSize position).width
    (· = (rectAt image gridSize position).maxX - (rectAt image gridSize position).minX) :=
  yields_sub (Nat.le_trans (Nat.le_add_right _ _) (edge_add_le _ _ _))

/-- The height of a tile is found. -/
theorem yields_height (position : Nat) : Yields (rectAt image gridSize position).height
    (· = (rectAt image gridSize position).maxY - (rectAt image gridSize position).minY) :=
  yields_sub (Nat.le_trans (Nat.le_add_right _ _) (edge_add_le _ _ _))

end Cells

section Samples

variable {image : DynamicImage} {gridSize : Nat}

/-- The picture is not too large for the grid. -/
structure Small (image : DynamicImage) (gridSize : Nat) : Prop where
  /-- Not too wide. -/
  narrow : image.width.toNat ≤ 65536 * gridSize
  /-- Not too high. -/
  low : image.height.toNat ≤ 65536 * gridSize

/-- There is a pixel for every tile. -/
structure Large (image : DynamicImage) (gridSize : Nat) : Prop where
  /-- In every column. -/
  wide : gridSize ≤ image.width.toNat
  /-- In every row. -/
  high : gridSize ≤ image.height.toNat

/-- A coordinate inside a tile is scaled to one inside the source. -/
theorem yields_scaled {position start sourceStart sourceExtent extent imageExtent : Nat}
    (after : start ≤ position) (before : position < start + extent) (short : extent ≤ 65536)
    (some : 0 < sourceExtent) (shortSource : sourceExtent ≤ 65536)
    (inside : sourceStart + sourceExtent ≤ imageExtent) (fits : imageExtent < 2 ^ 32) :
    Yields (scaled position start sourceStart sourceExtent extent imageExtent)
      (· < imageExtent) := by
  have step : position - start < extent := by omega
  have product : (position - start) * sourceExtent ≤ 65535 * 65536 :=
    Nat.mul_le_mul (by omega) shortSource
  have quotient : (position - start) * sourceExtent / extent < sourceExtent :=
    Nat.div_lt_of_lt_mul (Nat.mul_lt_mul_of_pos_right step some)
  unfold scaled
  refine (yields_sub after).bind fun found same => ?_
  subst same
  refine (yields_mul (Nat.lt_of_le_of_lt product (by decide))).bind fun found same => ?_
  subst same
  refine (yields_div (Nat.zero_lt_of_lt step)).bind fun found same => ?_
  subst same
  refine (yields_add (by omega)).bind fun found same => ?_
  subst same
  exact yields_ok (by omega)

/-- A tile of a picture has pixels, is not too long and ends inside the picture. -/
theorem tile_extent {extent tile : Nat} (grid : GridSize gridSize) (inside : tile < gridSize)
    (short : extent ≤ 65536 * gridSize) (long : gridSize ≤ extent) :
    edge tile extent gridSize < edge (tile + 1) extent gridSize ∧
      edge (tile + 1) extent gridSize ≤ edge tile extent gridSize + 65536 ∧
      edge (tile + 1) extent gridSize ≤ extent := by
  have longer := edge_add_le tile extent gridSize
  have some : 0 < extent / gridSize := Nat.div_pos long grid.positive
  exact ⟨by omega, edge_le_add grid.positive short, edge_le grid.positive inside⟩

/-- A pixel of a tile is sampled. -/
theorem yields_sample (grid : GridSize gridSize) (small : Small image gridSize)
    (large : Large image gridSize) {destination source x y : Nat}
    (destinationInside : destination < gridSize * gridSize)
    (sourceInside : source < gridSize * gridSize)
    (left : (rectAt image gridSize destination).minX ≤ x)
    (right : x < (rectAt image gridSize destination).maxX)
    (top : (rectAt image gridSize destination).minY ≤ y)
    (bottom : y < (rectAt image gridSize destination).maxY) :
    Yields (sample image (rectAt image gridSize destination) (rectAt image gridSize source) x y)
      (fun _ => True) := by
  obtain ⟨_, columnShort, _⟩ := tile_extent grid (Nat.mod_lt destination grid.positive)
    small.narrow large.wide
  obtain ⟨_, rowShort, _⟩ := tile_extent grid (row_lt destinationInside) small.low large.high
  obtain ⟨columnSome, columnLong, columnInside⟩ :=
    tile_extent grid (Nat.mod_lt source grid.positive) small.narrow large.wide
  obtain ⟨rowSome, rowLong, rowInside⟩ :=
    tile_extent grid (row_lt sourceInside) small.low large.high
  have wide := image.width.toNat_lt
  have high := image.height.toNat_lt
  unfold sample
  refine (yields_width destination).bind fun width same => ?_
  subst same
  refine (yields_height destination).bind fun height same => ?_
  subst same
  refine (yields_width source).bind fun sourceWidth same => ?_
  subst same
  unfold rectAt at left right top bottom ⊢
  dsimp only at left right top bottom ⊢
  refine (yields_scaled left (by omega) (by omega) (by omega) (by omega) (by omega)
    wide).bind fun sourceX insideX => ?_
  refine (yields_height source).bind fun sourceHeight same => ?_
  subst same
  unfold rectAt
  dsimp only
  refine (yields_scaled top (by omega) (by omega) (by omega) (by omega) (by omega)
    high).bind fun sourceY insideY => ?_
  rw [DynamicImage.getPixel, if_pos ⟨insideX, insideY⟩]
  exact yields_ok trivial

end Samples

section Seams

variable {image : DynamicImage} {gridSize : Nat} {mapping : Array Nat} {σ : Type}

/-- Two pixels change a score by little, if there is room for it: three times `255` at most. -/
def Mild (total : σ → Nat) (change : Rgba → Rgba → σ → Except Panic σ) : Prop :=
  ∀ left right score, total score + 765 < 2 ^ 64 →
    Yields (change left right score) fun after => total after ≤ total score + 765

/-- The mapping is one of the tiles of the grid. -/
structure Mapping (mapping : Array Nat) (gridSize : Nat) : Prop where
  /-- There is one for every tile. -/
  size : mapping.toList.length = gridSize * gridSize
  /-- It is one of them. -/
  inside : ∀ tile ∈ mapping.toList, tile < gridSize * gridSize

/-- A picture whose seams can be looked at: it is small enough, and there is a pixel for every tile
if there is one for a seam. -/
structure Scorable (image : DynamicImage) (gridSize : Nat) : Prop extends Small image gridSize where
  /-- There is a pixel in every column, if there is a row. -/
  wide : 0 < image.height.toNat → gridSize ≤ image.width.toNat
  /-- There is a pixel in every row, if there is a column. -/
  high : 0 < image.width.toNat → gridSize ≤ image.height.toNat

/-- With a row of pixels, there is a pixel for every tile. -/
theorem Scorable.large_of_row (grid : GridSize gridSize) (scorable : Scorable image gridSize)
    (row : 0 < image.height.toNat) : Large image gridSize :=
  ⟨scorable.wide row,
    scorable.high (Nat.lt_of_lt_of_le grid.positive (scorable.wide row))⟩

/-- With a column of pixels, there is a pixel for every tile. -/
theorem Scorable.large_of_column (grid : GridSize gridSize) (scorable : Scorable image gridSize)
    (column : 0 < image.width.toNat) : Large image gridSize :=
  ⟨scorable.wide (Nat.lt_of_lt_of_le grid.positive (scorable.high column)),
    scorable.high column⟩

/-- A tile in a row and a column is found. -/
theorem yields_cell {row column : Nat} (grid : GridSize gridSize) (small : Small image gridSize)
    (rowInside : row < gridSize) (columnInside : column < gridSize) :
    Yields (tileRect image gridSize (row * gridSize + column))
      (· = rectAt image gridSize (row * gridSize + column)) :=
  yields_tileRect grid (position_lt rowInside columnInside) small.narrow small.low

/-- The tile that comes to a position is found. -/
theorem yields_source {β : Type} {position : Nat} {holds : β → Prop}
    {next : Rect → Except Panic β} (grid : GridSize gridSize) (small : Small image gridSize)
    (tiles : Mapping mapping gridSize) (inside : position < gridSize * gridSize)
    (after : ∀ source < gridSize * gridSize, Yields (next (rectAt image gridSize source)) holds) :
    Yields (index mapping.toList position >>= fun source =>
      tileRect image gridSize source >>= next) holds := by
  refine (yields_index (tiles.size ▸ inside)).bind fun source member => ?_
  have sourceInside := tiles.inside source member
  refine (yields_tileRect grid sourceInside small.narrow small.low).bind fun rect same => ?_
  rw [same]
  exact after source sourceInside

/-- A seam between two columns is scored. -/
theorem yields_verticalSeam {change : Nat → Rgba → Rgba → σ → Except Panic σ} {total : σ → Nat}
    {row column bound : Nat} {score : σ} (grid : GridSize gridSize)
    (scorable : Scorable image gridSize) (tiles : Mapping mapping gridSize)
    (mild : ∀ y, Mild total (change y)) (rowInside : row < gridSize)
    (columnInside : column + 1 < gridSize) (start : total score ≤ bound)
    (room : bound + 765 * 65536 < 2 ^ 64) :
    Yields (verticalSeam image gridSize mapping change row column score)
      fun after => total after ≤ bound + 765 * 65536 := by
  have leftColumn := Nat.lt_of_succ_lt columnInside
  have left := position_lt rowInside leftColumn
  have right := position_lt rowInside columnInside
  unfold verticalSeam
  refine (yields_cell grid scorable.toSmall rowInside leftColumn).bind fun rect same => ?_
  subst same
  refine (yields_cell grid scorable.toSmall rowInside columnInside).bind fun rect same => ?_
  subst same
  refine yields_source grid scorable.toSmall tiles left fun leftSource leftSourceInside => ?_
  refine yields_source grid scorable.toSmall tiles right fun rightSource rightSourceInside => ?_
  refine (yields_height _).bind fun leftHeight same => ?_
  subst same
  refine (yields_height _).bind fun rightHeight same => ?_
  subst same
  obtain ⟨leftMinX, leftMinY, leftMaxX, leftMaxY⟩ := cellAt image row leftColumn
  obtain ⟨rightMinX, rightMinY, rightMaxX, rightMaxY⟩ : CellAt image gridSize row (column + 1)
    (row * gridSize + (column + 1)) := cellAt image row columnInside
  have short : edge (row + 1) image.height.toNat gridSize ≤
      edge row image.height.toNat gridSize + 65536 := edge_le_add grid.positive scorable.low
  have insideY : edge (row + 1) image.height.toNat gridSize ≤ image.height.toNat :=
    edge_le grid.positive rowInside
  have fits := image.height.toNat_lt
  refine (yields_forRange (fun turn after => total after ≤ bound + 765 * turn) start
    fun turn before after reached => ?_).mono fun after reached => ?_
  · have large := scorable.large_of_row grid (by omega)
    obtain ⟨leftSome, _, _⟩ := tile_extent grid leftColumn scorable.narrow large.wide
    obtain ⟨rightSome, _, _⟩ := tile_extent grid columnInside scorable.narrow large.wide
    refine Yields.bind (yields_add (by omega)) fun y same => ?_
    subst same
    refine Yields.bind (yields_sub (by omega)) fun x same => ?_
    subst same
    refine (yields_sample grid scorable.toSmall large left leftSourceInside (by omega) (by omega)
      (by omega) (by omega)).bind fun leftPixel _ => ?_
    refine (yields_sample grid scorable.toSmall large right rightSourceInside (by omega) (by omega)
      (by omega) (by omega)).bind fun rightPixel _ => ?_
    refine (mild _ leftPixel rightPixel after (by omega)).mono fun result less => ?_
    calc total result ≤ total after + 765 := less
      _ ≤ bound + 765 * turn + 765 := Nat.add_le_add_right reached 765
      _ = bound + 765 * (turn + 1) := by rw [Nat.mul_succ, Nat.add_assoc]
  · omega

/-- A seam between two rows is scored. -/
theorem yields_horizontalSeam {change : Rgba → Rgba → σ → Except Panic σ} {total : σ → Nat}
    {row column bound : Nat} {score : σ} (grid : GridSize gridSize)
    (scorable : Scorable image gridSize) (tiles : Mapping mapping gridSize)
    (mild : Mild total change) (rowInside : row + 1 < gridSize)
    (columnInside : column < gridSize) (start : total score ≤ bound)
    (room : bound + 765 * 65536 < 2 ^ 64) :
    Yields (horizontalSeam image gridSize mapping change row column score)
      fun after => total after ≤ bound + 765 * 65536 := by
  have topRow := Nat.lt_of_succ_lt rowInside
  have top := position_lt topRow columnInside
  have bottom := position_lt rowInside columnInside
  unfold horizontalSeam
  refine (yields_cell grid scorable.toSmall topRow columnInside).bind fun rect same => ?_
  subst same
  refine (yields_cell grid scorable.toSmall rowInside columnInside).bind fun rect same => ?_
  subst same
  refine yields_source grid scorable.toSmall tiles top fun topSource topSourceInside => ?_
  refine yields_source grid scorable.toSmall tiles bottom fun bottomSource bottomSourceInside => ?_
  refine (yields_width _).bind fun topWidth same => ?_
  subst same
  refine (yields_width _).bind fun bottomWidth same => ?_
  subst same
  obtain ⟨topMinX, topMinY, topMaxX, topMaxY⟩ := cellAt image row columnInside
  obtain ⟨bottomMinX, bottomMinY, bottomMaxX, bottomMaxY⟩ := cellAt image (row + 1) columnInside
  have short : edge (column + 1) image.width.toNat gridSize ≤
      edge column image.width.toNat gridSize + 65536 := edge_le_add grid.positive scorable.narrow
  have insideX : edge (column + 1) image.width.toNat gridSize ≤ image.width.toNat :=
    edge_le grid.positive columnInside
  have fits := image.width.toNat_lt
  refine (yields_forRange (fun turn after => total after ≤ bound + 765 * turn) start
    fun turn before after reached => ?_).mono fun after reached => ?_
  · have large := scorable.large_of_column grid (by omega)
    obtain ⟨topSome, _, _⟩ := tile_extent grid topRow scorable.low large.high
    obtain ⟨bottomSome, _, _⟩ := tile_extent grid rowInside scorable.low large.high
    refine Yields.bind (yields_add (by omega)) fun x same => ?_
    subst same
    refine Yields.bind (yields_sub (by omega)) fun y same => ?_
    subst same
    refine (yields_sample grid scorable.toSmall large top topSourceInside (by omega) (by omega)
      (by omega) (by omega)).bind fun topPixel _ => ?_
    refine (yields_sample grid scorable.toSmall large bottom bottomSourceInside (by omega)
      (by omega) (by omega) (by omega)).bind fun bottomPixel _ => ?_
    refine (mild topPixel bottomPixel after (by omega)).mono fun result less => ?_
    calc total result ≤ total after + 765 := less
      _ ≤ bound + 765 * turn + 765 := Nat.add_le_add_right reached 765
      _ = bound + 765 * (turn + 1) := by rw [Nat.mul_succ, Nat.add_assoc]
  · omega

/-- All seams are scored. -/
theorem yields_seams {vertical : Nat → Rgba → Rgba → σ → Except Panic σ}
    {horizontal : Rgba → Rgba → σ → Except Panic σ} {total : σ → Nat} {start : σ}
    (grid : GridSize gridSize) (scorable : Scorable image gridSize)
    (tiles : Mapping mapping gridSize) (mildVertical : ∀ y, Mild total (vertical y))
    (mildHorizontal : Mild total horizontal) (zero : total start = 0) :
    Yields (seams image gridSize mapping vertical horizontal start) fun _ => True := by
  have few : gridSize ≤ 16 := grid.small
  -- Every seam adds at most `765 * 65536`, and there are at most `16 * 16` seams of either kind.
  have columns (row : Nat) (rowInside : row < gridSize) (bound : Nat) (score : σ)
      (before : total score ≤ bound) (room : bound + 765 * 65536 * 17 < 2 ^ 64) :
      Yields (forRange (verticalSeam image gridSize mapping vertical row) (gridSize - 1) score)
        fun after => total after ≤ bound + 765 * 65536 * 16 := by
    refine (yields_forRange (fun column after => total after ≤ bound + 765 * 65536 * column) before
      fun column inside after reached => ?_).mono fun after reached => ?_
    · have now : total after ≤ bound + 765 * 65536 * column := reached
      have columnInside : column + 1 < gridSize := by omega
      have seam := yields_verticalSeam grid scorable tiles mildVertical rowInside columnInside now
        (by omega)
      refine seam.mono fun result less => ?_
      calc total result ≤ bound + 765 * 65536 * column + 765 * 65536 := less
        _ = bound + 765 * 65536 * (column + 1) := by
          rw [Nat.mul_succ (765 * 65536) column, Nat.add_assoc]
    · have now : total after ≤ bound + 765 * 65536 * (gridSize - 1) := reached
      omega
  have rows (row : Nat) (rowInside : row + 1 < gridSize) (bound : Nat) (score : σ)
      (before : total score ≤ bound) (room : bound + 765 * 65536 * 17 < 2 ^ 64) :
      Yields (forRange (horizontalSeam image gridSize mapping horizontal row) gridSize score)
        fun after => total after ≤ bound + 765 * 65536 * 16 := by
    refine (yields_forRange (fun column after => total after ≤ bound + 765 * 65536 * column) before
      fun column inside after reached => ?_).mono fun after reached => ?_
    · have now : total after ≤ bound + 765 * 65536 * column := reached
      have seam := yields_horizontalSeam grid scorable tiles mildHorizontal rowInside inside now
        (by omega)
      refine seam.mono fun result less => ?_
      calc total result ≤ bound + 765 * 65536 * column + 765 * 65536 := less
        _ = bound + 765 * 65536 * (column + 1) := by
          rw [Nat.mul_succ (765 * 65536) column, Nat.add_assoc]
    · have now : total after ≤ bound + 765 * 65536 * gridSize := reached
      omega
  unfold seams
  refine Yields.bind (yields_forRange (fun row after => total after ≤ 765 * 65536 * 16 * row)
    (Nat.le_of_eq zero) fun row inside after reached => ?_) fun score reached => ?_
  · have now : total after ≤ 765 * 65536 * 16 * row := reached
    refine (columns row inside _ after now (by omega)).mono fun result less => ?_
    calc total result ≤ 765 * 65536 * 16 * row + 765 * 65536 * 16 := less
      _ = 765 * 65536 * 16 * (row + 1) := (Nat.mul_succ _ _).symm
  · have before : total score ≤ 765 * 65536 * 16 * gridSize := reached
    refine (yields_forRange (fun row after => total after ≤ 765 * 65536 * 16 * (16 + row)) ?_
      fun row inside after reached => ?_).mono fun _ _ => trivial
    · calc total score ≤ 765 * 65536 * 16 * gridSize := before
        _ ≤ 765 * 65536 * 16 * (16 + 0) := Nat.mul_le_mul_left _ few
    · have now : total after ≤ 765 * 65536 * 16 * (16 + row) := reached
      refine (rows row (by omega) _ after now (by omega)).mono fun result less => ?_
      calc total result ≤ 765 * 65536 * 16 * (16 + row) + 765 * 65536 * 16 := less
        _ = 765 * 65536 * 16 * (16 + (row + 1)) := (Nat.mul_succ _ _).symm

end Seams

section Panicking

variable {image : DynamicImage} {gridSize : Nat} {mapping : Array Nat} {σ β : Type}

/-- What panics at a tile in a row and a column panics when the tile is looked for. -/
theorem panics_cell {row column : Nat} {next : Rect → Except Panic β} (grid : GridSize gridSize)
    (rowInside : row < gridSize) (columnInside : column < gridSize)
    (after : Panics (next (rectAt image gridSize (row * gridSize + column)))) :
    Panics (tileRect image gridSize (row * gridSize + column) >>= next) :=
  panics_after fun _ found =>
    rectAt_of_tileRect grid (position_lt rowInside columnInside) found ▸ after

/-- What panics whichever tile comes to a position panics when the tile is looked for. -/
theorem panics_source {position : Nat} {next : Rect → Except Panic β} (grid : GridSize gridSize)
    (tiles : Mapping mapping gridSize)
    (after : ∀ source < gridSize * gridSize, Panics (next (rectAt image gridSize source))) :
    Panics (index mapping.toList position >>= fun source =>
      tileRect image gridSize source >>= next) := by
  refine panics_after fun source found => panics_after fun rect located => ?_
  have inside := tiles.inside source (ok_of_index found)
  rw [rectAt_of_tileRect grid inside located]
  exact after source inside

/-- Scaling a large coordinate to a large source panics. -/
theorem panics_scaled {position start sourceStart sourceExtent extent imageExtent : Nat}
    (far : 65536 ≤ position - start) (long : 65536 ≤ sourceExtent) :
    Panics (scaled position start sourceStart sourceExtent extent imageExtent) := by
  have large : 65536 * 65536 ≤ (position - start) * sourceExtent := Nat.mul_le_mul far long
  unfold scaled
  refine panics_after fun step found => ?_
  rw [ok_of_sub found]
  exact Panics.bind (panics_mul large) _

/-- Sampling far to the right in a wide source panics. -/
theorem panics_sample_x {destination source : Rect} {x : Nat} (y : Nat)
    (far : 65536 ≤ x - destination.minX) (wide : 65536 ≤ source.maxX - source.minX) :
    Panics (sample image destination source x y) := by
  unfold sample
  refine panics_after fun width _ => panics_after fun height _ => ?_
  refine panics_after fun sourceWidth found => ?_
  rw [ok_of_sub found]
  exact Panics.bind (panics_scaled far wide) _

/-- Sampling far down in a high source panics. -/
theorem panics_sample_y {destination source : Rect} {y : Nat} (x : Nat)
    (far : 65536 ≤ y - destination.minY) (high : 65536 ≤ source.maxY - source.minY) :
    Panics (sample image destination source x y) := by
  unfold sample
  refine panics_after fun width _ => panics_after fun height _ => ?_
  refine panics_after fun sourceWidth _ => panics_after fun sourceX _ => ?_
  refine panics_after fun sourceHeight found => ?_
  rw [ok_of_sub found]
  exact Panics.bind (panics_scaled far high) _

/-- The first tile of too short an extent is empty. -/
theorem edge_one_eq_zero {extent : Nat} (short : extent < gridSize) :
    edge (0 + 1) extent gridSize = 0 := by
  rw [edge, Nat.zero_add, Nat.one_mul, Nat.div_eq_of_lt short]

/-- A tile of a long extent is long. -/
theorem long_tile {extent : Nat} (tile : Nat) (grid : GridSize gridSize)
    (long : 65536 * gridSize ≤ extent) :
    65536 ≤ edge (tile + 1) extent gridSize - edge tile extent gridSize := by
  have whole := edge_add_le tile extent gridSize
  have most : 65536 ≤ extent / gridSize := (Nat.le_div_iff_mul_le grid.positive).mpr long
  omega

/-- The first seam in a row panics if the tiles have no pixel on their right, or if one of their
pixels is far down. -/
theorem panics_verticalSeam {change : Nat → Rgba → Rgba → σ → Except Panic σ} {row turn : Nat}
    (grid : GridSize gridSize) (tiles : Mapping mapping gridSize) (two : 1 < gridSize)
    (rowInside : row < gridSize)
    (inside : edge row image.height.toNat gridSize + turn <
      edge (row + 1) image.height.toNat gridSize)
    (fails : image.width.toNat < gridSize ∨
      65536 ≤ turn ∧ 65536 * gridSize ≤ image.height.toNat) (score : σ) :
    Panics (verticalSeam image gridSize mapping change row 0 score) := by
  obtain ⟨_, leftMinY, leftMaxX, leftMaxY⟩ := cellAt image row grid.positive
  obtain ⟨_, rightMinY, _, rightMaxY⟩ := cellAt image row two
  unfold verticalSeam
  refine panics_cell grid rowInside grid.positive ?_
  refine panics_cell grid rowInside two ?_
  refine panics_source grid tiles fun leftSource _ => panics_source grid tiles fun rightSource _ => ?_
  refine panics_after fun leftHeight leftFound => panics_after fun rightHeight rightFound => ?_
  have leftSame := ok_of_sub leftFound
  have rightSame := ok_of_sub rightFound
  rw [leftMinY, leftMaxY] at leftSame
  rw [rightMinY, rightMaxY] at rightSame
  have reached : turn < min leftHeight rightHeight := by omega
  refine panics_forRange reached (fun score => ?_) score
  refine panics_after fun y found => ?_
  have same := ok_of_add found
  rcases fails with narrow | ⟨far, high⟩
  · have none : (rectAt image gridSize (row * gridSize + 0)).maxX = 0 :=
      leftMaxX.trans (edge_one_eq_zero narrow)
    rw [none]
    exact Panics.bind (panics_sub Nat.one_pos) _
  · refine panics_after fun x _ => Panics.bind (panics_sample_y x ?_ ?_) _
    · omega
    · exact long_tile (leftSource / gridSize) grid high

/-- A seam in the first row panics if the tiles have no pixel at their end, or if one of their
pixels is far to the right. -/
theorem panics_horizontalSeam {change : Rgba → Rgba → σ → Except Panic σ} {column turn : Nat}
    (grid : GridSize gridSize) (tiles : Mapping mapping gridSize) (two : 1 < gridSize)
    (columnInside : column < gridSize)
    (inside : edge column image.width.toNat gridSize + turn <
      edge (column + 1) image.width.toNat gridSize)
    (fails : image.height.toNat < gridSize ∨
      65536 ≤ turn ∧ 65536 * gridSize ≤ image.width.toNat) (score : σ) :
    Panics (horizontalSeam image gridSize mapping change 0 column score) := by
  obtain ⟨topMinX, _, topMaxX, topMaxY⟩ := cellAt image 0 columnInside
  obtain ⟨bottomMinX, _, bottomMaxX, _⟩ := cellAt image (0 + 1) columnInside
  unfold horizontalSeam
  refine panics_cell grid grid.positive columnInside ?_
  refine panics_cell grid two columnInside ?_
  refine panics_source grid tiles fun topSource _ => panics_source grid tiles fun bottomSource _ => ?_
  refine panics_after fun topWidth topFound => panics_after fun bottomWidth bottomFound => ?_
  have topSame := ok_of_sub topFound
  have bottomSame := ok_of_sub bottomFound
  rw [topMinX, topMaxX] at topSame
  rw [bottomMinX, bottomMaxX] at bottomSame
  have reached : turn < min topWidth bottomWidth := by omega
  refine panics_forRange reached (fun score => ?_) score
  refine panics_after fun x found => ?_
  have same := ok_of_add found
  rcases fails with low | ⟨far, wide⟩
  · have none : (rectAt image gridSize (0 * gridSize + column)).maxY = 0 :=
      topMaxY.trans (edge_one_eq_zero low)
    rw [none]
    exact Panics.bind (panics_sub Nat.one_pos) _
  · refine panics_after fun y _ => Panics.bind (panics_sample_x y ?_ ?_) _
    · omega
    · exact long_tile (topSource % gridSize) grid wide

/-- In a picture that is not scorable, one of the seams panics. -/
theorem panics_seams {vertical : Nat → Rgba → Rgba → σ → Except Panic σ}
    {horizontal : Rgba → Rgba → σ → Except Panic σ} (grid : GridSize gridSize)
    (tiles : Mapping mapping gridSize) (two : 1 < gridSize) (start : σ)
    (unscorable : ¬Scorable image gridSize) :
    Panics (seams image gridSize mapping vertical horizontal start) := by
  have column : 0 < gridSize - 1 := by omega
  have first {row turn : Nat} (rowInside : row < gridSize)
      (inside : edge row image.height.toNat gridSize + turn <
        edge (row + 1) image.height.toNat gridSize)
      (fails : image.width.toNat < gridSize ∨
        65536 ≤ turn ∧ 65536 * gridSize ≤ image.height.toNat) :
      Panics (seams image gridSize mapping vertical horizontal start) :=
    Panics.bind (panics_forRange rowInside (fun score => panics_forRange column
      (panics_verticalSeam grid tiles two rowInside inside fails) score) start) _
  have second {column turn : Nat} (columnInside : column < gridSize)
      (inside : edge column image.width.toNat gridSize + turn <
        edge (column + 1) image.width.toNat gridSize)
      (fails : image.height.toNat < gridSize ∨
        65536 ≤ turn ∧ 65536 * gridSize ≤ image.width.toNat) :
      Panics (seams image gridSize mapping vertical horizontal start) :=
    panics_after fun score _ => panics_forRange (show 0 < gridSize - 1 by omega)
      (fun score => panics_forRange columnInside
        (panics_horizontalSeam grid tiles two columnInside inside fails) score) score
  have lastInside : gridSize - 1 < gridSize := Nat.sub_lt grid.positive Nat.one_pos
  by_cases high : 65536 * gridSize < image.height.toNat
  · obtain ⟨row, rowInside, longer⟩ := exists_longer grid.positive high
    exact first rowInside longer (.inr ⟨Nat.le_refl _, Nat.le_of_lt high⟩)
  by_cases wide : 65536 * gridSize < image.width.toNat
  · obtain ⟨column, columnInside, longer⟩ := exists_longer grid.positive wide
    exact second columnInside longer (.inr ⟨Nat.le_refl _, Nat.le_of_lt wide⟩)
  by_cases narrow : 0 < image.height.toNat ∧ image.width.toNat < gridSize
  · have inside : edge (gridSize - 1) image.height.toNat gridSize + 0 <
        edge (gridSize - 1 + 1) image.height.toNat gridSize := last_tile_pos grid.positive narrow.1
    exact first lastInside inside (.inl narrow.2)
  by_cases low : 0 < image.width.toNat ∧ image.height.toNat < gridSize
  · have inside : edge (gridSize - 1) image.width.toNat gridSize + 0 <
        edge (gridSize - 1 + 1) image.width.toNat gridSize := last_tile_pos grid.positive low.1
    exact second lastInside inside (.inl low.2)
  exact absurd ⟨⟨Nat.not_lt.mp wide, Nat.not_lt.mp high⟩,
    fun row => Nat.not_lt.mp fun less => narrow ⟨row, less⟩,
    fun column => Nat.not_lt.mp fun less => low ⟨column, less⟩⟩ unscorable

end Panicking

section Scores

variable {image : DynamicImage} {gridSize : Nat} {mapping : Array Nat}

/-- A picture whose guesses can be scored: there are no seams, or no pixels, or every tile has at
least one pixel and at most `65536` in both directions. -/
def SafeSize (gridSize width height : Nat) : Prop :=
  gridSize = 1 ∨ (width = 0 ∧ height = 0) ∨
    (gridSize ≤ width ∧ width ≤ 65536 * gridSize) ∧
      gridSize ≤ height ∧ height ≤ 65536 * gridSize

/-- With more than one tile, these are the pictures whose seams can be looked at. -/
theorem safeSize_iff (two : 1 < gridSize) :
    SafeSize gridSize image.width.toNat image.height.toNat ↔ Scorable image gridSize := by
  unfold SafeSize
  constructor
  · intro safe
    exact ⟨⟨by omega, by omega⟩, fun _ => by omega, fun _ => by omega⟩
  · rintro ⟨⟨narrow, low⟩, wide, high⟩
    by_cases none : image.height.toNat = 0
    · have column : ¬0 < image.width.toNat := fun some => by
        have := high some
        omega
      omega
    · have enough := wide (Nat.pos_of_ne_zero none)
      have more := high (by omega)
      omega

/-- The difference of two bytes is a byte. -/
theorem absDiff_lt (left right : UInt8) : absDiff left.toNat right.toNat ≤ 255 := by
  have one := left.toNat_lt
  have other := right.toNat_lt
  unfold absDiff
  omega

/-- A brightness is a byte. -/
theorem luma_le (pixel : Rgba) : luma pixel ≤ 255 := by
  have red := pixel.red.toNat_lt
  have green := pixel.green.toNat_lt
  have blue := pixel.blue.toNat_lt
  unfold luma
  omega

/-- The brightness of two pixels changes the score by little. -/
theorem mild_luma : Mild (fun score => score)
    fun left right score => add 64 score (absDiff (luma left) (luma right)) := by
  intro left right score room
  have enough : score + 765 < 2 ^ 64 := room
  have one := luma_le left
  have other := luma_le right
  have difference : absDiff (luma left) (luma right) ≤ 765 := by
    unfold absDiff
    omega
  refine (yields_add (by omega)).mono fun after same => ?_
  show after ≤ score + 765
  omega

/-- The colours of two pixels change the score by little. -/
theorem mild_rgb (text : Rgba → Rgba → Nat × Float → Float) :
    Mild Prod.fst (fun left right score => do
      let rgb ← add 64 score.1 (pixelDiff left right)
      pure (rgb, text left right score)) := by
  intro left right score room
  have red := absDiff_lt left.red right.red
  have green := absDiff_lt left.green right.green
  have blue := absDiff_lt left.blue right.blue
  have difference : pixelDiff left right ≤ 765 := by
    unfold pixelDiff
    omega
  refine (yields_add (by omega)).bind fun after same => yields_ok ?_
  show after ≤ score.1 + 765
  omega

/-- The tiles after swaps are those of the grid. -/
theorem mapping_of_perm (perm : mapping.toList.Perm (List.range (gridSize * gridSize))) :
    Mapping mapping gridSize :=
  ⟨perm.length_eq.trans List.length_range, fun _ member => List.mem_range.mp (perm.mem_iff.mp member)⟩

/-- Swaps that are accepted permute the tiles. -/
theorem applySwaps_perm {swaps : List Nat} (accepted : applySwaps gridSize swaps = .ok mapping) :
    mapping.toList.Perm (List.range (gridSize * gridSize)) := by
  unfold applySwaps at accepted
  dsimp only at accepted
  split at accepted
  · cases accepted
  · split at accepted
    · cases accepted
    · split at accepted
      · cases accepted
      · have perm := swapPairs_perm accepted
        rw [Array.toList_range] at perm
        exact perm

/-- Swaps that are accepted permute the tiles, and the guess is scored without arithmetic out of
range and without a pixel outside the picture, if the size of the picture is safe, and only then. -/
theorem scores_safe_iff (image : DynamicImage) {steps tail swaps : List Nat} {attempts : Nat}
    (admitted : splitSteps steps = .ok (gridSize, tail, attempts))
    (accepted : applySwaps gridSize swaps = .ok mapping) :
    (mapping.toList.Perm (List.range (gridSize * gridSize)) ∧
      (∃ score, seamScoreLuma image gridSize mapping = .ok score) ∧
      ∃ scores, seamScoreRgbText image gridSize mapping = .ok scores) ↔
      SafeSize gridSize image.width.toNat image.height.toNat := by
  have grid := gridSize_of_splitSteps admitted
  have perm := applySwaps_perm accepted
  have tiles := mapping_of_perm perm
  by_cases single : gridSize = 1
  · subst single
    exact ⟨fun _ => .inl rfl, fun _ => ⟨perm, ⟨0, rfl⟩, ⟨_, rfl⟩⟩⟩
  · have positive := grid.positive
    have two : 1 < gridSize := by omega
    rw [safeSize_iff two]
    constructor
    · rintro ⟨_, ⟨score, scored⟩, _⟩
      by_contra unscorable
      obtain ⟨reason, failed⟩ : Panics (seamScoreLuma image gridSize mapping) :=
        panics_seams grid tiles two 0 unscorable
      rw [scored] at failed
      cases failed
    · intro scorable
      obtain ⟨score, scored, _⟩ : Yields (seamScoreLuma image gridSize mapping) fun _ => True :=
        yields_seams grid scorable tiles (fun _ => mild_luma) mild_luma rfl
      obtain ⟨scores, both, _⟩ : Yields (seamScoreRgbText image gridSize mapping) fun _ => True :=
        yields_seams grid scorable tiles (fun _ => mild_rgb _) (mild_rgb _) rfl
      exact ⟨perm, ⟨score, scored⟩, ⟨scores, both⟩⟩

/-- A black picture. -/
def black (width height : UInt32) : DynamicImage := ⟨width, height, fun _ _ => ⟨0, 0, 0, 255⟩⟩

/-- A guess for two by two tiles with a pixel each is scored. -/
theorem scores_safe_iff_pixels :
    (#[1, 0, 2, 3].toList.Perm (List.range (2 * 2)) ∧
      (∃ score, seamScoreLuma (black 2 2) 2 #[1, 0, 2, 3] = .ok score) ∧
      ∃ scores, seamScoreRgbText (black 2 2) 2 #[1, 0, 2, 3] = .ok scores) ∧
    SafeSize 2 2 2 :=
  have safe : SafeSize 2 2 2 := .inr (.inr (by decide))
  ⟨(@scores_safe_iff 2 #[1, 0, 2, 3] (black 2 2) [2, 0, 1] [0, 1] [0, 1] 4 rfl rfl).mpr safe, safe⟩

/-- A picture of one pixel is too narrow for two columns. -/
theorem scores_unsafe :
    ¬∀ (image : DynamicImage) (gridSize attempts : Nat) (steps tail swaps : List Nat)
      (mapping : Array Nat), splitSteps steps = .ok (gridSize, tail, attempts) →
      applySwaps gridSize swaps = .ok mapping →
      mapping.toList.Perm (List.range (gridSize * gridSize)) ∧
        (∃ score, seamScoreLuma image gridSize mapping = .ok score) ∧
        ∃ scores, seamScoreRgbText image gridSize mapping = .ok scores := by
  intro always
  obtain ⟨perm, ⟨score, scored⟩, _⟩ :=
    always (black 1 1) 2 4 [2, 0, 1] [0, 1] [0, 1] #[1, 0, 2, 3] rfl rfl
  have unscorable : ¬Scorable (black 1 1) 2 := fun scorable =>
    absurd (scorable.wide (by decide)) (by decide)
  obtain ⟨reason, failed⟩ : Panics (seamScoreLuma (black 1 1) 2 #[1, 0, 2, 3]) :=
    panics_seams ⟨by decide, by decide⟩ (mapping_of_perm perm) (by decide) 0 unscorable
  rw [scored] at failed
  cases failed

end Scores

end Focsq.CaptchaSlider
