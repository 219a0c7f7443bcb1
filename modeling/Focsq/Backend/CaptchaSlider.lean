import Mathlib.Algebra.Group.Nat.Defs
import Focsq.Lib.Checked

/-!
# Scores of a slider puzzle

`captcha_slider.rs` gets a picture that is cut into tiles, with a list of swaps that may put the
tiles back in place. It scores how well the tiles of a guess fit along their seams. The size of the
picture and the grid come from the server.

Coordinates are `u32` and the scores `u64`; arithmetic on them panics when it is out of range.
-/

namespace Focsq.CaptchaSlider

open Checked

/-- `Rgba<u8>`. -/
structure Rgba where
  /-- Red. -/
  red : UInt8
  /-- Green. -/
  green : UInt8
  /-- Blue. -/
  blue : UInt8
  /-- Opacity. -/
  alpha : UInt8
  deriving DecidableEq

/-- `DynamicImage` — a decoded picture. -/
structure DynamicImage where
  /-- Its width. -/
  width : UInt32
  /-- Its height. -/
  height : UInt32
  /-- Its pixels. -/
  pixels : Nat → Nat → Rgba

/-- `get_pixel`, which panics outside the picture. -/
def DynamicImage.getPixel (image : DynamicImage) (x y : Nat) : Except Panic Rgba :=
  if x < image.width.toNat ∧ y < image.height.toNat then .ok (image.pixels x y)
  else .error .outside

section Steps

/-- `MAX_SLIDER_GRID`. -/
def maxSliderGrid : Nat := 16

/-- `split_steps` — the size of the grid, the swaps and the number of attempts. -/
def splitSteps (steps : List Nat) : Except String (Nat × List Nat × Nat) :=
  match steps with
  | size :: second :: third :: rest =>
    if size = 0 ∨ maxSliderGrid < size then .error s!"invalid slider size: {size}"
    else
      let tail := second :: third :: rest
      let odd := tail.length % 2 ≠ 0
      let attempts := if odd then tail.getLast?.getD 4 else 4
      let tail := if odd then tail.dropLast else tail
      let attempts := if attempts = 0 then 4 else attempts
      if tail = [] ∨ tail.length % 2 ≠ 0 then .error "invalid slider swap payload"
      else .ok (size, tail, attempts)
  | _ => .error "slider steps payload too short"

/-- The loop of `apply_swaps` over the pairs of tiles. -/
def swapPairs (tileCount : Nat) (mapping : Array Nat) : List Nat → Except String (Array Nat)
  | first :: second :: rest =>
    if tileCount ≤ first ∨ tileCount ≤ second then
      .error s!"slider step out of range: {first},{second}"
    else swapPairs tileCount (mapping.swapIfInBounds first second) rest
  | _ => .ok mapping

/-- `apply_swaps` — which tile comes where. -/
def applySwaps (gridSize : Nat) (swaps : List Nat) : Except String (Array Nat) :=
  let tileCount := gridSize * gridSize
  if 2 ^ 64 ≤ tileCount then .error "invalid slider tile count"
  else if tileCount = 0 then .error s!"invalid slider tile count: {tileCount}"
  else if swaps.length % 2 ≠ 0 then .error s!"invalid slider swaps length: {swaps.length}"
  else swapPairs tileCount (Array.range tileCount) swaps

end Steps

section Tiles

/-- `Rect`. -/
structure Rect where
  /-- `min_x`. -/
  minX : Nat
  /-- `min_y`. -/
  minY : Nat
  /-- `max_x`. -/
  maxX : Nat
  /-- `max_y`. -/
  maxY : Nat
  deriving DecidableEq

/-- `Rect::width`. -/
def Rect.width (rect : Rect) : Except Panic Nat := sub rect.maxX rect.minX

/-- `Rect::height`. -/
def Rect.height (rect : Rect) : Except Panic Nat := sub rect.maxY rect.minY

/-- `as u32`. -/
def asU32 (value : Nat) : Nat := value % 2 ^ 32

/-- Where a tile begins in one direction, of so many in the picture. -/
def tileEdge (tile extent gridSize : Nat) : Except Panic Nat := do
  let product ← mul 32 tile extent
  div product (asU32 gridSize)

/-- `tile_rect`. -/
def tileRect (image : DynamicImage) (gridSize position : Nat) : Except Panic Rect := do
  let column ← rem position gridSize
  let row ← div position gridSize
  let minX ← tileEdge (asU32 column) image.width.toNat gridSize
  let minY ← tileEdge (asU32 row) image.height.toNat gridSize
  let maxX ← tileEdge (← add 32 (asU32 column) 1) image.width.toNat gridSize
  let maxY ← tileEdge (← add 32 (asU32 row) 1) image.height.toNat gridSize
  pure { minX, minY, maxX, maxY }

/-- A coordinate of the source of a pixel: where the pixel is in its tile, scaled to the source. -/
def scaled (position start sourceStart sourceExtent extent imageExtent : Nat) :
    Except Panic Nat := do
  let step ← sub position start
  let product ← mul 32 step sourceExtent
  let quotient ← div product extent
  let found ← add 32 sourceStart quotient
  pure (min found (imageExtent - 1))

/-- `sample`. -/
def sample (image : DynamicImage) (destination source : Rect) (x y : Nat) : Except Panic Rgba := do
  let width := max (← destination.width) 1
  let height := max (← destination.height) 1
  let sourceX ← scaled x destination.minX source.minX (← source.width) width image.width.toNat
  let sourceY ← scaled y destination.minY source.minY (← source.height) height image.height.toNat
  image.getPixel sourceX sourceY

end Tiles

section Scores

/-- `abs_diff`. -/
def absDiff (left right : Nat) : Nat := (left - right) + (right - left)

/-- `luma`; the sum fits in `i32`. -/
def luma (pixel : Rgba) : Nat :=
  (299 * pixel.red.toNat + 587 * pixel.green.toNat + 114 * pixel.blue.toNat) / 1000

/-- `pixel_diff`. -/
def pixelDiff (left right : Rgba) : Nat :=
  absDiff left.red.toNat right.red.toNat + absDiff left.green.toNat right.green.toNat +
    absDiff left.blue.toNat right.blue.toNat

variable {σ : Type}

/-- The seam between a tile and the one on its right. The score is changed with the row, the pixel
on the left and the pixel on the right. -/
def verticalSeam (image : DynamicImage) (gridSize : Nat) (mapping : Array Nat)
    (change : Nat → Rgba → Rgba → σ → Except Panic σ) (row column : Nat) (score : σ) :
    Except Panic σ := do
  let leftIndex := row * gridSize + column
  let rightIndex := leftIndex + 1
  let leftDestination ← tileRect image gridSize leftIndex
  let rightDestination ← tileRect image gridSize rightIndex
  let leftSource ← tileRect image gridSize (← index mapping.toList leftIndex)
  let rightSource ← tileRect image gridSize (← index mapping.toList rightIndex)
  let leftHeight ← leftDestination.height
  let rightHeight ← rightDestination.height
  forRange (fun offset score => do
    let y ← add 32 leftDestination.minY offset
    let left ← sample image leftDestination leftSource (← sub leftDestination.maxX 1) y
    let right ← sample image rightDestination rightSource rightDestination.minX y
    change y left right score) (min leftHeight rightHeight) score

/-- The seam between a tile and the one below it. -/
def horizontalSeam (image : DynamicImage) (gridSize : Nat) (mapping : Array Nat)
    (change : Rgba → Rgba → σ → Except Panic σ) (row column : Nat) (score : σ) :
    Except Panic σ := do
  let topIndex := row * gridSize + column
  let bottomIndex := (row + 1) * gridSize + column
  let topDestination ← tileRect image gridSize topIndex
  let bottomDestination ← tileRect image gridSize bottomIndex
  let topSource ← tileRect image gridSize (← index mapping.toList topIndex)
  let bottomSource ← tileRect image gridSize (← index mapping.toList bottomIndex)
  let topWidth ← topDestination.width
  let bottomWidth ← bottomDestination.width
  forRange (fun offset score => do
    let x ← add 32 topDestination.minX offset
    let top ← sample image topDestination topSource x (← sub topDestination.maxY 1)
    let bottom ← sample image bottomDestination bottomSource x bottomDestination.minY
    change top bottom score) (min topWidth bottomWidth) score

/-- All seams of a guess: first those between columns, then those between rows. -/
def seams (image : DynamicImage) (gridSize : Nat) (mapping : Array Nat)
    (vertical : Nat → Rgba → Rgba → σ → Except Panic σ)
    (horizontal : Rgba → Rgba → σ → Except Panic σ) (start : σ) : Except Panic σ := do
  let score ← forRange (fun row =>
    forRange (verticalSeam image gridSize mapping vertical row) (gridSize - 1)) gridSize start
  forRange (fun row =>
    forRange (horizontalSeam image gridSize mapping horizontal row) gridSize) (gridSize - 1) score

/-- `seam_score_luma`. -/
def seamScoreLuma (image : DynamicImage) (gridSize : Nat) (mapping : Array Nat) :
    Except Panic Nat :=
  let change (left right : Rgba) (score : Nat) := add 64 score (absDiff (luma left) (luma right))
  seams image gridSize mapping (fun _ => change) change 0

/-- The `weight` of `seam_score_rgb_text`: rows where there may be text count more. -/
def weight (height y : Nat) : Float :=
  let centers := [0.2 * Float.ofNat height, 0.5 * Float.ofNat height, 0.8 * Float.ofNat height]
  let sigma := max (Float.ofNat height * 0.14) 1.0
  let distance := (centers.map fun center => (Float.ofNat y - center).abs).foldl min (1.0 / 0.0)
  1.0 + 3.0 * (-(distance * distance) / (2.0 * sigma * sigma)).exp

/-- `seam_score_rgb_text`. -/
def seamScoreRgbText (image : DynamicImage) (gridSize : Nat) (mapping : Array Nat) :
    Except Panic (Nat × Float) :=
  let blueDiff (left right : Rgba) := Float.ofNat (absDiff left.blue.toNat right.blue.toNat)
  seams image gridSize mapping
    (fun y left right score => do
      let rgb ← add 64 score.1 (pixelDiff left right)
      pure (rgb, score.2 + weight image.height.toNat y * blueDiff left right))
    (fun top bottom score => do
      let rgb ← add 64 score.1 (pixelDiff top bottom)
      pure (rgb, score.2 + 0.65 * blueDiff top bottom))
    (0, 0.0)

end Scores

end Focsq.CaptchaSlider
