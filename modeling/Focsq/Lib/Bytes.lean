import Mathlib.Data.Nat.Notation
import Mathlib.Data.UInt

/-!
# Buffers and big-endian numbers

A buffer is a list. Reading a range of it and writing over a range are `slice` and `splice`; the
rules say how the two meet when one range lies before, in or after the other. Numbers are written
with the most significant byte first.
-/

namespace Bytes

variable {α : Type*}

/-- The part of a buffer from one position up to another. -/
def slice (buffer : List α) (start stop : Nat) : List α := (buffer.take stop).drop start

/-- A buffer with data written over it at a position. -/
def splice (buffer : List α) (start : Nat) (data : List α) : List α :=
  buffer.take start ++ data ++ buffer.drop (start + data.length)

/-- A slice inside the buffer has the length of its range. -/
theorem length_slice (buffer : List α) (start stop : Nat) (inside : stop ≤ buffer.length) :
    (slice buffer start stop).length = stop - start := by
  rw [slice, List.length_drop, List.length_take, Nat.min_eq_left inside]

/-- Writing inside the buffer keeps its length. -/
theorem length_splice (buffer data : List α) (start : Nat)
    (inside : start + data.length ≤ buffer.length) :
    (splice buffer start data).length = buffer.length := by
  rw [splice, List.length_append, List.length_append, List.length_take, List.length_drop]
  omega

/-- The whole buffer is a slice. -/
theorem slice_all (buffer : List α) : slice buffer 0 buffer.length = buffer := by
  rw [slice, List.take_length, List.drop_zero]

/-- Reading one position of a slice reads the buffer. -/
theorem getElem?_slice (buffer : List α) (start stop position : Nat)
    (inside : start + position < stop) :
    (slice buffer start stop)[position]? = buffer[start + position]? := by
  rw [slice, List.getElem?_drop, List.getElem?_take_of_lt inside]

/-- A slice depends on its range only. -/
theorem slice_congr (first second : List α) (start stop : Nat)
    (same : ∀ position, start ≤ position → position < stop →
      first[position]? = second[position]?) :
    slice first start stop = slice second start stop := by
  apply List.ext_getElem?
  intro position
  by_cases within : start + position < stop
  · rw [getElem?_slice _ _ _ _ within, getElem?_slice _ _ _ _ within]
    exact same _ (Nat.le_add_right _ _) within
  · have short : ∀ list : List α, (slice list start stop).length ≤ position := by
      intro list
      rw [slice, List.length_drop, List.length_take]
      omega
    rw [List.getElem?_eq_none (short _), List.getElem?_eq_none (short _)]

/-- A slice of a slice is a slice. -/
theorem slice_slice (buffer : List α) (start stop first last : Nat) (inside : start + last ≤ stop) :
    slice (slice buffer start stop) first last = slice buffer (start + first) (start + last) := by
  rw [slice, slice, slice, List.take_drop, List.take_take, Nat.min_eq_left inside,
    List.drop_drop]

/-- Slices that meet make up one. -/
theorem slice_append (buffer : List α) (start middle stop : Nat) (first : start ≤ middle)
    (second : middle ≤ stop) :
    slice buffer start middle ++ slice buffer middle stop = slice buffer start stop := by
  have whole : buffer.take middle ++ (buffer.take stop).drop middle = buffer.take stop := by
    rw [← Nat.min_eq_left second, ← List.take_take, Nat.min_eq_left second]
    exact List.take_append_drop middle (buffer.take stop)
  by_cases short : buffer.length ≤ start
  · have before : (buffer.take stop).length ≤ start := by
      rw [List.length_take]
      omega
    have left : (buffer.take middle).length ≤ start := by
      rw [List.length_take]
      omega
    simp only [slice]
    rw [List.drop_eq_nil_of_le left, List.drop_eq_nil_of_le before,
      List.drop_eq_nil_of_le (Nat.le_trans before first), List.nil_append]
  · have reach : start ≤ (buffer.take middle).length := by
      rw [List.length_take]
      omega
    simp only [slice]
    rw [← whole, List.drop_append_of_le_length reach, whole]

/-- Reading back what was written. -/
theorem slice_splice_self (buffer data : List α) (start : Nat) (inside : start ≤ buffer.length) :
    slice (splice buffer start data) start (start + data.length) = data := by
  have before : (buffer.take start).length = start := by
    rw [List.length_take, Nat.min_eq_left inside]
  have all : (buffer.take start ++ data).length = start + data.length := by
    rw [List.length_append, before]
  rw [slice, splice, List.take_left' all, List.drop_left' before]

/-- A range before the written one keeps its contents. -/
theorem slice_splice_before (buffer data : List α) (start first last : Nat) (before : last ≤ start)
    (inside : start ≤ buffer.length) :
    slice (splice buffer start data) first last = slice buffer first last := by
  have reach : last ≤ (buffer.take start).length := by
    rw [List.length_take]
    omega
  rw [slice, slice, splice, List.append_assoc, List.take_append_of_le_length reach,
    List.take_take, Nat.min_eq_left before]

/-- A range after the written one keeps its contents. -/
theorem slice_splice_after (buffer data : List α) (start first last : Nat)
    (after : start + data.length ≤ first) (inside : start + data.length ≤ buffer.length) :
    slice (splice buffer start data) first last = slice buffer first last := by
  apply List.ext_getElem?
  intro position
  have front : (buffer.take start ++ data).length = start + data.length := by
    rw [List.length_append, List.length_take, Nat.min_eq_left (by omega)]
  by_cases within : first + position < last
  · rw [getElem?_slice _ _ _ _ within, getElem?_slice _ _ _ _ within, splice,
      List.getElem?_append_right (by omega), front, List.getElem?_drop]
    congr 1
    omega
  · have short : ∀ list : List α, (slice list first last).length ≤ position := by
      intro list
      rw [slice, List.length_drop, List.length_take]
      omega
    rw [List.getElem?_eq_none (short _), List.getElem?_eq_none (short _)]

/-- Writing inside a slice is writing at the position relative to it. -/
theorem slice_splice_within (buffer data : List α) (start first last : Nat) (low : first ≤ start)
    (high : start + data.length ≤ last) (inside : last ≤ buffer.length) :
    slice (splice buffer start data) first last =
      splice (slice buffer first last) (start - first) data := by
  have split := slice_append (splice buffer start data) first start last low (by omega)
  have rest := slice_append (splice buffer start data) start (start + data.length) last
    (by omega) high
  rw [← split, ← rest, slice_splice_before _ _ _ _ _ (Nat.le_refl _) (by omega),
    slice_splice_self _ _ _ (by omega), slice_splice_after _ _ _ _ _ (Nat.le_refl _) (by omega)]
  have head : (slice buffer first last).take (start - first) = slice buffer first start := by
    rw [slice, slice, List.take_drop, List.take_take]
    congr 2
    omega
  have tail : (slice buffer first last).drop (start - first + data.length) =
      slice buffer (start + data.length) last := by
    rw [slice, slice, List.drop_drop]
    congr 1
    omega
  rw [splice, head, tail, List.append_assoc]

/-- Writing over the front of a concatenation. -/
theorem splice_append_left (front rest data : List α) (same : data.length = front.length) :
    splice (front ++ rest) 0 data = data ++ rest := by
  rw [splice, List.take_zero, List.nil_append, Nat.zero_add, same, List.drop_left]

/-- Writing behind the front of a concatenation. -/
theorem splice_append_right (front rest data : List α) (start : Nat) :
    splice (front ++ rest) (front.length + start) data = front ++ splice rest start data := by
  rw [splice, splice, List.take_length_add_append, Nat.add_assoc, List.drop_length_add_append,
    List.append_assoc, List.append_assoc, List.append_assoc]

/-- A slice of the front of a concatenation. -/
theorem slice_append_left (front rest : List α) (first last : Nat) (inside : last ≤ front.length) :
    slice (front ++ rest) first last = slice front first last := by
  rw [slice, slice, List.take_append_of_le_length inside]

/-- A slice behind the front of a concatenation. -/
theorem slice_append_right (front rest : List α) (first last : Nat) :
    slice (front ++ rest) (front.length + first) (front.length + last) = slice rest first last := by
  rw [slice, slice, List.take_length_add_append, List.drop_length_add_append]

/-- Writing over one segment of a buffer replaces it. -/
theorem splice_segment (front old rest new : List α) (same : new.length = old.length) :
    splice (front ++ (old ++ rest)) front.length new = front ++ (new ++ rest) := by
  have written := splice_append_right front (old ++ rest) new 0
  rw [Nat.add_zero] at written
  rw [written, splice_append_left old rest new same]

/-- Reading one segment of a buffer. -/
theorem slice_segment (front middle rest : List α) :
    slice (front ++ (middle ++ rest)) front.length (front.length + middle.length) = middle := by
  have moved := slice_append_right front (middle ++ rest) 0 middle.length
  rw [Nat.add_zero] at moved
  rw [moved, slice_append_left _ _ _ _ (Nat.le_refl _), slice_all]

/-- A buffer of a given length consists of segments of given lengths. -/
theorem exists_segments (buffer : List α) (first second third : Nat)
    (total : buffer.length = first + second + third) :
    ∃ front middle back, buffer = front ++ (middle ++ back) ∧ front.length = first ∧
      middle.length = second ∧ back.length = third := by
  refine ⟨buffer.take first, (buffer.drop first).take second,
    (buffer.drop first).drop second, ?_, ?_, ?_, ?_⟩
  · rw [List.take_append_drop, List.take_append_drop]
  · rw [List.length_take]
    omega
  · rw [List.length_take, List.length_drop]
    omega
  · rw [List.length_drop, List.length_drop]
    omega

section Pieces

/-- A piece stands at a position of a buffer. -/
def At (buffer : List α) (offset : Nat) (piece : List α) : Prop :=
  ∃ front back, front.length = offset ∧ buffer = front ++ (piece ++ back)

/-- The first part of a piece stands where the piece does. -/
theorem At.left {buffer first second : List α} {offset : Nat}
    (stands : At buffer offset (first ++ second)) : At buffer offset first := by
  obtain ⟨front, back, length, whole⟩ := stands
  exact ⟨front, second ++ back, length, by rw [whole, List.append_assoc]⟩

/-- The second part of a piece stands behind the first one. -/
theorem At.right {buffer first second : List α} {offset : Nat}
    (stands : At buffer offset (first ++ second)) :
    At buffer (offset + first.length) second := by
  obtain ⟨front, back, length, whole⟩ := stands
  refine ⟨front ++ first, back, ?_, ?_⟩
  · rw [List.length_append, length]
  · rw [whole, List.append_assoc, List.append_assoc]

/-- The piece behind an element. -/
theorem At.tail {buffer piece : List α} {head : α} {offset : Nat}
    (stands : At buffer offset (head :: piece)) : At buffer (offset + 1) piece := by
  have joined : At buffer offset ([head] ++ piece) := stands
  exact joined.right

/-- A piece ends inside the buffer. -/
theorem At.le {buffer piece : List α} {offset : Nat} (stands : At buffer offset piece) :
    offset + piece.length ≤ buffer.length := by
  obtain ⟨front, back, length, whole⟩ := stands
  rw [whole, List.length_append, List.length_append, length]
  omega

/-- Reading the range of a piece. -/
theorem At.slice {buffer piece : List α} {offset : Nat} (stands : At buffer offset piece) :
    slice buffer offset (offset + piece.length) = piece := by
  obtain ⟨front, back, length, whole⟩ := stands
  rw [whole, ← length, slice_segment]

/-- Reading the first element of a piece. -/
theorem At.head {buffer piece : List α} {head : α} {offset : Nat}
    (stands : At buffer offset (head :: piece)) : buffer[offset]? = some head := by
  obtain ⟨front, back, length, whole⟩ := stands
  rw [whole, ← length, List.getElem?_append_right (Nat.le_refl _), Nat.sub_self]
  rfl

end Pieces

/-- Big-endian digits of a number. -/
def be : Nat → Nat → List UInt8
  | 0, _ => []
  | width + 1, value => be width (value / 256) ++ [UInt8.ofNat value]

/-- The number with these big-endian digits. -/
def fromBe (digits : List UInt8) : Nat :=
  digits.foldl (fun value digit => value * 256 + digit.toNat) 0

/-- A number is written with as many bytes as asked for. -/
@[simp]
theorem length_be (width value : Nat) : (be width value).length = width := by
  induction width generalizing value with
  | zero => rfl
  | succ width ih => rw [be, List.length_append, ih, List.length_singleton]

/-- Reading one more digit. -/
theorem fromBe_append (digits : List UInt8) (digit : UInt8) :
    fromBe (digits ++ [digit]) = fromBe digits * 256 + digit.toNat := by
  rw [fromBe, List.foldl_append]
  rfl

/-- Reading a written number back. -/
theorem fromBe_be (width value : Nat) : fromBe (be width value) = value % 256 ^ width := by
  induction width generalizing value with
  | zero => simp [be, fromBe, Nat.mod_one]
  | succ width ih =>
    have wider : 256 ^ (width + 1) = 256 * 256 ^ width := Nat.pow_succ'
    rw [wider, Nat.mod_mul, be, fromBe_append, ih, UInt8.toNat_ofNat']
    omega

/-- A number of so many digits is bounded. -/
theorem fromBe_lt (digits : List UInt8) : fromBe digits < 256 ^ digits.length := by
  induction digits using List.reverseRecOn with
  | nil => decide
  | append_singleton digits digit ih =>
    have small := digit.toNat_lt
    rw [fromBe_append, List.length_append, List.length_singleton, Nat.pow_succ]
    omega

/-- Writing a read number back. -/
theorem be_fromBe (digits : List UInt8) : be digits.length (fromBe digits) = digits := by
  induction digits using List.reverseRecOn with
  | nil => rfl
  | append_singleton digits digit ih =>
    have small := digit.toNat_lt
    have high : (fromBe digits * 256 + digit.toNat) / 256 = fromBe digits := by omega
    have low : UInt8.ofNat (fromBe digits * 256 + digit.toNat) = digit := by
      rw [← UInt8.toNat_inj, UInt8.toNat_ofNat']
      omega
    rw [List.length_append, List.length_singleton, fromBe_append, be, high, low, ih]

section Words

/-- A word of 16 bits is read back. -/
theorem uint16_be (value : UInt16) : UInt16.ofNat (fromBe (be 2 value.toNat)) = value := by
  have fits : value.toNat < 256 ^ 2 := value.toNat_lt
  rw [fromBe_be, Nat.mod_eq_of_lt fits, UInt16.ofNat_toNat]

/-- A word of 32 bits is read back. -/
theorem uint32_be (value : UInt32) : UInt32.ofNat (fromBe (be 4 value.toNat)) = value := by
  have fits : value.toNat < 256 ^ 4 := value.toNat_lt
  rw [fromBe_be, Nat.mod_eq_of_lt fits, UInt32.ofNat_toNat]

/-- A word of 64 bits is read back. -/
theorem uint64_be (value : UInt64) : UInt64.ofNat (fromBe (be 8 value.toNat)) = value := by
  have fits : value.toNat < 256 ^ 8 := value.toNat_lt
  rw [fromBe_be, Nat.mod_eq_of_lt fits, UInt64.ofNat_toNat]

/-- Two digits are written back. -/
theorem be_uint16 {digits : List UInt8} (two : digits.length = 2) :
    be 2 (UInt16.ofNat (fromBe digits)).toNat = digits := by
  have bound := fromBe_lt digits
  rw [two] at bound
  rw [UInt16.toNat_ofNat_of_lt' bound, ← two, be_fromBe]

/-- Four digits are written back. -/
theorem be_uint32 {digits : List UInt8} (four : digits.length = 4) :
    be 4 (UInt32.ofNat (fromBe digits)).toNat = digits := by
  have bound := fromBe_lt digits
  rw [four] at bound
  rw [UInt32.toNat_ofNat_of_lt' bound, ← four, be_fromBe]

/-- Eight digits are written back. -/
theorem be_uint64 {digits : List UInt8} (eight : digits.length = 8) :
    be 8 (UInt64.ofNat (fromBe digits)).toNat = digits := by
  have bound := fromBe_lt digits
  rw [eight] at bound
  rw [UInt64.toNat_ofNat_of_lt' bound, ← eight, be_fromBe]

end Words

/-- Arrays of a fixed number of bytes. -/
abbrev Octets (size : Nat) : Type := { bytes : List UInt8 // bytes.length = size }

/-- A zeroed array with bytes copied into it. -/
def Octets.ofList {size : Nat} (bytes : List UInt8) : Octets size :=
  ⟨(bytes ++ List.replicate size 0).take size, by
    rw [List.length_take, List.length_append, List.length_replicate]
    omega⟩

/-- Copying as many bytes as the array has. -/
theorem Octets.ofList_val {size : Nat} (bytes : List UInt8) (same : bytes.length = size) :
    (Octets.ofList bytes : Octets size).val = bytes := by
  show (bytes ++ List.replicate size 0).take size = bytes
  exact List.take_left' same

end Bytes
