import Focsq.Verif.StunEncoding

/-!
# What is decoded

`decode` walks once over the attributes and then forgets where they are; the iterator walks over
them again and checks nothing. Both walks go over a list of attributes of which the body of the
datagram is the concatenation, so `decode` accepts just the datagrams with such a body, and the
iterator yields the attributes of that list.
-/

namespace Focsq.Stun

section Format

/-- An attribute as it is in a message. -/
structure Tlv where
  /-- Its type. -/
  kind : UInt16
  /-- Its value. -/
  value : List UInt8
  /-- What follows up to a multiple of four. -/
  padding : List UInt8
  /-- The length of the value is a number of two bytes. -/
  short : value.length < 2 ^ 16
  /-- The padding reaches a multiple of four, -/
  aligned : (value.length + padding.length) % 4 = 0
  /-- and the first one. -/
  little : padding.length < 4

/-- Its bytes. -/
def Tlv.bytes (tlv : Tlv) : List UInt8 :=
  Bytes.be 2 tlv.kind.toNat ++ (Bytes.be 2 tlv.value.length ++ (tlv.value ++ tlv.padding))

/-- A datagram is a message with these attributes. -/
structure WellFormed (raw : List UInt8) (tlvs : List Tlv) : Prop where
  /-- It has a header. -/
  long : headerSize ≤ raw.length
  /-- The first two bits are zero. -/
  leading : ∀ first ∈ raw.head?, first.toNat < 64
  /-- The type is not zero. -/
  kind : raw.take 2 ≠ [0, 0]
  /-- The cookie is there. -/
  cookie : Bytes.slice raw 4 8 = [0x21, 0x12, 0xa4, 0x42]
  /-- The length is a multiple of four, -/
  aligned : Bytes.fromBe (Bytes.slice raw 2 4) % 4 = 0
  /-- and that of the body. -/
  declared : Bytes.fromBe (Bytes.slice raw 2 4) = (raw.drop headerSize).length
  /-- The body are the attributes. -/
  body : raw.drop headerSize = tlvs.flatMap Tlv.bytes

/-- The attribute that is read at its position. A type that was in use before is known by the one
that took its place. -/
def Tlv.attribute (tlv : Tlv) (position : Nat) : Attribute where
  kind := if tlv.kind == 0x8020 then 0x0020 else tlv.kind
  value := tlv.value
  headerStart := position
  valueRange := (position + 4, position + 4 + tlv.value.length)

/-- The attributes that are read from a position on. -/
def listed (position : Nat) : List Tlv → List Attribute
  | [] => []
  | tlv :: rest => tlv.attribute position :: listed (position + tlv.bytes.length) rest

/-- Attributes lie one after the other and fill a part of a datagram. -/
def Tiles (raw : List UInt8) (stop : Nat) : Nat → List Attribute → Prop
  | position, [] => position = stop
  | position, entry :: rest =>
    entry.headerStart = position ∧ entry.valueRange.1 = position + 4 ∧
      entry.valueRange.1 ≤ entry.valueRange.2 ∧ entry.valueRange.2 ≤ entry.next ∧
      entry.next ≤ stop ∧ entry.value = Bytes.slice raw entry.valueRange.1 entry.valueRange.2 ∧
      Tiles raw stop entry.next rest

/-- The iterator yields attributes, never indexes out of bounds, and ends. -/
inductive Attributes.Yields : Attributes → List Attribute → Prop where
  /-- It ends. -/
  | done {attributes after : Attributes} (ends : attributes.next = some (none, after)) :
      Yields attributes []
  /-- It yields one attribute and goes on. -/
  | item {attributes after : Attributes} {entry : Attribute} {rest : List Attribute}
      (yields : attributes.next = some (some entry, after)) (later : Yields after rest) :
      Yields attributes (entry :: rest)

/-- It can yield one list only. -/
theorem Attributes.Yields.unique {attributes : Attributes} {first second : List Attribute}
    (yields : attributes.Yields first) (again : attributes.Yields second) : first = second := by
  induction yields generalizing second with
  | done ends =>
    cases again with
    | done _ => rfl
    | item yields _ =>
      rw [ends] at yields
      cases yields
  | item yields _ ih =>
    cases again with
    | done ends =>
      rw [ends] at yields
      cases yields
    | item other later =>
      rw [yields] at other
      cases other
      rw [ih later]

end Format

section Reading

/-- Value and padding have the padded length. -/
theorem Tlv.padded_eq (tlv : Tlv) :
    padded tlv.value.length = tlv.value.length + tlv.padding.length := by
  have aligned := tlv.aligned
  have little := tlv.little
  unfold padded
  omega

/-- An attribute takes four bytes and its padded value. -/
theorem Tlv.length_bytes (tlv : Tlv) : tlv.bytes.length = 4 + padded tlv.value.length := by
  rw [tlv.padded_eq]
  simp only [Tlv.bytes, List.length_append, Bytes.length_be]
  omega

/-- What follows an attribute does not matter for its bytes. -/
theorem Tlv.bytes_inj {first second : Tlv} {rest other : List UInt8}
    (same : first.bytes ++ rest = second.bytes ++ other) : first = second ∧ rest = other := by
  have kinds : (Bytes.be 2 first.kind.toNat).length = (Bytes.be 2 second.kind.toNat).length := by
    rw [Bytes.length_be, Bytes.length_be]
  have counts : (Bytes.be 2 first.value.length).length =
      (Bytes.be 2 second.value.length).length := by
    rw [Bytes.length_be, Bytes.length_be]
  unfold Tlv.bytes at same
  simp only [List.append_assoc] at same
  obtain ⟨kind, same⟩ := List.append_inj same kinds
  obtain ⟨count, same⟩ := List.append_inj same counts
  have kind : first.kind = second.kind := by
    rw [← Bytes.uint16_be first.kind, kind, Bytes.uint16_be]
  have length : first.value.length = second.value.length := by
    have back := congrArg Bytes.fromBe count
    have left := first.short
    have right := second.short
    rw [Bytes.fromBe_be, Bytes.fromBe_be] at back
    omega
  have around : first.padding.length = second.padding.length := by
    have left := first.padded_eq
    have right := second.padded_eq
    rw [length] at left
    omega
  obtain ⟨value, same⟩ := List.append_inj same length
  obtain ⟨padding, remaining⟩ := List.append_inj same around
  obtain ⟨_, _, _, _, _, _⟩ := first
  obtain ⟨_, _, _, _, _, _⟩ := second
  cases kind
  cases value
  cases padding
  exact ⟨rfl, remaining⟩

/-- So attributes are determined by their bytes. -/
theorem flatMap_bytes_inj {first second : List Tlv}
    (same : first.flatMap Tlv.bytes = second.flatMap Tlv.bytes) : first = second := by
  have some (tlv : Tlv) (rest : List Tlv) : [] ≠ (tlv :: rest).flatMap Tlv.bytes := by
    intro none
    have length := congrArg List.length none
    rw [List.flatMap_cons, List.length_append, tlv.length_bytes, List.length_nil] at length
    omega
  induction first generalizing second with
  | nil =>
    cases second with
    | nil => rfl
    | cons tlv rest => exact absurd same (some tlv rest)
  | cons tlv rest ih =>
    cases second with
    | nil => exact absurd same.symm (some tlv rest)
    | cons other others =>
      rw [List.flatMap_cons, List.flatMap_cons] at same
      obtain ⟨here, later⟩ := Tlv.bytes_inj same
      rw [here, ih later]

variable (front rest : List UInt8) (tlv : Tlv)

/-- The type of an attribute is read. -/
theorem Tlv.read_kind : u16At (front ++ (tlv.bytes ++ rest)) front.length = tlv.kind := by
  rw [← UInt16.toNat_inj, Tlv.bytes, List.append_assoc]
  exact u16At_segment _ _ _ tlv.kind.toNat_lt

/-- Its length is read. -/
theorem Tlv.read_length :
    (u16At (front ++ (tlv.bytes ++ rest)) (front.length + 2)).toNat = tlv.value.length := by
  have read := u16At_segment (front ++ Bytes.be 2 tlv.kind.toNat)
    (tlv.value ++ (tlv.padding ++ rest)) tlv.value.length tlv.short
  rw [List.length_append, Bytes.length_be] at read
  simpa only [Tlv.bytes, List.append_assoc] using read

/-- Its value is read. -/
theorem Tlv.read_value :
    Bytes.slice (front ++ (tlv.bytes ++ rest)) (front.length + 4)
      (front.length + 4 + tlv.value.length) = tlv.value := by
  have read := Bytes.slice_segment
    (front ++ (Bytes.be 2 tlv.kind.toNat ++ Bytes.be 2 tlv.value.length)) tlv.value
    (tlv.padding ++ rest)
  simp only [List.length_append, Bytes.length_be, Nat.reduceAdd] at read
  simpa only [Tlv.bytes, List.append_assoc] using read

end Reading

section Walks

/-- A number is there when its bytes are. -/
theorem indexedU16_eq (raw : List UInt8) (position : Nat) (inside : position + 2 ≤ raw.length) :
    indexedU16 raw position = some (u16At raw position) := by
  have two : Bytes.slice raw position (position + 2) =
      [raw[position], raw[position + 1]] := by
    apply List.ext_getElem?
    intro index
    by_cases low : index < 2
    · rw [Bytes.getElem?_slice raw position (position + 2) index (by omega)]
      rcases Nat.le_one_iff_eq_zero_or_eq_one.mp (Nat.le_of_lt_succ low) with first | second
      · rw [first, Nat.add_zero, List.getElem?_eq_getElem (by omega)]
        rfl
      · rw [second, List.getElem?_eq_getElem (by omega)]
        rfl
    · rw [List.getElem?_eq_none, List.getElem?_eq_none]
      · exact Nat.not_lt.mp low
      · rw [Bytes.length_slice _ _ _ inside, Nat.add_sub_cancel_left]
        exact Nat.not_lt.mp low
  unfold indexedU16 u16At
  rw [List.getElem?_eq_getElem (by omega), List.getElem?_eq_getElem (by omega), two]
  rfl

/-- The iterator reads one attribute. -/
theorem next_listed (front rest : List UInt8) (tlv : Tlv) (stop : Nat)
    (inside : front.length < stop) :
    Attributes.next ⟨front ++ (tlv.bytes ++ rest), front.length, stop⟩ =
      some (some (tlv.attribute front.length),
        ⟨front ++ (tlv.bytes ++ rest), front.length + tlv.bytes.length, stop⟩) := by
  have size := tlv.length_bytes
  have more := le_padded tlv.value.length
  have total : (front ++ (tlv.bytes ++ rest)).length =
      front.length + tlv.bytes.length + rest.length := by
    rw [List.length_append, List.length_append, Nat.add_assoc]
  have kind := indexedU16_eq (front ++ (tlv.bytes ++ rest)) front.length (by omega)
  have length := indexedU16_eq (front ++ (tlv.bytes ++ rest)) (front.length + 2) (by omega)
  have value : indexedSlice (front ++ (tlv.bytes ++ rest)) (front.length + 4)
      (front.length + 4 + tlv.value.length) = some tlv.value := by
    rw [indexedSlice, if_pos (by omega), tlv.read_value]
  unfold Attributes.next
  rw [if_neg (Nat.not_le.mpr inside)]
  dsimp only [bind, Option.bind]
  rw [kind, length]
  dsimp only
  rw [tlv.read_length, value, tlv.read_kind, size, ← Nat.add_assoc]
  rfl

/-- The iterator yields the attributes of the body. -/
theorem yields_listed (front : List UInt8) (tlvs : List Tlv) :
    Attributes.Yields ⟨front ++ tlvs.flatMap Tlv.bytes, front.length,
      (front ++ tlvs.flatMap Tlv.bytes).length⟩ (listed front.length tlvs) := by
  induction tlvs generalizing front with
  | nil =>
    have ends : (Attributes.mk (front ++ [].flatMap Tlv.bytes) front.length
        (front ++ [].flatMap Tlv.bytes).length).next = some (none, ⟨_, _, _⟩) :=
      if_pos (by rw [List.flatMap_nil, List.append_nil])
    exact .done ends
  | cons tlv rest ih =>
    have more := tlv.length_bytes
    have later := ih (front ++ tlv.bytes)
    rw [List.append_assoc, List.length_append] at later
    rw [List.flatMap_cons]
    refine .item (next_listed front _ tlv _ ?_) later
    rw [List.length_append, List.length_append]
    omega

/-- The attributes that are looked up are those that the iterator yields. -/
theorem attributesFrom_listed (front : List UInt8) (tlvs : List Tlv) (fuel : Nat)
    (enough : (tlvs.flatMap Tlv.bytes).length ≤ fuel) :
    attributesFrom (front ++ tlvs.flatMap Tlv.bytes) (front ++ tlvs.flatMap Tlv.bytes).length fuel
      front.length = listed front.length tlvs := by
  induction fuel generalizing front tlvs with
  | zero =>
    cases tlvs with
    | nil => rfl
    | cons tlv rest =>
      have size := tlv.length_bytes
      rw [List.flatMap_cons, List.length_append] at enough
      omega
  | succ fuel ih =>
    unfold attributesFrom
    cases tlvs with
    | nil =>
      rw [if_pos (by simp)]
      rfl
    | cons tlv rest =>
      have size := tlv.length_bytes
      rw [List.flatMap_cons, List.length_append] at enough
      have later := ih (front ++ tlv.bytes) rest (by omega)
      have here : attributeAt (front ++ (tlv.bytes ++ rest.flatMap Tlv.bytes)) front.length =
          tlv.attribute front.length := by
        rw [attributeAt, tlv.read_kind, tlv.read_length, tlv.read_value]
        rfl
      have next : (tlv.attribute front.length).next = front.length + tlv.bytes.length := by
        rw [size, Attribute.next, Tlv.attribute, Nat.add_sub_cancel_left]
        exact Nat.add_assoc _ _ _
      have grown : (front ++ tlv.bytes).length = front.length + tlv.bytes.length :=
        List.length_append
      rw [grown, List.append_assoc] at later
      rw [List.flatMap_cons, if_neg (by rw [List.length_append, List.length_append]; omega), here,
        next, later, listed]

/-- The attributes fill the body. -/
theorem tiles_listed (front : List UInt8) (tlvs : List Tlv) :
    Tiles (front ++ tlvs.flatMap Tlv.bytes) (front ++ tlvs.flatMap Tlv.bytes).length front.length
      (listed front.length tlvs) := by
  induction tlvs generalizing front with
  | nil =>
    rw [List.flatMap_nil, List.append_nil]
    rfl
  | cons tlv rest ih =>
    have size := tlv.length_bytes
    have more := le_padded tlv.value.length
    have later := ih (front ++ tlv.bytes)
    have next : (tlv.attribute front.length).next = front.length + tlv.bytes.length := by
      rw [size, Attribute.next, Tlv.attribute, Nat.add_sub_cancel_left]
      exact Nat.add_assoc _ _ _
    have grown : (front ++ tlv.bytes).length = front.length + tlv.bytes.length :=
      List.length_append
    rw [grown, List.append_assoc] at later
    rw [List.flatMap_cons, listed, Tiles, next]
    refine ⟨rfl, rfl, Nat.le_add_right _ _, ?_, ?_, ?_, later⟩
    · unfold Tlv.attribute
      dsimp only
      omega
    · rw [List.length_append, List.length_append]
      omega
    · exact (tlv.read_value front (rest.flatMap Tlv.bytes)).symm

/-- `decode` finds nothing wrong with the attributes of a body. -/
theorem checkAttributes_listed (front : List UInt8) (tlvs : List Tlv) (fuel : Nat) :
    checkAttributes (front ++ tlvs.flatMap Tlv.bytes) (front ++ tlvs.flatMap Tlv.bytes).length fuel
      front.length = .ok () := by
  induction fuel generalizing front tlvs with
  | zero => rfl
  | succ fuel ih =>
    unfold checkAttributes
    cases tlvs with
    | nil => rw [if_neg (by simp)]
    | cons tlv rest =>
      have size := tlv.length_bytes
      have more := le_padded tlv.value.length
      have later := ih (front ++ tlv.bytes) rest
      have length := tlv.read_length front (rest.flatMap Tlv.bytes)
      have total : (front ++ (tlv.bytes ++ rest.flatMap Tlv.bytes)).length =
          front.length + (4 + padded tlv.value.length) + (rest.flatMap Tlv.bytes).length := by
        rw [List.length_append, List.length_append, size]
        omega
      have grown : (front ++ tlv.bytes).length = front.length + 4 + padded tlv.value.length := by
        rw [List.length_append, size, Nat.add_assoc]
      rw [grown, List.append_assoc] at later
      rw [List.flatMap_cons, length]
      dsimp only
      rw [if_pos (by omega), if_neg (by omega),
        if_neg (by rw [Bool.or_eq_true, decide_eq_true_iff, decide_eq_true_iff]; omega), later]

/-- Where `decode` finds nothing wrong, there is an attribute or the end. -/
theorem exists_tlv (raw : List UInt8) (position : Nat) (header : position + 4 ≤ raw.length)
    (value : position + 4 + padded (u16At raw (position + 2)).toNat ≤ raw.length) :
    ∃ tlv : Tlv, raw.drop position = tlv.bytes ++
      raw.drop (position + 4 + padded (u16At raw (position + 2)).toNat) := by
  generalize counted : (u16At raw (position + 2)).toNat = length at value ⊢
  have small : length < 2 ^ 16 := counted ▸ (u16At raw (position + 2)).toNat_lt
  have more := le_padded length
  have size (start stop : Nat) (high : stop ≤ raw.length) :
      (Bytes.slice raw start stop).length = stop - start := Bytes.length_slice raw start stop high
  let tlv : Tlv :=
    { kind := u16At raw position
      value := Bytes.slice raw (position + 4) (position + 4 + length)
      padding := Bytes.slice raw (position + 4 + length) (position + 4 + padded length)
      short := by
        rw [size _ _ (by omega)]
        omega
      aligned := by
        rw [size _ _ (by omega), size _ _ value]
        unfold padded
        omega
      little := by
        rw [size _ _ value]
        unfold padded
        omega }
  have kind : Bytes.be 2 tlv.kind.toNat = Bytes.slice raw position (position + 2) := by
    apply Bytes.be_uint16
    rw [size _ _ (by omega), Nat.add_sub_cancel_left]
  have count : Bytes.be 2 tlv.value.length =
      Bytes.slice raw (position + 2) (position + 4) := by
    rw [size _ _ (by omega), Nat.add_sub_cancel_left, ← counted]
    apply Bytes.be_uint16
    rw [size _ _ (by omega)]
    omega
  have whole (start : Nat) : raw.drop start = Bytes.slice raw start raw.length := by
    rw [Bytes.slice, List.take_length]
  refine ⟨tlv, ?_⟩
  rw [Tlv.bytes, kind, count, whole, whole]
  simp only [List.append_assoc]
  rw [← Bytes.slice_append raw position (position + 2) raw.length (by omega) (by omega),
    ← Bytes.slice_append raw (position + 2) (position + 4) raw.length (by omega) (by omega),
    ← Bytes.slice_append raw (position + 4) (position + 4 + length) raw.length (by omega)
      (by omega),
    ← Bytes.slice_append raw (position + 4 + length) (position + 4 + padded length) raw.length
      (by omega) value]

/-- What `decode` finds nothing wrong with is a concatenation of attributes. -/
theorem exists_tlvs (raw : List UInt8) (fuel position : Nat) (inside : position ≤ raw.length)
    (enough : raw.length ≤ position + fuel)
    (checked : checkAttributes raw raw.length fuel position = .ok ()) :
    ∃ tlvs : List Tlv, raw.drop position = tlvs.flatMap Tlv.bytes := by
  induction fuel generalizing position with
  | zero => exact ⟨[], List.drop_eq_nil_of_le enough⟩
  | succ fuel ih =>
    unfold checkAttributes at checked
    by_cases more : position < raw.length
    · rw [if_pos more] at checked
      split at checked
      · cases checked
      · rename_i header
        dsimp only at checked
        split at checked
        · cases checked
        · rename_i fits
          rw [Bool.or_eq_true, decide_eq_true_iff, decide_eq_true_iff, not_or, Nat.not_lt] at fits
          obtain ⟨tlv, here⟩ := exists_tlv raw position (by omega) fits.1
          obtain ⟨tlvs, later⟩ := ih _ fits.1 (by omega) checked
          refine ⟨tlv :: tlvs, ?_⟩
          rw [here, later, List.flatMap_cons]
    · exact ⟨[], List.drop_eq_nil_of_le (Nat.not_lt.mp more)⟩

end Walks

section Acceptance

/-- The two leading bits are zero when the first byte is small. -/
theorem and_leading (high low : UInt8) :
    UInt16.ofNat (Bytes.fromBe [high, low]) &&& 0xc000 = 0 ↔ high.toNat < 64 := by
  have value : Bytes.fromBe [high, low] = high.toNat * 256 + low.toNat := by
    simp [Bytes.fromBe]
  have highest := high.toNat_lt
  have lowest := low.toNat_lt
  have number : (UInt16.ofNat (Bytes.fromBe [high, low])).toNat = high.toNat * 256 + low.toNat := by
    rw [value, UInt16.toNat_ofNat']
    omega
  rw [← UInt16.toNat_inj, UInt16.toNat_and, number]
  change (high.toNat * 256 + low.toNat) &&& 0xc000 = 0 ↔ high.toNat < 64
  constructor
  · intro none
    have bit (index : Nat) (set : Nat.testBit 0xc000 index = true) :
        (high.toNat * 256 + low.toNat).testBit index = false := by
      have zero := congrArg (Nat.testBit · index) none
      rw [Nat.testBit_and, set, Bool.and_true, Nat.zero_testBit] at zero
      exact zero
    have small : high.toNat * 256 + low.toNat < 2 ^ 14 := by
      apply Nat.lt_pow_two_of_testBit
      intro index above
      by_cases inside : index < 16
      · rcases (by omega : index = 14 ∨ index = 15) with first | second
        · rw [first]
          exact bit 14 rfl
        · rw [second]
          exact bit 15 rfl
      · exact Nat.testBit_lt_two_pow (Nat.lt_of_lt_of_le (by omega : _ < 2 ^ 16)
          (Nat.pow_le_pow_right (by decide) (Nat.not_lt.mp inside)))
    omega
  · intro small
    apply Nat.eq_of_testBit_eq
    intro index
    rw [Nat.testBit_and, Nat.zero_testBit]
    by_cases inside : index < 14
    · have unset : Nat.testBit 0xc000 index = false := by
        have all : ∀ index < 14, Nat.testBit 0xc000 index = false := by decide
        exact all index inside
      rw [unset, Bool.and_false]
    · rw [Nat.testBit_lt_two_pow (Nat.lt_of_lt_of_le (by omega : _ < 2 ^ 14)
        (Nat.pow_le_pow_right (by decide) (Nat.not_lt.mp inside))), Bool.false_and]

/-- A datagram with a header starts with four bytes. -/
theorem exists_header (raw : List UInt8) (long : headerSize ≤ raw.length) :
    ∃ high low first second rest, raw = high :: low :: first :: second :: rest := by
  unfold headerSize at long
  match raw, long with
  | high :: low :: first :: second :: rest, _ => exact ⟨high, low, first, second, rest, rfl⟩

/-- What `decode` checks in the header is what makes a message well formed. -/
theorem wellFormed_iff (raw : List UInt8) (tlvs : List Tlv) :
    WellFormed raw tlvs ↔
      headerSize ≤ raw.length ∧ u16At raw 0 &&& 0xc000 = 0 ∧ u16At raw 0 ≠ 0 ∧
        Bytes.slice raw 4 8 = Bytes.be 4 magicCookie.toNat ∧ (u16At raw 2).toNat % 4 = 0 ∧
        raw.length = headerSize + (u16At raw 2).toNat ∧
        raw.drop headerSize = tlvs.flatMap Tlv.bytes := by
  have cookie : Bytes.be 4 magicCookie.toNat = [0x21, 0x12, 0xa4, 0x42] := by decide
  have leading (long : headerSize ≤ raw.length) :
      u16At raw 0 &&& 0xc000 = 0 ↔ ∀ first ∈ raw.head?, first.toNat < 64 := by
    obtain ⟨high, low, first, second, rest, rfl⟩ := exists_header raw long
    refine Iff.trans (and_leading high low) ?_
    simp
  have kind (long : headerSize ≤ raw.length) : u16At raw 0 ≠ 0 ↔ raw.take 2 ≠ [0, 0] := by
    obtain ⟨high, low, first, second, rest, rfl⟩ := exists_header raw long
    refine not_congr ⟨fun zero => ?_, fun zero => ?_⟩
    · have digits := @Bytes.be_uint16 [high, low] rfl
      change Bytes.be 2 (u16At (high :: low :: first :: second :: rest) 0).toNat = _ at digits
      rw [zero] at digits
      exact digits.symm
    · change [high, low] = [0, 0] at zero
      cases zero
      rfl
  have declared (long : headerSize ≤ raw.length) :
      Bytes.fromBe (Bytes.slice raw 2 4) = (u16At raw 2).toNat := by
    have bound := Bytes.fromBe_lt (Bytes.slice raw 2 4)
    unfold headerSize at long
    rw [Bytes.length_slice _ _ _ (by omega)] at bound
    exact (UInt16.toNat_ofNat_of_lt' bound).symm
  constructor
  · intro formed
    have long := formed.long
    have whole := formed.declared
    have aligned := formed.aligned
    rw [declared long] at whole aligned
    rw [List.length_drop] at whole
    exact ⟨long, (leading long).mpr formed.leading, (kind long).mpr formed.kind,
      formed.cookie.trans cookie.symm, aligned, by omega, formed.body⟩
  · rintro ⟨long, zeros, some, same, aligned, whole, body⟩
    refine ⟨long, (leading long).mp zeros, (kind long).mp some, same.trans cookie, ?_, ?_, body⟩
    · rw [declared long]
      exact aligned
    · rw [declared long, List.length_drop]
      omega

/-- A datagram with a header is its header and its body. -/
theorem WellFormed.parts {raw : List UInt8} {tlvs : List Tlv} (long : headerSize ≤ raw.length)
    (body : raw.drop headerSize = tlvs.flatMap Tlv.bytes) :
    raw = raw.take headerSize ++ tlvs.flatMap Tlv.bytes ∧
      (raw.take headerSize).length = headerSize := by
  refine ⟨?_, List.length_take_of_le long⟩
  rw [← body, List.take_append_drop]

/-- The iterator over a decoded message yields the attributes of its body. -/
theorem WellFormed.yields {raw : List UInt8} {tlvs : List Tlv} (formed : WellFormed raw tlvs)
    {message : Message} (decoded : Message.decode raw = .ok message) :
    message.iterator.Yields (listed headerSize tlvs) := by
  obtain ⟨split, size⟩ := WellFormed.parts formed.long formed.body
  have yields := yields_listed (raw.take headerSize) tlvs
  rw [← split, size] at yields
  rw [(decode_ok decoded).1]
  exact yields

/-- A datagram is accepted just when it is a well-formed message. Then its attributes are
determined; the iterator yields them in order, and they fill the body. -/
theorem decode_wellFormed (raw : List UInt8) :
    ((∃ message, Message.decode raw = .ok message) ↔ ∃ tlvs, WellFormed raw tlvs) ∧
      ∀ message tlvs, Message.decode raw = .ok message → WellFormed raw tlvs →
        (∀ other, WellFormed raw other → other = tlvs) ∧
          message.iterator.Yields (listed headerSize tlvs) ∧
          message.attributes = listed headerSize tlvs ∧
          Tiles raw raw.length headerSize (listed headerSize tlvs) := by
  refine ⟨⟨?_, ?_⟩, ?_⟩
  · rintro ⟨message, decoded⟩
    obtain ⟨long, leading, kind, cookie, aligned, whole, checked, _⟩ :=
      (decode_ok_iff raw message).mp decoded
    obtain ⟨tlvs, body⟩ := exists_tlvs raw raw.length headerSize long (Nat.le_add_left _ _) checked
    exact ⟨tlvs, (wellFormed_iff raw tlvs).mpr
      ⟨long, leading, kind, cookie, aligned, whole, body⟩⟩
  · rintro ⟨tlvs, formed⟩
    obtain ⟨long, leading, kind, cookie, aligned, whole, body⟩ :=
      (wellFormed_iff raw tlvs).mp formed
    obtain ⟨split, size⟩ := WellFormed.parts long body
    have checked := checkAttributes_listed (raw.take headerSize) tlvs raw.length
    rw [← split, size] at checked
    exact ⟨_, (decode_ok_iff raw _).mpr
      ⟨long, leading, kind, cookie, aligned, whole, checked, rfl⟩⟩
  · intro message tlvs decoded formed
    obtain ⟨split, size⟩ := WellFormed.parts formed.long formed.body
    have looked := attributesFrom_listed (raw.take headerSize) tlvs raw.length (by
      rw [← formed.body, List.length_drop]
      exact Nat.sub_le _ _)
    have tiles := tiles_listed (raw.take headerSize) tlvs
    rw [← split, size] at looked tiles
    refine ⟨fun other also => flatMap_bytes_inj (also.body.symm.trans formed.body),
      formed.yields decoded, ?_, tiles⟩
    rw [(decode_ok decoded).1]
    exact looked

/-- A message with an attribute of a type that was in use before. -/
def aliasedMessage : List UInt8 :=
  [0, 1, 0, 4, 0x21, 0x12, 0xa4, 0x42, 0, 1, 2, 3, 4, 5, 6, 7, 8, 9, 10, 11, 0x80, 0x20, 0, 0]

/-- The iterator yields another type than the one in the message. -/
theorem aliasedMessage_kind :
    (∃ message, Message.decode aliasedMessage = .ok message ∧
        message.attributes.map Attribute.kind = [0x0020]) ∧
      ¬∀ raw message tlvs, Message.decode raw = .ok message → WellFormed raw tlvs →
        ∃ entries, message.iterator.Yields entries ∧
          entries.map Attribute.kind = tlvs.map Tlv.kind := by
  have accepted : ∃ message, Message.decode aliasedMessage = .ok message ∧
      message.attributes.map Attribute.kind = [0x0020] := ⟨_, rfl, by decide⟩
  refine ⟨accepted, fun always => ?_⟩
  obtain ⟨message, decoded, _⟩ := accepted
  have formed : WellFormed aliasedMessage
      [⟨0x8020, [], [], by decide, by decide, by decide⟩] := by
    constructor
    case leading =>
      intro first isFirst
      cases isFirst
      decide
    all_goals decide
  obtain ⟨entries, yields, kinds⟩ := always aliasedMessage message _ decoded formed
  rw [yields.unique (formed.yields decoded)] at kinds
  exact absurd kinds (by decide)

end Acceptance

end Focsq.Stun
