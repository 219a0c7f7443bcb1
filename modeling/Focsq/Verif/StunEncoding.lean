import Focsq.Verif.StunPrefix

/-!
# Encoded attributes

Fields, which are types with values, are written one after another, each with its length and
padded to a multiple of four. Reading from where they start yields the same fields, each with its
place.
-/

namespace Focsq.Stun

/-- A type and a value. -/
abbrev Field : Type := UInt16 × List UInt8

/-- A field as bytes. -/
def encodeField (field : Field) : List UInt8 :=
  Bytes.be 2 field.1.toNat ++ (Bytes.be 2 field.2.length ++
    (field.2 ++ List.replicate (padded field.2.length - field.2.length) 0))

/-- Fields as bytes. -/
def encodeFields (fields : List Field) : List UInt8 := fields.flatMap encodeField

/-- The attributes that fields are read as, from a position on. -/
def placed (position : Nat) : List Field → List Attribute
  | [] => []
  | field :: rest =>
    { kind := field.1
      value := field.2
      headerStart := position
      valueRange := (position + 4, position + 4 + field.2.length) } ::
        placed (position + 4 + padded field.2.length) rest

/-- Fields that can be read back: the length fits its field, and the type is not an alias. -/
def Readable (field : Field) : Prop := field.2.length < 65536 ∧ field.1 ≠ 0x8020

/-- A field takes four bytes and its padded value. -/
theorem length_encodeField (field : Field) :
    (encodeField field).length = 4 + padded field.2.length := by
  have more := le_padded field.2.length
  simp only [encodeField, List.length_append, Bytes.length_be, List.length_replicate]
  omega

/-- Fields take a multiple of four bytes. -/
theorem length_encodeFields_mod (fields : List Field) : (encodeFields fields).length % 4 = 0 := by
  induction fields with
  | nil => rfl
  | cons field rest ih =>
    have here := length_encodeField field
    simp only [encodeFields, List.flatMap_cons, List.length_append] at ih ⊢
    unfold padded at here
    omega

/-- One more field takes its bytes. -/
theorem length_encodeFields_cons (field : Field) (rest : List Field) :
    (encodeFields (field :: rest)).length =
      4 + padded field.2.length + (encodeFields rest).length := by
  rw [encodeFields, List.flatMap_cons, List.length_append, length_encodeField]
  rfl

/-- A value is not longer than all fields. -/
theorem length_le_encodeFields {fields : List Field} {field : Field} (member : field ∈ fields) :
    field.2.length ≤ (encodeFields fields).length := by
  induction fields with
  | nil => cases member
  | cons first rest ih =>
    have total := length_encodeFields_cons first rest
    cases List.mem_cons.mp member with
    | inl here =>
      have more := le_padded first.2.length
      rw [here]
      omega
    | inr later =>
      have inside := ih later
      omega

/-- Fields are written one after another. -/
theorem encodeFields_append (first second : List Field) :
    encodeFields (first ++ second) = encodeFields first ++ encodeFields second :=
  List.flatMap_append

/-- Fields are read one after another. -/
theorem placed_append (position : Nat) (first second : List Field) :
    placed position (first ++ second) =
      placed position first ++ placed (position + (encodeFields first).length) second := by
  induction first generalizing position with
  | nil => rfl
  | cons field rest ih =>
    rw [List.cons_append, placed, placed, ih, length_encodeFields_cons, List.cons_append]
    congr 3
    omega

/-- A number that was written is read back. -/
theorem u16At_segment (front rest : List UInt8) (value : Nat) (small : value < 65536) :
    (u16At (front ++ (Bytes.be 2 value ++ rest)) front.length).toNat = value := by
  have read := Bytes.slice_segment front (Bytes.be 2 value) rest
  rw [Bytes.length_be] at read
  unfold u16At
  rw [read, Bytes.fromBe_be, UInt16.toNat_ofNat']
  omega

/-- A field that was written is read back. -/
theorem attributeAt_encoded (front rest : List UInt8) (field : Field) (readable : Readable field) :
    attributeAt (front ++ (encodeField field ++ rest)) front.length =
      { kind := field.1
        value := field.2
        headerStart := front.length
        valueRange := (front.length + 4, front.length + 4 + field.2.length) } := by
  obtain ⟨fits, plain⟩ := readable
  have kind : u16At (front ++ (encodeField field ++ rest)) front.length = field.1 := by
    rw [← UInt16.toNat_inj, encodeField, List.append_assoc]
    exact u16At_segment _ _ _ field.1.toNat_lt
  have length : (u16At (front ++ (encodeField field ++ rest)) (front.length + 2)).toNat =
      field.2.length := by
    have read := u16At_segment (front ++ Bytes.be 2 field.1.toNat)
      (field.2 ++ (List.replicate (padded field.2.length - field.2.length) 0 ++ rest))
      field.2.length fits
    rw [List.length_append, Bytes.length_be] at read
    simpa only [encodeField, List.append_assoc] using read
  have value : Bytes.slice (front ++ (encodeField field ++ rest)) (front.length + 4)
      (front.length + 4 + field.2.length) = field.2 := by
    have read := Bytes.slice_segment
      (front ++ (Bytes.be 2 field.1.toNat ++ Bytes.be 2 field.2.length)) field.2
      (List.replicate (padded field.2.length - field.2.length) 0 ++ rest)
    simp only [List.length_append, Bytes.length_be, Nat.reduceAdd] at read
    simpa only [encodeField, List.append_assoc] using read
  unfold attributeAt
  rw [kind, length]
  dsimp only
  rw [value, if_neg (by simpa using plain)]

/-- The fields at the end of a message are read as they were written. -/
theorem attributesFrom_encoded (front : List UInt8) (fields : List Field)
    (readable : ∀ field ∈ fields, Readable field) (fuel : Nat)
    (enough : (encodeFields fields).length ≤ fuel) :
    attributesFrom (front ++ encodeFields fields) (front ++ encodeFields fields).length fuel
      front.length = placed front.length fields := by
  induction fields generalizing front fuel with
  | nil =>
    cases fuel with
    | zero => rfl
    | succ fuel =>
      unfold attributesFrom
      rw [if_pos (by simp [encodeFields])]
      rfl
  | cons field rest ih =>
    have total := length_encodeFields_cons field rest
    cases fuel with
    | zero => omega
    | succ fuel =>
      have here := attributeAt_encoded front (encodeFields rest) field
        (readable field List.mem_cons_self)
      have size : (front ++ encodeField field).length =
          front.length + 4 + padded field.2.length := by
        rw [List.length_append, length_encodeField, Nat.add_assoc]
      have whole : front ++ encodeFields (field :: rest) =
          (front ++ encodeField field) ++ encodeFields rest := by
        rw [encodeFields, List.flatMap_cons, List.append_assoc]
        rfl
      have later := ih (front ++ encodeField field)
        (fun field member => readable field (List.mem_cons_of_mem _ member)) fuel (by omega)
      rw [size] at later
      unfold attributesFrom
      rw [if_neg (by rw [List.length_append]; omega), whole]
      rw [List.append_assoc] at later ⊢
      rw [here, placed]
      show _ :: attributesFrom _ _ fuel (front.length + 4 +
        padded (front.length + 4 + field.2.length - (front.length + 4))) = _
      rw [Nat.add_sub_cancel_left, later]

/-- The walk over the attributes of a message finds nothing wrong with fields. -/
theorem checkAttributes_encoded (front : List UInt8) (fields : List Field)
    (readable : ∀ field ∈ fields, Readable field) (fuel : Nat) :
    checkAttributes (front ++ encodeFields fields) (front ++ encodeFields fields).length fuel
      front.length = .ok () := by
  induction fields generalizing front fuel with
  | nil =>
    cases fuel with
    | zero => rfl
    | succ fuel =>
      unfold checkAttributes
      rw [if_neg (by simp [encodeFields])]
  | cons field rest ih =>
    have total := length_encodeFields_cons field rest
    cases fuel with
    | zero => rfl
    | succ fuel =>
      have here := attributeAt_next (front ++ encodeFields (field :: rest)) front.length
      have size : (front ++ encodeField field).length =
          front.length + 4 + padded field.2.length := by
        rw [List.length_append, length_encodeField, Nat.add_assoc]
      have more := le_padded field.2.length
      have whole : front ++ encodeFields (field :: rest) =
          (front ++ encodeField field) ++ encodeFields rest := by
        rw [encodeFields, List.flatMap_cons, List.append_assoc]
        rfl
      have length : (u16At (front ++ encodeFields (field :: rest)) (front.length + 2)).toNat =
          field.2.length := by
        have read := attributeAt_encoded front (encodeFields rest) field
          (readable field List.mem_cons_self)
        have range := congrArg (fun entry => entry.valueRange.2) read
        rw [whole, List.append_assoc]
        dsimp only [attributeAt] at range
        omega
      have later := ih (front ++ encodeField field)
        (fun field member => readable field (List.mem_cons_of_mem _ member)) fuel
      rw [size, ← whole] at later
      unfold checkAttributes
      have inside : front.length + 4 + padded field.2.length ≤
          (front ++ encodeFields (field :: rest)).length := by
        rw [List.length_append]
        omega
      rw [if_pos (by omega), if_neg (by omega), length]
      dsimp only
      rw [if_neg (by simp only [Bool.or_eq_true, decide_eq_true_eq]; omega), later]

/-- Attributes have the types and values of their fields. -/
theorem placed_fields (position : Nat) (fields : List Field) :
    (placed position fields).map (fun entry => (entry.kind, entry.value)) = fields := by
  induction fields generalizing position with
  | nil => rfl
  | cons field rest ih => rw [placed, List.map_cons, ih]

/-- An attribute comes from a field. -/
theorem mem_placed {position : Nat} {fields : List Field} {entry : Attribute}
    (member : entry ∈ placed position fields) : (entry.kind, entry.value) ∈ fields := by
  have image : (entry.kind, entry.value) ∈
      (placed position fields).map (fun entry => (entry.kind, entry.value)) :=
    List.mem_map_of_mem member
  rw [placed_fields] at image
  exact image

/-- The first field of a type is found behind fields of other types. -/
theorem find_placed (position : Nat) (before after : List Field) (kind : UInt16)
    (value : List UInt8) (others : ∀ field ∈ before, field.1 ≠ kind) :
    (placed position (before ++ (kind, value) :: after)).find? (·.kind == kind) =
      some { kind
             value
             headerStart := position + (encodeFields before).length
             valueRange := (position + (encodeFields before).length + 4,
               position + (encodeFields before).length + 4 + value.length) } := by
  have none : (placed position before).find? (·.kind == kind) = none := by
    apply List.find?_eq_none.mpr
    intro entry member same
    exact others _ (mem_placed member) (by simpa using same)
  rw [placed_append, List.find?_append, none, Option.none_or, placed]
  exact List.find?_cons_of_pos (by simp)

end Focsq.Stun
