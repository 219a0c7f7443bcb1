import Focsq.Lib.Bytes

/-!
# Records with a length and a kind

A record is written as its length with these four bytes, its kind and its payload, each number with
its lowest byte first, and is filled up to a multiple of four bytes. Reading goes from one record to
the next; what was written is read back.
-/

namespace Tlv

/-- A number with its lowest byte first. -/
def le (width value : Nat) : List UInt8 := (Bytes.be width value).reverse

/-- The number that is written so. -/
def fromLe (digits : List UInt8) : Nat := Bytes.fromBe digits.reverse

/-- A number is written with as many bytes as asked for. -/
@[simp]
theorem length_le (width value : Nat) : (le width value).length = width := by
  rw [le, List.length_reverse, Bytes.length_be]

/-- Reading a written number back. -/
theorem fromLe_le {width value : Nat} (small : value < 256 ^ width) :
    fromLe (le width value) = value := by
  rw [fromLe, le, List.reverse_reverse, Bytes.fromBe_be, Nat.mod_eq_of_lt small]

/-- What fills up a length to a multiple of four. -/
def padding (length : Nat) : List UInt8 := List.replicate ((4 - length % 4) % 4) 0

/-- A length that is filled up is a multiple of four. -/
theorem length_padding (length : Nat) : (length + (padding length).length) % 4 = 0 := by
  rw [padding, List.length_replicate]
  omega

/-- A record. -/
structure Record where
  /-- The kind. -/
  kind : UInt16
  /-- The payload. -/
  payload : List UInt8
  deriving DecidableEq

/-- The bytes of a record. -/
def Record.encode (record : Record) : List UInt8 :=
  le 2 (4 + record.payload.length) ++ le 2 record.kind.toNat ++ record.payload ++
    padding record.payload.length

/-- The bytes of records one after the other. -/
def encode (records : List Record) : List UInt8 := records.flatMap Record.encode

/-- A record at the front, and what follows it. -/
def readRecord (bytes : List UInt8) : Option (Record × List UInt8) :=
  let length := fromLe (bytes.take 2)
  if bytes.length < 4 ∨ length < 4 ∨ bytes.length < length then none
  else
    some (⟨UInt16.ofNat (fromLe ((bytes.drop 2).take 2)), (bytes.drop 4).take (length - 4)⟩,
      bytes.drop (length + (padding length).length))

/-- The records, at most so many. -/
def decode : Nat → List UInt8 → Option (List Record)
  | _, [] => some []
  | 0, _ :: _ => none
  | most + 1, byte :: bytes => do
    let (record, rest) ← readRecord (byte :: bytes)
    let records ← decode most rest
    return record :: records

/-- A record takes a multiple of four bytes. -/
theorem length_encode (record : Record) : record.encode.length % 4 = 0 := by
  have filled := length_padding record.payload.length
  rw [Record.encode, List.length_append, List.length_append, List.length_append, length_le,
    length_le]
  omega

/-- There are no more records than bytes. -/
theorem length_le_encode (records : List Record) : records.length ≤ (encode records).length := by
  induction records with
  | nil => exact Nat.le_refl _
  | cons record records ih =>
    have some_byte : 1 ≤ record.encode.length := by
      rw [Record.encode, List.length_append, List.length_append, List.length_append, length_le]
      omega
    rw [encode, List.flatMap_cons, List.length_append, List.length_cons, ← encode]
    omega

/-- A record that was written is read back, whatever follows. -/
theorem readRecord_encode {record : Record} (fits : 4 + record.payload.length < 65536)
    (rest : List UInt8) : readRecord (record.encode ++ rest) = some (record, rest) := by
  obtain ⟨kind, payload⟩ := record
  have two (value : Nat) : ∃ low high, le 2 value = [low, high] :=
    match le 2 value, length_le 2 value with
    | [low, high], _ => ⟨low, high, rfl⟩
  obtain ⟨low, high, lengthBytes⟩ := two (4 + payload.length)
  obtain ⟨first, second, kindBytes⟩ := two kind.toNat
  have length : fromLe [low, high] = 4 + payload.length := by
    rw [← lengthBytes, fromLe_le fits]
  have sort : UInt16.ofNat (fromLe [first, second]) = kind := by
    rw [← kindBytes, fromLe_le kind.toNat_lt, UInt16.ofNat_toNat]
  have same : (padding (4 + payload.length)).length = (padding payload.length).length := by
    rw [padding, padding, List.length_replicate, List.length_replicate]
    omega
  have whole : Record.encode ⟨kind, payload⟩ ++ rest =
      low :: high :: first :: second :: (payload ++ (padding payload.length ++ rest)) := by
    rw [Record.encode, lengthBytes, kindBytes]
    simp
  rw [whole, readRecord]
  simp only [List.take_succ_cons, List.take_zero, List.drop_succ_cons, List.drop_zero, length,
    List.length_cons, List.length_append]
  rw [if_neg (by omega)]
  have taken : (payload ++ (padding payload.length ++ rest)).take (4 + payload.length - 4) =
      payload := by
    rw [Nat.add_sub_cancel_left, List.take_left]
  have left : (low :: high :: first :: second :: (payload ++ (padding payload.length ++ rest))).drop
      (4 + payload.length + (padding (4 + payload.length)).length) = rest := by
    rw [same, show 4 + payload.length + (padding payload.length).length =
      (payload ++ padding payload.length).length + 1 + 1 + 1 + 1 by
        rw [List.length_append]
        omega]
    simp only [List.drop_succ_cons]
    rw [← List.append_assoc, List.drop_left]
  rw [taken, left, sort]

/-- Records that were written are read back. -/
theorem decode_encode {records : List Record}
    (fit : ∀ record ∈ records, 4 + record.payload.length < 65536) {most : Nat}
    (enough : records.length ≤ most) : decode most (encode records) = some records := by
  induction records generalizing most with
  | nil => cases most <;> rfl
  | cons record records ih =>
    cases most with
    | zero => exact absurd enough (Nat.not_succ_le_zero _)
    | succ most =>
      have read := readRecord_encode (fit record List.mem_cons_self) (encode records)
      have later := ih (fun other member => fit other (List.mem_cons_of_mem _ member))
        (Nat.le_of_succ_le_succ enough)
      rw [encode, List.flatMap_cons, ← encode]
      cases whole : record.encode ++ encode records with
      | nil =>
        rw [whole] at read
        cases read
      | cons byte bytes =>
        rw [whole] at read
        rw [decode, read]
        show (decode most (encode records)).bind _ = _
        rw [later]
        rfl

end Tlv
