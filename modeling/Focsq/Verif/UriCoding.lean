import Focsq.Frontend.Import

/-!
# Percent encoding and its inverse

`Uri` encodes the bytes of a text one by one, so that decoding finds the bytes again, and with them
the text. Only a byte order mark in front of it is lost.
-/

namespace Focsq.Import

section Encoding

/-- A hexadecimal digit. -/
def hexDigit (value : Nat) : Char := "0123456789ABCDEF".toList.getD value '0'

/-- Whether `encodeQueryComponent` leaves a character alone. -/
def isUnreserved (char : Char) : Bool := char.isAlphanum || "-._~".toList.contains char

/-- Whether `encodeComponent` leaves a character alone. -/
def isUnreserved2396 (char : Char) : Bool := char.isAlphanum || "-_.!~*'()".toList.contains char

/-- A byte, encoded. -/
def encodeByte (keeps : Char → Bool) (spaceToPlus : Bool) (byte : UInt8) : Text :=
  if byte.toNat < 128 ∧ keeps (.ofNat byte.toNat) then [.ofNat byte.toNat]
  else if spaceToPlus = true ∧ byte = 0x20 then ['+']
  else ['%', hexDigit (byte.toNat / 16), hexDigit (byte.toNat % 16)]

/-- The bytes of a text. -/
def utf8Bytes (text : Text) : List UInt8 := text.flatMap String.utf8EncodeChar

/-- `_uriEncode`. -/
def uriEncode (keeps : Char → Bool) (spaceToPlus : Bool) (text : Text) : Text :=
  (utf8Bytes text).flatMap (encodeByte keeps spaceToPlus)

/-- `encodeQueryComponent`. -/
def encodeQueryComponent (text : Text) : Text := uriEncode isUnreserved true text

/-- `encodeComponent`. -/
def encodeComponent (text : Text) : Text := uriEncode isUnreserved2396 false text

end Encoding

section Characters

/-- A hexadecimal digit is one of these. -/
theorem hexDigit_mem (value : Nat) : hexDigit value ∈ "0123456789ABCDEF".toList := by
  by_cases small : value < 16
  · have all : ∀ digit : Fin 16, hexDigit digit ∈ "0123456789ABCDEF".toList := by decide
    exact all ⟨value, small⟩
  · have large : hexDigit value = '0' := by
      rw [hexDigit, List.getD_eq_getElem?_getD, List.getElem?_eq_none (Nat.le_of_not_lt small)]
      rfl
    rw [large]
    decide

/-- What is in an encoding is kept, stands for a space or belongs to an escape. -/
theorem mem_uriEncode {keeps : Char → Bool} {spaceToPlus : Bool} {text : Text} {char : Char}
    (member : char ∈ uriEncode keeps spaceToPlus text) :
    keeps char = true ∨ char ∈ "+%0123456789ABCDEF".toList := by
  obtain ⟨byte, -, inside⟩ := List.mem_flatMap.mp member
  have digit (value : Nat) : hexDigit value ∈ "+%0123456789ABCDEF".toList :=
    List.mem_cons_of_mem _ (List.mem_cons_of_mem _ (hexDigit_mem value))
  unfold encodeByte at inside
  split at inside
  · next kept =>
    rw [List.mem_singleton.mp inside]
    exact .inl kept.2
  · split at inside
    · rw [List.mem_singleton.mp inside]
      exact .inr (by decide)
    · simp only [List.mem_cons, List.not_mem_nil, or_false] at inside
      rcases inside with rfl | rfl | rfl
      · exact .inr (by decide)
      · exact .inr (digit _)
      · exact .inr (digit _)

/-- A character that is not kept and belongs to no escape is not in an encoding. -/
theorem not_mem_uriEncode {keeps : Char → Bool} {char : Char} (dropped : keeps char = false)
    (other : char ∉ "+%0123456789ABCDEF".toList) (spaceToPlus : Bool) (text : Text) :
    char ∉ uriEncode keeps spaceToPlus text := by
  intro member
  rcases mem_uriEncode member with kept | escape
  · rw [dropped] at kept
    cases kept
  · exact other escape

end Characters

section Bytes

/-- The digits of a byte are read. -/
theorem hexByte_hexDigit (byte : UInt8) :
    hexByte (hexDigit (byte.toNat / 16)) (hexDigit (byte.toNat % 16)) = some byte := by
  have all : ∀ digit : Fin 16, Json.hexValue (hexDigit digit) = some digit.val := by decide
  have small := byte.toNat_lt
  have high : Json.hexValue (hexDigit (byte.toNat / 16)) = some (byte.toNat / 16) :=
    all ⟨byte.toNat / 16, by omega⟩
  have low : Json.hexValue (hexDigit (byte.toNat % 16)) = some (byte.toNat % 16) :=
    all ⟨byte.toNat % 16, by omega⟩
  have whole : byte.toNat / 16 * 16 + byte.toNat % 16 = byte.toNat := by omega
  rw [hexByte, high, low]
  show some (UInt8.ofNat (byte.toNat / 16 * 16 + byte.toNat % 16)) = some byte
  rw [whole, UInt8.ofNat_toNat]

/-- The byte of an ASCII character. -/
theorem utf8EncodeChar_ascii {char : Char} (ascii : char.toNat < 128) :
    String.utf8EncodeChar char = [.ofNat char.toNat] := by
  have size : char.utf8Size = 1 := by
    rw [Char.utf8Size_eq_one_iff]
    exact UInt32.le_iff_toNat_le.mpr (Nat.lt_succ_iff.mp ascii)
  rw [String.utf8EncodeChar_eq_singleton size]
  rfl

/-- A character is the one with its code. -/
theorem toNat_ofNat_byte {byte : UInt8} (ascii : byte.toNat < 128) :
    (Char.ofNat byte.toNat).toNat = byte.toNat := by
  have valid : byte.toNat.isValidChar := .inl (by omega)
  rw [Char.ofNat, dif_pos valid]
  rfl

/-- What is neither a percent sign nor a plus sign stands for its own bytes. -/
theorem queryBytes_plain {char : Char} (percent : char ≠ '%') (plus : char ≠ '+') (rest : Text) :
    queryBytes (char :: rest) = String.utf8EncodeChar char ++ queryBytes rest := by
  rw [queryBytes]
  · exact fun _ _ _ escape => absurd escape percent
  · exact plus

/-- What is ASCII and not a percent sign stands for its own byte. -/
theorem componentBytes_plain {char : Char} (percent : char ≠ '%') (ascii : char.toNat < 128)
    (rest : Text) :
    componentBytes (char :: rest) = (componentBytes rest).map (.ofNat char.toNat :: ·) := by
  rw [componentBytes]
  · rw [if_neg]
    rintro (escape | large)
    · exact percent escape
    · omega
  · exact fun _ _ _ escape => absurd escape percent

/-- The bytes of an encoded query component. -/
theorem queryBytes_flatMap (bytes : List UInt8) (rest : Text) :
    queryBytes (bytes.flatMap (encodeByte isUnreserved true) ++ rest) =
      bytes ++ queryBytes rest := by
  induction bytes with
  | nil => rfl
  | cons byte bytes ih =>
    rw [List.flatMap_cons, List.append_assoc]
    unfold encodeByte
    split
    · next kept =>
      have ascii := toNat_ofNat_byte kept.1
      have percent : Char.ofNat byte.toNat ≠ '%' := by
        intro same
        rw [same] at kept
        cases kept.2
      have plus : Char.ofNat byte.toNat ≠ '+' := by
        intro same
        rw [same] at kept
        cases kept.2
      rw [List.singleton_append, queryBytes_plain percent plus,
        utf8EncodeChar_ascii (by rw [ascii]; exact kept.1), ascii, UInt8.ofNat_toNat]
      exact congrArg (byte :: ·) ih
    · split
      · next space =>
        rw [space.2]
        exact congrArg (0x20 :: ·) ih
      · rw [List.cons_append, List.cons_append, List.cons_append, List.nil_append, queryBytes,
          hexByte_hexDigit]
        exact congrArg (byte :: ·) ih

/-- The bytes of an encoded component, in which a space is escaped. -/
theorem componentBytes_flatMap (bytes : List UInt8) :
    componentBytes (bytes.flatMap (encodeByte isUnreserved2396 false)) = some bytes := by
  induction bytes with
  | nil => rfl
  | cons byte bytes ih =>
    rw [List.flatMap_cons]
    unfold encodeByte
    split
    · next kept =>
      have ascii := toNat_ofNat_byte kept.1
      have percent : Char.ofNat byte.toNat ≠ '%' := by
        intro same
        rw [same] at kept
        cases kept.2
      rw [List.singleton_append, componentBytes_plain percent (by rw [ascii]; exact kept.1), ascii,
        UInt8.ofNat_toNat]
      exact congrArg (Option.map (byte :: ·)) ih
    · split
      · next space => cases space.1
      · show (hexByte (hexDigit (byte.toNat / 16)) (hexDigit (byte.toNat % 16))).bind _ = _
        rw [hexByte_hexDigit]
        exact congrArg (Option.bind · fun bytes => some (byte :: bytes)) ih

end Bytes

section Texts

/-- A text that is its own decoding stands for its own bytes in a query. -/
theorem queryBytes_simple {text : Text} (simple : isSimple true text = true) :
    queryBytes text = utf8Bytes text := by
  induction text with
  | nil => rfl
  | cons char rest ih =>
    rw [isSimple, List.all_cons, Bool.and_eq_true] at simple
    have plain : (char.toNat < 128 ∧ char ≠ '%') ∧ char ≠ '+' := by
      simpa [Bool.and_eq_true] using simple.1
    rw [queryBytes_plain plain.1.2 plain.2, ih simple.2]
    rfl

/-- A text that is its own decoding stands for its own bytes in a component. -/
theorem componentBytes_simple {text : Text} (simple : isSimple false text = true) :
    componentBytes text = some (utf8Bytes text) := by
  induction text with
  | nil => rfl
  | cons char rest ih =>
    rw [isSimple, List.all_cons, Bool.and_eq_true] at simple
    have plain : char.toNat < 128 ∧ char ≠ '%' := by
      simpa [Bool.and_eq_true] using simple.1
    have bytes : utf8Bytes (char :: rest) = .ofNat char.toNat :: utf8Bytes rest := by
      rw [utf8Bytes, List.flatMap_cons, utf8EncodeChar_ascii plain.1]
      rfl
    rw [componentBytes_plain plain.2 plain.1, ih simple.2, bytes]
    rfl

/-- The byte order mark. -/
def byteOrderMark : Char := '\uFEFF'

/-- What is left of a text when its bytes are decoded. -/
def unmarked (text : Text) : Text := if text.head? = some byteOrderMark then text.tail else text

/-- The bytes of a text are decoded to it. -/
theorem fromUTF8?_utf8Bytes (text : Text) :
    (String.fromUTF8? ⟨(utf8Bytes text).toArray⟩).map String.toList = some text := by
  have same : (⟨(utf8Bytes text).toArray⟩ : ByteArray) = text.utf8Encode := by
    apply ByteArray.ext
    rw [List.utf8Encode, List.data_toByteArray]
    rfl
  have valid : text.utf8Encode.IsValidUTF8 := ByteArray.isValidUTF8_utf8Encode
  rw [same, String.fromUTF8?, dif_pos valid]
  show some (String.ofList text).toList = some text
  rw [String.toList_ofList]

/-- A text begins with the bytes of the mark only if it begins with the mark. -/
theorem take_utf8Bytes (text : Text) :
    (utf8Bytes text).take 3 = [0xEF, 0xBB, 0xBF] ↔ text.head? = some byteOrderMark := by
  cases text with
  | nil => exact iff_of_false (fun same => by cases same) fun same => by cases same
  | cons first rest =>
    constructor
    · intro front
      have mark : [0xEF, 0xBB, 0xBF] = String.utf8EncodeChar byteOrderMark := by decide
      have shape : utf8Bytes (first :: rest) = String.utf8EncodeChar first ++ utf8Bytes rest := rfl
      have whole : String.utf8EncodeChar first ++ utf8Bytes rest =
          String.utf8EncodeChar byteOrderMark ++ (utf8Bytes (first :: rest)).drop 3 := by
        rw [← mark, ← front, List.take_append_drop, shape]
      -- Both sides are decoded to their first character.
      have arrays := congrArg (fun bytes : List UInt8 => bytes.toByteArray.utf8DecodeChar? 0) whole
      simp only [List.toByteArray_append, ByteArray.utf8DecodeChar?_utf8EncodeChar_append] at arrays
      exact arrays
    · intro marked
      cases marked
      have mark : String.utf8EncodeChar byteOrderMark = [0xEF, 0xBB, 0xBF] := by decide
      show (String.utf8EncodeChar byteOrderMark ++ utf8Bytes rest).take 3 = _
      rw [mark]
      rfl

/-- The bytes of a text are decoded to it, except for a mark in front. -/
theorem decodeUtf8_utf8Bytes (text : Text) : decodeUtf8 (utf8Bytes text) = some (unmarked text) := by
  unfold decodeUtf8 unmarked
  dsimp only
  by_cases marked : text.head? = some byteOrderMark
  · rw [if_pos ((take_utf8Bytes text).mpr marked), if_pos marked]
    cases text with
    | nil => cases marked
    | cons first rest =>
      cases marked
      exact fromUTF8?_utf8Bytes rest
  · rw [if_neg fun front => marked ((take_utf8Bytes text).mp front), if_neg marked]
    exact fromUTF8?_utf8Bytes text

/-- A text of ASCII characters has no mark in front. -/
theorem unmarked_simple {plusToSpace : Bool} {text : Text}
    (simple : isSimple plusToSpace text = true) : unmarked text = text := by
  unfold unmarked
  cases text with
  | nil => rfl
  | cons first rest =>
    refine if_neg fun marked => ?_
    cases marked
    rw [isSimple, List.all_cons, Bool.and_eq_true] at simple
    cases simple.1

/-- What is read in a query is decoded from its bytes. -/
theorem decodeQueryComponent_eq (text : Text) :
    decodeQueryComponent text = decodeUtf8 (queryBytes text) := by
  unfold decodeQueryComponent
  split
  · next simple => rw [queryBytes_simple simple, decodeUtf8_utf8Bytes, unmarked_simple simple]
  · rfl

/-- A component is decoded from its bytes. -/
theorem decodeComponent_eq (text : Text) :
    decodeComponent text = (componentBytes text).bind decodeUtf8 := by
  unfold decodeComponent
  split
  · next simple =>
    rw [componentBytes_simple simple, Option.bind_some, decodeUtf8_utf8Bytes,
      unmarked_simple simple]
  · rfl

/-- Decoding undoes the encoding of a query component, except for a mark in front. -/
theorem decodeQueryComponent_encode (text : Text) :
    decodeQueryComponent (encodeQueryComponent text) = some (unmarked text) := by
  have bytes := queryBytes_flatMap (utf8Bytes text) []
  rw [List.append_nil, queryBytes, List.append_nil] at bytes
  rw [decodeQueryComponent_eq, encodeQueryComponent, uriEncode, bytes, decodeUtf8_utf8Bytes]

/-- Decoding undoes the encoding of a component, except for a mark in front. -/
theorem decodeComponent_encode (text : Text) :
    decodeComponent (encodeComponent text) = some (unmarked text) := by
  rw [decodeComponent_eq, encodeComponent, uriEncode, componentBytes_flatMap, Option.bind_some,
    decodeUtf8_utf8Bytes]

end Texts

end Focsq.Import
