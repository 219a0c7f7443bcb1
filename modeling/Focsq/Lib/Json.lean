import Focsq.Lib.Text

/-!
# JSON

A reader for JSON that behaves as `jsonDecode` of Dart: a number without fraction and exponent that
fits into 64 bits is an integer, and any other one is a double, whose type and meaning are
parameters. A writer for flat objects behaves as `serde_json::to_string`. The reader reads what the
writer writes.

A string of Dart can contain one half of a surrogate pair without the other. Here the replacement
character stands for it.
-/

/-- A JSON value. -/
inductive Json (δ : Type) where
  /-- `null`. -/
  | null
  /-- `true` or `false`. -/
  | bool (value : Bool)
  /-- A number that is an `int`. -/
  | int (value : Int)
  /-- A number that is a `double`. -/
  | double (value : δ)
  /-- A string. -/
  | string (value : Text)
  /-- An array. -/
  | array (items : List (Json δ))
  /-- An object, with its members in their order. -/
  | object (members : List (Text × Json δ))

namespace Json

section Read

/-- White space of JSON. -/
def isSpace (char : Char) : Bool := char == ' ' || char == '\t' || char == '\n' || char == '\r'

/-- The text after white space. -/
def skip (text : Text) : Text := text.dropWhile isSpace

/-- The value of a hexadecimal digit. -/
def hexValue (char : Char) : Option Nat :=
  if '0' ≤ char ∧ char ≤ '9' then some (char.toNat - '0'.toNat)
  else if 'a' ≤ char ∧ char ≤ 'f' then some (char.toNat - 'a'.toNat + 10)
  else if 'A' ≤ char ∧ char ≤ 'F' then some (char.toNat - 'A'.toNat + 10)
  else none

/-- The value of four hexadecimal digits. -/
def hexUnit (first second third fourth : Char) : Option Nat :=
  (hexValue first).bind fun a => (hexValue second).bind fun b => (hexValue third).bind fun c =>
    (hexValue fourth).map fun d => ((a * 16 + b) * 16 + c) * 16 + d

/-- What a character stands for after a backslash, other than `u`. -/
def unescape (kind : Char) : Option Nat :=
  if kind = '"' ∨ kind = '\\' ∨ kind = '/' then some kind.toNat
  else if kind = 'b' then some 8
  else if kind = 'f' then some 12
  else if kind = 'n' then some 10
  else if kind = 'r' then some 13
  else if kind = 't' then some 9
  else none

/-- One more unit at the front. -/
def push (unit : Nat) (read : List Nat × Text) : List Nat × Text := (unit :: read.1, read.2)

/-- The rest of a string as code units or code points, and what comes after it. -/
def readUnits : Text → Option (List Nat × Text)
  | [] => none
  | char :: rest =>
    if char = '"' then some ([], rest)
    else if char = '\\' then
      match rest with
      | [] => none
      | kind :: more =>
        if kind = 'u' then
          match more with
          | first :: second :: third :: fourth :: later =>
            (hexUnit first second third fourth).bind fun unit => (readUnits later).map (push unit)
          | _ => none
        else (unescape kind).bind fun unit => (readUnits more).map (push unit)
    else if char.toNat < 0x20 then none
    else (readUnits rest).map (push char.toNat)
termination_by structural text => text

/-- The first half of a surrogate pair. -/
def isHigh (unit : Nat) : Bool := 0xD800 ≤ unit && unit < 0xDC00

/-- The second half. -/
def isLow (unit : Nat) : Bool := 0xDC00 ≤ unit && unit < 0xE000

/-- A unit by itself. -/
def single (unit : Nat) : Char :=
  if isHigh unit || isLow unit then Char.ofNat 0xFFFD else Char.ofNat unit

/-- The characters that units stand for. -/
def joinUnits : List Nat → Text
  | [] => []
  | [unit] => [single unit]
  | high :: low :: rest =>
    if isHigh high && isLow low then
      Char.ofNat (0x10000 + (high - 0xD800) * 0x400 + (low - 0xDC00)) :: joinUnits rest
    else single high :: joinUnits (low :: rest)

/-- The rest of a string, and what comes after it. -/
def readString (text : Text) : Option (Text × Text) :=
  (readUnits text).map fun read => (joinUnits read.1, read.2)

/-- The fraction of a number, if any, and what comes after it. -/
def readFraction (text : Text) : Option (Text × Text) :=
  if text.head? = some '.' then
    let digits := text.tail.takeWhile Char.isDigit
    if digits.isEmpty then none else some ('.' :: digits, text.tail.dropWhile Char.isDigit)
  else some ([], text)

/-- The sign of an exponent, if any. -/
def signOf (text : Text) : Text :=
  if text.head? = some '+' ∨ text.head? = some '-' then text.take 1 else []

/-- The exponent of a number, if any, and what comes after it. -/
def readExponent (text : Text) : Option (Text × Text) :=
  if text.head? = some 'e' ∨ text.head? = some 'E' then
    let sign := signOf text.tail
    let digits := (text.tail.drop sign.length).takeWhile Char.isDigit
    if digits.isEmpty then none
    else some (text.take 1 ++ sign ++ digits,
      (text.tail.drop sign.length).dropWhile Char.isDigit)
  else some ([], text)

/-- What is used of doubles. -/
structure Doubles (δ : Type) where
  /-- `parse`. -/
  parse : Text → δ
  /-- `toInt` — it throws when there is no such integer. -/
  toInt : δ → Option Int
  /-- `toString`. -/
  text : δ → Text

/-- Doubles by their literals, none of which is used as an integer. -/
def Doubles.literals : Doubles Text := ⟨id, fun _ => none, id⟩

variable {δ : Type} (doubles : Doubles δ)

/-- Whether a number is an `int`. -/
def fits64 (value : Int) : Bool := -2 ^ 63 ≤ value && value < 2 ^ 63

/-- A number from its parts. -/
def number (negative : Bool) (digits fraction exponent : Text) : Json δ :=
  let value : Int :=
    if negative then -(Nat.ofDigitChars 10 digits 0 : Int) else Nat.ofDigitChars 10 digits 0
  let zero := negative && value == 0
  if fraction.isEmpty && exponent.isEmpty && !zero && fits64 value then .int value
  else .double (doubles.parse ((if negative then ['-'] else []) ++ digits ++ fraction ++ exponent))

/-- A number, and what comes after it. -/
def readNumber (text : Text) : Option (Json δ × Text) :=
  let negative := text.head? == some '-'
  let start := if negative then text.tail else text
  let digits := start.takeWhile Char.isDigit
  if digits.isEmpty || (digits.head? == some '0' && 1 < digits.length) then none
  else
    (readFraction (start.dropWhile Char.isDigit)).bind fun fraction =>
      (readExponent fraction.2).map fun exponent =>
        (number doubles negative digits fraction.1 exponent.1, exponent.2)

/-- Assign a value to a key of a map, which keeps the place that it has. -/
def assign (members : List (Text × Json δ)) (member : Text × Json δ) : List (Text × Json δ) :=
  if members.any (fun old => old.1 == member.1) then
    members.map fun old => if old.1 == member.1 then member else old
  else members ++ [member]

/-- The map of the members that were read. -/
def assignAll (members : List (Text × Json δ)) : List (Text × Json δ) := members.foldl assign []

/-- A word, and what comes after it. -/
def readWord (text : Text) : Option (Json δ × Text) :=
  if text.take 4 = "true".toList then some (.bool true, text.drop 4)
  else if text.take 5 = "false".toList then some (.bool false, text.drop 5)
  else if text.take 4 = "null".toList then some (.null, text.drop 4)
  else none

/-- Whether the next character after white space is this one. -/
def starts (char : Char) (text : Text) : Bool := (skip text).head? == some char

/-- The text after white space and one more character. -/
def next (text : Text) : Text := (skip text).tail

mutual

/-- A value, and what comes after it. Every recursive call is made after a character was read. -/
def readValue : Nat → Text → Option (Json δ × Text)
  | 0, _ => none
  | fuel + 1, text =>
    match skip text with
    | [] => none
    | char :: rest =>
      if char = '"' then (readString rest).map fun read => (.string read.1, read.2)
      else if char = '{' then
        if starts '}' rest then some (.object [], next rest)
        else (readMembers fuel rest).map fun read => (.object (assignAll read.1), read.2)
      else if char = '[' then
        if starts ']' rest then some (.array [], next rest)
        else (readItems fuel rest).map fun read => (.array read.1, read.2)
      else if char = '-' ∨ char.isDigit then readNumber doubles (char :: rest)
      else readWord (char :: rest)

/-- The rest of an array that is not empty. -/
def readItems : Nat → Text → Option (List (Json δ) × Text)
  | 0, _ => none
  | fuel + 1, text =>
    (readValue fuel text).bind fun value =>
      if starts ',' value.2 then
        (readItems fuel (next value.2)).map fun read => (value.1 :: read.1, read.2)
      else if starts ']' value.2 then some ([value.1], next value.2)
      else none

/-- The rest of an object that is not empty. -/
def readMembers : Nat → Text → Option (List (Text × Json δ) × Text)
  | 0, _ => none
  | fuel + 1, text =>
    if starts '"' text then
      (readString (next text)).bind fun key =>
        if starts ':' key.2 then
          (readValue fuel (next key.2)).bind fun value =>
            if starts ',' value.2 then
              (readMembers fuel (next value.2)).map fun read =>
                ((key.1, value.1) :: read.1, read.2)
            else if starts '}' value.2 then some ([(key.1, value.1)], next value.2)
            else none
        else none
    else none

end

/-- `jsonDecode` — the value of a text; otherwise it throws. -/
def decode (text : Text) : Option (Json δ) :=
  (readValue doubles (text.length + 1) text).bind fun read =>
    if (skip read.2).isEmpty then some read.1 else none

/-- An integer. -/
def writeInt (value : Int) : Text :=
  if value < 0 then '-' :: Nat.toDigits 10 value.natAbs else Nat.toDigits 10 value.natAbs

/-- Texts with commas between them. -/
def separated (parts : List Text) : Text := (parts.intersperse ", ".toList).flatten

mutual

/-- `toString`. -/
def toText : Json δ → Text
  | .null => "null".toList
  | .bool value => if value then "true".toList else "false".toList
  | .int value => writeInt value
  | .double value => doubles.text value
  | .string value => value
  | .array items => '[' :: (separated (itemTexts items) ++ [']'])
  | .object members => '{' :: (separated (memberTexts members) ++ ['}'])

/-- The texts of items. -/
def itemTexts : List (Json δ) → List Text
  | [] => []
  | item :: rest => toText item :: itemTexts rest

/-- The texts of members. -/
def memberTexts : List (Text × Json δ) → List Text
  | [] => []
  | (key, value) :: rest => (key ++ ": ".toList ++ toText value) :: memberTexts rest

end

/-- `(value as num?)?.toInt()` — it throws on a value that is not a number. -/
def asInt : Option (Json δ) → Except Unit (Option Int)
  | none | some .null => .ok none
  | some (.int value) => .ok (some value)
  | some (.double value) =>
    match doubles.toInt value with
    | some whole => .ok (some whole)
    | none => .error ()
  | some (.bool _) | some (.string _) | some (.array _) | some (.object _) => .error ()

/-- `value?.toString()`. -/
def asText : Option (Json δ) → Option Text
  | none | some .null => none
  | some value => some (value.toText doubles)

end Read

section Write

/-- A hexadecimal digit. -/
def hexDigit (value : Nat) : Char := Nat.digitChar value

/-- A character within a string. -/
def escape (char : Char) : Text :=
  if char = '"' then ['\\', '"']
  else if char = '\\' then ['\\', '\\']
  else if char.toNat = 8 then ['\\', 'b']
  else if char.toNat = 12 then ['\\', 'f']
  else if char.toNat = 10 then ['\\', 'n']
  else if char.toNat = 13 then ['\\', 'r']
  else if char.toNat = 9 then ['\\', 't']
  else if char.toNat < 0x20 then
    ['\\', 'u', '0', '0', hexDigit (char.toNat / 16), hexDigit (char.toNat % 16)]
  else [char]

/-- A string. -/
def writeString (text : Text) : Text := '"' :: (text.flatMap escape ++ ['"'])

/-- A value that is neither an array nor an object. -/
inductive Plain where
  /-- `true` or `false`. -/
  | bool (value : Bool)
  /-- An integer. -/
  | int (value : Int)
  /-- A string. -/
  | string (value : Text)
  deriving DecidableEq

/-- The value is written. -/
def Plain.write : Plain → Text
  | .bool true => "true".toList
  | .bool false => "false".toList
  | .int value => writeInt value
  | .string value => writeString value

/-- The value. -/
def Plain.value {δ : Type} : Plain → Json δ
  | .bool value => .bool value
  | .int value => .int value
  | .string value => .string value

/-- What is read for it. -/
def Plain.decoded {δ : Type} (doubles : Doubles δ) : Plain → Json δ
  | .int value => if fits64 value then .int value else .double (doubles.parse (writeInt value))
  | .bool value => .bool value
  | .string value => .string value

/-- Members of an object that is not empty. -/
def writeMembers : List (Text × Plain) → Text
  | [] => []
  | [member] => writeString member.1 ++ ':' :: member.2.write
  | member :: rest => writeString member.1 ++ ':' :: (member.2.write ++ ',' :: writeMembers rest)

/-- `to_string` of an object. -/
def writeObject (members : List (Text × Plain)) : Text := '{' :: (writeMembers members ++ ['}'])

end Write

section RoundTrip

/-- The code point of a character is no half of a surrogate pair. -/
theorem not_surrogate (char : Char) : isHigh char.toNat = false ∧ isLow char.toNat = false := by
  have valid : char.toNat < 0xD800 ∨ 0xDFFF < char.toNat ∧ char.toNat < 0x110000 := char.valid
  simp only [isHigh, isLow, Bool.and_eq_false_iff, decide_eq_false_iff_not]
  omega

/-- The code point of a character stands for it. -/
theorem single_toNat (char : Char) : single char.toNat = char := by
  have plain := not_surrogate char
  rw [single, plain.1, plain.2]
  exact Char.ofNat_toNat char

/-- The code points of a text stand for it. -/
theorem joinUnits_map (text : Text) : joinUnits (text.map Char.toNat) = text := by
  induction text with
  | nil => rfl
  | cons char rest ih =>
    cases rest with
    | nil => exact congrArg (· :: []) (single_toNat char)
    | cons other more =>
      have plain := not_surrogate char
      rw [List.map_cons] at ih
      rw [List.map_cons, List.map_cons, joinUnits, plain.1, Bool.false_and,
        if_neg Bool.false_ne_true, ih, single_toNat]

/-- The code of a control character is read as it was written. -/
theorem hexUnit_control (code : Nat) (control : code < 0x20) :
    hexUnit '0' '0' (hexDigit (code / 16)) (hexDigit (code % 16)) = some code := by
  have all : ∀ code < 0x20,
      hexUnit '0' '0' (hexDigit (code / 16)) (hexDigit (code % 16)) = some code := by decide
  exact all code control

/-- An escaped character is read as its code point. -/
theorem readUnits_escape (char : Char) (rest : Text) :
    readUnits (escape char ++ rest) = (readUnits rest).map (push char.toNat) := by
  unfold escape
  rw [readUnits.eq_def]
  split_ifs with quote slash back feed line carriage tab control
  · rw [quote]
    rfl
  · rw [slash]
    rfl
  · rw [back]
    rfl
  · rw [feed]
    rfl
  · rw [line]
    rfl
  · rw [carriage]
    rfl
  · rw [tab]
    rfl
  · exact congrArg (Option.bind · fun unit => (readUnits rest).map (push unit))
      (hexUnit_control char.toNat control)
  · simp only [List.singleton_append, if_neg quote, if_neg slash, if_neg control]

/-- A string is read as it was written. -/
theorem readString_write (text rest : Text) :
    readString (text.flatMap escape ++ '"' :: rest) = some (text, rest) := by
  have units : readUnits (text.flatMap escape ++ '"' :: rest) =
      some (text.map Char.toNat, rest) := by
    induction text with
    | nil =>
      rw [readUnits.eq_def]
      rfl
    | cons char more ih =>
      rw [List.flatMap_cons, List.append_assoc, readUnits_escape, ih]
      rfl
  rw [readString, units, Option.map_some, joinUnits_map]

/-- The first digit of a number is not zero unless the number is. -/
theorem toDigits_head {value : Nat} (positive : 0 < value) :
    (Nat.toDigits 10 value).head? ≠ some '0' := by
  induction value using Nat.strongRecOn with
  | ind value ih =>
    rw [Nat.toDigits_eq_if (by decide)]
    split_ifs with small
    · have all : ∀ digit < 10, 0 < digit → [Nat.digitChar digit].head? ≠ some '0' := by decide
      exact all value small positive
    · have smaller : value / 10 < value := by omega
      have more : 0 < value / 10 := by omega
      rw [List.head?_append_of_ne_nil _ Nat.toDigits_ne_nil]
      exact ih _ smaller more

/-- There is no zero in front of the digits of a number. -/
theorem toDigits_canonical (value : Nat) :
    ((Nat.toDigits 10 value).isEmpty ||
      (Nat.toDigits 10 value).head? == some '0' && 1 < (Nat.toDigits 10 value).length) = false := by
  have nonempty : (Nat.toDigits 10 value).isEmpty = false := by
    rw [List.isEmpty_eq_false_iff]
    exact Nat.toDigits_ne_nil
  rw [nonempty, Bool.false_or]
  rcases Nat.eq_zero_or_pos value with zero | positive
  · rw [zero]
    rfl
  · have head : ((Nat.toDigits 10 value).head? == some '0') = false :=
      beq_eq_false_iff_ne.mpr (toDigits_head positive)
    rw [head, Bool.false_and]

/-- A text that does not begin with a digit. -/
def NoDigit (rest : Text) : Prop := ∀ char ∈ rest.head?, char.isDigit = false

/-- The digits in front of such a text are found, and it is what comes after them. -/
theorem span_digits {digits rest : Text} (all : ∀ char ∈ digits, char.isDigit = true)
    (stops : NoDigit rest) :
    (digits ++ rest).takeWhile Char.isDigit = digits ∧
      (digits ++ rest).dropWhile Char.isDigit = rest := by
  rw [List.takeWhile_append_of_pos all, List.dropWhile_append_of_pos all]
  cases rest with
  | nil => exact ⟨List.append_nil _, rfl⟩
  | cons char more =>
    have other : ¬ char.isDigit = true := Bool.not_eq_true _ ▸ stops char rfl
    rw [List.takeWhile_cons_of_neg other, List.dropWhile_cons_of_neg other]
    exact ⟨List.append_nil _, rfl⟩

/-- What comes after a value in an object. -/
def Ends (rest : Text) : Prop := ∃ more, rest = ',' :: more ∨ rest = '}' :: more

/-- It is not part of a number. -/
theorem noDigit_of_ends {rest : Text} (ends : Ends rest) : NoDigit rest := by
  obtain ⟨more, rfl | rfl⟩ := ends
  · intro char head
    rw [← Option.some.inj head]
    rfl
  · intro char head
    rw [← Option.some.inj head]
    rfl

variable {δ : Type} (doubles : Doubles δ)

/-- A number without fraction and exponent. -/
theorem readNumber_digits (negative : Bool) (value : Nat) {rest : Text} (ends : Ends rest) :
    readNumber doubles ((if negative then ['-'] else []) ++ Nat.toDigits 10 value ++ rest) =
      some (number doubles negative (Nat.toDigits 10 value) [] [], rest) := by
  have digits : ∀ char ∈ Nat.toDigits 10 value, char.isDigit = true :=
    fun char member => Nat.isDigit_of_mem_toDigits (by decide) (by decide) member
  have span := span_digits digits (noDigit_of_ends ends)
  have fraction : readFraction rest = some ([], rest) := by
    obtain ⟨more, rfl | rfl⟩ := ends <;> rfl
  have exponent : readExponent rest = some ([], rest) := by
    obtain ⟨more, rfl | rfl⟩ := ends <;> rfl
  have first : ((Nat.toDigits 10 value ++ rest).head? == some '-') = false := by
    obtain ⟨char, more, shape⟩ := List.exists_cons_of_ne_nil (@Nat.toDigits_ne_nil value 10)
    have digit := digits char (shape ▸ List.mem_cons_self)
    rw [shape]
    refine beq_eq_false_iff_ne.mpr fun same => ?_
    rw [Option.some.inj same] at digit
    cases digit
  have start : (if (((if negative then ['-'] else []) ++ Nat.toDigits 10 value ++ rest).head? ==
        some '-') = true
      then ((if negative then ['-'] else []) ++ Nat.toDigits 10 value ++ rest).tail
      else (if negative then ['-'] else []) ++ Nat.toDigits 10 value ++ rest) =
      Nat.toDigits 10 value ++ rest := by
    cases negative with
    | true => rfl
    | false =>
      have plain : ¬((Nat.toDigits 10 value ++ rest).head? == some '-') = true := by
        rw [first]
        exact Bool.false_ne_true
      exact if_neg plain
  have sign : ((((if negative then ['-'] else []) ++ Nat.toDigits 10 value ++ rest).head? ==
      some '-')) = negative := by
    cases negative with
    | true => rfl
    | false => exact first
  unfold readNumber
  dsimp only
  rw [start, sign, span.1, span.2, toDigits_canonical, if_neg Bool.false_ne_true, fraction,
    Option.bind_some, exponent, Option.map_some]

/-- An integer is read as it was written, or as a double. -/
theorem readNumber_write (value : Int) {rest : Text} (ends : Ends rest) :
    readNumber doubles (writeInt value ++ rest) = some ((Plain.int value).decoded doubles, rest) := by
  have written : writeInt value =
      (if decide (value < 0) then ['-'] else []) ++ Nat.toDigits 10 value.natAbs := by
    unfold writeInt
    by_cases negative : value < 0
    · rw [if_pos negative, decide_eq_true negative]
      rfl
    · rw [if_neg negative, decide_eq_false negative]
      rfl
  have magnitude : (if decide (value < 0) then -(Nat.ofDigitChars 10 (Nat.toDigits 10 value.natAbs) 0
      : Int) else Nat.ofDigitChars 10 (Nat.toDigits 10 value.natAbs) 0) = value := by
    rw [Nat.ofDigitChars_ten_toDigits]
    by_cases negative : value < 0
    · rw [if_pos (decide_eq_true negative)]
      omega
    · rw [if_neg (by rw [decide_eq_false negative]; exact Bool.false_ne_true)]
      omega
  have nonzero : (decide (value < 0) && value == 0) = false := by
    by_cases negative : value < 0
    · have other : (value == 0) = false := beq_eq_false_iff_ne.mpr (by omega)
      rw [other, Bool.and_false]
    · rw [decide_eq_false negative, Bool.false_and]
  have whole := readNumber_digits doubles (decide (value < 0)) value.natAbs ends
  rw [← written] at whole
  rw [whole, number, Plain.decoded, magnitude, nonzero, List.append_nil, List.append_nil, ← written]
  congr 2

/-- A number starts with a sign or a digit. -/
theorem readValue_number {char : Char} {text : Text} (fuel : Nat)
    (numeric : char = '-' ∨ char.isDigit = true) :
    readValue doubles (fuel + 1) (char :: text) = readNumber doubles (char :: text) := by
  have other : isSpace char = false ∧ char ≠ '"' ∧ char ≠ '{' ∧ char ≠ '[' := by
    rcases numeric with rfl | digit
    · decide
    · refine ⟨?_, ?_, ?_, ?_⟩
      · rw [isSpace]
        by_contra space
        simp only [Bool.not_eq_false, Bool.or_eq_true, beq_iff_eq] at space
        rcases space with ((same | same) | same) | same <;> rw [same] at digit <;> cases digit
      all_goals
        rintro rfl
        cases digit
  obtain ⟨space, quote, brace, bracket⟩ := other
  have here : skip (char :: text) = char :: text :=
    List.dropWhile_cons_of_neg (by rw [space]; exact Bool.false_ne_true)
  rw [readValue, here]
  dsimp only
  rw [if_neg quote, if_neg brace, if_neg bracket, if_pos numeric]

/-- The first character of an integer. -/
theorem writeInt_head (value : Int) :
    ∃ char more, writeInt value = char :: more ∧ (char = '-' ∨ char.isDigit = true) := by
  unfold writeInt
  split
  · exact ⟨'-', _, rfl, .inl rfl⟩
  · obtain ⟨char, more, shape⟩ :=
      List.exists_cons_of_ne_nil (@Nat.toDigits_ne_nil value.natAbs 10)
    have digit := Nat.isDigit_of_mem_toDigits (by decide) (by decide)
      (shape ▸ List.mem_cons_self : char ∈ Nat.toDigits 10 value.natAbs)
    exact ⟨char, more, shape, .inr digit⟩

/-- A value that is neither an array nor an object is read as it was written. -/
theorem readValue_write (value : Plain) (fuel : Nat) {rest : Text} (ends : Ends rest) :
    readValue doubles (fuel + 1) (value.write ++ rest) = some (value.decoded doubles, rest) := by
  cases value with
  | bool value =>
    rw [readValue]
    cases value <;> rfl
  | int value =>
    obtain ⟨char, more, shape, numeric⟩ := writeInt_head value
    have number := readNumber_write doubles value ends
    rw [Plain.write]
    rw [shape, List.cons_append] at number ⊢
    rw [readValue_number doubles fuel numeric]
    exact number
  | string value =>
    have string := readString_write value rest
    rw [readValue]
    show (readString (value.flatMap escape ++ ['"'] ++ rest)).map _ = _
    rw [List.append_assoc, List.singleton_append, string]
    rfl

/-- A member is read up to what separates it from what comes after it. -/
theorem readMembers_member (member : Text × Plain) (fuel : Nat)
    {rest : Text} (ends : Ends rest) :
    readMembers doubles (fuel + 2) (writeString member.1 ++ ':' :: (member.2.write ++ rest)) =
      if starts ',' rest then
        (readMembers doubles (fuel + 1) (next rest)).map fun read =>
          ((member.1, member.2.decoded doubles) :: read.1, read.2)
      else if starts '}' rest then some ([(member.1, member.2.decoded doubles)], next rest)
      else none := by
  have key : readString (next (writeString member.1 ++ ':' :: (member.2.write ++ rest))) =
      some (member.1, ':' :: (member.2.write ++ rest)) := by
    show readString (member.1.flatMap escape ++ ['"'] ++ ':' :: (member.2.write ++ rest)) = _
    rw [List.append_assoc, List.singleton_append]
    exact readString_write member.1 _
  have value := readValue_write doubles member.2 fuel ends
  have quote : starts '"' (writeString member.1 ++ ':' :: (member.2.write ++ rest)) = true := rfl
  have colon : starts ':' (':' :: (member.2.write ++ rest)) = true := rfl
  have after : next (':' :: (member.2.write ++ rest)) = member.2.write ++ rest := rfl
  rw [readMembers, if_pos quote, key, Option.bind_some]
  dsimp only
  rw [if_pos colon, after, value, Option.bind_some]

/-- Members are read as they were written. -/
theorem readMembers_write (members : List (Text × Plain)) (nonempty : members ≠ []) (fuel : Nat)
    (enough : members.length < fuel) (rest : Text) :
    readMembers doubles fuel (writeMembers members ++ '}' :: rest) =
      some (members.map fun member => (member.1, member.2.decoded doubles), rest) := by
  induction members generalizing fuel with
  | nil => exact absurd rfl nonempty
  | cons member more ih =>
    obtain ⟨spare, rfl⟩ : ∃ spare, fuel = spare + 2 := ⟨fuel - 2, by
      rw [List.length_cons] at enough
      omega⟩
    cases more with
    | nil =>
      have one := readMembers_member doubles member spare ⟨rest, .inr rfl⟩
      rw [writeMembers, List.append_assoc, List.cons_append, one]
      rfl
    | cons other later =>
      have here := ih (List.cons_ne_nil _ _) (spare + 1) (by rw [List.length_cons] at enough; omega)
      have one := readMembers_member doubles member spare
        ⟨writeMembers (other :: later) ++ '}' :: rest, .inl rfl⟩
      have shape : writeMembers (member :: other :: later) = writeString member.1 ++
          ':' :: (member.2.write ++ ',' :: writeMembers (other :: later)) := rfl
      rw [shape, List.append_assoc, List.cons_append, List.append_assoc, List.cons_append, one]
      show (readMembers doubles (spare + 1) (writeMembers (other :: later) ++ '}' :: rest)).map _ =
        _
      rw [here]
      rfl

/-- There are at least as many characters as members. -/
theorem length_writeMembers (members : List (Text × Plain)) :
    members.length ≤ (writeMembers members).length := by
  induction members with
  | nil => exact Nat.le_refl _
  | cons member more ih =>
    cases more with
    | nil => simp [writeMembers, writeString]
    | cons other later =>
      have longer : (writeMembers (member :: other :: later)).length =
          (writeString member.1 ++ ':' :: member.2.write).length + 1 +
            (writeMembers (other :: later)).length := by
        simp only [writeMembers, List.length_append, List.length_cons]
        omega
      rw [longer, List.length_cons]
      omega

/-- Members that are not empty start with a key. -/
theorem writeMembers_cons (member : Text × Plain) (more : List (Text × Plain)) :
    ∃ rest, writeMembers (member :: more) = '"' :: rest := by
  cases more with
  | nil => exact ⟨_, rfl⟩
  | cons other later => exact ⟨_, rfl⟩

/-- Members with different keys are all in the map. -/
theorem assignAll_of_nodup (members : List (Text × Json δ))
    (distinct : (members.map Prod.fst).Nodup) : assignAll members = members := by
  have general (done : List (Text × Json δ))
      (nodup : ((done ++ members).map Prod.fst).Nodup) :
      members.foldl assign done = done ++ members := by
    induction members generalizing done with
    | nil => exact (List.append_nil done).symm
    | cons member rest ih =>
      have fresh : done.any (fun old => old.1 == member.1) = false := by
        rw [List.any_eq_false]
        intro old inside same
        rw [List.map_append, List.map_cons] at nodup
        have apart := (List.nodup_append.mp nodup).2.2
        exact apart old.1 (List.mem_map_of_mem inside) member.1 List.mem_cons_self
          (beq_iff_eq.mp same)
      have tail : (rest.map Prod.fst).Nodup := (List.nodup_cons.mp distinct).2
      rw [List.foldl_cons, assign, fresh, if_neg Bool.false_ne_true,
        ih tail (done ++ [member]) (by simpa using nodup)]
      simp
  exact general [] distinct

/-- An object is decoded as it was written, also with white space after it. -/
theorem decode_writeObject (members : List (Text × Plain))
    (distinct : (members.map Prod.fst).Nodup) (space : Text)
    (blank : ∀ char ∈ space, isSpace char = true) :
    decode doubles (writeObject members ++ space) =
      some (.object (members.map fun member => (member.1, member.2.decoded doubles))) := by
  have whole : assignAll (members.map fun member => (member.1, member.2.decoded doubles)) =
      members.map fun member => (member.1, member.2.decoded doubles) :=
    assignAll_of_nodup _ (by simpa [List.map_map, Function.comp_def] using distinct)
  have clear : skip space = [] := List.dropWhile_eq_nil_iff.mpr blank
  have read : readValue doubles ((writeObject members ++ space).length + 1)
      (writeObject members ++ space) =
      some (.object (members.map fun member => (member.1, member.2.decoded doubles)), space) := by
    cases members with
    | nil => rfl
    | cons member more =>
      obtain ⟨rest, shape⟩ := writeMembers_cons member more
      have long := length_writeMembers (member :: more)
      have inner := readMembers_write doubles (member :: more) (List.cons_ne_nil _ _)
        (writeObject (member :: more) ++ space).length (by
          simp only [writeObject, List.length_append, List.length_cons] at long ⊢
          omega) space
      have text : writeObject (member :: more) ++ space =
          '{' :: (writeMembers (member :: more) ++ '}' :: space) := by
        simp [writeObject]
      have opens : starts '}' (writeMembers (member :: more) ++ '}' :: space) = false := by
        rw [shape]
        rfl
      rw [text] at inner ⊢
      rw [readValue]
      show (if starts '}' (writeMembers (member :: more) ++ '}' :: space) then _ else
        (readMembers doubles _ (writeMembers (member :: more) ++ '}' :: space)).map _) = _
      rw [opens, if_neg Bool.false_ne_true, inner, Option.map_some, whole]
  rw [decode, read, Option.bind_some]
  dsimp only
  rw [clear]
  rfl

end RoundTrip

end Json
