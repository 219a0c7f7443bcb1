import Focsq.Lib.Json

/-!
# The grammar of JSON

Which texts are JSON, as rules for how a text is made up. White space may be around every value, in
front of every key and behind it. Unlike a reader, the rules say nothing about what a text means.
-/

namespace JsonText

/-- Any amount of white space. -/
def Space (text : Text) : Prop := ∀ char ∈ text, Json.isSpace char = true

/-- A hexadecimal digit. -/
def IsHex (char : Char) : Prop := (Json.hexValue char).isSome = true

/-- A character of a string, or what stands for one. -/
inductive Letter : Text → Prop where
  /-- A character that stands for itself. -/
  | plain (char : Char) (quote : char ≠ '"') (backslash : char ≠ '\\') (visible : 0x20 ≤ char.toNat) :
    Letter [char]
  /-- A backslash and a character. -/
  | escape (kind : Char) (known : (Json.unescape kind).isSome = true) : Letter ['\\', kind]
  /-- A unit of UTF-16. -/
  | unicode (first second third fourth : Char) (hexFirst : IsHex first) (hexSecond : IsHex second)
    (hexThird : IsHex third) (hexFourth : IsHex fourth) :
    Letter ['\\', 'u', first, second, third, fourth]

/-- A string without its quotes. -/
inductive Letters : Text → Prop where
  /-- The empty string. -/
  | nil : Letters []
  /-- One more character. -/
  | cons {letter rest : Text} (first : Letter letter) (later : Letters rest) :
    Letters (letter ++ rest)

/-- A string. -/
def IsString (text : Text) : Prop := ∃ letters, Letters letters ∧ text = '"' :: letters ++ ['"']

/-- At least one digit. -/
def Digits (text : Text) : Prop := text ≠ [] ∧ ∀ char ∈ text, char.isDigit = true

/-- The part of a number in front of the point; it has no superfluous zero. -/
def Whole (text : Text) : Prop := Digits text ∧ (text.head? = some '0' → text = ['0'])

/-- The point and the digits behind it. -/
def Fraction (text : Text) : Prop := text = [] ∨ ∃ digits, Digits digits ∧ text = '.' :: digits

/-- The exponent. -/
def Exponent (text : Text) : Prop :=
  text = [] ∨ ∃ letter sign digits, (letter = 'e' ∨ letter = 'E') ∧
    (sign = [] ∨ sign = ['+'] ∨ sign = ['-']) ∧ Digits digits ∧ text = letter :: (sign ++ digits)

/-- A number. -/
def IsNumber (text : Text) : Prop :=
  ∃ sign whole fraction exponent, (sign = [] ∨ sign = ['-']) ∧ Whole whole ∧ Fraction fraction ∧
    Exponent exponent ∧ text = sign ++ (whole ++ (fraction ++ exponent))

/-- What a rule is about. -/
inductive Category where
  /-- A value. -/
  | value
  /-- A value with white space around it. -/
  | element
  /-- The items of an array that is not empty. -/
  | elements
  /-- The members of an object that is not empty. -/
  | members
  deriving DecidableEq

/-- How texts are made up. -/
inductive Derives : Category → Text → Prop where
  /-- `null`. -/
  | null : Derives .value ['n', 'u', 'l', 'l']
  /-- `true`. -/
  | true : Derives .value ['t', 'r', 'u', 'e']
  /-- `false`. -/
  | false : Derives .value ['f', 'a', 'l', 's', 'e']
  /-- A number. -/
  | number {text : Text} (number : IsNumber text) : Derives .value text
  /-- A string. -/
  | string {text : Text} (string : IsString text) : Derives .value text
  /-- An array without items. -/
  | emptyArray {space : Text} (white : Space space) : Derives .value ('[' :: space ++ [']'])
  /-- An array. -/
  | array {items : Text} (inside : Derives .elements items) :
    Derives .value ('[' :: items ++ [']'])
  /-- An object without members. -/
  | emptyObject {space : Text} (white : Space space) :
    Derives .value ('\x7b' :: space ++ ['\x7d'])
  /-- An object. -/
  | object {members : Text} (inside : Derives .members members) :
    Derives .value ('\x7b' :: members ++ ['\x7d'])
  /-- A value with white space around it. -/
  | element {before value after : Text} (whiteBefore : Space before)
    (inside : Derives .value value) (whiteAfter : Space after) :
    Derives .element (before ++ (value ++ after))
  /-- A single item. -/
  | lastElement {item : Text} (only : Derives .element item) : Derives .elements item
  /-- An item and more of them. -/
  | moreElements {item rest : Text} (first : Derives .element item)
    (later : Derives .elements rest) : Derives .elements (item ++ ',' :: rest)
  /-- A single member. -/
  | lastMember {before key after value : Text} (whiteBefore : Space before) (string : IsString key)
    (whiteAfter : Space after) (element : Derives .element value) :
    Derives .members (before ++ (key ++ (after ++ ':' :: value)))
  /-- A member and more of them. -/
  | moreMembers {before key after value rest : Text} (whiteBefore : Space before)
    (string : IsString key) (whiteAfter : Space after) (element : Derives .element value)
    (later : Derives .members rest) :
    Derives .members (before ++ (key ++ (after ++ ':' :: (value ++ ',' :: rest))))

/-- The text of an object. -/
def IsObject (text : Text) : Prop :=
  ∃ inside, (Space inside ∨ Derives .members inside) ∧ text = '\x7b' :: inside ++ ['\x7d']

end JsonText
