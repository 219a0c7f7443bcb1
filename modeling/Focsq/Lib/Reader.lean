import Focsq.Lib.Json

/-!
# Readers

A reader takes a value from the front of a text and leaves what comes after it. It fails without a
trace: whoever tries something else afterwards starts from the same text.

Two laws go through every combination of readers. `Takes`: the text that is taken for a value is as
the reader wants it. `Stops`: the reader does not look past a character, so that it makes no
difference to it what comes from there on.
-/

/-- A reader. -/
abbrev Reader (α : Type) : Type := StateT Text Option α

namespace Reader

variable {α β : Type}

section Primitives

/-- `read_given_char` — a character that has to be there. -/
def givenChar (target : Char) : Reader Unit
  | [] => none
  | char :: rest => if char = target then some ((), rest) else none

/-- `read_separator` — in front of all but the first of a series there is a character. -/
def separator (target : Char) (index : Nat) (inner : Reader α) : Reader α :=
  if index = 0 then inner else givenChar target *> inner

/-- `to_digit`, for a radix of at most 16. -/
def toDigit (radix : Nat) (char : Char) : Option Nat := (Json.hexValue char).filter (· < radix)

/-- Whether a character is a digit. -/
def isDigit (radix : Nat) (char : Char) : Bool := (toDigit radix char).isSome

/-- The value of digits. -/
def valueOf (radix : Nat) (digits : Text) : Nat :=
  digits.foldl (fun value char => value * radix + (toDigit radix char).getD 0) 0

/-- `read_number` — the digits at the front, not too many of them and with a value below a limit.
If there may be no zero in front, one digit still may be zero. -/
def number (radix : Nat) (maxDigits : Option Nat) (allowZeroPrefix : Bool) (limit : Nat) :
    Reader Nat := fun text =>
  let digits := text.takeWhile (isDigit radix)
  if digits = [] ∨ maxDigits.any (fun most => most < digits.length) ∨
      limit ≤ valueOf radix digits ∨
      allowZeroPrefix = false ∧ text.head? = some '0' ∧ 1 < digits.length then none
  else some (valueOf radix digits, text.dropWhile (isDigit radix))

/-- `parse_with` — a reader that has to take the whole text. -/
def parseWith (inner : Reader α) (text : Text) : Option α :=
  match inner text with
  | some (value, []) => some value
  | _ => none

/-- The second of two readers is tried where the first one fails. -/
theorem orElse_apply (first second : Reader α) (text : Text) :
    (first <|> second) text = (first text).orElse fun _ => second text := rfl

/-- One reader is followed by another. -/
theorem bind_apply (first : Reader α) (second : α → Reader β) (text : Text) :
    (first >>= second) text = (first text).bind fun read => second read.1 read.2 := rfl

/-- Nothing is left of a text that was parsed. -/
theorem parseWith_eq_some {inner : Reader α} {text : Text} {value : α} :
    parseWith inner text = some value ↔ inner text = some (value, []) := by
  unfold parseWith
  constructor
  · intro parsed
    split at parsed
    · next read =>
      cases parsed
      exact read
    · cases parsed
  · intro read
    rw [read]

end Primitives

section Takes

/-- What a reader takes for a value is as it has to be. -/
def Takes (reader : Reader α) (wanted : Text → α → Prop) : Prop :=
  ∀ text value rest, reader text = some (value, rest) →
    ∃ taken, text = taken ++ rest ∧ wanted taken value

/-- Less may be wanted. -/
theorem Takes.mono {reader : Reader α} {wanted weaker : Text → α → Prop}
    (takes : Takes reader wanted) (enough : ∀ taken value, wanted taken value → weaker taken value) :
    Takes reader weaker := by
  intro text value rest read
  obtain ⟨taken, whole, good⟩ := takes text value rest read
  exact ⟨taken, whole, enough taken value good⟩

/-- Nothing is taken for a value that is there. -/
theorem takes_pure {wanted : Text → α → Prop} (value : α) (good : wanted [] value) :
    Takes (pure value) wanted := by
  intro text other rest read
  cases read
  exact ⟨[], rfl, good⟩

/-- One reader after the other takes one text after the other. -/
theorem takes_bind {first : Reader α} {second : α → Reader β} {wanted : Text → α → Prop}
    {following : α → Text → β → Prop} (left : Takes first wanted)
    (right : ∀ value, Takes (second value) (following value)) :
    Takes (first >>= second) fun taken result => ∃ front back value,
      taken = front ++ back ∧ wanted front value ∧ following value back result := by
  intro text result rest read
  obtain ⟨⟨value, middle⟩, head, tail⟩ := Option.bind_eq_some_iff.mp read
  obtain ⟨front, whole, good⟩ := left text value middle head
  obtain ⟨back, remains, fine⟩ := right value middle result rest tail
  exact ⟨front ++ back, by rw [whole, remains, List.append_assoc], front, back, value, rfl, good,
    fine⟩

/-- A value is made of what was read. -/
theorem takes_map {reader : Reader α} {wanted : Text → α → Prop} (takes : Takes reader wanted)
    (make : α → β) :
    Takes (reader >>= fun value => pure (make value)) fun taken result => ∃ value,
      wanted taken value ∧ result = make value := by
  intro text result rest read
  obtain ⟨⟨value, middle⟩, head, tail⟩ := Option.bind_eq_some_iff.mp read
  obtain ⟨taken, whole, good⟩ := takes text value middle head
  cases tail
  exact ⟨taken, whole, value, good, rfl⟩

/-- A reader that always fails takes nothing. -/
theorem takes_failure {wanted : Text → α → Prop} : Takes (failure : Reader α) wanted := by
  intro text value rest read
  cases read

/-- What is taken is taken by one of two readers. -/
theorem takes_orElse {first second : Reader α} {wanted : Text → α → Prop}
    (left : Takes first wanted) (right : Takes second wanted) : Takes (first <|> second) wanted := by
  intro text value rest read
  rcases Option.or_eq_some_iff.mp (Option.orElse_eq_or.symm.trans read) with head | ⟨-, tail⟩
  · exact left text value rest head
  · exact right text value rest tail

/-- What is parsed is as it has to be. -/
theorem Takes.parsed {reader : Reader α} {wanted : Text → α → Prop} (takes : Takes reader wanted)
    {text : Text} {value : α} (parsed : parseWith reader text = some value) : wanted text value := by
  obtain ⟨taken, whole, good⟩ := takes text value [] (parseWith_eq_some.mp parsed)
  rw [whole, List.append_nil]
  exact good

/-- A character that has to be there is taken. -/
theorem takes_givenChar (target : Char) : Takes (givenChar target) fun taken _ => taken = [target] := by
  intro text value rest read
  cases text with
  | nil => cases read
  | cons char later =>
    have chosen : (if char = target then some ((), later) else none) = some (value, rest) := read
    by_cases same : char = target
    · rw [if_pos same] at chosen
      cases chosen
      exact ⟨[target], by rw [same]; rfl, rfl⟩
    · rw [if_neg same] at chosen
      cases chosen

/-- Digits are taken for a number. -/
theorem takes_number (radix : Nat) (maxDigits : Option Nat) (allowZeroPrefix : Bool) (limit : Nat) :
    Takes (number radix maxDigits allowZeroPrefix limit) fun taken value =>
      taken ≠ [] ∧ (∀ char ∈ taken, isDigit radix char = true) ∧ value < limit := by
  intro text value rest read
  unfold number at read
  dsimp only at read
  split at read
  · cases read
  · next fits =>
    cases read
    simp only [not_or] at fits
    exact ⟨text.takeWhile (isDigit radix), List.takeWhile_append_dropWhile.symm, fits.1,
      fun char member => List.mem_takeWhile_imp member, Nat.lt_of_not_le fits.2.2.1⟩

/-- A separator is there behind the first of a series. -/
theorem takes_separator {target : Char} {inner : Reader α} {wanted : Text → α → Prop} (index : Nat)
    (takes : Takes inner wanted) :
    Takes (separator target index inner) fun taken value => ∃ back,
      taken = List.replicate (min index 1) target ++ back ∧ wanted back value := by
  unfold separator
  split
  · next first =>
    subst first
    exact takes.mono fun taken value good => ⟨taken, rfl, good⟩
  · next later =>
    have one : min index 1 = 1 := by omega
    rw [seqRight_eq_bind, one]
    refine (takes_bind (takes_givenChar target) fun _ => takes).mono ?_
    rintro taken value ⟨front, back, -, rfl, rfl, good⟩
    exact ⟨back, rfl, good⟩

end Takes

section Within

variable {holds : Char → Prop}

/-- A reader takes only characters with a property. -/
def Within (holds : Char → Prop) (reader : Reader α) : Prop :=
  Takes reader fun taken _ => ∀ char ∈ taken, holds char

/-- A value that is there. -/
theorem within_pure (value : α) : Within holds (pure value) :=
  takes_pure value fun _ member => by cases member

/-- Two readers that take only such characters. -/
theorem within_bind {first : Reader α} {second : α → Reader β} (left : Within holds first)
    (right : ∀ value, Within holds (second value)) : Within holds (first >>= second) := by
  refine (takes_bind left right).mono ?_
  rintro taken result ⟨front, back, value, rfl, good, fine⟩ char member
  rcases List.mem_append.mp member with early | late
  · exact good char early
  · exact fine char late

/-- A character that has to be there. -/
theorem within_givenChar {target : Char} (good : holds target) : Within holds (givenChar target) := by
  refine (takes_givenChar target).mono ?_
  rintro taken _ rfl char member
  rw [List.mem_singleton.mp member]
  exact good

/-- A series whose separator is such a character. -/
theorem within_separator {target : Char} {inner : Reader α} (good : holds target) (index : Nat)
    (within : Within holds inner) : Within holds (separator target index inner) := by
  unfold separator
  split
  · exact within
  · rw [seqRight_eq_bind]
    exact within_bind (within_givenChar good) fun _ => within

/-- A number whose digits are such characters. -/
theorem within_number {radix : Nat} (good : ∀ char, isDigit radix char = true → holds char)
    (maxDigits : Option Nat) (allowZeroPrefix : Bool) (limit : Nat) :
    Within holds (number radix maxDigits allowZeroPrefix limit) :=
  (takes_number radix maxDigits allowZeroPrefix limit).mono fun _ _ taken char member =>
    good char (taken.2.1 char member)

end Within

section Stops

/-- A reader does not look past a character. -/
def Stops (stop : Char) (reader : Reader α) : Prop :=
  ∀ text rest, reader (text ++ stop :: rest) =
    (reader text).map fun read => (read.1, read.2 ++ stop :: rest)

variable {stop : Char}

/-- What is there does not depend on the text. -/
theorem stops_pure (value : α) : Stops stop (pure value) := fun _ _ => rfl

/-- Failing does not depend on the text. -/
theorem stops_failure : Stops stop (failure : Reader α) := fun _ _ => rfl

/-- Two readers that stop, one after the other. -/
theorem stops_bind {first : Reader α} {second : α → Reader β} (left : Stops stop first)
    (right : ∀ value, Stops stop (second value)) : Stops stop (first >>= second) := by
  intro text rest
  show (first (text ++ stop :: rest)).bind _ = ((first text).bind _).map _
  rw [left]
  cases first text with
  | none => rfl
  | some read => exact right read.1 read.2 rest

/-- Two readers that stop, one instead of the other. -/
theorem stops_orElse {first second : Reader α} (left : Stops stop first)
    (right : Stops stop second) : Stops stop (first <|> second) := by
  intro text rest
  show ((first (text ++ stop :: rest)).orElse fun _ => second (text ++ stop :: rest)) =
    ((first text).orElse fun _ => second text).map _
  rw [left, right]
  cases first text with
  | none => rfl
  | some read => rfl

/-- Another character than the one that has to be there. -/
theorem stops_givenChar {target : Char} (other : stop ≠ target) : Stops stop (givenChar target) := by
  intro text rest
  cases text with
  | nil => exact if_neg other
  | cons char later =>
    show (if char = target then _ else none) = (if char = target then _ else none : Option _).map _
    split <;> rfl

/-- Two readers that stop, with a character in between. -/
theorem stops_separator {target : Char} {inner : Reader α} (other : stop ≠ target) (index : Nat)
    (stops : Stops stop inner) : Stops stop (separator target index inner) := by
  unfold separator
  split
  · exact stops
  · rw [seqRight_eq_bind]
    exact stops_bind (stops_givenChar other) fun _ => stops

/-- The characters with a property end at one without it. -/
theorem takeWhile_stop {holds : Char → Bool} (fails : holds stop = false) (text rest : Text) :
    (text ++ stop :: rest).takeWhile holds = text.takeWhile holds ∧
      (text ++ stop :: rest).dropWhile holds = text.dropWhile holds ++ stop :: rest := by
  induction text with
  | nil =>
    rw [List.nil_append, List.takeWhile_cons, List.dropWhile_cons, fails]
    exact ⟨rfl, rfl⟩
  | cons char later ih =>
    rw [List.cons_append, List.takeWhile_cons, List.takeWhile_cons, List.dropWhile_cons,
      List.dropWhile_cons, ih.1, ih.2]
    cases holds char <;> exact ⟨rfl, rfl⟩

/-- A number ends before a character that is no digit. -/
theorem stops_number {radix : Nat} (other : isDigit radix stop = false) (maxDigits : Option Nat)
    (allowZeroPrefix : Bool) (limit : Nat) :
    Stops stop (number radix maxDigits allowZeroPrefix limit) := by
  intro text rest
  cases text with
  | nil =>
    have none : (stop :: rest).takeWhile (isDigit radix) = [] := by
      rw [List.takeWhile_cons, other]
      rfl
    show number radix maxDigits allowZeroPrefix limit (stop :: rest) = _
    unfold number
    rw [none]
    rfl
  | cons char later =>
    have span := takeWhile_stop other (char :: later) rest
    unfold number
    rw [span.1, span.2]
    rw [apply_ite (Option.map _)]
    rfl

/-- A reader that stops reads the same value in front of the stop as of the text alone. -/
theorem Stops.front {reader : Reader α} (stops : Stops stop reader) {text : Text} {value : α}
    (parsed : parseWith reader text = some value) (rest : Text) :
    reader (text ++ stop :: rest) = some (value, stop :: rest) := by
  rw [stops, parseWith_eq_some.mp parsed]
  rfl

end Stops

section Decimal

/-- The decimal digits and their values. -/
theorem toDigit_decimal {char : Char} (digit : char.isDigit = true) :
    toDigit 10 char = some (char.toNat - '0'.toNat) := by
  have range : 48 ≤ char.toNat ∧ char.toNat ≤ 57 := by
    simpa [Char.isDigit, UInt32.le_iff_toNat_le, and_comm] using digit
  have between : '0' ≤ char ∧ char ≤ '9' :=
    ⟨UInt32.le_iff_toNat_le.mpr range.1, UInt32.le_iff_toNat_le.mpr range.2⟩
  have small : char.toNat - '0'.toNat < 10 := by
    show char.toNat - 48 < 10
    omega
  rw [toDigit, Json.hexValue, if_pos between, Option.filter_some, if_pos (decide_eq_true small)]

/-- The value of decimal digits. -/
theorem valueOf_decimal {digits : Text} (decimal : ∀ char ∈ digits, char.isDigit = true) :
    valueOf 10 digits = Nat.ofDigitChars 10 digits 0 := by
  rw [Nat.ofDigitChars_eq_foldl]
  refine List.foldl_ext _ _ 0 fun value char member => ?_
  rw [toDigit_decimal (decimal char member), Nat.mul_comm]
  rfl

/-- A number is read as it was written, at the end of a text. -/
theorem number_toDigits {value limit : Nat} (small : value < limit) :
    number 10 none true limit (Nat.toDigits 10 value) = some (value, []) := by
  have decimal (char : Char) (member : char ∈ Nat.toDigits 10 value) : char.isDigit = true :=
    Nat.isDigit_of_mem_toDigits (by decide) (by decide) member
  have digits (char : Char) (member : char ∈ Nat.toDigits 10 value) : isDigit 10 char = true := by
    rw [isDigit, toDigit_decimal (decimal char member)]
    rfl
  have taken : (Nat.toDigits 10 value).takeWhile (isDigit 10) = Nat.toDigits 10 value :=
    List.takeWhile_eq_self_iff.mpr digits
  have left : (Nat.toDigits 10 value).dropWhile (isDigit 10) = [] :=
    List.dropWhile_eq_nil_iff.mpr digits
  have same : valueOf 10 (Nat.toDigits 10 value) = value := by
    rw [valueOf_decimal decimal, Nat.ofDigitChars_ten_toDigits]
  unfold number
  dsimp only
  rw [taken, left, same]
  refine if_neg ?_
  rintro (empty | excess | large | ⟨strict, -⟩)
  · exact Nat.toDigits_ne_nil empty
  · exact Bool.false_ne_true excess
  · omega
  · cases strict

end Decimal

end Reader
