import Mathlib.Data.Bool.AllAny
import Focsq.Frontend.Logs

/-!
# Words of an error

Whether a line is that of an error depends on the words in it. What an entry has in front of the line
and behind it contains no part of such a word, and neither does what is taken away from an entry to
compare it.
-/

namespace Focsq.Logs

section Words

/-- The characters at the beginning and at the end of the words of an error. -/
def edges : Text := errorWords.flatMap fun word => word.take 1 ++ word.drop (word.length - 1)

/-- The lower case of the character is at no edge of a word of an error. -/
def Quiet (char : Char) : Prop := toLower char ∉ edges

instance decidableQuiet (char : Char) : Decidable (Quiet char) := by
  unfold Quiet
  infer_instance

/-- The first and the last character of a word of an error are at its edges. -/
theorem mem_edges {word : Text} (member : word ∈ errorWords) :
    word ≠ [] ∧ (∀ char, word.head? = some char → char ∈ edges) ∧
      ∀ char, word.getLast? = some char → char ∈ edges := by
  have all : ∀ word ∈ errorWords, word ≠ [] ∧ (word.head?.all (· ∈ edges)) = true ∧
      (word.getLast?.all (· ∈ edges)) = true := List.all_iff_forall_prop.mp (by decide)
  obtain ⟨nonempty, first, last⟩ := all word member
  refine ⟨nonempty, fun char head => ?_, fun char final => ?_⟩
  · exact of_decide_eq_true ((Option.all_eq_true _ _).mp first char head)
  · exact of_decide_eq_true ((Option.all_eq_true _ _).mp last char final)

/-- Quiet characters in front of a line do not matter. -/
theorem isErrorLine_append_left {before : Text} (quiet : ∀ char ∈ before, Quiet char)
    (after : Text) : isErrorLine (before ++ after) = isErrorLine after := by
  rw [Bool.eq_iff_iff, isErrorLine, isErrorLine, List.any_eq_true, List.any_eq_true]
  refine exists_congr fun word => and_congr_right fun member => ?_
  obtain ⟨nonempty, head, _⟩ := mem_edges member
  rw [Text.contains_iff, Text.contains_iff, toLowerCase, toLowerCase, List.map_append]
  refine ⟨Text.infix_of_append_left nonempty fun char inside first => ?_, fun inside =>
    inside.trans (List.suffix_append _ _).isInfix⟩
  obtain ⟨upper, there, rfl⟩ := List.mem_map.mp inside
  exact quiet upper there (head _ first)

/-- Quiet characters behind a line do not matter. -/
theorem isErrorLine_append_right {after : Text} (quiet : ∀ char ∈ after, Quiet char)
    (before : Text) : isErrorLine (before ++ after) = isErrorLine before := by
  rw [Bool.eq_iff_iff, isErrorLine, isErrorLine, List.any_eq_true, List.any_eq_true]
  refine exists_congr fun word => and_congr_right fun member => ?_
  obtain ⟨nonempty, _, last⟩ := mem_edges member
  rw [Text.contains_iff, Text.contains_iff, toLowerCase, toLowerCase, List.map_append]
  refine ⟨Text.infix_of_append_right nonempty fun char inside final => ?_, fun inside =>
    inside.trans (List.prefix_append _ _).isInfix⟩
  obtain ⟨upper, there, rfl⟩ := List.mem_map.mp inside
  exact quiet upper there (last _ final)

/-- A character with a small code that is no letter, or one of some others, is quiet. -/
theorem quiet_of_code {char : Char} (low : char.toNat < 0x41 ∨ char.toNat = 0x85 ∨
    char.toNat = 0xA0 ∨ 0x1680 ≤ char.toNat ∧ char.toNat ≤ 0x205F ∨ char.toNat = 0x3000 ∨
      char.toNat = 0xFEFF) : Quiet char := by
  have same : toLower char = char := by
    unfold toLower
    dsimp only
    rw [if_neg (by omega), if_neg (by omega), if_neg (by omega)]
  rw [Quiet, same]
  intro inside
  have codes : ∀ edge ∈ edges, 0x41 ≤ edge.toNat ∧ edge.toNat ≠ 0x85 ∧ edge.toNat ≠ 0xA0 ∧
      (edge.toNat < 0x1680 ∨ 0x205F < edge.toNat) ∧ edge.toNat ≠ 0x3000 ∧
        edge.toNat ≠ 0xFEFF := List.all_iff_forall_prop.mp (by decide)
  have code := codes char inside
  omega

/-- White space is quiet. -/
theorem quiet_of_isWhite {char : Char} (white : Text.isWhite char = true) : Quiet char := by
  refine quiet_of_code ?_
  simp only [Text.isWhite, Bool.or_eq_true, Bool.and_eq_true, decide_eq_true_eq,
    beq_iff_eq] at white
  omega

/-- So is white space of a regular expression. -/
theorem quiet_of_isSpace {char : Char} (space : isSpace char = true) : Quiet char :=
  quiet_of_isWhite (Bool.and_eq_true_iff.mp space).1

/-- So is a digit. -/
theorem quiet_of_isDigit {char : Char} (digit : char.isDigit = true) : Quiet char := by
  refine quiet_of_code (.inl ?_)
  have bounds := Char.isDigit_iff_toNat.mp digit
  have nine : '9'.toNat = 57 := rfl
  omega

/-- White space around a line does not matter. -/
theorem isErrorLine_trim (line : Text) : isErrorLine line.trim = isErrorLine line := by
  obtain ⟨before, after, shape, white, blank⟩ := Text.trim_split line
  rw [shape, isErrorLine_append_right fun char member => quiet_of_isWhite (blank char member),
    isErrorLine_append_left fun char member => quiet_of_isWhite (white char member), ← shape]

end Words

section Body

/-- What `_timestampRegex` matches is quiet. -/
theorem dropTimestamp_split (entry : Text) :
    ∃ before, entry = before ++ dropTimestamp entry ∧ ∀ char ∈ before, Quiet char := by
  unfold dropTimestamp
  dsimp only
  split_ifs with found
  · obtain ⟨opening, digits, first, second, closing⟩ := found
    refine ⟨entry.take 10 ++ (entry.drop 10).takeWhile isSpace, ?_, fun char member => ?_⟩
    · rw [List.append_assoc, List.takeWhile_append_dropWhile, List.take_append_drop]
    · rcases List.mem_append.mp member with inside | space
      · obtain ⟨index, here⟩ := List.mem_iff_getElem?.mp inside
        rw [List.getElem?_take] at here
        split_ifs at here with small
        have digit (place : Nat) (listed : place ∈ [1, 2, 4, 5, 7, 8]) (same : index = place) :
            Quiet char := by
          have some := List.all_eq_true.mp digits place listed
          rw [← same, here, Option.any_some] at some
          exact quiet_of_isDigit some
        have mark (place : Nat) (other : Char) (there : entry[place]? = some other)
            (quiet : Quiet other) (same : index = place) : Quiet char := by
          rw [same, there] at here
          exact Option.some.inj here ▸ quiet
        have cases : index = 0 ∨ index = 3 ∨ index = 6 ∨ index = 9 ∨ index = 1 ∨ index = 2 ∨
            index = 4 ∨ index = 5 ∨ index = 7 ∨ index = 8 := by omega
        rcases cases with same | same | same | same | same | same | same | same | same | same
        · exact mark 0 '[' opening (by decide) same
        · exact mark 3 ':' first (by decide) same
        · exact mark 6 ':' second (by decide) same
        · exact mark 9 ']' closing (by decide) same
        all_goals exact digit _ (by decide) same
      · exact quiet_of_isSpace (List.mem_takeWhile_imp space)
  · exact ⟨[], rfl, fun char member => absurd member List.not_mem_nil⟩

/-- A text whose first character is known. -/
theorem cons_of_head {text : Text} {char : Char} (head : text.head? = some char) :
    text = char :: text.tail := (List.cons_head?_tail head).symm

/-- What was found at the end of a line, from the end. -/
theorem countFromEnd_split {line : Text} {found : Text × Text}
    (count : countFromEnd line = some found) :
    ∃ spaces closing opening, line.reverse =
        spaces ++ closing :: (found.1 ++ 'x' :: opening :: found.2) ∧
      (∀ char ∈ spaces, isSpace char = true) ∧ isClosing closing = true ∧
      (∀ char ∈ found.1, char.isDigit = true) ∧ isOpening opening = true := by
  unfold countFromEnd at count
  dsimp only at count
  split_ifs at count with shape
  obtain rfl := Option.some.inj count
  obtain ⟨closes, _, cross, opens⟩ := shape
  obtain ⟨closing, head, closed⟩ := (Option.any_eq_true _ _).mp closes
  obtain ⟨opening, next, opened⟩ := (Option.any_eq_true _ _).mp opens
  refine ⟨line.reverse.takeWhile isSpace, closing, opening, ?_, fun char member => ?_, closed,
    fun char member => ?_, opened⟩
  · rw [← cons_of_head next, ← cons_of_head cross, List.takeWhile_append_dropWhile,
      ← cons_of_head head, List.takeWhile_append_dropWhile]
  · exact List.mem_takeWhile_imp member
  · exact List.mem_takeWhile_imp member

/-- What `_countRegex` matches is quiet. -/
theorem dropCount_split (line : Text) :
    ∃ after, line = dropCount line ++ after ∧ ∀ char ∈ after, Quiet char := by
  unfold dropCount
  cases count : countFromEnd line with
  | none =>
    exact ⟨[], (List.append_nil line).symm, fun char member => absurd member List.not_mem_nil⟩
  | some found =>
    obtain ⟨spaces, closing, opening, whole, space, closes, digits, opens⟩ :=
      countFromEnd_split count
    have quietClosing : Quiet closing := by
      simp only [isClosing, Bool.or_eq_true, beq_iff_eq] at closes
      rcases closes with rfl | rfl <;> decide
    have quietOpening : Quiet opening := by
      simp only [isOpening, Bool.or_eq_true, beq_iff_eq] at opens
      rcases opens with rfl | rfl <;> decide
    have quietCross : Quiet 'x' := by decide
    refine ⟨(spaces ++ closing :: (found.1 ++ 'x' :: opening :: found.2.takeWhile isSpace)).reverse,
      ?_, fun char member => ?_⟩
    · have rest : found.2.reverse = (found.2.dropWhile isSpace).reverse ++
          (found.2.takeWhile isSpace).reverse := by
        rw [← List.reverse_append, List.takeWhile_append_dropWhile]
      calc line = line.reverse.reverse := (List.reverse_reverse line).symm
        _ = (spaces ++ closing :: (found.1 ++ 'x' :: opening :: found.2)).reverse := by rw [whole]
        _ = _ := by
          simp only [List.reverse_append, List.reverse_cons, rest, List.append_assoc]
    · simp only [List.mem_reverse, List.mem_append, List.mem_cons] at member
      rcases member with blank | rfl | digit | rfl | rfl | blank
      · exact quiet_of_isSpace (space char blank)
      · exact quietClosing
      · exact quiet_of_isDigit (digits char digit)
      · exact quietCross
      · exact quietOpening
      · exact quiet_of_isSpace (List.mem_takeWhile_imp blank)

/-- The body of an entry is that of an error if and only if the entry is. -/
theorem isErrorLine_extractBody (line : Text) :
    isErrorLine (extractBody line) = isErrorLine line := by
  obtain ⟨before, stamp, quietStamp⟩ := dropTimestamp_split line
  obtain ⟨after, count, quietCount⟩ := dropCount_split (dropTimestamp line).trim
  rw [extractBody, isErrorLine_trim, ← isErrorLine_append_right quietCount, ← count,
    isErrorLine_trim, ← isErrorLine_append_left quietStamp, ← stamp]

/-- A decimal digit. -/
theorem isDigit_digitChar {value : Nat} (small : value < 10) :
    (Nat.digitChar value).isDigit = true := by
  have all : ∀ value < 10, (Nat.digitChar value).isDigit = true := by decide
  exact all value small

/-- A time is quiet. -/
theorem timestamp_quiet (now : Time) : ∀ char ∈ timestamp now, Quiet char := by
  have digits (value : Nat) (small : value < 100) : ∀ char ∈ two value, Quiet char := by
    intro char member
    simp only [two, List.mem_cons, List.not_mem_nil, or_false] at member
    rcases member with rfl | rfl
    · exact quiet_of_isDigit (isDigit_digitChar (by omega))
    · exact quiet_of_isDigit (isDigit_digitChar (by omega))
  have colon : Quiet ':' := by decide
  intro char member
  simp only [timestamp, List.mem_append, List.mem_cons, or_assoc] at member
  rcases member with inside | rfl | inside | rfl | inside
  · exact digits _ (by omega) char inside
  · exact colon
  · exact digits _ (by omega) char inside
  · exact colon
  · exact digits _ (by omega) char inside

/-- An entry is that of an error if and only if what it shows is. -/
theorem isErrorLine_stamped (now : Time) (visible : Text) :
    isErrorLine (stamped now visible) = isErrorLine visible := by
  have quiet : ∀ char ∈ '[' :: (timestamp now ++ "] ".toList), Quiet char := by
    have brackets : ∀ char ∈ '[' :: "] ".toList, Quiet char :=
      List.all_iff_forall_prop.mp (by decide)
    intro char member
    rcases List.mem_cons.mp member with rfl | inside
    · exact brackets _ List.mem_cons_self
    · rcases List.mem_append.mp inside with time | bracket
      · exact timestamp_quiet now char time
      · exact brackets char (List.mem_cons_of_mem _ bracket)
  exact isErrorLine_append_left quiet visible

/-- The digits of an integer are quiet, and so is its sign. -/
theorem writeInt_quiet (value : Int) : ∀ char ∈ Json.writeInt value, Quiet char := by
  have digits : ∀ char ∈ Nat.toDigits 10 value.natAbs, Quiet char := fun char member =>
    quiet_of_isDigit (Nat.isDigit_of_mem_toDigits (by decide) (by decide) member)
  intro char member
  unfold Json.writeInt at member
  split at member
  · rcases List.mem_cons.mp member with rfl | inside
    · decide
    · exact digits char inside
  · exact digits char member

/-- A count makes no error of an entry. -/
theorem isErrorLine_counted (now : Time) (visible : Text) (count : Int) :
    isErrorLine (counted now visible count) = isErrorLine visible := by
  have quiet : ∀ char ∈ " (x".toList ++ Json.writeInt count ++ ")".toList, Quiet char := by
    have brackets : ∀ char ∈ " (x".toList ++ ")".toList, Quiet char :=
      List.all_iff_forall_prop.mp (by decide)
    intro char member
    rcases List.mem_append.mp member with first | last
    · rcases List.mem_append.mp first with opening | digit
      · exact brackets char (List.mem_append_left _ opening)
      · exact writeInt_quiet count char digit
    · exact brackets char (List.mem_append_right _ last)
  have whole : visible ++ " (x".toList ++ Json.writeInt count ++ ")".toList =
      visible ++ (" (x".toList ++ Json.writeInt count ++ ")".toList) := by
    simp only [List.append_assoc]
  rw [counted, isErrorLine_stamped, whole, isErrorLine_append_right quiet]

end Body

end Focsq.Logs
