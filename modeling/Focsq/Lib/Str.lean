import Focsq.Lib.Reader

/-!
# Strings of Rust

Texts as lists of characters, with the operations of Rust's `str`.
-/

namespace Str

/-- White space of Unicode. -/
def isWhitespace (char : Char) : Bool := Text.isWhite char && char.toNat != 0xFEFF

/-- `trim` — the text without white space around it. -/
def trim (text : Text) : Text := (text.dropWhile isWhitespace).rdropWhile isWhitespace

/-- `to_ascii_lowercase`. -/
def toAsciiLowercase (text : Text) : Text := text.map Char.toLower

/-- `split_once` — what is in front of the first separator, and what is behind it. -/
def splitOnce (separator text : Text) : Option (Text × Text) :=
  (Text.indexOf separator text).map fun index =>
    (text.take index, text.drop (index + separator.length))

/-- `rsplit_once` — what is in front of the last separator, and what is behind it. -/
def rsplitOnce (separator : Char) (text : Text) : Option (Text × Text) :=
  (splitOnce [separator] text.reverse).map fun parts => (parts.2.reverse, parts.1.reverse)

/-- `strip_prefix`. -/
def stripPrefix (lead text : Text) : Option Text :=
  if lead.isPrefixOf text then some (text.drop lead.length) else none

/-- `strip_suffix`. -/
def stripSuffix (ending text : Text) : Option Text :=
  if ending.isSuffixOf text then some (text.take (text.length - ending.length)) else none

/-- What is behind a plus sign, if there is one. -/
def withoutPlus (text : Text) : Text := if text.head? = some '+' then text.tail else text

/-- `parse` of an unsigned number below a limit. -/
def parseUnsigned (limit : Nat) (text : Text) : Option Nat :=
  Reader.parseWith (Reader.number 10 none true limit) (withoutPlus text)

/-- A line without the carriage return at its end. -/
def chomp (line : Text) : Text := (stripSuffix ['\r'] line).getD line

/-- `lines` — what is in front of each line feed, and what is behind the last one, if any. -/
def lines (text : Text) : List Text :=
  let pieces := text.splitOn '\n'
  pieces.dropLast.map chomp ++ (pieces.getLast?.filter (· ≠ [])).toList

/-- `split_whitespace`. -/
def splitWhitespace (text : Text) : List Text := (text.splitOnP isWhitespace).filter (· ≠ [])

section Pieces

/-- A line that does not end with a carriage return is left alone. -/
theorem chomp_eq {line : Text} (free : '\r' ∉ line) : chomp line = line := by
  have other : ¬['\r'] <:+ line := fun ending => free (ending.mem List.mem_cons_self)
  rw [chomp, stripSuffix, if_neg (mt List.isSuffixOf_iff_suffix.mp other)]
  rfl

/-- Lines that each end with a line feed. -/
theorem lines_terminated {texts : List Text} (free : ∀ text ∈ texts, '\n' ∉ text ∧ '\r' ∉ text) :
    lines (texts.flatMap (· ++ ['\n'])) = texts := by
  have pieces : (texts.flatMap (· ++ ['\n'])).splitOn '\n' = texts ++ [[]] := by
    induction texts with
    | nil => rfl
    | cons text texts ih =>
      rw [List.flatMap_cons, List.append_assoc]
      show (text ++ '\n' :: texts.flatMap (· ++ ['\n'])).splitOn '\n' = _
      rw [List.splitOn_append_cons_self_of_not_mem (free text List.mem_cons_self).1,
        ih fun other member => free other (List.mem_cons_of_mem _ member)]
      rfl
  have plain : texts.map chomp = texts :=
    (List.map_congr_left fun text member => chomp_eq (free text member).2).trans (List.map_id _)
  rw [lines, pieces]
  rw [List.dropLast_concat, List.getLast?_concat, plain]
  exact List.append_nil _

/-- A word in front of white space. -/
theorem splitWhitespace_append {word : Text} (some : word ≠ [])
    (solid : ∀ char ∈ word, isWhitespace char = false) {space : Char}
    (white : isWhitespace space = true) (rest : Text) :
    splitWhitespace (word ++ space :: rest) = word :: splitWhitespace rest := by
  rw [splitWhitespace, List.splitOnP_append_cons_of_forall_mem solid space white,
    List.filter_cons_of_pos (by simpa using some)]
  rfl

/-- White space in front of a text. -/
theorem splitWhitespace_cons {space : Char} (white : isWhitespace space = true) (rest : Text) :
    splitWhitespace (space :: rest) = splitWhitespace rest := by
  have none : ∀ char ∈ ([] : Text), isWhitespace char = false := fun _ member => by cases member
  have split := List.splitOnP_append_cons_of_forall_mem none space white rest
  rw [splitWhitespace, show space :: rest = [] ++ space :: rest from rfl, split,
    List.filter_cons_of_neg (by simp)]
  rfl

/-- A word with blanks behind it. -/
theorem splitWhitespace_blanks {word : Text} (some : word ≠ [])
    (solid : ∀ char ∈ word, isWhitespace char = false) (count : Nat) :
    splitWhitespace (word ++ List.replicate count ' ') = [word] := by
  have blanks (count : Nat) : splitWhitespace (List.replicate count ' ') = [] := by
    induction count with
    | zero => rfl
    | succ count ih => rw [List.replicate_succ, splitWhitespace_cons (by decide), ih]
  cases count with
  | zero =>
    rw [List.replicate_zero, List.append_nil, splitWhitespace, List.splitOnP_eq_singleton solid,
      List.filter_cons_of_pos (by simpa using some), List.filter_nil]
  | succ count =>
    rw [List.replicate_succ, splitWhitespace_append some solid (by decide), blanks]

/-- What is in front of the second of two words. -/
theorem intercalate_cons_cons (space : Char) (first second : Text) (words : List Text) :
    [space].intercalate (first :: second :: words) =
      first ++ space :: [space].intercalate (second :: words) := by
  simp [List.intercalate, List.intersperse]

/-- What is in words with a character between them. -/
theorem mem_intercalate {space char : Char} {words : List Text}
    (member : char ∈ [space].intercalate words) : char = space ∨ ∃ word ∈ words, char ∈ word := by
  induction words with
  | nil => exact absurd member List.not_mem_nil
  | cons first words ih =>
    cases words with
    | nil =>
      have alone : [space].intercalate [first] = first := by simp [List.intercalate]
      exact .inr ⟨first, List.mem_cons_self, alone ▸ member⟩
    | cons second words =>
      rw [intercalate_cons_cons] at member
      rcases List.mem_append.mp member with here | later
      · exact .inr ⟨first, List.mem_cons_self, here⟩
      · rcases List.mem_cons.mp later with between | there
        · exact .inl between
        · refine (ih there).imp_right fun found => ?_
          obtain ⟨word, place, inside⟩ := found
          exact ⟨word, List.mem_cons_of_mem _ place, inside⟩

/-- Words with white space between them and blanks behind them. -/
theorem splitWhitespace_intercalate {space : Char} (white : isWhitespace space = true) (count : Nat)
    (first : Text) (words : List Text)
    (solid : ∀ word ∈ first :: words, word ≠ [] ∧ ∀ char ∈ word, isWhitespace char = false) :
    splitWhitespace ([space].intercalate (first :: words) ++ List.replicate count ' ') =
      first :: words := by
  obtain ⟨some, here⟩ := solid first List.mem_cons_self
  induction words generalizing first with
  | nil =>
    have alone : [space].intercalate [first] = first := by simp [List.intercalate]
    rw [alone, splitWhitespace_blanks some here]
  | cons second words ih =>
    have rest (word : Text) (member : word ∈ second :: words) :=
      solid word (List.mem_cons_of_mem _ member)
    obtain ⟨next, there⟩ := rest second List.mem_cons_self
    rw [intercalate_cons_cons, List.append_assoc, List.cons_append,
      splitWhitespace_append some here white, ih second rest next there]

end Pieces

section Trim

/-- White space has no case. -/
theorem toLower_whitespace {char : Char} (white : isWhitespace char = true) :
    char.toLower = char := by
  have capital : ¬(char.val ≥ 'A'.val ∧ char.val ≤ 'Z'.val) := by
    rintro ⟨above, below⟩
    have most : 65 ≤ char.toNat ∧ char.toNat ≤ 90 :=
      ⟨UInt32.le_iff_toNat_le.mp above, UInt32.le_iff_toNat_le.mp below⟩
    have code := (Bool.and_eq_true_iff.mp white).1
    simp only [Text.isWhite, Bool.or_eq_true, Bool.and_eq_true, decide_eq_true_eq, beq_iff_eq]
      at code
    omega
  exact dif_neg capital

/-- A text with no white space at its ends is left alone. -/
theorem trim_eq_self {text : Text}
    (front : ∀ char, text.head? = some char → isWhitespace char = false)
    (back : ∀ char, text.getLast? = some char → isWhitespace char = false) : trim text = text := by
  have kept : text.dropWhile isWhitespace = text := by
    cases text with
    | nil => rfl
    | cons char rest =>
      rw [List.dropWhile_cons, if_neg (by rw [front char rfl]; exact Bool.false_ne_true)]
  rw [trim, kept, List.rdropWhile_eq_self_iff]
  intro some
  rw [back _ (List.getLast?_eq_some_getLast some)]
  exact Bool.false_ne_true

end Trim

section Splitting

/-- A text is split at the first separator. -/
theorem splitOnce_append {separator : Char} {before : Text} (free : separator ∉ before)
    (after : Text) :
    splitOnce [separator] (before ++ separator :: after) = some (before, after) := by
  have behind : (before ++ separator :: after).drop (before.length + 1) = after := by
    rw [List.drop_length_add_append]
    rfl
  rw [splitOnce, Text.indexOf_append free, Option.map_some, List.take_left]
  exact congrArg (fun rest => some (before, rest)) behind

/-- A text is split at its last separator. -/
theorem rsplitOnce_append {separator : Char} {after : Text} (free : separator ∉ after)
    (before : Text) :
    rsplitOnce separator (before ++ separator :: after) = some (before, after) := by
  have turned : (before ++ separator :: after).reverse =
      after.reverse ++ separator :: before.reverse := by simp
  rw [rsplitOnce, turned, splitOnce_append (by simpa using free)]
  simp

/-- Two characters are found where they stand first. -/
theorem indexOf_pair {first second : Char} (apart : first ≠ second) {before : Text}
    (free : ¬[first, second] <:+: before) (after : Text) :
    Text.indexOf [first, second] (before ++ first :: second :: after) = some before.length := by
  induction before with
  | nil => simp [Text.indexOf]
  | cons char rest ih =>
    have later := ih fun inside => free (inside.trans (List.suffix_cons char rest).isInfix)
    have other : ¬[first, second] <+: char :: (rest ++ first :: second :: after) := by
      intro lead
      obtain ⟨here, lead⟩ := List.cons_prefix_cons.mp lead
      cases rest with
      | nil => exact apart (List.cons_prefix_cons.mp lead).1.symm
      | cons next more =>
        have there : second = next := (List.cons_prefix_cons.mp lead).1
        exact free ⟨[], more, by rw [here, there]; rfl⟩
    rw [List.cons_append, Text.indexOf,
      if_neg fun found => other (List.isPrefixOf_iff_prefix.mp found), later]
    rfl

end Splitting

section Numbers

/-- The digits of a number are read as it. -/
theorem parseUnsigned_toDigits {limit value : Nat} (small : value < limit) :
    parseUnsigned limit (Nat.toDigits 10 value) = some value := by
  have unsigned : (Nat.toDigits 10 value).head? ≠ some '+' := by
    intro plus
    have decimal := Nat.isDigit_of_mem_toDigits (by decide) (by decide)
      (List.mem_of_mem_head? plus)
    cases decimal
  rw [parseUnsigned, withoutPlus, if_neg unsigned, Reader.parseWith_eq_some]
  exact Reader.number_toDigits small

end Numbers

end Str
