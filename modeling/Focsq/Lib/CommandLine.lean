import Focsq.Lib.Text

/-!
# Command lines

How a program of Windows splits its command line into arguments. Spaces and tabs are between
arguments unless they are quoted. Backslashes stand for themselves, but not in front of a quote: an
even number of them are half as many backslashes and the quote begins or ends a quoted part, an odd
number are half as many and the quote stands for itself.
-/

namespace CommandLine

/-- What is between arguments. -/
def isBlank (char : Char) : Bool := char == ' ' || char == '\t'

/-- So many backslashes. -/
def backslashes (count : Nat) : Text := List.replicate count '\\'

/-- The arguments in the rest of a command line: whether this is a quoted part, how many backslashes
there have just been, and the argument so far, if one has begun. -/
def splitFrom (quoted : Bool) (count : Nat) (argument : Option Text) : Text → List Text
  | [] => (argument.map (· ++ backslashes count)).toList
  | char :: rest =>
    let begun := argument.getD []
    if char = '\\' then splitFrom quoted (count + 1) (some begun) rest
    else if char = '"' then
      if count % 2 = 0 then splitFrom (!quoted) 0 (some (begun ++ backslashes (count / 2))) rest
      else splitFrom quoted 0 (some (begun ++ backslashes (count / 2) ++ ['"'])) rest
    else if isBlank char && !quoted then
      (argument.map (· ++ backslashes count)).toList ++ splitFrom false 0 none rest
    else splitFrom quoted 0 (some (begun ++ backslashes count ++ [char])) rest

/-- The arguments in a command line. -/
def split (line : Text) : List Text := splitFrom false 0 none line

/-- The command line behind the name of the program. The name is what is quoted, or what there is
before a blank; backslashes are nothing special in it. -/
def afterProgram : Text → Text
  | '"' :: rest => (rest.dropWhile (· != '"')).tail
  | line => line.dropWhile fun char => !isBlank char

/-- A character that stands for itself everywhere. -/
structure Plain (char : Char) : Prop where
  /-- It is no quote. -/
  quote : char ≠ '"'
  /-- It is no blank. -/
  blank : isBlank char = false

/-- One more backslash. -/
theorem backslashes_succ (count : Nat) : backslashes (count + 1) = backslashes count ++ ['\\'] :=
  List.replicate_succ'

/-- Backslashes are counted. -/
theorem splitFrom_backslashes (quoted : Bool) (count more : Nat) (begun rest : Text) :
    splitFrom quoted count (some begun) (backslashes more ++ rest) =
      splitFrom quoted (count + more) (some begun) rest := by
  induction more generalizing count with
  | zero => rfl
  | succ more ih =>
    have next := ih (count + 1)
    rw [Nat.add_right_comm, Nat.add_assoc] at next
    exact next

/-- A quote behind twice as many backslashes begins or ends a quoted part. -/
theorem splitFrom_quote (quoted : Bool) (count : Nat) (begun rest : Text) :
    splitFrom quoted 0 (some begun) (backslashes (count * 2) ++ '"' :: rest) =
      splitFrom (!quoted) 0 (some (begun ++ backslashes count)) rest := by
  rw [splitFrom_backslashes, splitFrom, if_neg (by decide), if_pos rfl, Nat.zero_add,
    if_pos (Nat.mul_mod_left count 2), Nat.mul_div_cancel count (by decide)]
  rfl

/-- A quote behind one more backslash stands for itself. -/
theorem splitFrom_escaped (quoted : Bool) (count : Nat) (begun rest : Text) :
    splitFrom quoted 0 (some begun) (backslashes (count * 2 + 1) ++ '"' :: rest) =
      splitFrom quoted 0 (some (begun ++ backslashes count ++ ['"'])) rest := by
  have odd : (0 + (count * 2 + 1)) % 2 = 1 := by omega
  have half : (0 + (count * 2 + 1)) / 2 = count := by omega
  rw [splitFrom_backslashes, splitFrom, if_neg (by decide), if_pos rfl, odd,
    if_neg (by decide), half]
  rfl

/-- Any other character of a quoted part stands for itself, and so do the backslashes in front. -/
theorem splitFrom_quoted {char : Char} (noBackslash : char ≠ '\\') (noQuote : char ≠ '"')
    (count : Nat) (begun rest : Text) :
    splitFrom true 0 (some begun) (backslashes count ++ char :: rest) =
      splitFrom true 0 (some (begun ++ backslashes count ++ [char])) rest := by
  rw [splitFrom_backslashes, splitFrom, if_neg noBackslash, if_neg noQuote, Bool.not_true,
    Bool.and_false, if_neg Bool.false_ne_true, Nat.zero_add]
  rfl

/-- The end of a command line, or a blank, ends an argument. -/
theorem splitFrom_end (count : Nat) (begun : Text) {after : Text}
    (ends : ∀ char ∈ after.head?, char = ' ') :
    splitFrom false count (some begun) after =
      (begun ++ backslashes count) :: split after.tail := by
  cases after with
  | nil => rfl
  | cons char rest =>
    rw [ends char rfl]
    rfl

/-- Plain characters make up an argument. -/
theorem splitFrom_plain (count : Nat) (begun : Text) {text after : Text}
    (plain : ∀ char ∈ text, Plain char) (ends : ∀ char ∈ after.head?, char = ' ') :
    splitFrom false count (some begun) (text ++ after) =
      (begun ++ backslashes count ++ text) :: split after.tail := by
  induction text generalizing count begun with
  | nil => rw [List.nil_append, splitFrom_end count begun ends, List.append_nil]
  | cons char rest ih =>
    have later := fun other member => plain other (List.mem_cons_of_mem char member)
    have first := plain char List.mem_cons_self
    rw [List.cons_append, splitFrom]
    by_cases backslash : char = '\\'
    · rw [if_pos backslash, ih _ _ later, backslashes_succ, backslash]
      simp only [Option.getD_some, List.append_assoc, List.singleton_append]
    · rw [if_neg backslash, if_neg first.quote, first.blank, Bool.false_and,
        if_neg Bool.false_ne_true, ih _ _ later]
      simp only [Option.getD_some, List.append_assoc, List.singleton_append]
      rfl

/-- An argument begins with anything that is no blank. -/
theorem splitFrom_none {char : Char} (blank : isBlank char = false) (rest : Text) :
    splitFrom false 0 none (char :: rest) = splitFrom false 0 (some []) (char :: rest) := by
  rw [splitFrom, splitFrom, blank]
  rfl

/-- A plain text is an argument. -/
theorem split_plain {text after : Text} (nonempty : text ≠ []) (plain : ∀ char ∈ text, Plain char)
    (ends : ∀ char ∈ after.head?, char = ' ') :
    split (text ++ after) = text :: split after.tail := by
  obtain ⟨char, rest, rfl⟩ := List.exists_cons_of_ne_nil nonempty
  have whole := splitFrom_plain 0 [] plain ends
  rw [List.cons_append] at whole
  rw [split, List.cons_append, splitFrom_none (plain char List.mem_cons_self).blank, whole]
  rfl

end CommandLine
