import Mathlib.Algebra.Ring.Int.Defs
import Mathlib.Algebra.Ring.Nat
import Mathlib.Data.List.DropRight
import Mathlib.Data.List.TakeWhile

/-!
# Texts

Texts as lists of characters, with the operations of Dart's strings.
-/

/-- A text. -/
abbrev Text : Type := List Char

namespace Text

/-- Whether `trim` removes the character: white space of Unicode, and the byte order mark. -/
def isWhite (char : Char) : Bool :=
  let code := char.toNat
  (9 ≤ code && code ≤ 13) || code == 0x20 || code == 0x85 || code == 0xA0 || code == 0x1680 ||
    (0x2000 ≤ code && code ≤ 0x200A) || code == 0x2028 || code == 0x2029 || code == 0x202F ||
    code == 0x205F || code == 0x3000 || code == 0xFEFF

/-- `trim` — the text without white space around it. -/
def trim (text : Text) : Text := (text.dropWhile isWhite).rdropWhile isWhite

/-- The empty text is left alone. -/
@[simp] theorem trim_nil : trim [] = [] := rfl

/-- `indexOf` — where a pattern occurs for the first time. -/
def indexOf (pattern : Text) : Text → Option Nat
  | [] => if pattern.isEmpty then some 0 else none
  | char :: rest =>
    if pattern.isPrefixOf (char :: rest) then some 0 else (indexOf pattern rest).map (· + 1)

/-- `contains`. -/
def contains (text pattern : Text) : Bool := (indexOf pattern text).isSome

/-- `startsWith`. -/
def startsWith (text pattern : Text) : Bool := pattern.isPrefixOf text

/-- `replaceFirst`, with a text as the pattern. -/
def replaceFirst (text pattern replacement : Text) : Text :=
  match indexOf pattern text with
  | none => text
  | some index => text.take index ++ replacement ++ text.drop (index + pattern.length)

/-- The code units of a character in UTF-16. -/
def codeUnits (char : Char) : List Nat :=
  let code := char.toNat
  if code < 0x10000 then [code]
  else [0xD800 + (code - 0x10000) / 0x400, 0xDC00 + (code - 0x10000) % 0x400]

/-- `compareTo` — by code units. -/
def compareTo (left right : Text) : Ordering :=
  compare (left.flatMap codeUnits) (right.flatMap codeUnits)

/-- The number of bytes in UTF-8. -/
def utf8Length (text : Text) : Nat := (text.map Char.utf8Size).sum

/-- A pattern occurs in a text if it is a part of it. -/
theorem contains_iff (text pattern : Text) : text.contains pattern = true ↔ pattern <:+: text := by
  unfold contains
  induction text with
  | nil =>
    rw [List.infix_nil, indexOf]
    cases pattern <;> simp
  | cons char rest ih =>
    rw [List.infix_cons_iff, ← ih, indexOf]
    by_cases here : pattern.isPrefixOf (char :: rest) = true
    · simp [here, List.isPrefixOf_iff_prefix.mp here]
    · have other : ¬ pattern <+: char :: rest := fun lead =>
        here (List.isPrefixOf_iff_prefix.mpr lead)
      simp [here, other]

/-- What does not start with a character of a text in front is not found earlier because of it. -/
theorem infix_of_append_left {word before after : Text} (nonempty : word ≠ [])
    (apart : ∀ char ∈ before, word.head? ≠ some char) (inside : word <:+: before ++ after) :
    word <:+: after := by
  induction before with
  | nil => exact inside
  | cons char rest ih =>
    have later := ih fun other member => apart other (List.mem_cons_of_mem _ member)
    rw [List.cons_append, List.infix_cons_iff] at inside
    rcases inside with lead | inside
    · obtain ⟨first, more, shape⟩ := List.exists_cons_of_ne_nil nonempty
      rw [shape, List.cons_prefix_cons] at lead
      have head : word.head? = some char := by
        rw [shape, lead.1]
        rfl
      exact absurd head (apart char List.mem_cons_self)
    · exact later inside

/-- What does not end with a character of a text behind is not found later because of it. -/
theorem infix_of_append_right {word before after : Text} (nonempty : word ≠ [])
    (apart : ∀ char ∈ after, word.getLast? ≠ some char) (inside : word <:+: before ++ after) :
    word <:+: before := by
  rw [← List.reverse_infix, List.reverse_append] at inside
  rw [← List.reverse_infix]
  refine infix_of_append_left (by simpa using nonempty) (fun char member => ?_) inside
  rw [List.head?_reverse]
  exact apart char (List.mem_reverse.mp member)

/-- A text is what `trim` leaves of it, with white space around it. -/
theorem trim_split (text : Text) : ∃ before after, text = before ++ text.trim ++ after ∧
    (∀ char ∈ before, isWhite char = true) ∧ ∀ char ∈ after, isWhite char = true := by
  refine ⟨text.takeWhile isWhite, (text.dropWhile isWhite).rtakeWhile isWhite, ?_, ?_, ?_⟩
  · rw [List.append_assoc, trim, List.rdropWhile_append_rtakeWhile, List.takeWhile_append_dropWhile]
  · exact fun char member => List.mem_takeWhile_imp member
  · exact fun char member => List.mem_rtakeWhile_imp member

/-- A text starts with a pattern in front of it. -/
@[simp] theorem startsWith_append (pattern rest : Text) :
    startsWith (pattern ++ rest) pattern = true := by
  rw [startsWith, List.isPrefixOf_iff_prefix]
  exact List.prefix_append pattern rest

/-- A character that does not occur before is found at the end of what is before it. -/
theorem indexOf_append {before : Text} {char : Char} (absent : char ∉ before) (rest : Text) :
    indexOf [char] (before ++ char :: rest) = some before.length := by
  induction before with
  | nil => simp [indexOf]
  | cons first more ih =>
    have both : char ≠ first ∧ char ∉ more := by simpa using absent
    have other : ([char] : Text).isPrefixOf (first :: (more ++ char :: rest)) = false := by
      rw [List.isPrefixOf, beq_eq_false_iff_ne.mpr both.1, Bool.false_and]
    rw [List.cons_append, indexOf, other, if_neg Bool.false_ne_true, ih both.2]
    rfl

/-- A pattern that occurs fits into the text. -/
theorem length_le_of_indexOf {pattern text : Text} {index : Nat}
    (found : indexOf pattern text = some index) : pattern.length ≤ text.length := by
  have inside : pattern <:+: text :=
    (contains_iff text pattern).mp (by rw [contains, found]; rfl)
  exact inside.length_le

/-- Where a pattern occurs for the first time does not depend on what follows. -/
theorem indexOf_extend {pattern text : Text} {index : Nat}
    (found : indexOf pattern text = some index) (rest : Text) :
    indexOf pattern (text ++ rest) = some index := by
  induction text generalizing index with
  | nil =>
    cases pattern with
    | nil => cases rest <;> simpa [indexOf] using found
    | cons first more => simp [indexOf] at found
  | cons char later ih =>
    rw [indexOf] at found
    rw [List.cons_append, indexOf]
    by_cases here : pattern.isPrefixOf (char :: later) = true
    · have still : pattern.isPrefixOf (char :: (later ++ rest)) = true :=
        List.isPrefixOf_iff_prefix.mpr
          ((List.isPrefixOf_iff_prefix.mp here).trans (List.prefix_append _ rest))
      rw [if_pos here] at found
      rwa [if_pos still]
    · rw [if_neg here] at found
      obtain ⟨earlier, behind, rfl⟩ := Option.map_eq_some_iff.mp found
      -- The pattern fits into what follows, so that it cannot reach into the rest.
      have fits := length_le_of_indexOf behind
      have other : ¬ pattern.isPrefixOf (char :: (later ++ rest)) = true := fun lead =>
        here (List.isPrefixOf_iff_prefix.mpr (List.prefix_of_prefix_length_le
          (List.isPrefixOf_iff_prefix.mp lead) (List.prefix_append (char :: later) rest)
          (by rw [List.length_cons]; omega)))
      rw [if_neg other, ih behind]
      rfl

/-- From where a pattern occurs on, the text begins with it. -/
theorem drop_of_indexOf {pattern text : Text} {index : Nat}
    (found : indexOf pattern text = some index) : ∃ rest, text.drop index = pattern ++ rest := by
  induction text generalizing index with
  | nil =>
    cases pattern with
    | nil => exact ⟨[], List.drop_nil⟩
    | cons first more => simp [indexOf] at found
  | cons char later ih =>
    rw [indexOf] at found
    by_cases here : pattern.isPrefixOf (char :: later) = true
    · rw [if_pos here] at found
      obtain ⟨rest, whole⟩ := List.isPrefixOf_iff_prefix.mp here
      cases found
      exact ⟨rest, whole.symm⟩
    · rw [if_neg here] at found
      obtain ⟨earlier, behind, rfl⟩ := Option.map_eq_some_iff.mp found
      exact ih behind

section Separators

variable {α : Type*}

/-- What is in front of the first separator is found again. -/
theorem append_cons_inj_left {separator : α} {left right before after : List α}
    (freeLeft : separator ∉ left) (freeRight : separator ∉ right)
    (same : left ++ separator :: before = right ++ separator :: after) :
    left = right ∧ before = after := by
  induction left generalizing right with
  | nil =>
    cases right with
    | nil => exact ⟨rfl, (List.cons.inj same).2⟩
    | cons head rest =>
      have equal : separator = head := (List.cons.inj same).1
      exact absurd (equal ▸ List.mem_cons_self) freeRight
  | cons first left ih =>
    cases right with
    | nil =>
      have equal : first = separator := (List.cons.inj same).1
      exact absurd (equal ▸ List.mem_cons_self) freeLeft
    | cons head rest =>
      obtain ⟨equal, tails⟩ := List.cons.inj same
      obtain ⟨parts, ends⟩ := ih (fun member => freeLeft (List.mem_cons_of_mem _ member))
        (fun member => freeRight (List.mem_cons_of_mem _ member)) tails
      exact ⟨by rw [equal, parts], ends⟩

/-- What is behind the last separator is found again. -/
theorem append_cons_inj_right {separator : α} {left right before after : List α}
    (freeBefore : separator ∉ before) (freeAfter : separator ∉ after)
    (same : left ++ separator :: before = right ++ separator :: after) :
    left = right ∧ before = after := by
  have turned := congrArg List.reverse same
  rw [List.reverse_append, List.reverse_append, List.reverse_cons, List.reverse_cons,
    List.append_assoc, List.append_assoc, List.singleton_append, List.singleton_append] at turned
  obtain ⟨ends, parts⟩ := append_cons_inj_left
    (fun member => freeBefore (List.mem_reverse.mp member))
    (fun member => freeAfter (List.mem_reverse.mp member)) turned
  exact ⟨List.reverse_injective parts, List.reverse_injective ends⟩

end Separators

section Marks

variable {word : Text} {mark : Char}

/-- What ends with a mark is not found where there is no mark. -/
theorem indexOf_unmarked {text : Text} (free : mark ∉ text) :
    indexOf (word ++ [mark]) text = none := by
  have outside : ¬word ++ [mark] <:+: text := fun inside =>
    free (inside.mem (List.mem_append_right _ List.mem_cons_self))
  rw [← contains_iff, contains, Bool.not_eq_true, Option.isSome_eq_false_iff] at outside
  exact Option.isNone_iff_eq_none.mp outside

/-- A word with a mark behind it starts a text whose first mark is behind the same word. -/
theorem eq_of_marked {front rest : Text} (plain : mark ∉ word) (free : mark ∉ front)
    (starts : word ++ [mark] <+: front ++ mark :: rest) : word = front := by
  obtain ⟨behind, whole⟩ := starts
  rw [List.append_assoc, List.singleton_append] at whole
  exact (append_cons_inj_left plain free whole).1

/-- A word with a mark behind it is found where it stands. -/
theorem indexOf_marked (plain : mark ∉ word) {front : Text} (free : mark ∉ front) (rest : Text) :
    indexOf (word ++ [mark]) (front ++ (word ++ mark :: rest)) = some front.length := by
  induction front with
  | nil =>
    have starts : word ++ [mark] <+: word ++ mark :: rest := ⟨rest, by simp⟩
    cases shape : word ++ mark :: rest with
    | nil => simp at shape
    | cons first more =>
      rw [List.nil_append, indexOf, if_pos (List.isPrefixOf_iff_prefix.mpr (shape ▸ starts))]
      rfl
  | cons first more ih =>
    have later := ih fun member => free (List.mem_cons_of_mem _ member)
    have other : ¬word ++ [mark] <+: first :: (more ++ (word ++ mark :: rest)) := by
      intro starts
      have joined : first :: (more ++ (word ++ mark :: rest)) =
          (first :: more ++ word) ++ mark :: rest := by simp
      have clear : mark ∉ first :: more ++ word := fun member =>
        (List.mem_append.mp member).elim free plain
      have same := congrArg List.length (eq_of_marked plain clear (joined ▸ starts))
      rw [List.length_append, List.length_cons] at same
      omega
    rw [List.cons_append, indexOf, if_neg fun found => other (List.isPrefixOf_iff_prefix.mp found),
      later]
    rfl

/-- A word with a mark behind it is not found where another word is in front of the mark. -/
theorem indexOf_other (plain : mark ∉ word) {front : Text} (free : mark ∉ front)
    (other : ¬word <:+ front) (rest : Text) :
    indexOf (word ++ [mark]) (front ++ mark :: rest) =
      (indexOf (word ++ [mark]) rest).map (· + (front.length + 1)) := by
  induction front with
  | nil =>
    have apart : ¬word ++ [mark] <+: mark :: rest := fun starts =>
      other ((eq_of_marked plain free starts) ▸ List.suffix_refl _)
    rw [List.nil_append, indexOf, if_neg fun found => apart (List.isPrefixOf_iff_prefix.mp found)]
    rfl
  | cons first more ih =>
    have later := ih (fun member => free (List.mem_cons_of_mem _ member))
      fun suffix => other (suffix.trans (List.suffix_cons _ _))
    have apart : ¬word ++ [mark] <+: first :: (more ++ mark :: rest) := fun starts =>
      other ((eq_of_marked plain free starts) ▸ List.suffix_refl _)
    rw [List.cons_append, indexOf, if_neg fun found => apart (List.isPrefixOf_iff_prefix.mp found),
      later, Option.map_map]
    congr 1

variable (replacement : Text)

/-- A word with a mark behind it is replaced where it stands. -/
theorem replaceFirst_marked (plain : mark ∉ word) {front : Text} (free : mark ∉ front)
    (rest : Text) :
    replaceFirst (front ++ (word ++ mark :: rest)) (word ++ [mark]) replacement =
      front ++ (replacement ++ rest) := by
  have behind : (front ++ (word ++ mark :: rest)).drop (front.length + (word ++ [mark]).length) =
      rest := by
    have joined : front ++ (word ++ mark :: rest) = (front ++ (word ++ [mark])) ++ rest := by simp
    rw [joined, ← List.length_append, List.drop_left]
  rw [replaceFirst, indexOf_marked plain free rest]
  dsimp only
  rw [behind, List.take_left, List.append_assoc]

/-- What is in front of a mark stays if another word is there. -/
theorem replaceFirst_other (plain : mark ∉ word) {front : Text} (free : mark ∉ front)
    (other : ¬word <:+ front) (rest : Text) :
    replaceFirst (front ++ mark :: rest) (word ++ [mark]) replacement =
      front ++ mark :: replaceFirst rest (word ++ [mark]) replacement := by
  rw [replaceFirst, replaceFirst, indexOf_other plain free other rest]
  cases indexOf (word ++ [mark]) rest with
  | none => rfl
  | some index =>
    have joined : front ++ mark :: rest = (front ++ [mark]) ++ rest := by simp
    have length : index + (front.length + 1) = (front ++ [mark]).length + index := by
      rw [List.length_append, List.length_singleton]
      omega
    rw [Option.map_some]
    dsimp only
    rw [joined, length, List.take_length_add_append, Nat.add_assoc, List.drop_length_add_append]
    simp

/-- Where there is no mark, nothing is replaced. -/
theorem replaceFirst_unmarked {text : Text} (free : mark ∉ text) :
    replaceFirst text (word ++ [mark]) replacement = text := by
  rw [replaceFirst, indexOf_unmarked free]

end Marks

/-- A text with no white space at its ends is left alone. -/
theorem trim_eq_self {text : Text} {first last : Char} (starts : text.head? = some first)
    (ends : text.getLast? = some last) (dark : isWhite first = false)
    (black : isWhite last = false) : text.trim = text := by
  have front : text.dropWhile isWhite = text := by
    cases text with
    | nil => rfl
    | cons char rest =>
      cases starts
      rw [List.dropWhile_cons, if_neg (by rw [dark]; exact Bool.false_ne_true)]
  rw [trim, front, List.rdropWhile_eq_self_iff]
  intro some
  have same : text.getLast some = last := by
    have known := List.getLast?_eq_some_getLast some
    exact Option.some.inj (known.symm.trans ends)
  rw [same, black]
  exact Bool.false_ne_true

end Text
