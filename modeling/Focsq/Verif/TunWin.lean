import Focsq.Lib.CommandLine
import Focsq.Backend.TunWin

/-!
# Arguments come back

Splitting the command line that is built gives the program and its arguments back. The quoting loop
holds backslashes back until it knows what they are in front of; what it still has to write for the
rest of an argument is what the splitter makes this rest of.
-/

namespace Focsq.TunWin

open CommandLine

/-- What the loop still writes, with so many backslashes held back. -/
def remaining (held : Nat) : Text → Text
  | [] => backslashes (held * 2) ++ ['"']
  | char :: rest =>
    if char = '\\' then remaining (held + 1) rest
    else if char = '"' then backslashes (held * 2 + 1) ++ '"' :: remaining 0 rest
    else backslashes held ++ char :: remaining 0 rest

/-- The loop adds to what is written. -/
theorem quoteLoop_eq (out : Text) (held : Nat) (rest : Text) :
    quoteLoop out held rest = out ++ remaining held rest := by
  induction rest generalizing out held with
  | nil =>
    rw [quoteLoop, remaining, List.append_assoc]
    rfl
  | cons char rest ih =>
    rw [quoteLoop, remaining]
    split
    · exact ih out (held + 1)
    · split
      · rw [ih, List.append_assoc, List.append_assoc]
        rfl
      · rw [ih, List.append_assoc, List.append_assoc]
        rfl

/-- What the loop still writes is read as the backslashes held back and the rest. -/
theorem splitFrom_remaining (held : Nat) (begun rest after : Text) :
    splitFrom true 0 (some begun) (remaining held rest ++ after) =
      splitFrom false 0 (some (begun ++ backslashes held ++ rest)) after := by
  induction rest generalizing held begun with
  | nil =>
    rw [remaining, List.append_assoc, List.singleton_append, splitFrom_quote, List.append_nil]
    rfl
  | cons char rest ih =>
    rw [remaining]
    split
    · rename_i backslash
      rw [ih, backslashes_succ, backslash]
      simp only [List.append_assoc, List.singleton_append]
    · rename_i noBackslash
      split
      · rename_i quote
        rw [List.append_assoc, List.cons_append, splitFrom_escaped, ih, quote]
        simp only [backslashes, List.replicate_zero, List.append_assoc, List.append_nil,
          List.singleton_append]
      · rename_i noQuote
        rw [List.append_assoc, List.cons_append, splitFrom_quoted noBackslash noQuote, ih]
        simp only [backslashes, List.replicate_zero, List.append_assoc, List.append_nil,
          List.singleton_append]

/-- Characters of an argument that is not quoted are plain. -/
theorem plain_of_unquoted {arg : Text}
    (unquoted : ¬arg.any (fun char => char == ' ' || char == '"' || char == '\t') = true) :
    ∀ char ∈ arg, Plain char := by
  intro char member
  have none : ¬(char == ' ' || char == '"' || char == '\t') = true := fun special =>
    unquoted (List.any_eq_true.mpr ⟨char, member, special⟩)
  simp only [Bool.or_eq_true, beq_iff_eq, not_or] at none
  refine ⟨none.1.2, ?_⟩
  rw [isBlank, beq_false_of_ne none.1.1, beq_false_of_ne none.2]
  rfl

/-- A quoted argument is read, with what is behind it. -/
theorem split_quoteArg (arg : Text) {after : Text} (ends : ∀ char ∈ after.head?, char = ' ') :
    split (quoteArg arg ++ after) = arg :: split after.tail := by
  unfold quoteArg
  split
  · rename_i simple
    rw [Bool.and_eq_true, Bool.not_eq_true', Bool.not_eq_true'] at simple
    have nonempty : arg ≠ [] := fun empty => by
      rw [empty] at simple
      cases simple.1
    exact split_plain nonempty (plain_of_unquoted (Bool.not_eq_true _ ▸ simple.2)) ends
  · rw [quoteLoop_eq, List.append_assoc, List.singleton_append, split,
      splitFrom_none (by decide)]
    have opened := splitFrom_quote false 0 [] (remaining 0 arg ++ after)
    have read := splitFrom_remaining 0 [] arg after
    have closed := splitFrom_end 0 arg ends
    rw [backslashes, List.replicate_zero, List.append_nil] at closed
    exact opened.trans (read.trans closed)

/-- Arguments joined by spaces are read one after the other. -/
theorem split_joined (args : List Text) :
    split ([' '].intercalate (args.map quoteArg)) = args := by
  induction args with
  | nil => rfl
  | cons arg args ih =>
    cases args with
    | nil =>
      have single : split (quoteArg arg ++ []) = arg :: split [] :=
        split_quoteArg arg fun _ member => by cases member
      rw [List.append_nil] at single
      rw [List.map_singleton, List.intercalate_singleton, single]
      rfl
    | cons next rest =>
      rw [List.map_cons, List.map_cons, List.intercalate_cons_cons, ← List.map_cons,
        List.append_assoc, split_quoteArg arg (fun char member => by
          rw [List.singleton_append, List.head?_cons, Option.mem_some_iff] at member
          exact member.symm), List.singleton_append, List.tail_cons, ih]

/-- A character that the loop writes is a backslash, a quote or one of the argument. -/
theorem mem_remaining {held : Nat} {rest : Text} {char : Char} (member : char ∈ remaining held rest) :
    char = '\\' ∨ char = '"' ∨ char ∈ rest := by
  have held_backslash {count : Nat} (inside : char ∈ backslashes count) : char = '\\' :=
    List.eq_of_mem_replicate inside
  induction rest generalizing held with
  | nil =>
    rcases List.mem_append.mp member with front | last
    · exact .inl (held_backslash front)
    · exact .inr (.inl (List.mem_singleton.mp last))
  | cons head rest ih =>
    have later {count : Nat} (inside : char ∈ remaining count rest) :
        char = '\\' ∨ char = '"' ∨ char ∈ head :: rest :=
      (ih inside).imp_right (·.imp_right (List.mem_cons_of_mem head))
    rw [remaining] at member
    split at member
    · exact later member
    · split at member
      · rcases List.mem_append.mp member with front | back
        · exact .inl (held_backslash front)
        · rcases List.mem_cons.mp back with quote | inside
          · exact .inr (.inl quote)
          · exact later inside
      · rcases List.mem_append.mp member with front | back
        · exact .inl (held_backslash front)
        · rcases List.mem_cons.mp back with first | inside
          · exact .inr (.inr (first ▸ List.mem_cons_self))
          · exact later inside

/-- A character of a quoted argument is a backslash, a quote or one of the argument. -/
theorem mem_quoteArg {arg : Text} {char : Char} (member : char ∈ quoteArg arg) :
    char = '\\' ∨ char = '"' ∨ char ∈ arg := by
  unfold quoteArg at member
  split at member
  · exact .inr (.inr member)
  · rw [quoteLoop_eq] at member
    rcases List.mem_cons.mp member with quote | inside
    · exact .inr (.inl quote)
    · exact mem_remaining inside

/-- A command line is the quoted program and what follows it. -/
theorem commandLine_eq (command : Text) (args : List Text) :
    commandLine command args = quoteArg command ++
      if args.isEmpty then [] else ' ' :: [' '].intercalate (args.map quoteArg) := by
  cases args with
  | nil => exact List.intercalate_singleton.trans (List.append_nil _).symm
  | cons arg args =>
    rw [commandLine, List.map_cons, List.intercalate_cons_cons, List.append_assoc]
    rfl

/-- There is no zero in a command line if there is none in its parts. -/
theorem zero_notMem_commandLine {command : Text} {args : List Text}
    (free : ∀ text ∈ command :: args, '\x00' ∉ text) : '\x00' ∉ commandLine command args := by
  have quoted {text : Text} (part : text ∈ command :: args) : '\x00' ∉ quoteArg text := by
    intro member
    rcases mem_quoteArg member with backslash | quote | inside
    · exact absurd backslash (by decide)
    · exact absurd quote (by decide)
    · exact free text part inside
  induction args generalizing command with
  | nil =>
    rw [commandLine_eq, List.isEmpty_nil, if_pos rfl, List.append_nil]
    exact quoted List.mem_cons_self
  | cons arg args ih =>
    have rest := ih (fun text part => free text (List.mem_cons_of_mem command part))
      (fun part => quoted (List.mem_cons_of_mem command part))
    rw [commandLine_eq]
    intro member
    rcases List.mem_append.mp member with first | later
    · exact quoted List.mem_cons_self first
    · rcases List.mem_cons.mp later with space | inside
      · exact absurd space (by decide)
      · exact rest inside

/-- A text without a zero is read up to its end. -/
theorem untilZero_wide {text : Text} (free : '\x00' ∉ text) : untilZero (wide text) = text := by
  rw [untilZero, wide, List.takeWhile_append_of_pos, List.takeWhile_cons_of_neg (by decide),
    List.append_nil]
  intro char member
  rw [bne_iff_ne]
  exact fun zero => free (zero ▸ member)

/-- A quoted part of a program name ends where the loop writes its last quote. -/
theorem dropWhile_remaining {held : Nat} {command : Text} (free : '"' ∉ command) (after : Text) :
    (remaining held command ++ after).dropWhile (· != '"') = '"' :: after := by
  have skip (count : Nat) (rest : Text) :
      (backslashes count ++ rest).dropWhile (· != '"') = rest.dropWhile (· != '"') := by
    apply List.dropWhile_append_of_pos
    intro char member
    rw [List.eq_of_mem_replicate member]
    rfl
  induction command generalizing held with
  | nil =>
    rw [remaining, List.append_assoc, skip]
    rfl
  | cons char rest ih =>
    have later {count : Nat} := @ih count fun member => free (List.mem_cons_of_mem char member)
    have noQuote : char ≠ '"' := fun quote => free (quote ▸ List.mem_cons_self)
    rw [remaining]
    split
    · exact later
    · have other : (char != '"') = true := bne_iff_ne.mpr noQuote
      rw [List.append_assoc, skip, List.cons_append, List.dropWhile_cons, other, if_pos rfl,
        later]

/-- What is behind the name of a program, if there is no quote in it. -/
theorem afterProgram_quoteArg {command : Text} (free : '"' ∉ command) {after : Text}
    (ends : ∀ char ∈ after.head?, char = ' ') :
    afterProgram (quoteArg command ++ after) = after := by
  unfold quoteArg
  split
  · rename_i simple
    rw [Bool.and_eq_true, Bool.not_eq_true', Bool.not_eq_true'] at simple
    have plain := plain_of_unquoted (Bool.not_eq_true _ ▸ simple.2)
    have whole : afterProgram (command ++ after) =
        (command ++ after).dropWhile fun char => !isBlank char := by
      cases command with
      | nil => exact absurd simple.1 (by decide)
      | cons char rest =>
        rw [List.cons_append, afterProgram]
        intro other same
        exact (plain char List.mem_cons_self).quote (List.cons.inj same).1
    rw [whole, List.dropWhile_append_of_pos fun char member => by
      rw [(plain char member).blank, Bool.not_false]]
    cases after with
    | nil => rfl
    | cons char rest =>
      rw [ends char rfl]
      rfl
  · rw [quoteLoop_eq]
    show ((remaining 0 command ++ after).dropWhile (· != '"')).tail = after
    rw [dropWhile_remaining free, List.tail_cons]

/-- Splitting a command line gives the program and its arguments back, and so does skipping the name
of the program first, unless there is a quote in it. -/
theorem commandLine_arguments (command : Text) (args : List Text)
    (free : ∀ text ∈ command :: args, '\x00' ∉ text) :
    split (untilZero (wide (commandLine command args))) = command :: args ∧
      ('"' ∉ command →
        split (afterProgram (untilZero (wide (commandLine command args)))) = args) := by
  rw [untilZero_wide (zero_notMem_commandLine free)]
  refine ⟨split_joined (command :: args), fun noQuote => ?_⟩
  rw [commandLine_eq]
  cases args with
  | nil => rw [afterProgram_quoteArg noQuote fun _ member => by cases member]; rfl
  | cons arg args =>
    have ends : ∀ char ∈ (' ' :: [' '].intercalate ((arg :: args).map quoteArg)).head?,
        char = ' ' := fun _ member => (Option.some.inj member).symm
    exact (congrArg split (afterProgram_quoteArg noQuote ends)).trans (split_joined (arg :: args))

/-- Arguments with blanks, quotes and backslashes at their end come back. -/
theorem commandLine_arguments_backslashes :
    split (untilZero (wide (commandLine ['C', ':', '\\', 'a', ' ', 'b', '\\']
        [[], ['\\', '"'], ['c', '\t', '\\', '\\'], ['\\']]))) =
      [['C', ':', '\\', 'a', ' ', 'b', '\\'], [], ['\\', '"'], ['c', '\t', '\\', '\\'],
        ['\\']] ∧
    split (afterProgram (untilZero (wide (commandLine ['C', ':', '\\', 'a', ' ', 'b', '\\']
        [[], ['\\', '"'], ['c', '\t', '\\', '\\'], ['\\']])))) =
      [[], ['\\', '"'], ['c', '\t', '\\', '\\'], ['\\']] :=
  ⟨(commandLine_arguments _ _ (by decide)).1, (commandLine_arguments _ _ (by decide)).2 (by decide)⟩

end Focsq.TunWin
