import Focsq.Lib.JsonText
import Focsq.Backend.CaptchaPage

/-!
# The object of a captcha's page

Braces in strings do not count, and outside of strings those of a JSON text are balanced: what is
inside the object is passed by and leaves the depth as it is. So the object in a page is found
exactly, and there is never a closing brace without an opening one.
-/

namespace Focsq.Captcha

open JsonText

/-- Outside of strings, at a depth. -/
def Scan.outside (depth : Nat) : Scan := ⟨depth, false, false⟩

/-- In a string, at a depth. -/
def Scan.within (depth : Nat) : Scan := ⟨depth, true, false⟩

/-- A text is passed by: the loop goes on behind it in another state. -/
def Passes (state : Scan) (text : Text) (next : Scan) : Prop :=
  ∀ after, state.run (text ++ after) = (next.run after).map (text ++ ·)

section Rules

variable {state next last : Scan} {first second : Text} {depth : Nat}

/-- Nothing is passed by. -/
theorem Passes.nil (state : Scan) : Passes state [] state := by
  intro after
  show state.run after = (state.run after).map ([] ++ ·)
  cases state.run after <;> rfl

/-- One text after the other. -/
theorem Passes.append (before : Passes state first next) (behind : Passes next second last) :
    Passes state (first ++ second) last := by
  intro after
  rw [List.append_assoc, before, behind]
  cases result : last.run after with
  | error reason => rfl
  | ok found =>
    show Except.ok (first ++ (second ++ found)) = _
    rw [← List.append_assoc]
    rfl

/-- One character. -/
theorem passes_char {character : Char} (turned : state.turn character = .again next) :
    Passes state [character] next := by
  intro after
  rw [List.singleton_append, Scan.run, turned]
  rfl

/-- A character in front of a text. -/
theorem Passes.cons {character : Char} (turned : state.turn character = .again next)
    (behind : Passes next second last) : Passes state (character :: second) last :=
  (passes_char turned).append behind

/-- A character that means nothing outside of strings. -/
theorem passes_other {character : Char} (quote : character ≠ '"') (opening : character ≠ '\x7b')
    (closing : character ≠ '\x7d') : Passes (.outside depth) [character] (.outside depth) := by
  apply passes_char
  rw [Scan.turn, Scan.outside, if_neg Bool.false_ne_true, if_neg quote, if_neg opening,
    if_neg closing]

/-- Characters that mean nothing outside of strings. -/
theorem passes_others {text : Text}
    (others : ∀ character ∈ text, character ≠ '"' ∧ character ≠ '\x7b' ∧ character ≠ '\x7d') :
    Passes (.outside depth) text (.outside depth) := by
  induction text with
  | nil => exact .nil _
  | cons character rest ih =>
    obtain ⟨quote, opening, closing⟩ := others character List.mem_cons_self
    exact (passes_other quote opening closing).append
      (ih fun other member => others other (List.mem_cons_of_mem _ member))

end Rules

section Grammar

variable {depth : Nat} {text : Text}

/-- White space is passed by. -/
theorem passes_space (white : Space text) : Passes (.outside depth) text (.outside depth) := by
  apply passes_others
  intro character member
  have space := white character member
  unfold Json.isSpace at space
  refine ⟨?_, ?_, ?_⟩ <;> (rintro rfl; exact absurd space (by decide))

/-- A digit means nothing. -/
theorem other_of_isDigit {character : Char} (digit : character.isDigit = true) :
    character ≠ '"' ∧ character ≠ '\x7b' ∧ character ≠ '\x7d' := by
  refine ⟨?_, ?_, ?_⟩ <;> (rintro rfl; exact absurd digit (by decide))

/-- Digits are passed by. -/
theorem passes_digits (digits : Digits text) : Passes (.outside depth) text (.outside depth) :=
  passes_others fun character member => other_of_isDigit (digits.2 character member)

/-- The part of a number behind the point is passed by. -/
theorem passes_fraction (fraction : Fraction text) :
    Passes (.outside depth) text (.outside depth) := by
  rcases fraction with rfl | ⟨digits, isDigits, rfl⟩
  · exact .nil _
  · exact .cons rfl (passes_digits isDigits)

/-- An exponent is passed by. -/
theorem passes_exponent (exponent : Exponent text) :
    Passes (.outside depth) text (.outside depth) := by
  rcases exponent with rfl | ⟨letter, sign, digits, isLetter, isSign, isDigits, rfl⟩
  · exact .nil _
  · have signPasses : Passes (.outside depth) sign (.outside depth) := by
      rcases isSign with rfl | rfl | rfl
      · exact .nil _
      · exact passes_char rfl
      · exact passes_char rfl
    have behind := signPasses.append (passes_digits isDigits)
    rcases isLetter with rfl | rfl <;> exact .cons rfl behind

/-- A number is passed by. -/
theorem passes_number (number : IsNumber text) : Passes (.outside depth) text (.outside depth) := by
  obtain ⟨sign, whole, fraction, exponent, isSign, isWhole, isFraction, isExponent, rfl⟩ := number
  have signPasses : Passes (.outside depth) sign (.outside depth) := by
    rcases isSign with rfl | rfl
    · exact .nil _
    · exact passes_char rfl
  exact signPasses.append ((passes_digits isWhole.1).append
    ((passes_fraction isFraction).append (passes_exponent isExponent)))

/-- A digit of a unit is neither a quote nor a backslash. -/
theorem plain_of_isHex {character : Char} (hex : IsHex character) :
    character ≠ '\\' ∧ character ≠ '"' := by
  unfold IsHex at hex
  constructor <;> (rintro rfl; exact absurd hex (by decide))

/-- A character of a string that is neither a quote nor a backslash is passed by. -/
theorem passes_plain {character : Char} (backslash : character ≠ '\\') (quote : character ≠ '"') :
    Passes (.within depth) [character] (.within depth) := by
  apply passes_char
  rw [Scan.turn, Scan.within, if_pos rfl, if_neg Bool.false_ne_true, if_neg backslash,
    if_neg quote]

/-- An escape is passed by, whatever the character behind the backslash is. -/
theorem passes_escape (kind : Char) : Passes (.within depth) ['\\', kind] (.within depth) :=
  .cons rfl (passes_char rfl)

/-- What stands for a character of a string is passed by. -/
theorem passes_letter (letter : Letter text) : Passes (.within depth) text (.within depth) := by
  cases letter with
  | plain character quote backslash visible => exact passes_plain backslash quote
  | escape kind known => exact passes_escape kind
  | unicode first second third fourth hexFirst hexSecond hexThird hexFourth =>
    have digit {character : Char} (hex : IsHex character) :
        Passes (.within depth) [character] (.within depth) :=
      passes_plain (plain_of_isHex hex).1 (plain_of_isHex hex).2
    exact (passes_escape 'u').append ((digit hexFirst).append ((digit hexSecond).append
      ((digit hexThird).append (digit hexFourth))))

/-- The characters of a string are passed by. -/
theorem passes_letters (letters : Letters text) :
    Passes (.within depth) text (.within depth) := by
  induction letters with
  | nil => exact .nil _
  | cons first _ ih => exact (passes_letter first).append ih

/-- A string is passed by. -/
theorem passes_string (string : IsString text) :
    Passes (.outside depth) text (.outside depth) := by
  obtain ⟨letters, inside, rfl⟩ := string
  exact .cons rfl ((passes_letters inside).append (passes_char rfl))

/-- The braces of an inner object bring the depth back to what it was. -/
theorem passes_braces (inner : 0 < depth)
    (inside : Passes (.outside (depth + 1)) text (.outside (depth + 1))) :
    Passes (.outside depth) ('\x7b' :: text ++ ['\x7d']) (.outside depth) := by
  have opened : (Scan.outside depth).turn '\x7b' = .again (.outside (depth + 1)) := rfl
  apply Passes.cons opened
  apply inside.append
  apply passes_char
  have deeper : ¬ depth + 1 - 1 = 0 := by omega
  show (if depth + 1 - 1 = 0 then Scanned.returned else .again (.outside (depth + 1 - 1))) = _
  rw [if_neg deeper, Nat.add_sub_cancel]

/-- Inside of an object everything that the grammar derives is passed by. -/
theorem passes_derives {category : Category} (derived : Derives category text) :
    ∀ depth, 0 < depth → Passes (.outside depth) text (.outside depth) := by
  induction derived with
  | null => exact fun depth _ => passes_others (by simp)
  | true => exact fun depth _ => passes_others (by simp)
  | false => exact fun depth _ => passes_others (by simp)
  | number number => exact fun depth _ => passes_number number
  | string string => exact fun depth _ => passes_string string
  | emptyArray white =>
    exact fun depth _ => .cons rfl ((passes_space white).append (passes_char rfl))
  | array _ ih => exact fun depth inner => .cons rfl ((ih depth inner).append (passes_char rfl))
  | emptyObject white => exact fun depth inner => passes_braces inner (passes_space white)
  | object _ ih => exact fun depth inner => passes_braces inner (ih (depth + 1) (by omega))
  | element whiteBefore _ whiteAfter ih =>
    exact fun depth inner =>
      (passes_space whiteBefore).append ((ih depth inner).append (passes_space whiteAfter))
  | lastElement _ ih => exact ih
  | moreElements _ _ first later =>
    exact fun depth inner => (first depth inner).append (.cons rfl (later depth inner))
  | lastMember whiteBefore string whiteAfter _ ih =>
    exact fun depth inner => (passes_space whiteBefore).append
      ((passes_string string).append ((passes_space whiteAfter).append
        (.cons rfl (ih depth inner))))
  | moreMembers whiteBefore string whiteAfter _ _ first later =>
    exact fun depth inner => (passes_space whiteBefore).append
      ((passes_string string).append ((passes_space whiteAfter).append
        (.cons rfl ((first depth inner).append (.cons rfl (later depth inner))))))

end Grammar

section Extraction

variable {object before gap : Text} {state : Scan}

/-- What is in the braces of an object is passed by. -/
theorem passes_inside {inside : Text} (derived : Space inside ∨ Derives .members inside) :
    Passes (.outside 1) inside (.outside 1) := by
  rcases derived with white | members
  · exact passes_space white
  · exact passes_derives members 1 Nat.one_pos

/-- The loop returns at the end of the object it starts with. -/
theorem run_object (isObject : IsObject object) (after : Text) :
    (Scan.outside 0).run (object ++ after) = .ok object := by
  obtain ⟨inside, derived, rfl⟩ := isObject
  have passed : Passes (.outside 0) ('\x7b' :: inside) (.outside 1) :=
    .cons rfl (passes_inside derived)
  have closed : (Scan.outside 1).run ('\x7d' :: after) = .ok ['\x7d'] := rfl
  calc (Scan.outside 0).run ('\x7b' :: inside ++ ['\x7d'] ++ after)
      = (Scan.outside 0).run (('\x7b' :: inside) ++ ('\x7d' :: after)) := by
        rw [List.append_assoc, List.singleton_append]
    _ = ((Scan.outside 1).run ('\x7d' :: after)).map ('\x7b' :: inside ++ ·) := passed _
    _ = .ok ('\x7b' :: inside ++ ['\x7d']) := by rw [closed]; rfl

/-- From a depth above zero a turn never goes below zero, and what follows is above zero too. -/
theorem turn_positive (positive : 0 < state.depth) (character : Char) :
    state.turn character ≠ .underflow ∧
      ∀ next, state.turn character = .again next → 0 < next.depth := by
  fun_cases Scan.turn state character <;> grind

/-- Characters in front of a result do not make it fail. -/
theorem map_safe {result : Except InitError Text} (safe : result ≠ .error .underflow)
    (front : Text → Text) : result.map front ≠ .error .underflow := by
  cases result with
  | ok found => exact fun failed => by cases failed
  | error reason => exact safe

/-- From a depth above zero the loop never goes below zero. -/
theorem run_positive (text : Text) (positive : 0 < state.depth) :
    state.run text ≠ .error .underflow := by
  induction text generalizing state with
  | nil => exact fun failed => by cases failed
  | cons character rest ih =>
    obtain ⟨safe, later⟩ := turn_positive positive character
    rw [Scan.run]
    cases turned : state.turn character with
    | again next => exact map_safe (ih (later next turned)) _
    | returned => exact fun failed => by cases failed
    | underflow => exact absurd turned safe

/-- Where the object of a page is looked for. -/
theorem extract_at (marker : Text.indexOf windowInit (before ++ windowInit) = some before.length)
    (apart : '\x7b' ∉ gap) (rest : Text) :
    extractWindowInit (before ++ windowInit ++ gap ++ '\x7b' :: rest) =
      (Scan.outside 0).run ('\x7b' :: rest) := by
  have token : Text.indexOf windowInit (before ++ windowInit ++ (gap ++ '\x7b' :: rest)) =
      some before.length := Text.indexOf_extend marker _
  have behind : (before ++ windowInit ++ (gap ++ '\x7b' :: rest)).drop
      (before.length + windowInit.length) = gap ++ '\x7b' :: rest := by
    rw [← List.length_append, List.drop_left]
  rw [List.append_assoc (before ++ windowInit)]
  simp only [extractWindowInit, token, behind, Text.indexOf_append apart rest, List.drop_left]
  rfl

/-- Whatever the page is, the loop starts with an opening brace and never goes below zero. -/
theorem extract_positive (html : Text) : extractWindowInit html ≠ .error .underflow := by
  unfold extractWindowInit
  cases Text.indexOf windowInit html with
  | none => exact fun failed => by cases failed
  | some token =>
    dsimp only
    cases found : Text.indexOf ['\x7b'] (html.drop (token + windowInit.length)) with
    | none => exact fun failed => by cases failed
    | some offset =>
      obtain ⟨rest, start⟩ := Text.drop_of_indexOf found
      have opened : Passes ⟨0, false, false⟩ ['\x7b'] (.outside 1) := passes_char rfl
      have inside : (Scan.outside 1).run rest ≠ .error .underflow := run_positive rest Nat.one_pos
      dsimp only
      rw [start, opened rest]
      exact map_safe inside _

/-- The object that is assigned to `window.init` is found exactly, whatever the strings in it
contain and whatever follows it, and on no page does the depth go below zero. -/
theorem extractWindowInit_exact :
    (∀ object before gap after : Text, IsObject object →
      Text.indexOf windowInit (before ++ windowInit) = some before.length →
      '\x7b' ∉ gap →
      extractWindowInit (before ++ windowInit ++ gap ++ object ++ after) = .ok object) ∧
    ∀ html, extractWindowInit html ≠ .error .underflow := by
  refine ⟨?_, extract_positive⟩
  intro object before gap after isObject marker apart
  have found := run_object isObject after
  obtain ⟨inside, derived, rfl⟩ := isObject
  have started := extract_at marker apart (inside ++ ['\x7d'] ++ after)
  calc extractWindowInit (before ++ windowInit ++ gap ++ ('\x7b' :: inside ++ ['\x7d']) ++ after)
      = extractWindowInit (before ++ windowInit ++ gap ++
          '\x7b' :: (inside ++ ['\x7d'] ++ after)) := by
        rw [List.append_assoc (before ++ windowInit ++ gap)]
        rfl
    _ = (Scan.outside 0).run ('\x7b' :: inside ++ ['\x7d'] ++ after) := started
    _ = .ok ('\x7b' :: inside ++ ['\x7d']) := found

/-- A page with a closing brace and a quote in a string of its object. -/
theorem extractWindowInit_exact_string :
    extractWindowInit ("<b>window.init = ".toList ++
      ['\x7b', '"', 't', '"', ':', '"', '\x7d', '\\', '"', '"', '\x7d'] ++ ";</b>\x7d".toList) =
        .ok ['\x7b', '"', 't', '"', ':', '"', '\x7d', '\\', '"', '"', '\x7d'] ∧
      extractWindowInit [] ≠ .error .underflow := by
  have key : IsString ['"', 't', '"'] :=
    ⟨['t'], .cons (.plain 't' (by decide) (by decide) (by decide)) .nil, rfl⟩
  have value : IsString ['"', '\x7d', '\\', '"', '"'] :=
    ⟨['\x7d', '\\', '"'], .cons (.plain '\x7d' (by decide) (by decide) (by decide))
      (.cons (.escape '"' (by decide)) .nil), rfl⟩
  have none : Space [] := fun _ member => absurd member List.not_mem_nil
  have members : Derives .members (['"', 't', '"'] ++ ':' :: ['"', '\x7d', '\\', '"', '"']) :=
    .lastMember none key none (.element none (.string value) none)
  exact ⟨extractWindowInit_exact.1 _ "<b>".toList " = ".toList ";</b>\x7d".toList
    ⟨_, .inr members, rfl⟩ (by decide) (by decide), extractWindowInit_exact.2 []⟩

end Extraction

end Focsq.Captcha
