import Focsq.Frontend.Update
import Focsq.Lib.Orders
import Focsq.Verif.Links

/-!
# When a version is newer

Two versions are compared by the first component in which they differ. Two numbers are compared as
numbers, and everything else as texts, so that a number can be below a text that is below another
number in turn. A component that is missing is below every number.
-/

namespace Focsq.Update

open Import (intTryParse)

section Parts

/-- How a component compares with another one. -/
def comparePart (first second : Text) : Ordering :=
  match intTryParse first, intTryParse second with
  | some number, some other => compare number other
  | _, _ => first.compareTo second

/-- A component of a version, empty if it is missing. -/
def part (version : Text) (index : Nat) : Text := ((normalize version).splitOn '.').getD index []

/-- Texts compare the other way around. -/
theorem compareTo_swap (first second : Text) :
    second.compareTo first = (first.compareTo second).swap :=
  Std.OrientedOrd.eq_swap (α := List Nat)

/-- Components compare the other way around. -/
theorem comparePart_swap (first second : Text) :
    comparePart second first = (comparePart first second).swap := by
  unfold comparePart
  cases intTryParse first with
  | none => cases intTryParse second <;> exact compareTo_swap first second
  | some number =>
    cases intTryParse second with
    | none => exact compareTo_swap first second
    | some other => exact Std.OrientedOrd.eq_swap (α := Int)

/-- Two missing components are equal. -/
theorem comparePart_nil : comparePart [] [] = .eq := rfl

/-- A turn of the loop without a difference goes on. -/
theorem turn_eq (sa sb : Text) (rest : Ordering) :
    (match intTryParse sa, intTryParse sb with
      | some na, some nb => if na ≠ nb then compare na nb else rest
      | _, _ => if sa.compareTo sb ≠ .eq then sa.compareTo sb else rest) =
      (comparePart sa sb).then rest := by
  have texts (order : Ordering) : (if order ≠ .eq then order else rest) = order.then rest := by
    cases order <;> rfl
  unfold comparePart
  cases intTryParse sa with
  | none => exact texts _
  | some na =>
    cases intTryParse sb with
    | none => exact texts _
    | some nb =>
      dsimp only
      by_cases same : na = nb
      · rw [if_neg (not_not_intro same), same, Std.ReflOrd.compare_self]
        rfl
      · have different : compare na nb ≠ .eq := fun equal =>
          same (Std.LawfulEqOrd.eq_of_compare equal)
        rw [if_pos same, ← texts, if_pos different]

/-- The loop looks for the first difference. -/
theorem compareFrom_eq (pa pb : List Text) (turns i : Nat) :
    compareFrom pa pb turns i = Orders.firstDifference
      (fun index => comparePart (pa.getD (i + index) []) (pb.getD (i + index) [])) turns := by
  have given (parts : List Text) (index : Nat) :
      (if parts.length > index then parts.getD index [] else []) = parts.getD index [] := by
    split
    · rfl
    · next short =>
      rw [List.getD_eq_getElem?_getD, List.getElem?_eq_none (Nat.le_of_not_lt short)]
      rfl
  induction turns generalizing i with
  | zero => rfl
  | succ turns ih =>
    have later : (fun index => comparePart (pa.getD (i + (index + 1)) []) (pb.getD (i + (index + 1)) [])) =
        fun index => comparePart (pa.getD (i + 1 + index) []) (pb.getD (i + 1 + index) []) := by
      funext index
      rw [Nat.add_assoc, Nat.add_comm 1]
    rw [compareFrom, given, given, Orders.firstDifference_succ, later, ← ih, Nat.add_zero]
    exact turn_eq _ _ _

/-- Two versions are compared by the first component in which they differ. -/
theorem compareVersions_eq (a b : Text) : ∃ least, ∀ count ≥ least, compareVersions a b =
    Orders.firstDifference (fun index => comparePart (part a index) (part b index)) count := by
  refine ⟨max ((normalize a).splitOn '.').length ((normalize b).splitOn '.').length,
    fun count long => ?_⟩
  obtain ⟨more, rfl⟩ := Nat.exists_eq_add_of_le long
  have ends (version : Text) (index : Nat) (behind : ((normalize version).splitOn '.').length ≤ index) :
      part version index = [] := by
    rw [part, List.getD_eq_getElem?_getD, List.getElem?_eq_none behind]
    rfl
  have longer : (if ((normalize a).splitOn '.').length > ((normalize b).splitOn '.').length
      then ((normalize a).splitOn '.').length else ((normalize b).splitOn '.').length) =
      max ((normalize a).splitOn '.').length ((normalize b).splitOn '.').length := by
    split <;> omega
  rw [compareVersions, longer, compareFrom_eq, Orders.firstDifference_extend fun index behind => ?_]
  · simp only [Nat.zero_add]
    rfl
  · rw [ends a index (by omega), ends b index (by omega), comparePart_nil]

/-- Turning two versions around turns the result around. -/
theorem compareVersions_swap (a b : Text) : compareVersions b a = (compareVersions a b).swap := by
  obtain ⟨least, same⟩ := compareVersions_eq a b
  obtain ⟨other, back⟩ := compareVersions_eq b a
  rw [same (max least other) (Nat.le_max_left _ _), back (max least other) (Nat.le_max_right _ _),
    ← Orders.firstDifference_swap]
  congr 1
  funext index
  exact comparePart_swap _ _

end Parts

section Numbers

/-- A number is no empty text. -/
theorem ne_nil_of_isSome {text : Text} (number : (intTryParse text).isSome = true) : text ≠ [] := by
  rintro rfl
  cases number

/-- What is empty is below what is not. -/
theorem compareTo_nil {text : Text} (some : text ≠ []) :
    Text.compareTo [] text = .lt ∧ text.compareTo [] = .gt := by
  obtain ⟨char, rest, rfl⟩ := List.exists_cons_of_ne_nil some
  have units : ∃ unit more, (char :: rest).flatMap Text.codeUnits = unit :: more := by
    rw [List.flatMap_cons, Text.codeUnits]
    split
    · exact ⟨_, _, rfl⟩
    · exact ⟨_, _, rfl⟩
  obtain ⟨unit, more, shape⟩ := units
  rw [Text.compareTo, Text.compareTo, shape]
  exact ⟨rfl, rfl⟩

/-- Numbers and missing components are compared as such. -/
theorem comparePart_numbers {first second : Text}
    (left : first = [] ∨ (intTryParse first).isSome) (right : second = [] ∨ (intTryParse second).isSome) :
    comparePart first second = compare (intTryParse first) (intTryParse second) := by
  have none : intTryParse [] = .none := rfl
  rcases left with rfl | number
  · rcases right with rfl | other
    · rfl
    · obtain ⟨value, read⟩ := Option.isSome_iff_exists.mp other
      rw [comparePart, none, read]
      exact (compareTo_nil (ne_nil_of_isSome other)).1
  · obtain ⟨value, read⟩ := Option.isSome_iff_exists.mp number
    rcases right with rfl | other
    · rw [comparePart, none, read]
      exact (compareTo_nil (ne_nil_of_isSome number)).2
    · obtain ⟨greater, found⟩ := Option.isSome_iff_exists.mp other
      rw [comparePart, read, found]
      rfl

/-- Components that can be put in order: numbers and missing ones, or texts without a number. -/
def Alike (parts : List Text) : Prop :=
  (∀ text ∈ parts, text = [] ∨ (intTryParse text).isSome) ∨ ∀ text ∈ parts, intTryParse text = none

/-- Such components are in order. -/
theorem coherent_comparePart {a b c : Text} (alike : Alike [a, b, c]) :
    Orders.Coherent (comparePart a b) (comparePart b c) (comparePart a c) := by
  rcases alike with numbers | texts
  · have first := numbers a (by simp)
    have second := numbers b (by simp)
    have third := numbers c (by simp)
    rw [comparePart_numbers first second, comparePart_numbers second third,
      comparePart_numbers first third]
    exact Orders.coherent_of_transCmp _ _ _
  · have compared {first second : Text} (left : first ∈ [a, b, c]) :
        comparePart first second = first.compareTo second := by
      rw [comparePart, texts first left]
    rw [compared (by simp), compared (by simp), compared (by simp)]
    exact Orders.coherent_of_transCmp (a.flatMap Text.codeUnits) _ _

/-- Up to the first component in which three versions differ, their components can be put in order. -/
def Comparable (a b c : Text) : Prop :=
  ∀ index, (∀ earlier < index, comparePart (part a earlier) (part b earlier) = .eq ∧
    comparePart (part b earlier) (part c earlier) = .eq) →
    Alike [part a index, part b index, part c index]

/-- Such versions are in order. -/
theorem coherent_compareVersions {a b c : Text} (comparable : Comparable a b c) :
    Orders.Coherent (compareVersions a b) (compareVersions b c) (compareVersions a c) := by
  obtain ⟨first, left⟩ := compareVersions_eq a b
  obtain ⟨second, right⟩ := compareVersions_eq b c
  obtain ⟨third, outer⟩ := compareVersions_eq a c
  rw [left (first + second + third) (by omega), right (first + second + third) (by omega),
    outer (first + second + third) (by omega)]
  exact Orders.coherent_firstDifference
    (fun index equal => coherent_comparePart (comparable index equal)) _

/-- The numbers of a version, if all of its components are numbers. -/
def numbersOf (version : Text) : Option (List Int) :=
  ((normalize version).splitOn '.').mapM intTryParse

/-- What every element yields is yielded at every place. -/
theorem getElem?_of_mapM {α β : Type} {read : α → Option β} {values : List α} {results : List β}
    (all : values.mapM read = some results) (index : Nat) :
    values[index]?.map read = results[index]?.map some := by
  induction values generalizing results index with
  | nil =>
    cases all
    rfl
  | cons value values ih =>
    rw [List.mapM_cons] at all
    obtain ⟨result, here, all⟩ := Option.bind_eq_some_iff.mp all
    obtain ⟨rest, behind, all⟩ := Option.bind_eq_some_iff.mp all
    cases all
    cases index with
    | zero => exact congrArg some here
    | succ index => exact ih behind index

/-- A component of a version of numbers is a number or missing. -/
theorem part_numbersOf {version : Text} {numbers : List Int}
    (read : numbersOf version = some numbers) (index : Nat) :
    intTryParse (part version index) = numbers[index]? ∧
      (part version index = [] ∨ (intTryParse (part version index)).isSome) := by
  have yields := getElem?_of_mapM read index
  rw [part, List.getD_eq_getElem?_getD]
  cases found : ((normalize version).splitOn '.')[index]? with
  | none =>
    rw [found] at yields
    exact ⟨(Option.map_eq_none_iff.mp yields.symm).symm, .inl rfl⟩
  | some text =>
    rw [found] at yields
    obtain ⟨number, there, same⟩ := Option.map_eq_some_iff.mp yields.symm
    rw [Option.getD_some, there, ← same]
    exact ⟨rfl, .inr rfl⟩

/-- Versions of numbers can be put in order. -/
theorem comparable_of_numbers {a b c : Text} {xs ys zs : List Int} (first : numbersOf a = some xs)
    (second : numbersOf b = some ys) (third : numbersOf c = some zs) : Comparable a b c := by
  intro index _
  refine .inl fun text member => ?_
  simp only [List.mem_cons, List.not_mem_nil, or_false] at member
  rcases member with rfl | rfl | rfl
  · exact (part_numbersOf first index).2
  · exact (part_numbersOf second index).2
  · exact (part_numbersOf third index).2

/-- Versions of numbers are compared like lists of numbers, of which the longer one is newer if it
begins with the other one. -/
theorem compareVersions_numbers {a b : Text} {xs ys : List Int} (left : numbersOf a = some xs)
    (right : numbersOf b = some ys) : compareVersions a b = compare xs ys := by
  obtain ⟨least, same⟩ := compareVersions_eq a b
  have parts : (fun index => comparePart (part a index) (part b index)) =
      fun index => compare xs[index]? ys[index]? := by
    funext index
    obtain ⟨mine, kind⟩ := part_numbersOf left index
    obtain ⟨other, sort⟩ := part_numbersOf right index
    rw [comparePart_numbers kind sort, mine, other]
  rw [same (max xs.length ys.length + least) (by omega), parts,
    Orders.firstDifference_extend fun index behind => ?_, Orders.compare_eq_firstDifference]
  rw [List.getElem?_eq_none (by omega), List.getElem?_eq_none (by omega)]
  rfl

end Numbers

/-- An update is offered. -/
def Offers (result : CheckResult) : Prop :=
  ∃ version currentVersion releaseUrl notes,
    result = .updateAvailable version currentVersion releaseUrl notes

/-- An update is offered for a release with a tag above the installed version. -/
theorem offers_check_iff (version : Text) (fetched : Except Failure (Option Release)) :
    Offers (check version fetched) ↔ ∃ release, fetched = .ok (some release) ∧
      normalize (release.tagName.getD []) ≠ [] ∧
      compareVersions (normalize version) (normalize (release.tagName.getD [])) = .lt := by
  have nothing {result : CheckResult} (none : ∀ version currentVersion releaseUrl notes,
      result ≠ .updateAvailable version currentVersion releaseUrl notes) : ¬Offers result :=
    fun ⟨_, _, _, _, same⟩ => none _ _ _ _ same
  unfold check
  cases fetched with
  | error failure =>
    refine iff_of_false (nothing fun _ _ _ _ same => by cases same) ?_
    rintro ⟨_, same, _⟩
    cases same
  | ok found =>
    cases found with
    | none =>
      refine iff_of_false (nothing fun _ _ _ _ same => by cases same) ?_
      rintro ⟨_, same, _⟩
      cases same
    | some release =>
      dsimp only
      constructor
      · rintro ⟨_, _, _, _, same⟩
        split at same
        · cases same
        · next tagged =>
          split at same
          · next newer => exact ⟨release, rfl, tagged, newer⟩
          · cases same
      · rintro ⟨other, same, tagged, newer⟩
        cases same
        rw [if_neg tagged, if_pos newer]
        exact ⟨_, _, _, _, rfl⟩

/-- Versions are in order: turning two around turns the result around, and what is not newer than
what is not newer is not newer, unless a number meets another text at the first difference of the
three. Versions of numbers are in the order of the lists of their numbers, and an update is offered
for what is newer. -/
theorem compareVersions_order :
    (∀ a b : Text, compareVersions b a = (compareVersions a b).swap) ∧
    (∀ a b c : Text, Comparable a b c → compareVersions a b ≠ .gt → compareVersions b c ≠ .gt →
      compareVersions a c ≠ .gt) ∧
    (∀ (a b : Text) (xs ys : List Int), numbersOf a = some xs → numbersOf b = some ys →
      compareVersions a b = compare xs ys) ∧
    ∀ (version : Text) (fetched : Except Failure (Option Release)),
      Offers (check version fetched) ↔ ∃ release, fetched = .ok (some release) ∧
        normalize (release.tagName.getD []) ≠ [] ∧
        compareVersions (normalize version) (normalize (release.tagName.getD [])) = .lt :=
  ⟨compareVersions_swap,
    fun _ _ _ comparable below under =>
      (coherent_compareVersions comparable).trans below under,
    fun _ _ _ _ left right => compareVersions_numbers left right,
    offers_check_iff⟩

/-- Three versions with different numbers of components. -/
theorem compareVersions_order_short :
    compareVersions "1.2".toList "1.2.0".toList = compare [1, 2] [1, 2, (0 : Int)] ∧
      compareVersions "1.2".toList "v1.10".toList ≠ .gt := by
  obtain ⟨-, ordered, numbers, -⟩ := compareVersions_order
  have short : numbersOf "1.2".toList = some [1, 2] := by decide
  have long : numbersOf "1.2.0".toList = some [1, 2, 0] := by decide
  have large : numbersOf "v1.10".toList = some [1, 10] := by decide
  exact ⟨numbers _ _ _ _ short long, ordered "1.2".toList "1.2.0".toList "v1.10".toList
    (comparable_of_numbers short long large) (by decide) (by decide)⟩

/-- Three versions that go around in a circle, and one that is older than itself with a zero. -/
theorem versions_circle :
    (¬∀ a b c : Text, compareVersions a b ≠ .gt → compareVersions b c ≠ .gt →
      compareVersions a c ≠ .gt) ∧
    ¬∀ (a b : Text) (xs ys : List Int), numbersOf a = some xs → numbersOf b = some ys →
      compareVersions a b = Orders.firstDifference
        (fun index => compare (xs.getD index 0) (ys.getD index 0)) (max xs.length ys.length) := by
  constructor
  · intro ordered
    exact ordered "2".toList "10".toList "1a".toList (by decide) (by decide) (by decide)
  · intro filled
    have older : compareVersions "1.2".toList "1.2.0".toList = .lt := by decide
    rw [filled _ _ [1, 2] [1, 2, 0] (by decide) (by decide)] at older
    exact absurd older (by decide)

end Focsq.Update
