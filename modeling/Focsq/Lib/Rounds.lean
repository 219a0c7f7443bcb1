import Mathlib.Data.List.Perm.Basic
import Mathlib.Data.List.Nodup

/-!
# Taking turns

Columns of elements are read in rounds: first the first element of each column, then the second
one of each, and so on. If every column has a key of its own, then in every prefix of what is read
the keys that are still to come have been read equally often, up to one.
-/

namespace Rounds

variable {α κ : Type*}

/-- The elements of all columns at one offset. -/
def round (columns : List (List α)) (offset : Nat) : List α :=
  columns.filterMap fun column => column[offset]?

/-- A number of rounds, from an offset on. -/
def rounds (columns : List (List α)) : Nat → Nat → List α
  | 0, _ => []
  | turns + 1, offset => round columns offset ++ rounds columns turns (offset + 1)

/-- What is read in a round is in a column. -/
theorem mem_round {columns : List (List α)} {offset : Nat} {x : α} :
    x ∈ round columns offset ↔ ∃ column ∈ columns, column[offset]? = some x := by
  simp only [round, List.mem_filterMap]

/-- What is read from an offset on is in a column from there on. -/
theorem exists_of_mem_rounds {columns : List (List α)} {turns offset : Nat} {x : α}
    (read : x ∈ rounds columns turns offset) :
    ∃ column ∈ columns, ∃ i ≥ offset, column[i]? = some x := by
  induction turns generalizing offset with
  | zero => simp [rounds] at read
  | succ turns ih =>
    rw [rounds, List.mem_append] at read
    rcases read with now | later
    · obtain ⟨column, member, here⟩ := mem_round.mp now
      exact ⟨column, member, offset, Nat.le_refl _, here⟩
    · obtain ⟨column, member, i, from_next, here⟩ := ih later
      exact ⟨column, member, i, by omega, here⟩

/-- A column that has an element has one at every offset before. -/
theorem exists_earlier {column : List α} {i offset : Nat} {x : α} (here : column[i]? = some x)
    (earlier : offset ≤ i) : ∃ y, column[offset]? = some y := by
  have long : i < column.length := (List.getElem?_eq_some_iff.mp here).1
  exact ⟨_, List.getElem?_eq_getElem (Nat.lt_of_le_of_lt earlier long)⟩

/-- When a round is empty, all columns have ended. -/
theorem rounds_of_round_nil {columns : List (List α)} {offset : Nat}
    (ended : round columns offset = []) (turns : Nat) :
    rounds columns turns offset = [] := by
  refine List.eq_nil_iff_forall_not_mem.mpr fun x read => ?_
  obtain ⟨column, member, i, from_here, here⟩ := exists_of_mem_rounds read
  obtain ⟨first, there⟩ := exists_earlier here from_here
  have now : first ∈ round columns offset := mem_round.mpr ⟨column, member, there⟩
  rw [ended] at now
  exact absurd now List.not_mem_nil

/-- The first column, and the others. -/
theorem rounds_cons_perm (column : List α) (columns : List (List α)) (turns offset : Nat) :
    (rounds (column :: columns) turns offset).Perm
      ((column.drop offset).take turns ++ rounds columns turns offset) := by
  induction turns generalizing offset with
  | zero => simp [rounds]
  | succ turns ih =>
    have later := ih (offset + 1)
    by_cases long : offset < column.length
    · have now : round (column :: columns) offset = column[offset] :: round columns offset := by
        simp [round, List.getElem?_eq_getElem long]
      rw [rounds, rounds, now, List.drop_eq_getElem_cons long, List.take_succ_cons]
      refine List.Perm.cons _ ?_
      calc
        (round columns offset ++ rounds (column :: columns) turns (offset + 1)).Perm
            (round columns offset ++ ((column.drop (offset + 1)).take turns ++
              rounds columns turns (offset + 1))) := later.append_left _
        _ = ((round columns offset ++ (column.drop (offset + 1)).take turns) ++
              rounds columns turns (offset + 1)) := (List.append_assoc _ _ _).symm
        List.Perm _ (((column.drop (offset + 1)).take turns ++ round columns offset) ++
              rounds columns turns (offset + 1)) := List.perm_append_comm.append_right _
        _ = _ := List.append_assoc _ _ _
    · have now : round (column :: columns) offset = round columns offset := by
        simp [round, List.getElem?_eq_none (Nat.le_of_not_lt long)]
      have ended : column.drop offset = [] := List.drop_eq_nil_of_le (by omega)
      have past : column.drop (offset + 1) = [] := List.drop_eq_nil_of_le (by omega)
      rw [past, List.take_nil, List.nil_append] at later
      rw [rounds, rounds, now, ended, List.take_nil, List.nil_append]
      exact later.append_left _

/-- With enough turns, everything is read once. -/
theorem rounds_perm {columns : List (List α)} {turns : Nat}
    (enough : ∀ column ∈ columns, column.length ≤ turns) :
    (rounds columns turns 0).Perm columns.flatten := by
  induction columns with
  | nil =>
    have nothing : rounds ([] : List (List α)) turns 0 = [] := rounds_of_round_nil rfl turns
    rw [nothing]
    exact List.Perm.nil
  | cons column columns ih =>
    have whole : (column.drop 0).take turns = column :=
      List.take_of_length_le (enough column List.mem_cons_self)
    have first := rounds_cons_perm column columns turns 0
    rw [whole] at first
    refine first.trans ?_
    rw [List.flatten_cons]
    exact (ih fun other member => enough other (List.mem_cons_of_mem _ member)).append_left _

/-- Every column has a key, and no two have the same. -/
structure Keyed (key : α → κ) (columns : List (List α)) : Prop where
  /-- All elements of a column have its key. -/
  uniform : ∀ column ∈ columns, ∀ x ∈ column, ∀ y ∈ column, key x = key y
  /-- Elements of two columns have different keys. -/
  apart : columns.Pairwise fun left right => ∀ x ∈ left, ∀ y ∈ right, key x ≠ key y

/-- The keys of a round are different. -/
theorem Keyed.nodup_round {key : α → κ} {columns : List (List α)} (keyed : Keyed key columns)
    (offset : Nat) : ((round columns offset).map key).Nodup := by
  refine List.Pairwise.map key (fun _ _ differ => differ) ?_
  refine List.Pairwise.filterMap _ (fun left right differ x first y second => ?_) keyed.apart
  exact differ x (List.mem_of_getElem? first) y (List.mem_of_getElem? second)

/-- A key that comes later is in every round before. -/
theorem Keyed.mem_round {key : α → κ} {columns : List (List α)} (keyed : Keyed key columns)
    {turns offset : Nat} {k : κ} (later : k ∈ (rounds columns turns (offset + 1)).map key) :
    k ∈ (round columns offset).map key := by
  obtain ⟨x, read, rfl⟩ := List.mem_map.mp later
  obtain ⟨column, member, i, from_next, here⟩ := exists_of_mem_rounds read
  obtain ⟨first, earlier⟩ := exists_earlier here (Nat.le_of_succ_le from_next)
  have same := keyed.uniform column member first (List.mem_of_getElem? earlier) x
    (List.mem_of_getElem? here)
  rw [← same]
  exact List.mem_map_of_mem (Rounds.mem_round.mpr ⟨column, member, earlier⟩)

/-- In every prefix, the keys that are still to come have been read equally often, up to one. -/
theorem Keyed.balanced [DecidableEq κ] {key : α → κ} {columns : List (List α)}
    (keyed : Keyed key columns) {turns offset : Nat} {front rest : List κ}
    (split : (rounds columns turns offset).map key = front ++ rest) :
    ∃ full, ∀ k ∈ rest, full ≤ front.count k ∧ front.count k ≤ full + 1 := by
  induction turns generalizing offset front with
  | zero =>
    have nothing : front ++ rest = [] := split.symm
    rw [(List.append_eq_nil_iff.mp nothing).2]
    exact ⟨0, fun k member => absurd member List.not_mem_nil⟩
  | succ turns ih =>
    have nodup := keyed.nodup_round offset
    rw [rounds, List.map_append] at split
    rcases List.append_eq_append_iff.mp split with ⟨more, whole, after⟩ | ⟨left, part, _⟩
    · -- The prefix contains the first round, in which every key that comes later is read once.
      obtain ⟨full, bounds⟩ := ih after
      refine ⟨full + 1, fun k member => ?_⟩
      have later : k ∈ (rounds columns turns (offset + 1)).map key := by
        rw [after]
        exact List.mem_append_right _ member
      have once : ((round columns offset).map key).count k = 1 :=
        List.count_eq_one_of_mem nodup (keyed.mem_round later)
      have bound := bounds k member
      rw [whole, List.count_append, once]
      omega
    · -- The prefix ends in the first round.
      refine ⟨0, fun k _ => ?_⟩
      have sub : front.Sublist ((round columns offset).map key) := by
        rw [part]
        exact List.sublist_append_left _ _
      have bound : front.count k ≤ 1 := List.nodup_iff_count_le_one.mp (nodup.sublist sub) k
      omega

end Rounds
