import Mathlib.Algebra.Ring.Nat
import Mathlib.Data.List.AList

/-!
# Totals over a table

A keyed table with a weight on its values: the sum of the weights changes on insertion by the
difference between the new value and the one it replaces, and a value never weighs more than the
whole table.
-/

namespace Table

variable {κ ν : Type*}

/-- Sum of a weight over all values of a table. -/
def total (weight : ν → Nat) (table : AList (fun _ : κ => ν)) : Nat :=
  (table.entries.map (fun entry => weight entry.2)).sum

variable [DecidableEq κ]

/-- Erasing a key from a list of entries takes off the weight of its value. -/
private theorem sum_kerase (weight : ν → Nat) (key : κ) (entries : List (Sigma fun _ : κ => ν)) :
    ((entries.kerase key).map (fun entry => weight entry.2)).sum +
        ((entries.dlookup key).map weight).getD 0 =
      (entries.map (fun entry => weight entry.2)).sum := by
  induction entries with
  | nil => rfl
  | cons entry rest ih =>
    obtain ⟨other, value⟩ := entry
    by_cases same : key = other
    · subst same
      simp only [List.kerase_cons_eq, List.dlookup_cons_eq, List.map_cons, List.sum_cons,
        Option.map_some, Option.getD_some]
      omega
    · rw [List.kerase_cons_ne same, List.dlookup_cons_ne _ _ same]
      simp only [List.map_cons, List.sum_cons]
      omega

/-- Insertion exchanges the weight of the replaced value, if any, for that of the new one. -/
theorem total_insert (weight : ν → Nat) (key : κ) (value : ν)
    (table : AList (fun _ : κ => ν)) :
    total weight (table.insert key value) + ((table.lookup key).map weight).getD 0 =
      total weight table + weight value := by
  have erased := sum_kerase weight key table.entries
  simp only [total, AList.entries_insert, List.map_cons, List.sum_cons, AList.lookup]
  omega

/-- No value weighs more than the table. -/
theorem weight_le_total (weight : ν → Nat) (key : κ) (table : AList (fun _ : κ => ν)) :
    ((table.lookup key).map weight).getD 0 ≤ total weight table := by
  have erased := sum_kerase weight key table.entries
  simp only [total, AList.lookup]
  omega

/-- A property of all values survives the insertion of a value that has it. -/
theorem forall_insert (holds : ν → Prop) (key : κ) (value : ν) (table : AList (fun _ : κ => ν))
    (others : ∀ other found, table.lookup other = some found → holds found)
    (new : holds value) :
    ∀ other found, (table.insert key value).lookup other = some found → holds found := by
  intro other found present
  by_cases same : other = key
  · subst same
    rw [AList.lookup_insert] at present
    exact Option.some.inj present ▸ new
  · rw [AList.lookup_insert_ne same] at present
    exact others other found present

/-- A table grows by the keys that are new to it. -/
theorem length_insert (key : κ) (value : ν) (table : AList (fun _ : κ => ν)) :
    (table.insert key value).entries.length =
      if key ∈ table then table.entries.length else table.entries.length + 1 := by
  have keys := congrArg List.length (AList.keys_insert (b := value) (a := key) table)
  have listed : table.keys.length = table.entries.length := List.length_map _
  have inserted : (table.insert key value).keys.length =
      (table.insert key value).entries.length := List.length_map _
  rw [List.length_cons, inserted] at keys
  by_cases member : key ∈ table
  · have erased := List.length_erase_of_mem member
    have positive := List.length_pos_of_mem (show key ∈ table.keys from member)
    rw [if_pos member]
    omega
  · rw [List.erase_of_not_mem (show key ∉ table.keys from member)] at keys
    rw [if_neg member]
    omega

section Maps

variable {μ : Type*}

/-- A table holds the images of the values of another one. -/
def Maps (f : ν → μ) (table : AList (fun _ : κ => ν)) (image : AList (fun _ : κ => μ)) : Prop :=
  image.entries = table.entries.map (fun entry => ⟨entry.1, f entry.2⟩)

variable {f : ν → μ} {table : AList (fun _ : κ => ν)} {image : AList (fun _ : κ => μ)}

/-- The image of a value is found under its key. -/
theorem Maps.lookup (maps : Maps f table image) (key : κ) :
    image.lookup key = (table.lookup key).map f := by
  rw [AList.lookup, AList.lookup, maps]
  generalize table.entries = entries
  induction entries with
  | nil => rfl
  | cons entry rest ih =>
    obtain ⟨other, value⟩ := entry
    rw [List.map_cons]
    by_cases same : key = other
    · subst same
      rw [List.dlookup_cons_eq, List.dlookup_cons_eq]
      rfl
    · rw [List.dlookup_cons_ne _ _ same, List.dlookup_cons_ne _ _ same, ih]

/-- Insertion of a value and of its image. -/
theorem Maps.insert (maps : Maps f table image) (key : κ) (value : ν) :
    Maps f (table.insert key value) (image.insert key (f value)) := by
  unfold Maps at maps ⊢
  rw [AList.entries_insert, AList.entries_insert, maps, List.map_cons]
  congr 1
  generalize table.entries = entries
  induction entries with
  | nil => rfl
  | cons entry rest ih =>
    obtain ⟨other, value⟩ := entry
    rw [List.map_cons]
    by_cases same : key = other
    · rw [List.kerase_cons_eq same, List.kerase_cons_eq same]
    · rw [List.kerase_cons_ne same, List.kerase_cons_ne same, ih, List.map_cons]

end Maps

/-- A table whose values weigh nothing weighs nothing. -/
theorem total_eq_zero (weight : ν → Nat) (table : AList (fun _ : κ => ν))
    (light : ∀ key value, table.lookup key = some value → weight value = 0) :
    total weight table = 0 := by
  refine List.sum_eq_zero_iff_forall_eq_nat.mpr (fun found present => ?_)
  obtain ⟨⟨key, value⟩, inside, rfl⟩ := List.mem_map.mp present
  exact light key value (AList.mem_lookup_iff.mpr inside)

end Table
