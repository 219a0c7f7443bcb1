import Mathlib.Data.List.Basic

/-!
# Bounded queues

A bounded queue is a list with its oldest element in front. A full queue either refuses a new
element or drops its oldest one. The operations commute with mapping the elements, so that a queue
whose elements carry more than is asked for is as good as one whose elements do not.
-/

namespace Fifo

variable {α β : Type*}

/-- Append an element, unless the queue is full; the answer is the refused element. -/
def push (capacity : Nat) (items : List α) (item : α) : Option α × List α :=
  if items.length < capacity then (none, items ++ [item]) else (some item, items)

/-- Append an element; a full queue drops its oldest one, which is the answer. -/
def forcePush (capacity : Nat) (items : List α) (item : α) : Option α × List α :=
  if items.length < capacity then (none, items ++ [item])
  else (items.head?, items.tail ++ [item])

/-- Take the oldest element. -/
def pop (items : List α) : Option α × List α := (items.head?, items.tail)

@[simp]
theorem pop_nil : pop ([] : List α) = (none, []) := rfl

@[simp]
theorem pop_cons (item : α) (items : List α) : pop (item :: items) = (some item, items) := rfl

/-- A queue that gives nothing is empty. -/
theorem pop_eq_none (items : List α) : (pop items).1 = none ↔ items = [] := by
  cases items with
  | nil => simp
  | cons item items => simp

/-- Elements after an attempt to append one. -/
theorem mem_push {capacity : Nat} {items : List α} {item other : α}
    (member : other ∈ (push capacity items item).2) : other ∈ items ∨ other = item := by
  by_cases room : items.length < capacity
  · simpa [push, room] using member
  · exact .inl (by simpa [push, room] using member)

/-- Elements after one was appended by force. -/
theorem mem_forcePush {capacity : Nat} {items : List α} {item other : α}
    (member : other ∈ (forcePush capacity items item).2) : other ∈ items ∨ other = item := by
  by_cases room : items.length < capacity
  · simpa [forcePush, room] using member
  · have among : other ∈ items.tail ∨ other = item := by
      simpa [forcePush, room] using member
    exact among.imp_left List.mem_of_mem_tail

/-- Appending the image of an element to the images of others. -/
theorem push_map (f : α → β) (capacity : Nat) (items : List α) (item : α) :
    push capacity (items.map f) (f item) =
      ((push capacity items item).1.map f, (push capacity items item).2.map f) := by
  by_cases room : items.length < capacity
  · simp [push, room]
  · simp [push, room]

/-- Appending the image of an element to the images of others by force. -/
theorem forcePush_map (f : α → β) (capacity : Nat) (items : List α) (item : α) :
    forcePush capacity (items.map f) (f item) =
      ((forcePush capacity items item).1.map f, (forcePush capacity items item).2.map f) := by
  by_cases room : items.length < capacity
  · simp [forcePush, room]
  · simp [forcePush, room]

/-- What a queue that drops its oldest elements makes of the elements that are offered to it: those
it gives and those it holds come in the order of the offers, it holds the last ones, and none of the
last ones is missing that it has room for. -/
structure Keeps (capacity : Nat) (offered given items : List α) : Prop where
  /-- Nothing is given twice or in another order. -/
  order : (given ++ items).Sublist offered
  /-- What is held was offered last. -/
  last : items <:+ offered
  /-- Not more is held than there is room for. -/
  bounded : items.length ≤ capacity
  /-- As many of the last offers as there is room for are not lost. -/
  recent : ∀ latest, latest <:+ offered → latest.length ≤ capacity →
    latest.Sublist (given ++ items)

section Keeps

variable {capacity : Nat} {offered given items : List α}

/-- An empty queue to which nothing was offered. -/
theorem keeps_nil (capacity : Nat) : Keeps capacity ([] : List α) [] [] where
  order := .refl _
  last := List.suffix_refl _
  bounded := Nat.zero_le _
  recent := fun latest suffix _ => by rw [List.suffix_nil.mp suffix]; exact .refl _

/-- The end of what was offered, when there is one offer more. -/
theorem suffix_concat {latest : List α} {item : α} (suffix : latest <:+ offered ++ [item]) :
    latest = [] ∨ ∃ before, latest = before ++ [item] ∧ before <:+ offered := by
  rcases List.suffix_concat_iff.mp suffix with empty | ⟨before, same, earlier⟩
  · exact .inl empty
  · exact .inr ⟨before, same, earlier⟩

/-- One offer more. -/
theorem Keeps.forcePush (keeps : Keeps capacity offered given items) (positive : 0 < capacity)
    (item : α) : Keeps capacity (offered ++ [item]) given (forcePush capacity items item).2 := by
  have held : (Fifo.forcePush capacity items item).2 =
      (if items.length < capacity then items else items.tail) ++ [item] := by
    unfold Fifo.forcePush
    split <;> rfl
  have short : (if items.length < capacity then items else items.tail).length < capacity := by
    have bounded := keeps.bounded
    split
    · assumption
    · rw [List.length_tail]
      omega
  have ending : (if items.length < capacity then items else items.tail) <:+ items := by
    split
    · exact List.suffix_refl _
    · exact List.tail_suffix _
  have full : ∀ before, before <:+ offered → before.length < capacity →
      before.Sublist (given ++ if items.length < capacity then items else items.tail) := by
    intro before suffix few
    by_cases room : items.length < capacity
    · rw [if_pos room]
      exact keeps.recent before suffix (Nat.le_of_lt few)
    · -- What remains of a full queue is as long as what is looked for.
      rw [if_neg room]
      have inside : before <:+ items.tail :=
        List.suffix_of_suffix_length_le suffix ((List.tail_suffix _).trans keeps.last) (by
          rw [List.length_tail]
          omega)
      exact inside.sublist.trans (List.sublist_append_right _ _)
  rw [held]
  generalize (if items.length < capacity then items else items.tail) = rest at short ending full
  exact
    { order := by
        rw [← List.append_assoc]
        exact (((List.Sublist.refl given).append ending.sublist).trans keeps.order).append (.refl _)
      last := by
        obtain ⟨front, whole⟩ := ending.trans keeps.last
        exact ⟨front, by rw [← List.append_assoc, whole]⟩
      bounded := by
        rw [List.length_append, List.length_singleton]
        omega
      recent := by
        intro latest suffix few
        rcases suffix_concat suffix with rfl | ⟨before, rfl, earlier⟩
        · exact List.nil_sublist _
        · rw [List.length_append, List.length_singleton] at few
          rw [← List.append_assoc]
          exact (full before earlier (by omega)).append (.refl _) }

/-- The oldest element is given. -/
theorem Keeps.pop (keeps : Keeps capacity offered given items) :
    Keeps capacity offered (given ++ (pop items).1.toList) (pop items).2 := by
  cases items with
  | nil => simpa using keeps
  | cons item rest =>
    have same : given ++ [item] ++ rest = given ++ item :: rest := by simp
    exact
      { order := by
          show (given ++ [item] ++ rest).Sublist offered
          rw [same]
          exact keeps.order
        last := (List.suffix_cons item rest).trans keeps.last
        bounded := Nat.le_trans (Nat.le_succ _) keeps.bounded
        recent := by
          show ∀ latest : List α, _ → _ → latest.Sublist (given ++ [item] ++ rest)
          rw [same]
          exact keeps.recent }

end Keeps

end Fifo
