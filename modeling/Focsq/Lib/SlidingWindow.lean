import Focsq.Lib.Mealy

/-!
# A sliding window of accepted counters

A replay window accepts a counter that exceeds every counter before it, and one within its size of
the highest that has not been accepted yet. Here the window keeps all accepted counters; what an
implementation forgets is what has become too old to be asked for.
-/

namespace SlidingWindow

/-- The highest counter accepted so far and all of them. -/
structure Window where
  /-- The highest accepted counter. -/
  highest : Option Nat
  /-- Every accepted counter. -/
  accepted : List Nat
  deriving DecidableEq, Repr

/-- Nothing has been accepted. -/
def Window.empty : Window := ⟨none, []⟩

/-- Whether a window of this size takes a counter. -/
def Window.takes (size : Nat) (window : Window) (counter : Nat) : Bool :=
  match window.highest with
  | none => true
  | some highest => decide (highest < counter) ||
      (decide (highest - counter < size) && !window.accepted.contains counter)

/-- Offer a counter; the second component tells whether it is taken. -/
def Window.accept (size : Nat) (window : Window) (counter : Nat) : Window × Bool :=
  if window.takes size counter then
    (⟨some (window.highest.elim counter (max counter)), counter :: window.accepted⟩, true)
  else (window, false)

/-- Accepted counters are distinct and do not exceed the highest. -/
structure Window.Sound (window : Window) : Prop where
  /-- No counter is accepted twice. -/
  distinct : window.accepted.Nodup
  /-- The highest counter bounds them all. -/
  bounded : ∀ counter ∈ window.accepted, ∃ highest, window.highest = some highest ∧
    counter ≤ highest

/-- The counter is not too old for the window. -/
def Window.Recent (size : Nat) (window : Window) (counter : Nat) : Prop :=
  ∀ highest, window.highest = some highest → highest < counter + size

/-- An empty window is sound. -/
theorem sound_empty : Window.empty.Sound := ⟨List.nodup_nil, by simp [Window.empty]⟩

/-- A taken counter has not been accepted before. -/
theorem Window.Sound.not_mem_of_takes {window : Window} (sound : window.Sound) (size counter : Nat)
    (taken : window.takes size counter = true) : counter ∉ window.accepted := by
  intro present
  obtain ⟨highest, top, bound⟩ := sound.bounded counter present
  have repeated : window.accepted.contains counter = true := by simpa using present
  simp only [Window.takes, top, repeated, Bool.not_true, Bool.and_false, Bool.or_false,
    decide_eq_true_eq] at taken
  omega

/-- Offering a counter keeps the window sound. -/
theorem Window.Sound.accept {window : Window} (sound : window.Sound) (size counter : Nat) :
    (window.accept size counter).1.Sound := by
  unfold Window.accept
  split
  · rename_i taken
    refine ⟨List.nodup_cons.mpr ⟨sound.not_mem_of_takes size counter taken, sound.distinct⟩, ?_⟩
    intro other present
    refine ⟨_, rfl, ?_⟩
    cases List.mem_cons.mp present with
    | inl same =>
      subst same
      cases window.highest with
      | none => exact Nat.le_refl _
      | some highest => exact Nat.le_max_left _ _
    | inr earlier =>
      obtain ⟨highest, top, bound⟩ := sound.bounded other earlier
      rw [top]
      exact Nat.le_trans bound (Nat.le_max_right _ _)
  · exact sound

/-- The highest counter is the maximum of those offered. -/
theorem Window.accept_highest (size : Nat) (window : Window) (counter highest : Nat)
    (top : window.highest = some highest) :
    (window.accept size counter).1.highest = some (max counter highest) := by
  unfold Window.accept
  split
  · simp [top]
  · rename_i refused
    have order : counter ≤ highest := by
      by_contra newer
      apply refused
      simp [Window.takes, top, Nat.lt_of_not_le newer]
    rw [top, Nat.max_eq_right order]

/-- A recent counter is taken exactly when it is new. -/
theorem Window.Sound.takes_iff {window : Window} (sound : window.Sound) (size counter : Nat)
    (recent : window.Recent size counter) :
    window.takes size counter = true ↔ counter ∉ window.accepted := by
  constructor
  · exact sound.not_mem_of_takes size counter
  · intro new
    cases top : window.highest with
    | none => simp [Window.takes, top]
    | some highest =>
      have near := recent highest top
      have absent : window.accepted.contains counter = false := by simpa using new
      simp only [Window.takes, top, absent, Bool.not_false, Bool.and_true, Bool.or_eq_true,
        decide_eq_true_eq]
      omega

variable {α β : Type*} [DecidableEq α] [DecidableEq β]

/-- For each item of a list, whether it occurs there for the first time. -/
def firsts (seen : List α) : List α → List Bool
  | [] => []
  | item :: rest => (!seen.contains item) :: firsts (item :: seen) rest

/-- First occurrences depend on what has been seen as a set. -/
theorem firsts_congr (left right items : List α) (same : ∀ item, item ∈ left ↔ item ∈ right) :
    firsts left items = firsts right items := by
  induction items generalizing left right with
  | nil => rfl
  | cons item rest ih =>
    have here : left.contains item = right.contains item := by
      rw [Bool.eq_iff_iff, List.contains_iff_mem, List.contains_iff_mem, same]
    simp only [firsts, here]
    rw [ih]
    intro other
    simp only [List.mem_cons, same]

/-- Renaming items without merging any keeps the first occurrences. -/
theorem firsts_map (rename : α → β) (seen items : List α)
    (apart : ∀ left ∈ seen ++ items, ∀ right ∈ seen ++ items,
      rename left = rename right → left = right) :
    firsts (seen.map rename) (items.map rename) = firsts seen items := by
  induction items generalizing seen with
  | nil => rfl
  | cons item rest ih =>
    have here : (seen.map rename).contains (rename item) = seen.contains item := by
      rw [Bool.eq_iff_iff, List.contains_iff_mem, List.contains_iff_mem]
      constructor
      · intro present
        obtain ⟨other, inside, same⟩ := List.mem_map.mp present
        have equal := apart other (List.mem_append_left _ inside) item (by simp) same
        exact equal ▸ inside
      · exact List.mem_map_of_mem
    simp only [List.map_cons, firsts, here]
    rw [← List.map_cons, ih]
    intro left first right second
    apply apart
    · simp only [List.cons_append, List.mem_cons, List.mem_append] at first ⊢
      tauto
    · simp only [List.cons_append, List.mem_cons, List.mem_append] at second ⊢
      tauto

/-- A run of recent counters accepts exactly the first occurrences. -/
theorem outputs_eq_firsts (size : Nat) (window : Window) (counters : List Nat)
    (sound : window.Sound)
    (recent : Mealy.Along (Window.accept size) (Window.Recent size) window counters) :
    Mealy.outputs (Window.accept size) window counters = firsts window.accepted counters := by
  induction counters generalizing window with
  | nil => rfl
  | cons counter rest ih =>
    have iff := sound.takes_iff size counter recent.1
    rw [Mealy.outputs, firsts, ih _ (sound.accept size counter) recent.2]
    unfold Window.accept
    by_cases present : counter ∈ window.accepted
    · have kept : window.takes size counter = false := by simpa [present] using iff
      simp only [kept, Bool.false_eq_true, ↓reduceIte, List.cons.injEq]
      refine ⟨by simpa using present, firsts_congr _ _ _ (fun other => ?_)⟩
      rw [List.mem_cons]
      constructor
      · exact Or.inr
      · intro either
        exact either.elim (fun same => same ▸ present) id
    · simp only [iff.mpr present, ↓reduceIte, List.cons.injEq, and_true]
      simpa using present

end SlidingWindow
