import Mathlib.Data.List.Basic

/-!
# Runs of a stateful component

A component takes inputs one by one; each moves its state and answers with an output. `final`
and `outputs` are the two halves of a run, `Along` says that every step of a run meets a
condition in the state it is taken in, and the rules below turn facts about one step into facts
about whole runs.
-/

namespace Mealy

variable {σ α ο : Type*} (step : σ → α → σ × ο)

/-- State after a run. -/
def final (state : σ) : List α → σ
  | [] => state
  | input :: rest => final (step state input).1 rest

/-- Outputs of a run, one for each input. -/
def outputs (state : σ) : List α → List ο
  | [] => []
  | input :: rest => (step state input).2 :: outputs (step state input).1 rest

/-- Every step of a run meets the condition in the state it is taken in. -/
def Along (condition : σ → α → Prop) (state : σ) : List α → Prop
  | [] => True
  | input :: rest => condition state input ∧ Along condition (step state input).1 rest

/-- A decidable condition is decided along a run step by step. -/
instance decidableAlong (condition : σ → α → Prop)
    [decide : ∀ state input, Decidable (condition state input)] (state : σ) :
    (inputs : List α) → Decidable (Along step condition state inputs)
  | [] => .isTrue trivial
  | input :: rest =>
    match decide state input, decidableAlong condition (step state input).1 rest with
    | .isTrue here, .isTrue later => .isTrue ⟨here, later⟩
    | .isFalse never, _ => .isFalse (fun along => never along.1)
    | _, .isFalse never => .isFalse (fun along => never along.2)

variable {step}

/-- A run of two parts goes through the state between them. -/
theorem final_append (state : σ) (first second : List α) :
    final step state (first ++ second) = final step (final step state first) second := by
  induction first generalizing state with
  | nil => rfl
  | cons input rest ih => exact ih _

/-- A run of two parts answers with the outputs of both. -/
theorem outputs_append (state : σ) (first second : List α) :
    outputs step state (first ++ second) =
      outputs step state first ++ outputs step (final step state first) second := by
  induction first generalizing state with
  | nil => rfl
  | cons input rest ih => simp only [List.cons_append, outputs, final, ih]

/-- There is one output for each input. -/
theorem length_outputs (state : σ) (inputs : List α) :
    (outputs step state inputs).length = inputs.length := by
  induction inputs generalizing state with
  | nil => rfl
  | cons input rest ih => simp only [outputs, List.length_cons, ih]

/-- The output for an input is that of the step in the state that the inputs before lead to. -/
theorem getElem?_outputs (state : σ) (inputs : List α) (index : Nat) :
    (outputs step state inputs)[index]? =
      inputs[index]?.map fun input => (step (final step state (inputs.take index)) input).2 := by
  induction inputs generalizing state index with
  | nil => simp [outputs]
  | cons input rest ih =>
    cases index with
    | zero => simp [outputs, final]
    | succ index => simp [outputs, final, ih]

/-- A condition holds along a run of two parts when it holds along both. -/
theorem along_append {condition : σ → α → Prop} (state : σ) (first second : List α) :
    Along step condition state (first ++ second) ↔
      Along step condition state first ∧
        Along step condition (final step state first) second := by
  induction first generalizing state with
  | nil => simp [Along, final]
  | cons input rest ih => simp only [List.cons_append, Along, final, ih, and_assoc]

/-- Components that answer alike and stay related answer alike in every run. -/
theorem outputs_eq_of_related {τ : Type*} {other : τ → α → τ × ο} (related : σ → τ → Prop)
    (simulates : ∀ state partner input, related state partner →
      (step state input).2 = (other partner input).2 ∧
        related (step state input).1 (other partner input).1)
    (state : σ) (partner : τ) (inputs : List α) (start : related state partner) :
    outputs step state inputs = outputs other partner inputs := by
  induction inputs generalizing state partner with
  | nil => rfl
  | cons input rest ih =>
    obtain ⟨same, after⟩ := simulates state partner input start
    rw [outputs, outputs, same, ih _ _ after]

/-- A component that answers translated inputs with translated outputs does so in every run, and the
states that the two reach are related. -/
theorem outputs_map_of_related {τ β π : Type*} {other : τ → β → τ × π} (related : σ → τ → Prop)
    (input : α → β) (output : ο → π)
    (simulates : ∀ state partner given, related state partner →
      (other partner (input given)).2 = output (step state given).2 ∧
        related (step state given).1 (other partner (input given)).1)
    (state : σ) (partner : τ) (inputs : List α) (start : related state partner) :
    outputs other partner (inputs.map input) = (outputs step state inputs).map output ∧
      related (final step state inputs) (final other partner (inputs.map input)) := by
  induction inputs generalizing state partner with
  | nil => exact ⟨rfl, start⟩
  | cons given rest ih =>
    obtain ⟨same, after⟩ := simulates state partner given start
    obtain ⟨later, last⟩ := ih _ _ after
    refine ⟨?_, last⟩
    rw [List.map_cons, outputs, outputs, List.map_cons, same, later]

/-- Components that answer alike and stay related as long as steps are admissible answer alike in
every admissible run, and what the relation implies for the steps of the other one holds along its
run. -/
theorem outputs_eq_of_admissible {τ : Type*} {other : τ → α → τ × ο} {condition : σ → α → Prop}
    {conclusion : τ → α → Prop} (related : σ → τ → Prop)
    (simulates : ∀ state partner input, related state partner → condition state input →
      conclusion partner input ∧ (step state input).2 = (other partner input).2 ∧
        related (step state input).1 (other partner input).1)
    (state : σ) (partner : τ) (inputs : List α) (start : related state partner)
    (admissible : Along step condition state inputs) :
    outputs step state inputs = outputs other partner inputs ∧
      Along other conclusion partner inputs := by
  induction inputs generalizing state partner with
  | nil => exact ⟨rfl, trivial⟩
  | cons input rest ih =>
    obtain ⟨implied, same, after⟩ := simulates state partner input start admissible.1
    obtain ⟨later, implies⟩ := ih _ _ after admissible.2
    exact ⟨by rw [outputs, outputs, same, later], implied, implies⟩

/-- An invariant that admissible steps keep holds after every admissible run. -/
theorem invariant {condition : σ → α → Prop} (holds : σ → Prop)
    (keeps : ∀ state input, holds state → condition state input → holds (step state input).1)
    (state : σ) (inputs : List α) (start : holds state)
    (admissible : Along step condition state inputs) : holds (final step state inputs) := by
  induction inputs generalizing state with
  | nil => exact start
  | cons input rest ih => exact ih _ (keeps state input start admissible.1) admissible.2

/-- An invariant that all steps keep holds after every run. -/
theorem final_invariant (holds : σ → Prop)
    (keeps : ∀ state input, holds state → holds (step state input).1)
    (state : σ) (inputs : List α) (start : holds state) : holds (final step state inputs) := by
  induction inputs generalizing state with
  | nil => exact start
  | cons input rest ih => exact ih _ (keeps state input start)

/-- What an invariant implies for a step holds along every admissible run. -/
theorem along_of_invariant {condition conclusion : σ → α → Prop} (holds : σ → Prop)
    (keeps : ∀ state input, holds state → condition state input → holds (step state input).1)
    (implies : ∀ state input, holds state → condition state input → conclusion state input)
    (state : σ) (inputs : List α) (start : holds state)
    (admissible : Along step condition state inputs) : Along step conclusion state inputs := by
  induction inputs generalizing state with
  | nil => trivial
  | cons input rest ih =>
    exact ⟨implies state input start admissible.1,
      ih _ (keeps state input start admissible.1) admissible.2⟩

/-- What an invariant implies for the output of a step holds of every output of an admissible
run. -/
theorem forall_outputs {condition : σ → α → Prop} {good : ο → Prop} (holds : σ → Prop)
    (keeps : ∀ state input, holds state → condition state input → holds (step state input).1)
    (answers : ∀ state input, holds state → condition state input → good (step state input).2)
    (state : σ) (inputs : List α) (start : holds state)
    (admissible : Along step condition state inputs) :
    ∀ output ∈ outputs step state inputs, good output := by
  induction inputs generalizing state with
  | nil => simp [outputs]
  | cons input rest ih =>
    have later := ih _ (keeps state input start admissible.1) admissible.2
    have here := answers state input start admissible.1
    simpa [outputs, here] using later

/-- What holds of every step holds along every run. -/
theorem along_of_forall {condition : σ → α → Prop}
    (always : ∀ state input, condition state input) (state : σ) (inputs : List α) :
    Along step condition state inputs := by
  induction inputs generalizing state with
  | nil => trivial
  | cons input rest ih => exact ⟨always state input, ih _⟩

/-- A reflexive and transitive relation between the states before and after each step of a run is
one between the states before and after the run. -/
theorem final_related {related : σ → σ → Prop} (same : ∀ state, related state state)
    (follows : ∀ first second third, related first second → related second third →
      related first third)
    (state : σ) (inputs : List α)
    (along : Along step (fun state input => related state (step state input).1) state inputs) :
    related state (final step state inputs) := by
  induction inputs generalizing state with
  | nil => exact same state
  | cons input rest ih => exact follows _ _ _ along.1 (ih _ along.2)

/-- Two conditions hold along a run together. -/
theorem along_and {first second : σ → α → Prop} (state : σ) (inputs : List α)
    (one : Along step first state inputs) (other : Along step second state inputs) :
    Along step (fun state input => first state input ∧ second state input) state inputs := by
  induction inputs generalizing state with
  | nil => trivial
  | cons input rest ih => exact ⟨⟨one.1, other.1⟩, ih _ one.2 other.2⟩

/-- What holds of all inputs holds along a run with what else does. -/
theorem along_and_of_mem {condition : σ → α → Prop} {always : α → Prop} (state : σ)
    (inputs : List α) (along : Along step condition state inputs)
    (all : ∀ input ∈ inputs, always input) :
    Along step (fun state input => condition state input ∧ always input) state inputs := by
  induction inputs generalizing state with
  | nil => trivial
  | cons input rest ih =>
    obtain ⟨first, others⟩ := List.forall_mem_cons.mp all
    exact ⟨⟨along.1, first⟩, ih _ along.2 others⟩

/-- A quantity that no step makes smaller is below a bound after every step of a run when it is at
the end. -/
theorem along_lt_of_final_lt {quantity : σ → ℕ} {bound : ℕ}
    (grows : ∀ state input, quantity state ≤ quantity (step state input).1)
    (state : σ) (inputs : List α) (last : quantity (final step state inputs) < bound) :
    Along step (fun state input => quantity (step state input).1 < bound) state inputs ∧
      quantity state < bound := by
  induction inputs generalizing state with
  | nil => exact ⟨trivial, last⟩
  | cons input rest ih =>
    obtain ⟨later, below⟩ := ih _ last
    exact ⟨⟨below, later⟩, Nat.lt_of_le_of_lt (grows state input) below⟩

/-- Two conditions agree along every run as long as steps that meet the first one keep an
invariant under which they agree on a step. -/
theorem along_congr {condition conclusion : σ → α → Prop} (holds : σ → Prop)
    (keeps : ∀ state input, holds state → condition state input → holds (step state input).1)
    (agree : ∀ state input, holds state → (condition state input ↔ conclusion state input))
    (state : σ) (inputs : List α) (start : holds state) :
    Along step condition state inputs ↔ Along step conclusion state inputs := by
  induction inputs generalizing state with
  | nil => exact Iff.rfl
  | cons input rest ih =>
    have here := agree state input start
    constructor
    · rintro ⟨met, later⟩
      exact ⟨here.mp met, (ih _ (keeps state input start met)).mp later⟩
    · rintro ⟨met, later⟩
      have first := here.mpr met
      exact ⟨first, (ih _ (keeps state input start first)).mpr later⟩

/-- A property holds in every state a run goes through when it holds at the start and each step
of the run establishes it. -/
theorem forall_final_iff {holds : σ → Prop} (state : σ) (inputs : List α) :
    (∀ begun, begun <+: inputs → holds (final step state begun)) ↔
      holds state ∧ Along step (fun state input => holds (step state input).1) state inputs := by
  induction inputs generalizing state with
  | nil => simp [Along, final]
  | cons input rest ih =>
    simp only [Along]
    rw [← ih (step state input).1]
    constructor
    · intro reached
      refine ⟨reached [] (List.nil_prefix), fun begun begins => ?_⟩
      exact reached (input :: begun) (List.cons_prefix_cons.mpr ⟨rfl, begins⟩)
    · rintro ⟨start, reached⟩ begun begins
      rcases List.prefix_cons_iff.mp begins with rfl | ⟨tail, rfl, shorter⟩
      · exact start
      · exact reached tail shorter

/-- Part of a run between two resets: it begins with the run or with an input that resets the
component, and no later input of it does. -/
structure Between (step : σ → α → σ × ο) (resets : σ → α → Prop) (state : σ)
    (before stretch : List α) : Prop where
  /-- It begins with the run or with a reset. -/
  begins : before = [] ∨ ∃ first ∈ stretch.head?, resets (final step state before) first
  /-- The component is not reset after that. -/
  keeps : Along step (fun state input => ¬resets state input)
    (final step state (before ++ stretch.take 1)) (stretch.drop 1)

/-- A part that is not empty has a first input, which is the only one that may be a reset. -/
theorem Between.starts {resets : σ → α → Prop} {state : σ} {before rest : List α} {first : α}
    (between : Between step resets state before (first :: rest)) :
    (before = [] ∨ resets (final step state before) first) ∧
      Along step (fun state input => ¬resets state input)
        (step (final step state before) first).1 rest := by
  obtain ⟨begins, keeps⟩ := between
  rw [final_append] at keeps
  refine ⟨begins.imp_right ?_, keeps⟩
  rintro ⟨head, start, reset⟩
  rw [List.head?_cons, Option.mem_some_iff] at start
  exact start ▸ reset

/-- An empty part is the beginning of the run. -/
theorem Between.empty {resets : σ → α → Prop} {state : σ} {before : List α}
    (between : Between step resets state before []) : before = [] := by
  rcases between.begins with first | ⟨head, absent, _⟩
  · exact first
  · cases absent

/-- A condition holds along a run when it holds for each input in the state that the inputs before
lead to. -/
theorem along_iff_forall {condition : σ → α → Prop} (state : σ) (inputs : List α) :
    Along step condition state inputs ↔
      ∀ before input, before ++ [input] <+: inputs → condition (final step state before) input := by
  constructor
  · rintro along before input ⟨rest, rfl⟩
    rw [List.append_assoc, along_append] at along
    exact along.2.1
  · intro all
    induction inputs generalizing state with
    | nil => trivial
    | cons first rest ih =>
      refine ⟨all [] first (List.prefix_append [first] rest), ih _ fun before input begins => ?_⟩
      exact all (first :: before) input (List.cons_prefix_cons.mpr ⟨rfl, begins⟩)

section Events

variable {ε : Type*} (react : σ → α → σ × Option ε)

/-- What happens in a run whose steps answer with an event, or with none. -/
def events (state : σ) : List α → List ε
  | [] => []
  | input :: rest => (react state input).2.toList ++ events (react state input).1 rest

variable {react}

/-- What admissible steps keep holds after every admissible run, also if it is about what has
happened. -/
theorem events_invariant (condition : σ → α → Prop) (holds : List ε → σ → Prop)
    (keeps : ∀ past state input, holds past state → condition state input →
      holds (past ++ (react state input).2.toList) (react state input).1)
    (past : List ε) (state : σ) (inputs : List α) (start : holds past state)
    (admissible : Along react condition state inputs) :
    holds (past ++ events react state inputs) (final react state inputs) := by
  induction inputs generalizing past state with
  | nil => simpa [events, final] using start
  | cons input rest ih =>
    have later := ih _ _ (keeps past state input start admissible.1) admissible.2
    rw [events, ← List.append_assoc]
    exact later

end Events

end Mealy
