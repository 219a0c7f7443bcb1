import Mathlib.Logic.Function.Basic
import Focsq.Lib.Mealy

/-!
# Independent copies of a component

Every input has a key, and there is a copy of a component for each key, which takes the inputs with
this key and no others. So what all of them answer, as far as one key is concerned, is what one copy
answers to the inputs with this key. A component that has all copies in one state is as good as
independent copies when it simulates them.
-/

namespace Copies

variable {κ σ α ο β : Type*} [DecidableEq κ] (key : α → κ) (step : σ → α → σ × ο)

/-- The copy of the input takes it. -/
def stepAll (states : κ → σ) (input : α) : (κ → σ) × ο :=
  (Function.update states (key input) (step (states (key input)) input).1,
    (step (states (key input)) input).2)

/-- The inputs with one key. -/
def inputsOf (chosen : κ) (inputs : List α) : List α :=
  inputs.filter fun input => key input = chosen

/-- The outputs for the inputs with one key. -/
def outputsOf (chosen : κ) (inputs : List α) (outputs : List ο) : List ο :=
  ((inputs.zip outputs).filter fun answered => key answered.1 = chosen).map Prod.snd

variable {key step}

/-- The copy of the input has moved. -/
theorem stepAll_self (states : κ → σ) (input : α) :
    (stepAll key step states input).1 (key input) = (step (states (key input)) input).1 :=
  Function.update_self _ _ _

/-- Other copies have not. -/
theorem stepAll_of_ne (states : κ → σ) {input : α} {chosen : κ} (other : key input ≠ chosen) :
    (stepAll key step states input).1 chosen = states chosen :=
  Function.update_of_ne (Ne.symm other) _ _

/-- The first input counts if it has the key. -/
theorem inputsOf_cons (chosen : κ) (input : α) (inputs : List α) :
    inputsOf key chosen (input :: inputs) =
      if key input = chosen then input :: inputsOf key chosen inputs
      else inputsOf key chosen inputs := by
  unfold inputsOf
  by_cases same : key input = chosen
  · simp [same]
  · simp [same]

/-- The output for the first input counts if it has the key. -/
theorem outputsOf_cons (chosen : κ) (input : α) (inputs : List α) (output : ο)
    (outputs : List ο) :
    outputsOf key chosen (input :: inputs) (output :: outputs) =
      if key input = chosen then output :: outputsOf key chosen inputs outputs
      else outputsOf key chosen inputs outputs := by
  unfold outputsOf
  rw [List.zip_cons_cons, List.filter_cons]
  by_cases same : key input = chosen
  · simp [same]
  · simp [same]

/-- One copy answers to its own inputs as all of them do. -/
theorem outputsOf_stepAll (states : κ → σ) (inputs : List α) (chosen : κ) :
    outputsOf key chosen inputs (Mealy.outputs (stepAll key step) states inputs) =
      Mealy.outputs step (states chosen) (inputsOf key chosen inputs) := by
  induction inputs generalizing states with
  | nil => rfl
  | cons input rest ih =>
    rw [Mealy.outputs, outputsOf_cons, ih, inputsOf_cons]
    by_cases same : key input = chosen
    · subst same
      rw [if_pos rfl, if_pos rfl, Mealy.outputs, stepAll_self]
      rfl
    · rw [if_neg same, if_neg same, stepAll_of_ne states same]

/-- What holds along the steps of all copies holds along those of each. -/
theorem along_stepAll {condition : σ → α → Prop} (states : κ → σ) (inputs : List α) (chosen : κ)
    (along : Mealy.Along (stepAll key step)
      (fun states input => condition (states (key input)) input) states inputs) :
    Mealy.Along step condition (states chosen) (inputsOf key chosen inputs) := by
  induction inputs generalizing states with
  | nil => trivial
  | cons input rest ih =>
    have later := ih _ along.2
    rw [inputsOf_cons]
    by_cases same : key input = chosen
    · subst same
      rw [if_pos rfl]
      rw [stepAll_self] at later
      exact ⟨along.1, later⟩
    · rw [if_neg same]
      rw [stepAll_of_ne states same] at later
      exact later

/-- When every output is a list of values of the key of its input, the values of one key are the
outputs for the inputs with this key. -/
theorem filter_flatten (owner : β → κ) (chosen : κ) {inputs : List α} {outputs : List (List β)}
    (length : outputs.length = inputs.length)
    (owned : ∀ answered ∈ inputs.zip outputs, ∀ value ∈ answered.2,
      owner value = key answered.1) :
    outputs.flatten.filter (fun value => owner value = chosen) =
      (outputsOf key chosen inputs outputs).flatten := by
  induction inputs generalizing outputs with
  | nil =>
    rw [List.length_eq_zero_iff.mp length]
    rfl
  | cons input rest ih =>
    cases outputs with
    | nil => cases length
    | cons output others =>
      have values := owned (input, output) (by simp)
      have later := ih (Nat.succ.inj length) fun answered member =>
        owned answered (List.mem_cons_of_mem _ member)
      rw [List.flatten_cons, List.filter_append, later, outputsOf_cons]
      by_cases same : key input = chosen
      · rw [if_pos same, List.flatten_cons,
          List.filter_eq_self.mpr fun value member => by simp [values value member, same]]
      · rw [if_neg same,
          List.filter_eq_nil_iff.mpr fun value member => by simp [values value member, same],
          List.nil_append]

/-- An output for an input with a key is among those for this key. -/
theorem mem_outputsOf {inputs : List α} {outputs : List ο} {answered : α × ο}
    (member : answered ∈ inputs.zip outputs) :
    answered.2 ∈ outputsOf key (key answered.1) inputs outputs :=
  List.mem_map.mpr ⟨answered, List.mem_filter.mpr ⟨member, by simp⟩, rfl⟩

end Copies
