import Mathlib.Data.List.Basic

/-!
# Computations that change a state and may stop

A computation reads and writes a state and ends with a result or stops for a reason; what it wrote
before it stopped remains. `Meets` says two things at once, what holds of every result, and that
there is a result when all is fair, so that one rule for each construct serves for both.
-/

namespace Effects

/-- A computation on a state `σ` that stops for reasons in `ε`. -/
abbrev Effect (σ ε : Type) : Type → Type := ExceptT ε (StateM σ)

variable {σ ε α β : Type}

/-- The result, or why there is none, and the state after it. -/
def Effect.from (effect : Effect σ ε α) (state : σ) : Except ε α × σ := effect.run.run state

/-- A step that may stop, which does not touch the state. -/
def fallible : Except ε α → Effect σ ε α
  | .ok result => pure result
  | .error reason => throw reason

/-- What is known of a computation from a state. -/
structure Meets (fair : Prop) (effect : Effect σ ε α) (state : σ) (post : α → σ → Prop) :
    Prop where
  /-- The results are as they should be. -/
  sound : ∀ result after, effect.from state = (.ok result, after) → post result after
  /-- If all is fair, there is one. -/
  total : fair → ∃ result after, effect.from state = (.ok result, after)

variable {fair : Prop} {state : σ}

/-- A result that is given. -/
theorem meets_pure {result : α} {post : α → σ → Prop} (holds : post result state) :
    Meets fair (pure result : Effect σ ε α) state post := by
  refine ⟨fun other after given => ?_, fun _ => ⟨result, state, rfl⟩⟩
  cases given
  exact holds

/-- Nothing stops when all is fair. -/
theorem meets_throw {reason : ε} {post : α → σ → Prop} (unfair : ¬fair) :
    Meets fair (throw reason : Effect σ ε α) state post := by
  refine ⟨fun other after given => ?_, fun all => absurd all unfair⟩
  cases given

/-- The state is changed. -/
theorem meets_modify {change : σ → σ} {post : Unit → σ → Prop} (holds : post () (change state)) :
    Meets fair (modify change : Effect σ ε Unit) state post := by
  refine ⟨fun other after given => ?_, fun _ => ⟨(), change state, rfl⟩⟩
  cases given
  exact holds

/-- A step that does not touch the state. -/
theorem meets_fallible {step : Except ε α} {post : α → σ → Prop}
    (holds : ∀ result, step = .ok result → post result state)
    (total : fair → ∃ result, step = .ok result) :
    Meets fair (fallible step : Effect σ ε α) state post := by
  cases step with
  | ok result => exact meets_pure (holds result rfl)
  | error reason =>
    refine meets_throw fun all => ?_
    obtain ⟨result, never⟩ := total all
    cases never

/-- More than what is wanted. -/
theorem Meets.mono {effect : Effect σ ε α} {post weaker : α → σ → Prop}
    (meets : Meets fair effect state post)
    (weaken : ∀ result after, post result after → weaker result after) :
    Meets fair effect state weaker :=
  ⟨fun result after given => weaken result after (meets.sound result after given), meets.total⟩

/-- A computation that starts with another one. -/
theorem from_bind (effect : Effect σ ε α) (next : α → Effect σ ε β) (state : σ) :
    (effect >>= next).from state =
      match effect.from state with
      | (.ok result, after) => (next result).from after
      | (.error reason, after) => (.error reason, after) := by
  unfold Effect.from
  simp only [ExceptT.run_bind, StateT.run_bind]
  cases effect.run.run state with
  | mk outcome after =>
    cases outcome with
    | ok result => rfl
    | error reason => rfl

/-- One computation after another. -/
theorem Meets.bind {effect : Effect σ ε α} {next : α → Effect σ ε β} {middle : α → σ → Prop}
    {post : β → σ → Prop} (first : Meets fair effect state middle)
    (second : ∀ result after, middle result after → Meets fair (next result) after post) :
    Meets fair (effect >>= next) state post := by
  constructor
  · intro result after given
    rw [from_bind] at given
    cases ran : effect.from state with
    | mk outcome between =>
      rw [ran] at given
      cases outcome with
      | ok found => exact (second found between (first.sound _ _ ran)).sound result after given
      | error reason => cases given
  · intro all
    obtain ⟨found, between, ran⟩ := first.total all
    obtain ⟨result, after, ended⟩ := (second found between (first.sound _ _ ran)).total all
    refine ⟨result, after, ?_⟩
    rw [from_bind, ran]
    exact ended

/-- The state is read before the rest. -/
theorem meets_get_bind {next : σ → Effect σ ε α} {post : α → σ → Prop}
    (rest : Meets fair (next state) state post) : Meets fair (get >>= next) state post := by
  constructor
  · intro result after given
    rw [from_bind] at given
    exact rest.sound result after given
  · intro all
    obtain ⟨result, after, ended⟩ := rest.total all
    refine ⟨result, after, ?_⟩
    rw [from_bind]
    exact ended

/-- The state is changed before the rest. -/
theorem meets_modify_bind {change : σ → σ} {next : Unit → Effect σ ε α} {post : α → σ → Prop}
    (rest : Meets fair (next ()) (change state) post) :
    Meets fair (modify change >>= next) state post := by
  constructor
  · intro result after given
    rw [from_bind] at given
    exact rest.sound result after given
  · intro all
    obtain ⟨result, after, ended⟩ := rest.total all
    refine ⟨result, after, ?_⟩
    rw [from_bind]
    exact ended

/-- A step that does not touch the state comes before the rest. -/
theorem meets_fallible_bind {step : Except ε α} {next : α → Effect σ ε β} {post : β → σ → Prop}
    (rest : ∀ result, step = .ok result → Meets fair (next result) state post)
    (total : fair → ∃ result, step = .ok result) :
    Meets fair (fallible step >>= next) state post := by
  cases step with
  | ok result =>
    have first : Meets fair (fallible (.ok result) : Effect σ ε α) state
        fun found after => found = result ∧ after = state := meets_pure ⟨rfl, rfl⟩
    refine first.bind fun found after same => ?_
    rw [same.1, same.2]
    exact rest result rfl
  | error reason =>
    have first : Meets fair (fallible (.error reason) : Effect σ ε α) state fun _ _ => False := by
      refine meets_throw fun all => ?_
      obtain ⟨result, never⟩ := total all
      cases never
    exact first.bind fun _ _ never => never.elim

/-- A loop over a list keeps what each turn keeps; `done` are the elements before the turn. -/
theorem meets_forM {turn : α → Effect σ ε PUnit} (keeps : List α → σ → Prop) (items : List α)
    (kept : ∀ done item rest before, items = done ++ item :: rest → keeps done before →
      Meets fair (turn item) before fun _ after => keeps (done ++ [item]) after)
    (start : keeps [] state) :
    Meets fair (items.forM turn) state fun _ after => keeps items after := by
  have general (done rest : List α) (whole : items = done ++ rest) (state : σ)
      (now : keeps done state) :
      Meets fair (rest.forM turn) state fun _ after => keeps items after := by
    induction rest generalizing done state with
    | nil =>
      rw [List.append_nil] at whole
      exact meets_pure (whole ▸ now)
    | cons item rest ih =>
      refine (kept done item rest state whole now).bind fun _ after later => ?_
      refine ih (done ++ [item]) ?_ after later
      rw [whole, List.append_assoc, List.singleton_append]
  exact general [] items rfl state start

/-- What holds whether a computation ends or stops. -/
def Keeps (holds : σ → Prop) (effect : Effect σ ε α) : Prop :=
  ∀ state, holds state → holds (effect.from state).2

section Keeps

variable {holds : σ → Prop}

theorem keeps_pure (result : α) : Keeps holds (pure result : Effect σ ε α) :=
  fun _ held => held

theorem keeps_throw (reason : ε) : Keeps holds (throw reason : Effect σ ε α) :=
  fun _ held => held

theorem keeps_get : Keeps holds (get : Effect σ ε σ) := fun _ held => held

theorem keeps_modify {change : σ → σ} (kept : ∀ state, holds state → holds (change state)) :
    Keeps holds (modify change : Effect σ ε Unit) :=
  fun state held => kept state held

theorem keeps_fallible (step : Except ε α) : Keeps holds (fallible step : Effect σ ε α) := by
  cases step with
  | ok result => exact keeps_pure result
  | error reason => exact keeps_throw reason

/-- One computation after another. -/
theorem Keeps.bind {effect : Effect σ ε α} {next : α → Effect σ ε β}
    (first : Keeps holds effect) (second : ∀ result, Keeps holds (next result)) :
    Keeps holds (effect >>= next) := by
  intro state held
  rw [from_bind]
  have between := first state held
  cases ran : effect.from state with
  | mk outcome after =>
    rw [ran] at between
    cases outcome with
    | ok result => exact second result after between
    | error reason => exact between

/-- A computation whose failures are handled. -/
theorem from_tryCatch (effect : Effect σ ε α) (handler : ε → Effect σ ε α) (state : σ) :
    (tryCatch effect handler).from state =
      match effect.from state with
      | (.ok result, after) => (.ok result, after)
      | (.error reason, after) => (handler reason).from after := by
  unfold Effect.from
  simp only [ExceptT.run_tryCatch, StateT.run_bind]
  cases effect.run.run state with
  | mk outcome after =>
    cases outcome with
    | ok result => rfl
    | error reason => rfl

end Keeps

/-- The state is read before the rest. -/
theorem from_get_bind (next : σ → Effect σ ε α) (state : σ) :
    (get >>= next).from state = (next state).from state := by
  rw [from_bind]
  rfl

/-- A step that does not touch the state, before the rest. -/
theorem from_fallible_bind (step : Except ε α) (next : α → Effect σ ε β) (state : σ) :
    (fallible step >>= next).from state =
      match step with
      | .ok result => (next result).from state
      | .error reason => (.error reason, state) := by
  cases step with
  | ok result => rfl
  | error reason => rfl

/-- A method that takes a new state, or leaves the old one and stops. -/
def update (method : σ → Except ε σ) : Effect σ ε Unit := do
  let state ← get
  let state ← fallible (method state)
  set state

/-- The state afterwards is that of the method. -/
theorem from_update (method : σ → Except ε σ) (state : σ) :
    (update method).from state =
      match method state with
      | .ok state => (.ok (), state)
      | .error reason => (.error reason, state) := by
  unfold update
  rw [from_get_bind, from_fallible_bind]
  cases method state with
  | ok state => rfl
  | error reason => rfl

/-- The state in the rest is that of the method. -/
theorem from_update_bind (method : σ → Except ε σ) (next : Unit → Effect σ ε α) (state : σ) :
    (update method >>= next).from state =
      match method state with
      | .ok state => (next ()).from state
      | .error reason => (.error reason, state) := by
  rw [from_bind, from_update]
  cases method state with
  | ok state => rfl
  | error reason => rfl

/-- The loop of `iterMut` over the elements that are left. -/
def iterMutLoop (step : Effect α ε Unit) : List α → Except ε Unit × List α
  | [] => (.ok (), [])
  | item :: rest =>
    match step.from item with
    | (.error reason, item) => (.error reason, item :: rest)
    | (.ok (), item) =>
      match iterMutLoop step rest with
      | (outcome, rest) => (outcome, item :: rest)

/-- A step on each element of a list in place, until one stops. -/
def iterMut (step : Effect α ε Unit) : Effect (List α) ε Unit :=
  ExceptT.mk fun items => iterMutLoop step items

/-- When no step stops, each element is as its step leaves it. -/
theorem from_iterMut {step : Effect α ε Unit} {items results : List α}
    (each : List.Forall₂ (fun item result => step.from item = (.ok (), result)) items results) :
    (iterMut step).from items = (.ok (), results) := by
  change iterMutLoop step items = (.ok (), results)
  induction each with
  | nil => rfl
  | cons first _ ih => rw [iterMutLoop, first, ih]

/-- A list of steps that succeed. -/
theorem forall₂_of_mapM {step : α → Except ε β} {items : List α} {results : List β}
    (mapped : items.mapM step = .ok results) :
    List.Forall₂ (fun item result => step item = .ok result) items results := by
  induction items generalizing results with
  | nil =>
    cases mapped
    exact .nil
  | cons item rest ih =>
    rw [List.mapM_cons] at mapped
    cases first : step item with
    | error reason =>
      rw [first] at mapped
      cases mapped
    | ok result =>
      rw [first] at mapped
      cases later : rest.mapM step with
      | error reason =>
        simp only [later, bind, Except.bind] at mapped
        cases mapped
      | ok others =>
        simp only [later, bind, Except.bind, pure, Except.pure] at mapped
        cases mapped
        exact .cons first (ih later)

/-- If every step succeeds, so does the list. -/
theorem mapM_total {step : α → Except ε β} {items : List α}
    (total : ∀ item ∈ items, ∃ result, step item = .ok result) :
    ∃ results, items.mapM step = .ok results := by
  induction items with
  | nil => exact ⟨[], rfl⟩
  | cons item rest ih =>
    obtain ⟨result, first⟩ := total item List.mem_cons_self
    obtain ⟨others, later⟩ := ih fun other member => total other (List.mem_cons_of_mem _ member)
    refine ⟨result :: others, ?_⟩
    rw [List.mapM_cons, first]
    simp only [later, bind, Except.bind, pure, Except.pure]

end Effects
