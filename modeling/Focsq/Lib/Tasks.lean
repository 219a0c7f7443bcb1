import Mathlib.Data.List.Basic
import Mathlib.Algebra.Ring.Nat
import Mathlib.Tactic.Tauto
import Focsq.Lib.Mealy

/-!
# Tasks with a shared state

Any number of tasks use a shared state, each by atomic steps of its own. Calls begin at any time,
and the tasks make steps in any order. An interleaving is a list of such actions, and `Moves` is what
one of them can do. A step may ask for an input, which says what comes from outside.
-/

namespace Tasks

/-- A shared state and the tasks that use it. -/
structure Pool (σ τ : Type*) where
  /-- The shared state. -/
  shared : σ
  /-- The tasks, also those that have ended. -/
  tasks : List τ

/-- What happens next. -/
inductive Action (β ι : Type*) where
  /-- A call begins. -/
  | begin (call : β)
  /-- A task makes a step. -/
  | step (task : Nat) (input : ι)
  deriving DecidableEq

variable {σ τ β ι ο : Type*} (enter : β → τ) (next : σ → τ → ι → σ × τ × Option ο)

/-- One action; there is an event when a step has one. -/
def Pool.step (pool : Pool σ τ) : Action β ι → Pool σ τ × Option ο
  | .begin call => ({ pool with tasks := pool.tasks ++ [enter call] }, none)
  | .step index input =>
    match pool.tasks[index]? with
    | none => (pool, none)
    | some task =>
      ({ shared := (next pool.shared task input).1
         tasks := pool.tasks.set index (next pool.shared task input).2.1 },
        (next pool.shared task input).2.2)

/-- What an action can do. -/
inductive Pool.Moves (pool : Pool σ τ) : Pool σ τ → Option ο → Prop where
  /-- There is no such task. -/
  | stay : Moves pool pool none
  /-- A call begins. -/
  | begin (call : β) : Moves pool { pool with tasks := pool.tasks ++ [enter call] } none
  /-- One of the tasks makes a step. -/
  | step (front : List τ) (task : τ) (back : List τ) (input : ι)
      (here : pool.tasks = front ++ task :: back) :
    Moves pool
      { shared := (next pool.shared task input).1
        tasks := front ++ (next pool.shared task input).2.1 :: back }
      (next pool.shared task input).2.2

/-- A task makes a step, and the others are left alone. -/
theorem step_task {pool : Pool σ τ} {index : Nat} {task : τ}
    (here : pool.tasks[index]? = some task) (input : ι) :
    ∃ front back, pool.tasks = front ++ task :: back ∧
      pool.step enter next (.step index input) =
        ({ shared := (next pool.shared task input).1
           tasks := front ++ (next pool.shared task input).2.1 :: back },
          (next pool.shared task input).2.2) := by
  obtain ⟨inside, same⟩ := List.getElem?_eq_some_iff.mp here
  refine ⟨pool.tasks.take index, pool.tasks.drop (index + 1), ?_, ?_⟩
  · rw [← same, List.getElem_cons_drop, List.take_append_drop]
  · simp only [Pool.step, here]
    rw [List.set_eq_take_append_cons_drop, if_pos inside]

variable {enter next}

/-- Every action does one of these. -/
theorem step_moves (pool : Pool σ τ) (action : Action β ι) :
    pool.Moves enter next (pool.step enter next action).1 (pool.step enter next action).2 := by
  cases action with
  | begin call => exact .begin call
  | step index input =>
    cases here : pool.tasks[index]? with
    | none =>
      simp only [Pool.step, here]
      exact .stay
    | some task =>
      obtain ⟨front, back, split, stepped⟩ := step_task enter next here input
      rw [stepped]
      exact .step front task back input split

/-- One of the tasks is the one in question, or one of the others. -/
theorem eq_or_mem_others {front back : List τ} {task other : τ}
    (member : other ∈ front ++ task :: back) : other = task ∨ other ∈ front ++ back := by
  simp only [List.mem_append, List.mem_cons] at member ⊢
  tauto

/-- The others are among the tasks. -/
theorem mem_of_others {front back : List τ} {task other : τ} (member : other ∈ front ++ back) :
    other ∈ front ++ task :: back := by
  simp only [List.mem_append, List.mem_cons] at member ⊢
  tauto

/-- The tasks after a step of one of them. -/
theorem mem_replaced {front back : List τ} {old new task : τ}
    (member : task ∈ front ++ new :: back) : task = new ∨ task ∈ front ++ old :: back :=
  (eq_or_mem_others member).imp_right mem_of_others

/-- A task is counted with the others. -/
theorem countP_task (counts : τ → Bool) (front back : List τ) (task : τ) :
    (front ++ task :: back).countP counts =
      (front ++ back).countP counts + (counts task).toNat := by
  rw [List.countP_append, List.countP_cons, List.countP_append, Nat.add_assoc]
  cases counts task <;> rfl

/-- The weight of a task is added to that of the others. -/
theorem sum_task (weight : τ → Nat) (front back : List τ) (task : τ) :
    ((front ++ task :: back).map weight).sum =
      ((front ++ back).map weight).sum + weight task := by
  simp only [List.map_append, List.map_cons, List.sum_append, List.sum_cons]
  omega

/-- What holds between every two tasks holds between one of them and the others. -/
theorem pairwise_others {related : τ → τ → Prop}
    (symmetric : ∀ one other, related one other → related other one) {front back : List τ} {task : τ}
    (all : (front ++ task :: back).Pairwise related) :
    ∀ other ∈ front ++ back, related task other := by
  obtain ⟨_, later, across⟩ := List.pairwise_append.mp all
  intro other member
  rcases List.mem_append.mp member with before | after
  · exact symmetric _ _ (across other before task List.mem_cons_self)
  · exact (List.pairwise_cons.mp later).1 other after

/-- A task may be replaced by one that is related to the others. -/
theorem pairwise_replaced {related : τ → τ → Prop}
    (symmetric : ∀ one other, related one other → related other one) {front back : List τ}
    {old new : τ} (all : (front ++ old :: back).Pairwise related)
    (one : ∀ other ∈ front ++ back, related new other) :
    (front ++ new :: back).Pairwise related := by
  obtain ⟨earlier, later, across⟩ := List.pairwise_append.mp all
  refine List.pairwise_append.mpr ⟨earlier, List.pairwise_cons.mpr
    ⟨fun other member => one other (List.mem_append_right _ member),
      (List.pairwise_cons.mp later).2⟩, fun first before second after => ?_⟩
  rcases List.mem_cons.mp after with rfl | behind
  · exact symmetric _ _ (one first (List.mem_append_left _ before))
  · exact across first before second (List.mem_cons_of_mem _ behind)

/-- What holds at the start and is kept by everything that an action can do holds in the end, also
if it is about the events there have been. -/
theorem invariant (holds : List ο → Pool σ τ → Prop)
    (keeps : ∀ events pool after event, holds events pool → pool.Moves enter next after event →
      holds (events ++ event.toList) after)
    (pool : Pool σ τ) (actions : List (Action β ι)) (start : holds [] pool) :
    holds ((Mealy.outputs (Pool.step enter next) pool actions).flatMap Option.toList)
      (Mealy.final (Pool.step enter next) pool actions) := by
  have general (past : List ο) (pool : Pool σ τ) (now : holds past pool) :
      holds (past ++ (Mealy.outputs (Pool.step enter next) pool actions).flatMap Option.toList)
        (Mealy.final (Pool.step enter next) pool actions) := by
    induction actions generalizing past pool with
    | nil => simpa [Mealy.outputs, Mealy.final] using now
    | cons action rest ih =>
      have first := keeps past pool _ _ now (step_moves pool action)
      have later := ih _ _ first
      rw [Mealy.outputs, Mealy.final, List.flatMap_cons, ← List.append_assoc]
      exact later
  exact general [] pool start

/-- The call that an action begins. -/
def Action.begun : Action β ι → Option β
  | .begin call => some call
  | .step _ _ => none

/-- Tasks that keep the call they began with are there for all calls that have begun. -/
theorem map_origin (origin : τ → β) (enters : ∀ call, origin (enter call) = call)
    (keeps : ∀ shared task input, origin (next shared task input).2.1 = origin task)
    (pool : Pool σ τ) (actions : List (Action β ι)) :
    (Mealy.final (Pool.step enter next) pool actions).tasks.map origin =
      pool.tasks.map origin ++ actions.filterMap Action.begun := by
  induction actions generalizing pool with
  | nil => simp [Mealy.final]
  | cons action rest ih =>
    rw [Mealy.final, ih]
    cases action with
    | begin call => simp [Pool.step, enters, Action.begun]
    | step index input =>
      have same : ((pool.step enter next (.step index input)).1.tasks).map origin =
          pool.tasks.map origin := by
        cases here : pool.tasks[index]? with
        | none => simp only [Pool.step, here]
        | some task =>
          simp only [Pool.step, here]
          rw [List.map_set, keeps]
          have there : (pool.tasks.map origin)[index]? = some (origin task) := by
            rw [List.getElem?_map, here, Option.map_some]
          obtain ⟨inside, equal⟩ := List.getElem?_eq_some_iff.mp there
          rw [← equal, List.set_getElem_self]
      rw [same, List.filterMap_cons_none (by rfl)]

section Alone

variable (next)

/-- What a task does that runs alone. -/
def alone (shared : σ) (task : τ) : List ι → σ × τ
  | [] => (shared, task)
  | input :: rest => alone (next shared task input).1 (next shared task input).2.1 rest

/-- The last task runs alone. -/
theorem final_last (shared : σ) (others : List τ) (task : τ) (inputs : List ι) :
    Mealy.final (Pool.step enter next) ⟨shared, others ++ [task]⟩
        (inputs.map (Action.step others.length)) =
      ⟨(alone next shared task inputs).1, others ++ [(alone next shared task inputs).2]⟩ := by
  induction inputs generalizing shared task with
  | nil => rfl
  | cons input rest ih =>
    have here : (others ++ [task])[others.length]? = some task := by simp
    have first : (Pool.step enter next ⟨shared, others ++ [task]⟩ (.step others.length input)).1 =
        ⟨(next shared task input).1, others ++ [(next shared task input).2.1]⟩ := by
      simp only [Pool.step, here]
      rw [List.set_append_right _ _ (Nat.le_refl _), Nat.sub_self]
      rfl
    rw [List.map_cons, Mealy.final, first, ih]
    rfl

end Alone

end Tasks
