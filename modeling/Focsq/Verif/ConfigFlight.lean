import Focsq.Backend.ConfigFlight
import Focsq.Lib.Mealy

/-!
# One worker at a time

A worker fetches the configuration from the exchange of the flag to its own completion. As long as
no guard is dropped late, which means after its delivery was completed and while another worker
fetches, the flag is set exactly while a worker fetches, and there is one at most. A guard that is
dropped late clears the flag of the other worker, and then a third one can begin to fetch.
-/

namespace Focsq.ConfigFlight

section Statement

/-- Whether a worker is between a successful acquire and its completion. -/
def Worker.fetches : Worker → Bool
  | .requesting guard => guard.acquired
  | .storing | .completing _ => true
  | .dropping guard result =>
    guard.acquired && match result with
      | .unanswered _ => true
      | .rejected | .served _ => false
  | .loading | .exchanging | .serving _ | .checking _ | .refreshing | .retrying | .returned => false

/-- Whether a worker is to drop a guard after its delivery was completed. -/
def Worker.dropsLate : Worker → Bool
  | .dropping guard result =>
    guard.acquired && match result with
      | .unanswered _ => false
      | .rejected | .served _ => true
  | .loading | .exchanging | .requesting _ | .storing | .completing _ | .serving _ | .checking _
  | .refreshing | .retrying | .returned => false

/-- The number of workers that fetch the configuration. -/
def WorkerPool.fetching (pool : WorkerPool) : Nat := pool.tasks.countP Worker.fetches

/-- The action drops a guard after its delivery was completed, while another worker fetches. -/
def WorkerPool.DropsLate (pool : WorkerPool) : Tasks.Action Unit Outside → Prop
  | .begin _ => False
  | .step index _ =>
    (pool.tasks[index]?.any Worker.dropsLate && pool.tasks.any Worker.fetches) = true

instance decidableDropsLate (pool : WorkerPool) (action : Tasks.Action Unit Outside) :
    Decidable (pool.DropsLate action) := by
  cases action <;> unfold WorkerPool.DropsLate <;> infer_instance

end Statement

section Step

/-- What a step of a worker can do to the flag. -/
inductive Worker.Moves (flags : Flags) (worker : Worker) : Flags → Worker → Prop where
  /-- It leaves the flag, and fetches as before. -/
  | keep (after : Flags) (moved : Worker) (same : after.inFlight = flags.inFlight)
      (alike : moved.fetches = worker.fetches) : Moves flags worker after moved
  /-- It sets the flag, and begins to fetch. -/
  | acquire (after : Flags) (moved : Worker) (free : flags.inFlight = false)
      (idle : worker.fetches = false) (set : after.inFlight = true)
      (fetches : moved.fetches = true) : Moves flags worker after moved
  /-- It has fetched, and clears the flag. -/
  | complete (after : Flags) (moved : Worker) (fetches : worker.fetches = true)
      (clear : after.inFlight = false) (idle : moved.fetches = false) :
      Moves flags worker after moved
  /-- It drops a guard after its delivery was completed, and clears the flag. -/
  | dropLate (after : Flags) (moved : Worker) (late : worker.dropsLate = true)
      (clear : after.inFlight = false) (idle : moved.fetches = false) :
      Moves flags worker after moved

/-- A guard that is dropped late is not that of a worker that fetches. -/
theorem fetches_of_dropsLate {worker : Worker} (late : worker.dropsLate = true) :
    worker.fetches = false := by
  cases worker with
  | dropping guard result =>
    cases result with
    | unanswered failed => simp [Worker.dropsLate] at late
    | rejected | served failed => simp [Worker.fetches]
  | _ => cases late

/-- The exchange sets the flag if it is clear. -/
theorem exchange_moves (flags : Flags) :
    Worker.Moves flags .exchanging flags.exchange.1 (.requesting flags.exchange.2) := by
  cases free : flags.inFlight with
  | false =>
    refine .acquire _ _ free rfl ?_ ?_ <;> simp [Flags.exchange, free, Worker.fetches]
  | true =>
    refine .keep _ _ ?_ ?_ <;> simp [Flags.exchange, free, Worker.fetches]

/-- Only an acquired guard clears the flag when it is dropped. -/
theorem drop_moves (flags : Flags) (guard : ConfigFlightGuard) (result : SessionResult) :
    Worker.Moves flags (.dropping guard result) (guard.drop flags) (.checking result) := by
  obtain ⟨acquired⟩ := guard
  cases acquired with
  | false => exact .keep _ _ rfl rfl
  | true =>
    cases result with
    | unanswered failed => exact .complete _ _ rfl rfl rfl
    | rejected | served failed => exact .dropLate _ _ rfl rfl rfl

/-- The answer to a request does not complete its delivery. -/
theorem answered_fetches (guard : ConfigFlightGuard) (answer : Except Unit Bool) :
    (guard.answered answer).fetches = guard.acquired := by
  obtain ⟨acquired⟩ := guard
  cases acquired with
  | false => cases answer <;> rfl
  | true =>
    cases answer with
    | error _ => rfl
    | ok delivered => cases delivered <;> rfl

/-- Every step does one of these. -/
theorem next_moves (flags : Flags) (worker : Worker) (input : Outside) :
    worker.Moves flags (worker.next flags input).1 (worker.next flags input).2.1 := by
  cases worker with
  | loading =>
    refine .keep _ _ rfl ?_
    show (if flags.sent then Worker.requesting ⟨false⟩ else .exchanging).fetches = false
    cases flags.sent <;> rfl
  | exchanging => exact exchange_moves flags
  | requesting guard =>
    cases input with
    | answered answer => exact .keep _ _ rfl (answered_fetches guard answer)
    | ended failed => exact .keep _ _ rfl (Bool.and_true _)
    | going | seen | returning => exact .keep _ _ rfl rfl
  | storing => exact .keep _ _ rfl rfl
  | completing accepted =>
    refine .complete _ _ rfl rfl ?_
    show (if accepted then Worker.serving ⟨true⟩ else .dropping ⟨true⟩ .rejected).fetches = false
    cases accepted <;> rfl
  | serving guard =>
    cases input with
    | ended failed => exact .keep _ _ rfl (Bool.and_false _)
    | going | answered | seen | returning => exact .keep _ _ rfl rfl
  | dropping guard result => exact drop_moves flags guard result
  | checking result =>
    cases input with
    | seen activeConnections cancelled =>
      refine .keep _ _ rfl ?_
      show (if shouldRefreshConfigurationAfterFullOutage result.wasReady result.isErr
        activeConnections cancelled then Worker.refreshing else .retrying).fetches = false
      split <;> rfl
    | going | answered | ended | returning => exact .keep _ _ rfl rfl
  | refreshing => exact .keep _ _ rfl rfl
  | retrying => cases input <;> exact .keep _ _ rfl rfl
  | returned => exact .keep _ _ rfl rfl

end Step

section Run

/-- The flag is set exactly while a worker fetches, and there is one at most. -/
def Exclusive (pool : WorkerPool) : Prop := pool.fetching = pool.shared.inFlight.toNat

/-- One action that drops no guard late keeps it so. -/
theorem exclusive_step (pool : WorkerPool) (action : Tasks.Action Unit Outside)
    (exclusive : Exclusive pool) (early : ¬ pool.DropsLate action) :
    Exclusive (pool.step action).1 := by
  unfold Exclusive WorkerPool.fetching at exclusive ⊢
  cases action with
  | begin call =>
    show (pool.tasks ++ [Worker.enter call]).countP Worker.fetches = pool.shared.inFlight.toNat
    rw [List.countP_append, exclusive]
    rfl
  | step index input =>
    cases here : pool.tasks[index]? with
    | none =>
      simp only [WorkerPool.step, Tasks.Pool.step, here]
      exact exclusive
    | some worker =>
      obtain ⟨front, back, split, stepped⟩ := Tasks.step_task Worker.enter Worker.next here input
      have moves := next_moves pool.shared worker input
      rw [WorkerPool.step, stepped]
      dsimp only
      rw [split, Tasks.countP_task] at exclusive
      rw [Tasks.countP_task]
      generalize (worker.next pool.shared input).1 = after at moves ⊢
      generalize (worker.next pool.shared input).2.1 = moved at moves ⊢
      cases moves with
      | keep same alike =>
        rw [same, alike]
        exact exclusive
      | acquire free idle set fetches =>
        rw [free, idle] at exclusive
        rw [set, fetches]
        exact congrArg Nat.succ exclusive
      | complete fetches clear idle =>
        have bound : pool.shared.inFlight.toNat ≤ 1 := Bool.toNat_le _
        rw [fetches, Bool.toNat_true] at exclusive
        rw [clear, idle, Bool.toNat_false]
        omega
      | dropLate late clear idle =>
        have none : pool.tasks.any Worker.fetches = false := by
          simpa [WorkerPool.DropsLate, here, late] using early
        have others : (front ++ back).countP Worker.fetches = 0 := by
          refine List.countP_eq_zero.mpr fun other member => ?_
          exact List.any_eq_false.mp none other (split ▸ Tasks.mem_of_others member)
        rw [others, clear, idle]
        rfl

/-- After a run that drops no guard late, the flag is set exactly while a worker fetches. -/
theorem exclusive_run (actions : List (Tasks.Action Unit Outside))
    (early : Mealy.Along WorkerPool.step (fun pool action => ¬ pool.DropsLate action) .new actions) :
    Exclusive (Mealy.final WorkerPool.step .new actions) :=
  Mealy.invariant Exclusive exclusive_step .new actions rfl early

/-- After a guard is dropped late, the flag is clear although another worker still fetches. -/
theorem dropsLate_step {pool : WorkerPool} {action : Tasks.Action Unit Outside}
    (late : pool.DropsLate action) :
    (pool.step action).1.shared.inFlight = false ∧ 0 < (pool.step action).1.fetching := by
  cases action with
  | begin call => exact absurd late not_false
  | step index input =>
    have both := Bool.and_eq_true_iff.mp late
    obtain ⟨worker, here, drops⟩ := (Option.any_eq_true _ _).mp both.1
    obtain ⟨front, back, split, stepped⟩ := Tasks.step_task Worker.enter Worker.next here input
    have some : 0 < pool.tasks.countP Worker.fetches := by
      obtain ⟨other, member, fetches⟩ := List.any_eq_true.mp both.2
      exact List.countP_pos_iff.mpr ⟨other, member, fetches⟩
    have rest : 0 < (front ++ back).countP Worker.fetches := by
      rw [split, Tasks.countP_task, fetches_of_dropsLate drops] at some
      exact some
    rw [WorkerPool.step, stepped, WorkerPool.fetching]
    dsimp only
    rw [Tasks.countP_task]
    cases worker with
    | dropping guard result =>
      have acquired : guard.acquired = true := (Bool.and_eq_true_iff.mp drops).1
      refine ⟨?_, Nat.lt_of_lt_of_le rest (Nat.le_add_right _ _)⟩
      show (guard.drop pool.shared).inFlight = false
      rw [ConfigFlightGuard.drop, if_pos acquired]
    | _ => cases drops

/-- What a new worker is to do so that it fetches the configuration. If it has been delivered before,
its first session is not about it, and ends in a full outage. -/
def takeOver (sent : Bool) : List Outside :=
  if sent then
    [.going, .answered (.ok false), .ended true, .going, .seen 0 false, .going, .going, .going,
      .going]
  else [.going, .going]

/-- It fetches the configuration if the flag is clear. -/
theorem alone_takeOver {flags : Flags} (free : flags.inFlight = false) :
    (Tasks.alone Worker.next flags (Worker.enter ()) (takeOver flags.sent)).2.fetches = true := by
  obtain ⟨sent, inFlight⟩ := flags
  cases free
  cases sent <;> rfl

/-- While the flag is clear, one more worker can begin to fetch the configuration. -/
theorem fetching_takeOver (pool : WorkerPool) (free : pool.shared.inFlight = false) :
    (Mealy.final WorkerPool.step pool
      (.begin () :: (takeOver pool.shared.sent).map (.step pool.tasks.length))).fetching =
      pool.fetching + 1 := by
  have solo := @Tasks.final_last _ _ _ _ _ Worker.enter Worker.next pool.shared pool.tasks
    (Worker.enter ()) (takeOver pool.shared.sent)
  rw [Mealy.final]
  show WorkerPool.fetching (Mealy.final WorkerPool.step
    ⟨pool.shared, pool.tasks ++ [Worker.enter ()]⟩ _) = _
  rw [WorkerPool.step, solo, WorkerPool.fetching, Tasks.countP_task, alone_takeOver free,
    List.append_nil]
  rfl

/-- If no guard is dropped late, one worker at most fetches the configuration in every state of a
run. But after a guard has been dropped late, the run can go on so that two of them do. -/
theorem single_flight (actions : List (Tasks.Action Unit Outside)) :
    (Mealy.Along WorkerPool.step (fun pool action => ¬ pool.DropsLate action) .new actions →
      ∀ begun, begun <+: actions → (Mealy.final WorkerPool.step .new begun).fetching ≤ 1) ∧
    (∀ action, (Mealy.final WorkerPool.step .new actions).DropsLate action →
      ∃ later, 1 < (Mealy.final WorkerPool.step .new (actions ++ action :: later)).fetching) := by
  refine ⟨fun early begun begins => ?_, fun action late => ?_⟩
  · obtain ⟨rest, rfl⟩ := begins
    have exclusive := exclusive_run begun ((Mealy.along_append _ _ _).mp early).1
    rw [exclusive]
    exact Bool.toNat_le _
  · have after := dropsLate_step late
    let pool := ((Mealy.final WorkerPool.step .new actions).step action).1
    refine ⟨.begin () :: (takeOver pool.shared.sent).map (.step pool.tasks.length), ?_⟩
    rw [Mealy.final_append, Mealy.final, fetching_takeOver pool after.1]
    exact Nat.succ_lt_succ after.2

/-- A worker fetches the configuration, which the server does not have, and its session goes on.
When it has ended, another worker fetches the configuration. -/
def successiveRun : List (Tasks.Action Unit Outside) :=
  [.begin (), .begin (), .step 0 .going, .step 0 .going, .step 1 .going,
    .step 0 (.answered (.ok false)), .step 0 .going, .step 0 (.ended true), .step 0 .going,
    .step 1 .going, .step 1 (.answered (.ok true))]

/-- The first guard is dropped before the second worker begins to fetch. -/
theorem successiveRun_single :
    (Mealy.final WorkerPool.step .new successiveRun).fetching ≤ 1 ∧
      (Mealy.final WorkerPool.step .new successiveRun).fetching = 1 :=
  ⟨(single_flight successiveRun).1 (by decide) successiveRun List.prefix_rfl, by decide⟩

/-- A worker has fetched the configuration, which the server did not have. Another worker fetches it
when the first guard is dropped, and then a third one begins. -/
def crossedRun : List (Tasks.Action Unit Outside) :=
  [.begin (), .begin (), .begin (), .step 0 .going, .step 0 .going,
    .step 0 (.answered (.ok false)), .step 0 .going, .step 1 .going, .step 1 .going,
    .step 0 (.ended true), .step 0 .going, .step 2 .going, .step 2 .going]

/-- Two workers fetch the configuration at once. -/
theorem crossedRun_double :
    (Mealy.final WorkerPool.step .new crossedRun).fetching = 2 := by
  decide

end Run

end Focsq.ConfigFlight
