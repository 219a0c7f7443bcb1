import Focsq.Verif.ConnectService
import Focsq.Verif.Events

/-!
# At most one run of the core

A start is on its way to a run of the core, or a run is live, and after that something remains to be
done. As long as the session is ended by what remains to be done, and a start waits for it, there is
at most one task of all these.
-/

namespace Focsq.ConnectService

open Mealy

/-- Whether the future of a run of the core is live. -/
def Place.runs : Place → Bool
  | .running => true
  | _ => false

/-- Whether a run of the core is live, or a start may still launch one. -/
def Place.live : Place → Bool
  | .preparing _ | .running => true
  | _ => false

/-- Whether a start or a run has ended, and the state is still to be set. -/
def Place.winding : Place → Bool
  | .failing _ _ | .exited _ | .finishing => true
  | _ => false

/-- Whether a task is one of both kinds. -/
def Place.busy (place : Place) : Bool := place.live || place.winding

/-- At most one run is live, and none is live or about to be started when the service is
disconnected. -/
structure AtMostOne (pool : ConnectPool) : Prop where
  /-- At most one run is live. -/
  one : pool.tasks.countP Place.runs ≤ 1
  /-- There is none, and there will be none, when the service is disconnected. -/
  idle : pool.shared.service.state = .disconnected → ∀ task ∈ pool.tasks, task.live = false

/-- At most one task is busy, and it is not live when the service is disconnected. -/
structure OneBusy (pool : ConnectPool) : Prop where
  /-- At most one task is busy. -/
  one : pool.tasks.countP Place.busy ≤ 1
  /-- It is not live when the service is disconnected. -/
  idle : pool.shared.service.state = .disconnected → pool.tasks.countP Place.live = 0

/-- A start goes on. -/
def Place.starts (state : ConnectState) : Place → Prop
  | .entering .start | .entering .toggle => state = .disconnected
  | _ => False

instance decidableStarts (state : ConnectState) (place : Place) :
    Decidable (place.starts state) := by
  unfold Place.starts
  split <;> infer_instance

variable {δ : Type} (doubles : Json.Doubles δ)

/-- The session is ended, no matter whether something is live. -/
def Place.cuts (state : ConnectState) : Place → Prop
  | .entering (.line line) => endsSession doubles line = true
  | .waiting => state ≠ .disconnected
  | _ => False

instance decidableCuts (state : ConnectState) (place : Place) :
    Decidable (place.cuts doubles state) := by
  unfold Place.cuts
  split <;> infer_instance

/-- A line of the core, or the watchdog, ends the session only when nothing is live, and a start
goes on only when nothing remains to be done. -/
def Orderly (pool : ConnectPool) : Tasks.Action Call Outside → Prop
  | .begin _ => True
  | .step index _ => ∀ task ∈ pool.tasks[index]?,
      (task.cuts doubles pool.shared.service.state → ∀ other ∈ pool.tasks, other.live = false) ∧
        (task.starts pool.shared.service.state → ∀ other ∈ pool.tasks, other.winding = false)

instance decidableOrderly (pool : ConnectPool) (action : Tasks.Action Call Outside) :
    Decidable (Orderly doubles pool action) := by
  cases action with
  | begin call => exact .isTrue trivial
  | step index input =>
    unfold Orderly
    infer_instance

section Steps

/-- What a step can do to the state, and to the task that makes it. -/
inductive Changes (before after : ConnectState) (old new : Place) : Prop where
  /-- Nothing that matters here. -/
  | keep (busy : new.busy = old.busy) (live : new.live = old.live)
      (state : after = .disconnected → before = .disconnected)
  /-- A start goes on. -/
  | starts (starts : old.starts before) (other : old.busy = false) (state : after ≠ .disconnected)
  /-- The session is ended. -/
  | cuts (cuts : old.cuts doubles before) (busy : new.busy = false) (other : old.busy = false)
      (state : after = .disconnected)
  /-- What was busy is not live afterwards. -/
  | ends (busy : old.busy = true) (live : new.live = false)

/-- The state after a start has entered. -/
theorem enterStart_state (service : Service) : service.enterStart.state = .connecting := by
  rw [Service.enterStart, restartConnectWatchdog_state, setState_state]

/-- A start goes on, or it has nothing to do. -/
theorem enterStart_changes {old : Place} (world : World) (toggled : Bool)
    (starts : world.service.state = .disconnected → old.starts world.service.state)
    (idle : old.busy = false) (rests : old.live = false) :
    Changes doubles world.service.state (world.enterStart toggled).1.service.state old
      (world.enterStart toggled).2 := by
  unfold World.enterStart
  split_ifs with disconnected
  · refine .starts (starts disconnected) idle ?_
    rw [enterStart_state]
    decide
  · exact .keep idle.symm rests.symm id

/-- A stop does not disconnect. -/
theorem enterStop_changes {old : Place} (world : World) (toggled : Bool) (idle : old.busy = false)
    (rests : old.live = false) :
    Changes doubles world.service.state (world.enterStop toggled).1.service.state old
      (world.enterStop toggled).2 := by
  unfold World.enterStop
  split_ifs with without
  · exact .keep idle.symm rests.symm id
  · refine .keep idle.symm rests.symm fun state => ?_
    rw [setState_state] at state
    cases state

/-- The watchdog does not disconnect at once. -/
theorem enterTimeout_changes {old : Place} (world : World) (idle : old.busy = false)
    (rests : old.live = false) :
    Changes doubles world.service.state world.enterTimeout.1.service.state old
      world.enterTimeout.2 := by
  unfold World.enterTimeout
  dsimp only
  split_ifs with silent settled without
  · exact .keep idle.symm rests.symm id
  · exact .keep idle.symm rests.symm id
  · exact .keep idle.symm rests.symm id
  · refine .keep idle.symm rests.symm fun state => ?_
    rw [setState_state] at state
    cases state

/-- What a call can do. -/
theorem enter_changes (world : World) (call : Call) :
    Changes doubles world.service.state (world.enter doubles call).1.service.state
      (.entering call) (world.enter doubles call).2 := by
  cases call with
  | start => exact enterStart_changes doubles world false id rfl rfl
  | stop => exact enterStop_changes doubles world false rfl rfl
  | toggle =>
    unfold World.enter
    split_ifs with disconnected
    · exact enterStart_changes doubles world true id rfl rfl
    · exact enterStop_changes doubles world true rfl rfl
  | timeout => exact enterTimeout_changes doubles world rfl rfl
  | line line =>
    have follows := onCoreLine_follows doubles world.service line
    cases ended : endsSession doubles line with
    | false =>
      rw [ended] at follows
      cases follows with
      | keep run client state =>
        refine .keep rfl rfl fun disconnected => ?_
        rcases state with same | ⟨connected, -⟩
        · exact same.symm.trans disconnected
        · cases connected.symm.trans disconnected
    | true =>
      rw [ended] at follows
      cases follows with
      | ends run client state => exact .cuts ended rfl rfl state

/-- What is reported is not busy. -/
theorem report_idle (toggled : Bool) (error : Text) :
    (report toggled error).busy = false ∧ (report toggled error).live = false := by
  cases toggled <;> exact ⟨rfl, rfl⟩

/-- What a step can do. -/
theorem next_changes (world : World) (place : Place) (input : Outside) :
    Changes doubles world.service.state
      (Place.next doubles world place input).1.service.state place
      (Place.next doubles world place input).2.1 := by
  cases place with
  | entering call => exact enter_changes doubles world call
  | preparing toggled =>
    cases input with
    | going => exact .keep rfl rfl id
    | failed failure => exact .ends rfl rfl
    | withoutRights issue => exact .ends rfl rfl
    | launching => exact .keep rfl rfl id
    | launchThrows error => exact .ends rfl rfl
  | failing toggled failure => exact .ends rfl (report_idle toggled _).2
  | reporting error => exact .keep rfl rfl id
  | running =>
    cases input with
    | going => exact .ends rfl rfl
    | failed failure =>
      cases failure with
      | issue text => exact .keep rfl rfl id
      | thrown error => exact .ends rfl rfl
    | withoutRights issue => exact .keep rfl rfl id
    | launching => exact .keep rfl rfl id
    | launchThrows error => exact .keep rfl rfl id
  | exited error =>
    refine .ends rfl ?_
    simp only [Place.next]
    split_ifs <;> rfl
  | finishing => exact .ends rfl rfl
  | stopping toggled =>
    cases input with
    | going => exact .keep rfl rfl id
    | failed failure =>
      cases failure with
      | issue text => exact .keep rfl rfl id
      | thrown error =>
        exact .keep (report_idle toggled error).1 (report_idle toggled error).2 id
    | withoutRights issue => exact .keep rfl rfl id
    | launching => exact .keep rfl rfl id
    | launchThrows error => exact .keep rfl rfl id
  | cancelling =>
    cases input with
    | going => exact .keep rfl rfl id
    | failed failure => cases failure <;> exact .keep rfl rfl id
    | withoutRights issue => exact .keep rfl rfl id
    | launching => exact .keep rfl rfl id
    | launchThrows error => exact .keep rfl rfl id
  | waiting =>
    by_cases disconnected : world.service.state = .disconnected
    · simp only [Place.next, Service.reset, if_pos disconnected]
      exact .keep rfl rfl id
    · simp only [Place.next, Service.reset, if_neg disconnected]
      exact .cuts disconnected rfl rfl (setState_state _ _)
  | returned => exact .keep rfl rfl id

end Steps

section Order

/-- What runs is live, and what is live is busy. -/
theorem Place.runs_live {place : Place} (runs : place.runs = true) : place.live = true := by
  cases place <;> first | rfl | cases runs

/-- What is live is busy. -/
theorem Place.live_busy {place : Place} (live : place.live = true) : place.busy = true := by
  rw [Place.busy, live, Bool.true_or]

/-- What remains to be done is busy. -/
theorem Place.winding_busy {place : Place} (winding : place.winding = true) :
    place.busy = true := by
  rw [Place.busy, winding, Bool.or_true]

/-- What is busy and does not remain to be done is live. -/
theorem Place.busy_eq_live {place : Place} (winding : place.winding = false) :
    place.busy = place.live := by
  rw [Place.busy, winding, Bool.or_false]

/-- What is live is still to end. -/
theorem Place.winding_of_live {place : Place} (live : place.live = true) :
    place.winding = false := by
  cases place <;> first | rfl | cases live

/-- A start goes on only when the service is disconnected. -/
theorem disconnected_of_starts {state : ConnectState} {place : Place}
    (starts : place.starts state) : state = .disconnected := by
  cases place with
  | entering call => cases call <;> first | exact starts | exact starts.elim
  | _ => exact starts.elim

/-- The condition is what `AtMostOne` needs. -/
theorem OneBusy.atMostOne {pool : ConnectPool} (one : OneBusy pool) : AtMostOne pool := by
  constructor
  · have running : pool.tasks.countP Place.runs ≤ pool.tasks.countP Place.busy :=
      List.countP_mono_left fun place _ runs => Place.live_busy (Place.runs_live runs)
    exact Nat.le_trans running one.one
  · intro disconnected task member
    have none := List.countP_eq_zero.mp (one.idle disconnected) task member
    exact Bool.eq_false_iff.mpr none

/-- A step of an orderly task keeps the condition. -/
theorem oneBusy_replaced {world after : World} {front back : List Place} {old new : Place}
    (one : OneBusy ⟨world, front ++ old :: back⟩)
    (cuts : old.cuts doubles world.service.state →
      ∀ other ∈ front ++ old :: back, other.live = false)
    (starts : old.starts world.service.state →
      ∀ other ∈ front ++ old :: back, other.winding = false)
    (changes : Changes doubles world.service.state after.service.state old new) :
    OneBusy ⟨after, front ++ new :: back⟩ := by
  have busyOld := Tasks.countP_task Place.busy front back old
  have busyNew := Tasks.countP_task Place.busy front back new
  have liveOld := Tasks.countP_task Place.live front back old
  have liveNew := Tasks.countP_task Place.live front back new
  have fewer : (front ++ back).countP Place.live ≤ (front ++ back).countP Place.busy :=
    List.countP_mono_left fun place _ live => Place.live_busy live
  have before := one.one
  have idle := one.idle
  have newBound : new.busy.toNat ≤ 1 := Bool.toNat_le _
  cases changes with
  | keep busy live state =>
    constructor
    · simp only at before ⊢
      rw [busyNew, busy, ← busyOld]
      exact before
    · intro disconnected
      simp only at idle ⊢
      rw [liveNew, live, ← liveOld]
      exact idle (state disconnected)
  | starts goes other state =>
    have disconnected : world.service.state = .disconnected := disconnected_of_starts goes
    have none : (front ++ back).countP Place.busy = (front ++ back).countP Place.live := by
      refine List.countP_congr fun place member => ?_
      rw [Place.busy_eq_live (starts goes place (Tasks.mem_of_others member))]
    have live := idle disconnected
    constructor
    · simp only at live ⊢
      omega
    · exact fun ended => absurd ended state
  | cuts ends busy other state =>
    have none : (front ++ old :: back).countP Place.live = 0 :=
      List.countP_eq_zero.mpr fun place member live =>
        Bool.false_ne_true ((cuts ends place member).symm.trans live)
    have rests : new.live.toNat = 0 := by
      cases live : new.live with
      | false => rfl
      | true => exact absurd (Place.live_busy live) (by rw [busy]; decide)
    rw [busy, Bool.toNat_false] at busyNew
    constructor
    · simp only at before ⊢
      omega
    · intro _
      simp only
      omega
  | ends busy live =>
    rw [busy, Bool.toNat_true] at busyOld
    rw [live, Bool.toNat_false] at liveNew
    constructor
    · simp only at before ⊢
      omega
    · intro _
      simp only at before ⊢
      omega

/-- An orderly action keeps the condition. -/
theorem oneBusy_step (pool : ConnectPool) (action : Tasks.Action Call Outside)
    (one : OneBusy pool) (orderly : Orderly doubles pool action) :
    OneBusy (ConnectPool.step doubles pool action).1 := by
  cases action with
  | begin call =>
    constructor
    · simp only [Tasks.Pool.step, List.countP_append, List.countP_singleton]
      exact one.one
    · intro disconnected
      simp only [Tasks.Pool.step, List.countP_append, List.countP_singleton]
      exact one.idle disconnected
  | step index input =>
    cases here : pool.tasks[index]? with
    | none =>
      simp only [Tasks.Pool.step, here]
      exact one
    | some task =>
      obtain ⟨front, back, split, stepped⟩ :=
        Tasks.step_task Place.entering (Place.next doubles) here input
      obtain ⟨cuts, starts⟩ := orderly task here
      rw [ConnectPool.step, stepped]
      obtain ⟨world, tasks⟩ := pool
      simp only at split cuts starts
      subst split
      exact oneBusy_replaced doubles one cuts starts (next_changes doubles world task input)

end Order

section Disorder

/-- A task makes a step, and its place is taken by the next one. -/
theorem step_of_getElem? {pool : ConnectPool} {index : Nat} {task : Place}
    (here : pool.tasks[index]? = some task) (input : Outside) :
    (ConnectPool.step doubles pool (.step index input)).1 =
      ⟨(Place.next doubles pool.shared task input).1,
        pool.tasks.set index (Place.next doubles pool.shared task input).2.1⟩ := by
  simp only [Tasks.Pool.step, here]

/-- Something is live although the service is disconnected. -/
theorem not_atMostOne {pool : ConnectPool} {index : Nat} {task : Place}
    (state : pool.shared.service.state = .disconnected) (here : pool.tasks[index]? = some task)
    (live : task.live = true) : ¬AtMostOne pool := by
  intro one
  have rests := one.idle state task (List.mem_of_getElem? here)
  exact Bool.false_ne_true (rests.symm.trans live)

/-- What remains of a run, or of a start, disconnects although something else is live. -/
theorem exists_later_of_finishes {pool : ConnectPool} {live other : Nat} {task place : Place}
    (here : pool.tasks[live]? = some task) (lives : task.live = true)
    (there : pool.tasks[other]? = some place) (finishes : place.winding = true)
    (known : pool.shared.service.coreRun ≠ none) :
    ∃ later, ¬AtMostOne (final (ConnectPool.step doubles) pool later) := by
  have different : other ≠ live := by
    rintro rfl
    rw [here] at there
    cases there
    exact Bool.false_ne_true ((Place.winding_of_live lives).symm.trans finishes)
  have inside : other < pool.tasks.length := (List.getElem?_eq_some_iff.mp there).1
  cases place with
  | failing toggled failure =>
    refine ⟨[.step other .going], ?_⟩
    rw [final, final, step_of_getElem? doubles there]
    refine not_atMostOne ?_ ((List.getElem?_set_ne different).trans here) lives
    cases failure <;> exact setState_state _ _
  | finishing =>
    refine ⟨[.step other .going], ?_⟩
    rw [final, final, step_of_getElem? doubles there]
    exact not_atMostOne (setState_state _ _) ((List.getElem?_set_ne different).trans here) lives
  | exited error =>
    refine ⟨[.step other .going, .step other .going], ?_⟩
    rw [final, step_of_getElem? doubles there]
    simp only [Place.next, if_neg known]
    rw [final, final, step_of_getElem? doubles (List.getElem?_set_self inside)]
    have still : ((pool.tasks.set other .finishing).set other .returned)[live]? = some task := by
      rw [List.getElem?_set_ne different, List.getElem?_set_ne different, here]
    exact not_atMostOne (setState_state _ _) still lives
  | _ => cases finishes

/-- A start is on its way while something remains to be done. -/
theorem exists_later_of_preparing {pool : ConnectPool} {start other : Nat} {toggled : Bool}
    {place : Place} (here : pool.tasks[start]? = some (.preparing toggled))
    (there : pool.tasks[other]? = some place) (finishes : place.winding = true) :
    ∃ later, ¬AtMostOne (final (ConnectPool.step doubles) pool later) := by
  by_cases known : pool.shared.service.coreRun = none
  · -- The run that is launched now is taken for the one that has ended.
    have different : start ≠ other := by
      rintro rfl
      rw [here] at there
      cases there
      cases finishes
    have inside : start < pool.tasks.length := (List.getElem?_eq_some_iff.mp here).1
    let launched : ConnectPool := ⟨pool.shared.launch, pool.tasks.set start .running⟩
    have runs : launched.tasks[start]? = some .running := List.getElem?_set_self inside
    have rests : launched.tasks[other]? = some place :=
      (List.getElem?_set_ne different).trans there
    have knows : launched.shared.service.coreRun ≠ none := Option.some_ne_none _
    obtain ⟨later, violated⟩ := exists_later_of_finishes doubles runs rfl rests finishes knows
    refine ⟨.step start .launching :: later, ?_⟩
    rwa [final, step_of_getElem? doubles here]
  · exact exists_later_of_finishes doubles here rfl there finishes known

/-- What ends the session is not busy. -/
theorem idle_of_cuts {state : ConnectState} {place : Place} (cuts : place.cuts doubles state) :
    place.busy = false := by
  cases place <;> first | rfl | exact cuts.elim

/-- A start that goes on is not busy yet. -/
theorem idle_of_starts {state : ConnectState} {place : Place} (starts : place.starts state) :
    place.busy = false := by
  cases place <;> first | rfl | exact starts.elim

/-- The session is ended at once. -/
theorem state_of_cuts {world : World} {place : Place} (input : Outside)
    (cuts : place.cuts doubles world.service.state) :
    (Place.next doubles world place input).1.service.state = .disconnected := by
  cases place with
  | entering call =>
    cases call with
    | line line =>
      have follows := onCoreLine_follows doubles world.service line
      have ends : endsSession doubles line = true := cuts
      rw [ends] at follows
      cases follows with
      | ends run client state => exact state
    | _ => exact cuts.elim
  | waiting =>
    have connected : world.service.state ≠ .disconnected := cuts
    simp only [Place.next, Service.reset, if_neg connected]
    exact setState_state _ _
  | _ => exact cuts.elim

/-- A start goes on at once. -/
theorem place_of_starts {world : World} {place : Place} (input : Outside)
    (starts : place.starts world.service.state) :
    ∃ toggled, (Place.next doubles world place input).2.1 = .preparing toggled := by
  cases place with
  | entering call =>
    cases call with
    | start =>
      have disconnected : world.service.state = .disconnected := starts
      exact ⟨false, by simp only [Place.next, World.enter, World.enterStart, if_pos disconnected]⟩
    | toggle =>
      have disconnected : world.service.state = .disconnected := starts
      exact ⟨true, by simp only [Place.next, World.enter, World.enterStart, if_pos disconnected]⟩
    | _ => exact starts.elim
  | _ => exact starts.elim

/-- An action that is not orderly leads to more than one run, or to one that is live although the
service is disconnected. -/
theorem exists_later_of_disorder (pool : ConnectPool) (action : Tasks.Action Call Outside)
    (disorder : ¬Orderly doubles pool action) :
    ∃ later, ¬AtMostOne (final (ConnectPool.step doubles) pool (action :: later)) := by
  cases action with
  | begin call => exact absurd trivial disorder
  | step index input =>
    simp only [Orderly, Option.mem_def, not_forall, not_and_or, Bool.not_eq_false] at disorder
    obtain ⟨task, here, broken⟩ := disorder
    have inside : index < pool.tasks.length := (List.getElem?_eq_some_iff.mp here).1
    simp only [final]
    rw [step_of_getElem? doubles here]
    rcases broken with ⟨cuts, other, member, live⟩ | ⟨starts, other, member, winding⟩
    · obtain ⟨place, there⟩ := List.getElem?_of_mem member
      have different : index ≠ place := by
        rintro rfl
        rw [here] at there
        cases there
        exact Bool.false_ne_true ((idle_of_cuts doubles cuts).symm.trans (Place.live_busy live))
      exact ⟨[], not_atMostOne (state_of_cuts doubles input cuts)
        ((List.getElem?_set_ne different).trans there) live⟩
    · obtain ⟨place, there⟩ := List.getElem?_of_mem member
      have different : index ≠ place := by
        rintro rfl
        rw [here] at there
        cases there
        exact Bool.false_ne_true ((idle_of_starts starts).symm.trans (Place.winding_busy winding))
      obtain ⟨toggled, prepares⟩ := place_of_starts doubles input starts
      rw [prepares]
      have prepared : (pool.tasks.set index (.preparing toggled))[index]? =
          some (.preparing toggled) := List.getElem?_set_self inside
      have rests : (pool.tasks.set index (.preparing toggled))[place]? = some other :=
        (List.getElem?_set_ne different).trans there
      exact exists_later_of_preparing doubles prepared rests winding

/-- Along an orderly run there is at most one run of the core, and none that is live or about to be
started when the service is disconnected. After an action that is not orderly, something can follow
that breaks this. -/
theorem atMostOne_of_orderly (run : List (Tasks.Action Call Outside)) :
    (Along (ConnectPool.step doubles) (Orderly doubles) .new run →
        ∀ begun, begun <+: run → AtMostOne (final (ConnectPool.step doubles) .new begun)) ∧
      ∀ action, ¬Orderly doubles (final (ConnectPool.step doubles) .new run) action →
        ∃ later, ¬AtMostOne (final (ConnectPool.step doubles) .new (run ++ action :: later)) := by
  constructor
  · rintro orderly begun ⟨rest, rfl⟩
    have first := ((along_append _ begun rest).mp orderly).1
    have start : OneBusy .new := ⟨Nat.zero_le 1, fun _ => rfl⟩
    exact (invariant OneBusy (oneBusy_step doubles) _ begun start first).atMostOne
  · intro action disorder
    obtain ⟨later, violated⟩ := exists_later_of_disorder doubles _ action disorder
    exact ⟨later, by rwa [final_append]⟩

/-- A start, a stop when the core runs, the end of the core, and another start. -/
def restartedRun : List (Tasks.Action Call Outside) :=
  [.begin .start, .step 0 .going, .step 0 .launching, .begin .stop, .step 1 .going, .step 1 .going,
    .step 0 .going, .step 0 .going, .step 0 .going, .begin .toggle, .step 2 .going,
    .step 2 .launching]

/-- There is at most one run of the core. -/
theorem restartedRun_atMostOne :
    AtMostOne (final (ConnectPool.step Json.Doubles.literals) .new restartedRun) :=
  (atMostOne_of_orderly Json.Doubles.literals restartedRun).1 (by decide) restartedRun
    List.prefix_rfl

/-- The core says that it has stopped before its future is complete, and the next start does not
wait for it. -/
def overlappingRun : List (Tasks.Action Call Outside) :=
  [.begin .start, .step 0 .going, .step 0 .launching,
    .begin (.line (CoreEvents.delivered CoreEvents.Event.stopped.line)), .step 1 .going,
    .begin .start, .step 2 .going, .step 2 .launching]

/-- Two runs of the core are live. -/
theorem overlappingRun_two :
    ((final (ConnectPool.step Json.Doubles.literals) .new overlappingRun).tasks.countP
        Place.runs = 2) ∧
      ¬∀ begun, begun <+: overlappingRun →
        AtMostOne (final (ConnectPool.step Json.Doubles.literals) .new begun) := by
  have two : (final (ConnectPool.step Json.Doubles.literals) .new overlappingRun).tasks.countP
      Place.runs = 2 := by decide
  refine ⟨two, fun all => ?_⟩
  have one := (all overlappingRun List.prefix_rfl).one
  omega

end Disorder

end Focsq.ConnectService
