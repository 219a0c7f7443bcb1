import Focsq.Verif.ConnectTasks

/-!
# A stop that is not lost

A stop counts when no start is on its way and nothing remains to be done that disconnects, unless
the client does not run. Then the service stays as it is, or it disconnects, until the next start.
-/

namespace Focsq.ConnectService

open CoreEvents (Event delivered onCoreLine_delivered receive_delivered maxLineBytes)
open Mealy

/-- Whether a start is on its way to a run of the core. -/
def Place.prepares : Place → Bool
  | .preparing _ => true
  | _ => false

/-- Whether the next step disconnects, and does not concern the client. -/
def Place.disconnects : Place → Bool
  | .failing _ _ | .finishing => true
  | _ => false

/-- The task is to enter `stop`, or `toggle`, while the service is connecting or connected. -/
def Stops (pool : ConnectPool) (index : Nat) : Prop :=
  (pool.tasks[index]? = some (.entering .stop) ∨ pool.tasks[index]? = some (.entering .toggle)) ∧
    (pool.shared.service.state = .connecting ∨ pool.shared.service.state = .connected)

/-- A start goes on. -/
def Restarts (pool : ConnectPool) : Tasks.Action Call Outside → Prop
  | .begin _ => False
  | .step index _ => ∃ task ∈ pool.tasks[index]?, task.starts pool.shared.service.state

variable {δ : Type} (doubles : Json.Doubles δ)

/-- The stop that leads from the first pool to the second one is not lost. -/
structure Heeded (before stopped : ConnectPool) : Prop where
  /-- The service does not connect again until a start goes on. -/
  rests : ∀ first second,
    Along (ConnectPool.step doubles) (fun pool action => ¬Restarts pool action) stopped
        (first ++ second) →
      (final (ConnectPool.step doubles) stopped first).shared.service.state ≠ .connected →
        (final (ConnectPool.step doubles) stopped (first ++ second)).shared.service.state ≠
          .connected
  /-- No start from before launches the core. -/
  unlaunched : ∀ later (index : Nat) (task : Place), before.tasks[index]? = some task →
    task.prepares = true →
    (final (ConnectPool.step doubles) stopped later).tasks[index]? ≠ some .running

/-- No start is on its way, and if the client runs, nothing disconnects without it, and its run is
known or the service is connected. -/
structure Stoppable (pool : ConnectPool) : Prop where
  /-- No start is on its way. -/
  prepares : ∀ task ∈ pool.tasks, task.prepares = false
  /-- If the client runs, nothing disconnects without it. -/
  disconnects : pool.shared.service.clientRunning = true →
    ∀ task ∈ pool.tasks, task.disconnects = false
  /-- If the client runs, its run is known, or the service is connected. -/
  known : pool.shared.service.clientRunning = true →
    pool.shared.service.coreRun ≠ none ∨ pool.shared.service.state = .connected

section Stopped

/-- Whether a line does not bring the service into the state any more. -/
def ConnectState.stopped (state : ConnectState) : Prop :=
  state = .disconnecting ∨ state = .connected

/-- What holds from a stop to the next start. -/
structure Stopped (pool : ConnectPool) : Prop where
  /-- No start is on its way. -/
  prepares : ∀ task ∈ pool.tasks, task.prepares = false
  /-- If the client runs, nothing disconnects without it. -/
  disconnects : pool.shared.service.clientRunning = true →
    ∀ task ∈ pool.tasks, task.disconnects = false
  /-- If the client runs, no line connects the service. -/
  state : pool.shared.service.clientRunning = true → pool.shared.service.state.stopped

/-- What a step does between a stop and the next start. -/
structure Rests (before after : Service) (new : Place) : Prop where
  /-- No start is on its way. -/
  prepares : new.prepares = false
  /-- The client is not started. -/
  client : after.clientRunning = true → before.clientRunning = true
  /-- If the client runs, nothing disconnects without it. -/
  disconnects : after.clientRunning = true → new.disconnects = false
  /-- If the client runs, no line connects the service. -/
  state : after.clientRunning = true → after.state.stopped
  /-- The service does not connect. -/
  rests : before.state ≠ .connected → after.state ≠ .connected

/-- A step that leaves the service alone. -/
theorem Rests.same {service : Service} {new : Place} (prepares : new.prepares = false)
    (disconnects : new.disconnects = false)
    (state : service.clientRunning = true → service.state.stopped) : Rests service service new :=
  ⟨prepares, id, fun _ => disconnects, state, id⟩

/-- A stop that is not the first one. -/
theorem enterStop_rests (world : World) (toggled : Bool)
    (state : world.service.clientRunning = true → world.service.state.stopped) :
    Rests world.service (world.enterStop toggled).1.service (world.enterStop toggled).2 := by
  unfold World.enterStop
  split_ifs with unknown
  · exact .same rfl rfl state
  · refine ⟨rfl, fun running => ?_, fun _ => rfl, fun _ => .inl (setState_state _ _), fun _ => ?_⟩
    · rwa [setState_clientRunning] at running
    · rw [setState_state]
      decide

/-- The watchdog. -/
theorem enterTimeout_rests (world : World)
    (state : world.service.clientRunning = true → world.service.state.stopped) :
    Rests world.service world.enterTimeout.1.service world.enterTimeout.2 := by
  unfold World.enterTimeout
  dsimp only
  split_ifs with silent settled unknown
  · exact .same rfl rfl state
  · exact ⟨rfl, id, fun _ => rfl, state, id⟩
  · exact ⟨rfl, id, fun _ => rfl, state, id⟩
  · refine ⟨rfl, fun running => ?_, fun _ => rfl, fun _ => .inl (setState_state _ _), fun _ => ?_⟩
    · rwa [setState_clientRunning] at running
    · rw [setState_state]
      decide

/-- A line of the core. -/
theorem onCoreLine_rests (service : Service) (line : Text)
    (state : service.clientRunning = true → service.state.stopped) :
    Rests service (service.onCoreLine doubles line).1 .returned := by
  have follows := onCoreLine_follows doubles service line
  generalize endsSession doubles line = ends at follows
  cases follows with
  | keep run client changed =>
    refine ⟨rfl, fun running => client.symm.trans running, fun _ => rfl, fun running => ?_,
      fun apart => ?_⟩
    · rcases changed with same | ⟨connected, -⟩
      · rw [same]
        exact state (client.symm.trans running)
      · exact .inr connected
    · rcases changed with same | ⟨-, running, going⟩
      · rw [same]
        exact apart
      · exact absurd (state running) (not_or.mpr ⟨going, apart⟩)
  | ends run client disconnected =>
    refine ⟨rfl, fun running => ?_, fun _ => rfl, fun running => ?_, fun _ => ?_⟩
    · cases client.symm.trans running
    · cases client.symm.trans running
    · rw [disconnected]
      decide

/-- What disconnects rests when the client does not run. -/
theorem Rests.disconnected {before after : Service} {new : Place} (prepares : new.prepares = false)
    (client : after.clientRunning = false) (state : after.state ≠ .connected) :
    Rests before after new := by
  refine ⟨prepares, fun running => ?_, fun running => ?_, fun running => ?_, fun _ => state⟩
  · cases client.symm.trans running
  · cases client.symm.trans running
  · cases client.symm.trans running

/-- A task that is reported. -/
theorem report_rests (toggled : Bool) (error : Text) :
    (report toggled error).prepares = false ∧ (report toggled error).disconnects = false := by
  cases toggled <;> exact ⟨rfl, rfl⟩

/-- A step between a stop and the next start. -/
theorem next_rests (world : World) (place : Place) (input : Outside)
    (prepares : place.prepares = false) (starts : ¬place.starts world.service.state)
    (disconnects : world.service.clientRunning = true → place.disconnects = false)
    (state : world.service.clientRunning = true → world.service.state.stopped) :
    Rests world.service (Place.next doubles world place input).1.service
      (Place.next doubles world place input).2.1 := by
  cases place with
  | entering call =>
    cases call with
    | start =>
      have connected : world.service.state ≠ .disconnected := starts
      simp only [Place.next, World.enter, World.enterStart, if_neg connected]
      exact .same rfl rfl state
    | stop => exact enterStop_rests world false state
    | toggle =>
      have connected : world.service.state ≠ .disconnected := starts
      simp only [Place.next, World.enter, if_neg connected]
      exact enterStop_rests world true state
    | timeout => exact enterTimeout_rests world state
    | line line => exact onCoreLine_rests doubles world.service line state
  | preparing toggled => cases prepares
  | failing toggled failure =>
    have silent : world.service.clientRunning = false :=
      Bool.eq_false_iff.mpr fun running => by cases disconnects running
    refine .disconnected (report_rests toggled _).1 ?_ ?_
    · cases failure <;> exact (setState_clientRunning _ _).trans silent
    · have off : ((world.service.failStart failure).1).state = .disconnected := by
        cases failure <;> exact setState_state _ _
      rw [Place.next, off]
      decide
  | reporting error => exact ⟨rfl, id, fun _ => rfl, state, id⟩
  | running =>
    cases input with
    | failed failure => cases failure <;> exact .same rfl rfl state
    | _ => exact .same rfl rfl state
  | exited error =>
    by_cases unknown : world.service.coreRun = none
    · simp only [Place.next, if_pos unknown]
      exact .same rfl rfl state
    · simp only [Place.next, if_neg unknown]
      refine ⟨rfl, fun running => ?_, fun running => ?_, fun running => ?_, fun apart => ?_⟩
      · cases error <;> cases running
      · cases error <;> cases running
      · cases error <;> cases running
      · cases error <;> exact apart
  | finishing =>
    have silent : world.service.clientRunning = false :=
      Bool.eq_false_iff.mpr fun running => by cases disconnects running
    refine .disconnected rfl ((setState_clientRunning _ _).trans silent) ?_
    rw [Place.next, setState_state]
    decide
  | stopping toggled =>
    cases input with
    | failed failure =>
      cases failure with
      | issue text => exact .same rfl rfl state
      | thrown error =>
        exact ⟨(report_rests toggled error).1, id, fun _ => (report_rests toggled error).2, state,
          id⟩
    | _ => exact .same rfl rfl state
  | cancelling =>
    cases input with
    | failed failure => cases failure <;> exact ⟨rfl, id, fun _ => rfl, state, id⟩
    | _ => exact .same rfl rfl state
  | waiting =>
    by_cases disconnected : world.service.state = .disconnected
    · simp only [Place.next, Service.reset, if_pos disconnected]
      exact .same rfl rfl state
    · simp only [Place.next, Service.reset, if_neg disconnected]
      refine .disconnected rfl (setState_clientRunning _ _) ?_
      rw [setState_state]
      decide
  | returned => exact .same rfl rfl state

/-- Nothing changes that for another task. -/
theorem stopped_replaced {world after : World} {front back : List Place} {old new : Place}
    (stopped : Stopped ⟨world, front ++ old :: back⟩)
    (rests : Rests world.service after.service new) : Stopped ⟨after, front ++ new :: back⟩ := by
  refine ⟨fun task member => ?_, fun running task member => ?_, rests.state⟩
  · rcases Tasks.mem_replaced member with rfl | before
    · exact rests.prepares
    · exact stopped.prepares task before
  · rcases Tasks.mem_replaced member with rfl | before
    · exact rests.disconnects running
    · exact stopped.disconnects (rests.client running) task before

/-- What an action does between a stop and the next start. -/
theorem stopped_step (pool : ConnectPool) (action : Tasks.Action Call Outside)
    (stopped : Stopped pool) (quiet : ¬Restarts pool action) :
    Stopped (ConnectPool.step doubles pool action).1 ∧
      (pool.shared.service.state ≠ .connected →
        (ConnectPool.step doubles pool action).1.shared.service.state ≠ .connected) := by
  cases action with
  | begin call =>
    refine ⟨⟨fun task member => ?_, fun running task member => ?_, stopped.state⟩, id⟩
    · rcases List.mem_append.mp member with before | new
      · exact stopped.prepares task before
      · rw [List.mem_singleton.mp new]
        rfl
    · rcases List.mem_append.mp member with before | new
      · exact stopped.disconnects running task before
      · rw [List.mem_singleton.mp new]
        rfl
  | step index input =>
    cases here : pool.tasks[index]? with
    | none =>
      simp only [Tasks.Pool.step, here]
      exact ⟨stopped, id⟩
    | some task =>
      have starts : ¬task.starts pool.shared.service.state := fun starts =>
        quiet ⟨task, here, starts⟩
      have member : task ∈ pool.tasks := List.mem_of_getElem? here
      have rests := next_rests doubles pool.shared task input (stopped.prepares task member) starts
        (fun running => stopped.disconnects running task member) stopped.state
      obtain ⟨front, back, split, stepped⟩ :=
        Tasks.step_task Place.entering (Place.next doubles) here input
      rw [ConnectPool.step, stepped]
      obtain ⟨world, tasks⟩ := pool
      simp only at split
      subst split
      exact ⟨stopped_replaced stopped rests, rests.rests⟩

/-- What holds until the next start. -/
theorem stopped_final (pool : ConnectPool) (actions : List (Tasks.Action Call Outside))
    (stopped : Stopped pool)
    (quiet : Along (ConnectPool.step doubles) (fun pool action => ¬Restarts pool action) pool
      actions) : Stopped (final (ConnectPool.step doubles) pool actions) :=
  invariant Stopped
    (fun pool action stopped quiet => (stopped_step doubles pool action stopped quiet).1)
    pool actions stopped quiet

/-- The service does not connect until the next start. -/
theorem stopped_rests (pool : ConnectPool) (actions : List (Tasks.Action Call Outside))
    (stopped : Stopped pool) (apart : pool.shared.service.state ≠ .connected)
    (quiet : Along (ConnectPool.step doubles) (fun pool action => ¬Restarts pool action) pool
      actions) :
    (final (ConnectPool.step doubles) pool actions).shared.service.state ≠ .connected := by
  refine (invariant (fun pool => Stopped pool ∧ pool.shared.service.state ≠ .connected) ?_ pool
    actions ⟨stopped, apart⟩ quiet).2
  intro pool action held quiet
  obtain ⟨still, rests⟩ := stopped_step doubles pool action held.1 quiet
  exact ⟨still, rests held.2⟩

/-- A stop enters `stop`. -/
theorem next_of_stops {pool : ConnectPool} {index : Nat} (stops : Stops pool index)
    (input : Outside) : ∃ task toggled, pool.tasks[index]? = some task ∧ task.busy = false ∧
      Place.next doubles pool.shared task input =
        ((pool.shared.enterStop toggled).1, (pool.shared.enterStop toggled).2, none) := by
  obtain ⟨here | here, state⟩ := stops
  · exact ⟨_, false, here, rfl, rfl⟩
  · have connected : pool.shared.service.state ≠ .disconnected := by
      rcases state with state | state <;> rw [state] <;> decide
    refine ⟨_, true, here, rfl, ?_⟩
    simp only [Place.next, World.enter, if_neg connected]

/-- A stop that counts is not lost. -/
theorem stopped_of_stoppable {pool : ConnectPool} {index : Nat} (stops : Stops pool index)
    (stoppable : Stoppable pool) (input : Outside) :
    Stopped (ConnectPool.step doubles pool (.step index input)).1 := by
  obtain ⟨task, toggled, here, -, next⟩ := next_of_stops doubles stops input
  have member : task ∈ pool.tasks := List.mem_of_getElem? here
  obtain ⟨front, back, split, stepped⟩ :=
    Tasks.step_task Place.entering (Place.next doubles) here input
  rw [ConnectPool.step, stepped, next]
  obtain ⟨world, tasks⟩ := pool
  simp only at split
  subst split
  simp only [World.enterStop]
  by_cases unknown : world.service.coreRun = none
  · simp only [if_pos unknown]
    refine ⟨fun task member => ?_, fun running task member => ?_, fun running => ?_⟩
    · rcases Tasks.mem_replaced member with rfl | before
      · rfl
      · exact stoppable.prepares task before
    · rcases Tasks.mem_replaced member with rfl | before
      · rfl
      · exact stoppable.disconnects running task before
    · exact (stoppable.known running).elim (absurd unknown) .inr
  · simp only [if_neg unknown]
    refine ⟨fun task member => ?_, fun running task member => ?_, fun _ => ?_⟩
    · rcases Tasks.mem_replaced member with rfl | before
      · rfl
      · exact stoppable.prepares task before
    · rw [setState_clientRunning] at running
      rcases Tasks.mem_replaced member with rfl | before
      · rfl
      · exact stoppable.disconnects running task before
    · exact .inl (setState_state _ _)

end Stopped

section Lost

/-- A configuration of the network. -/
def configEvent : Event := .config "TUNCONF:10.66.66.2:1.1.1.1".toList

/-- One worker is active. -/
def statsEvent : Event := .stats 1 0 0

/-- The state is set, and the tunnel stays as it is. -/
theorem setState_tunReady (service : Service) (value : ConnectState) :
    (service.setState value).tunReady = service.tunReady := by
  unfold Service.setState
  split_ifs <;> rfl

/-- A configuration makes the tunnel ready. -/
theorem onConfig_tunReady (service : Service) {received : ConnectService.Received δ}
    (config : (configOf doubles received).startsWith "TUNCONF:".toList = true) :
    (service.onConfig doubles received).tunReady = true := by
  simp only [Service.onConfig, if_pos config]
  split_ifs
  · exact setState_tunReady _ _
  · rfl

/-- The configuration arrives. -/
theorem onCoreLine_config (service : Service) :
    service.Follows (service.onCoreLine doubles (delivered configEvent.line)).1 false ∧
      (service.onCoreLine doubles (delivered configEvent.line)).1.tunReady = true := by
  have short : configEvent.line.utf8Length ≤ maxLineBytes := by decide
  constructor
  · have stopped : configEvent.kind ≠ "STOPPED".toList := by decide
    have failed : configEvent.kind ≠ "ERROR".toList := by decide
    have plain : endsSession doubles (delivered configEvent.line) = false := by
      rw [endsSession, receive_delivered doubles configEvent short, Option.any_some,
        ends_of_ne doubles stopped failed, Bool.and_false]
    rw [← plain]
    exact onCoreLine_follows doubles service _
  · rw [onCoreLine_delivered doubles service configEvent short]
    exact onConfig_tunReady doubles _ rfl

/-- The watchdog leaves the tunnel alone. -/
theorem restartConnectWatchdog_tunReady (service : Service) :
    service.restartConnectWatchdog.tunReady = service.tunReady := by
  unfold Service.restartConnectWatchdog
  split_ifs <;> rfl

/-- The service connects when the tunnel is ready and workers are active. -/
theorem onStats_connects {service after : Service} {payload : List (Text × Json δ)} {active : Int}
    (counts : Json.asInt doubles (payload.lookup "active".toList) = .ok (some active))
    (positive : 0 < active) (running : service.clientRunning = true)
    (ready : service.tunReady = true) (going : service.state ≠ .disconnecting)
    (counted : service.onStats doubles payload = .ok after) : after.state = .connected := by
  obtain ⟨found, same, counted⟩ := ok_of_bind counted
  obtain ⟨bytesUp, -, counted⟩ := ok_of_bind counted
  obtain ⟨bytesDown, -, counted⟩ := ok_of_bind counted
  rw [counts] at same
  cases same
  rw [← Except.ok.inj counted]
  dsimp only [Option.getD_some]
  rw [if_pos]
  · exact setState_state _ _
  · refine ⟨positive, ?_, ?_, ?_⟩
    · split_ifs
      · rwa [restartConnectWatchdog_clientRunning]
      · exact running
    · split_ifs
      · rwa [restartConnectWatchdog_tunReady]
      · exact ready
    · split_ifs
      · rwa [restartConnectWatchdog_state]
      · exact going

/-- A worker is active. -/
theorem onCoreLine_stats {service : Service} (running : service.clientRunning = true)
    (ready : service.tunReady = true) (going : service.state ≠ .disconnecting) :
    (service.onCoreLine doubles (delivered statsEvent.line)).1.state = .connected := by
  have short : statsEvent.line.utf8Length ≤ maxLineBytes := by decide
  have suits : statsEvent.Suits := trivial
  obtain ⟨after, ok⟩ := CoreEvents.onEvent_ok doubles suits
    (service.add (delivered statsEvent.line)) (Json.writeObject statsEvent.payload ++ ['\n'])
  rw [onCoreLine_delivered doubles service statsEvent short,
    CoreEvents.payload_decoded doubles suits, ok]
  have counted : (service.add (delivered statsEvent.line)).onStats doubles
      (statsEvent.payload.map fun member => (member.1, member.2.value)) = .ok after := ok
  have counts : Json.asInt doubles ((statsEvent.payload.map fun member =>
      (member.1, member.2.value)).lookup "active".toList) = .ok (some 1) := rfl
  refine onStats_connects doubles counts (by decide) ?_ ?_ ?_ counted
  · exact running
  · exact ready
  · exact going

/-- A line is taken by a task of its own. -/
def takeLine (line : Text) (index : Nat) : List (Tasks.Action Call Outside) :=
  [.begin (.line line), .step index .going]

/-- The task of a line is the last one. -/
theorem getElem?_line (pool : ConnectPool) (line : Text) :
    (pool.tasks ++ [Place.entering (.line line)])[pool.tasks.length]? =
      some (.entering (.line line)) := by
  rw [List.getElem?_append_right (Nat.le_refl _), Nat.sub_self, List.getElem?_cons_zero]

/-- A line is taken. -/
theorem final_takeLine (pool : ConnectPool) (line : Text) :
    final (ConnectPool.step doubles) pool (takeLine line pool.tasks.length) =
      ⟨{ pool.shared with service := (pool.shared.service.onCoreLine doubles line).1 },
        pool.tasks ++ [.returned]⟩ := by
  have entered : (ConnectPool.step doubles pool (.begin (.line line))).1 =
      ⟨pool.shared, pool.tasks ++ [Place.entering (.line line)]⟩ := rfl
  rw [takeLine, final, entered, final, final, step_of_getElem? doubles (getElem?_line pool line)]
  simp only [Place.next, World.enter, List.set_append_right _ _ (Nat.le_refl _), Nat.sub_self,
    List.set_cons_zero]

/-- No start goes on in the meantime. -/
theorem along_takeLine (pool : ConnectPool) (line : Text) :
    Along (ConnectPool.step doubles) (fun pool action => ¬Restarts pool action) pool
      (takeLine line pool.tasks.length) := by
  refine ⟨id, ?_, trivial⟩
  rintro ⟨task, here, starts⟩
  have same := (getElem?_line pool line).symm.trans here
  cases same
  exact starts

/-- A line that does not end the session lets the client run, and does not disconnect. -/
theorem Service.Follows.going {before after : Service} (follows : before.Follows after false)
    (running : before.clientRunning = true) (going : before.state ≠ .disconnecting) :
    after.clientRunning = true ∧ after.state ≠ .disconnecting := by
  cases follows with
  | keep run client state =>
    refine ⟨client.trans running, ?_⟩
    rcases state with same | ⟨connected, -⟩
    · rwa [same]
    · rw [connected]
      decide

/-- A configuration and the statistics connect the service. -/
theorem exists_connected {pool : ConnectPool}
    (running : pool.shared.service.clientRunning = true)
    (going : pool.shared.service.state ≠ .disconnecting) :
    ∃ lines, Along (ConnectPool.step doubles) (fun pool action => ¬Restarts pool action) pool lines ∧
      (final (ConnectPool.step doubles) pool lines).shared.service.state = .connected := by
  obtain ⟨follows, ready⟩ := onCoreLine_config doubles pool.shared.service
  have configured := final_takeLine doubles pool (delivered configEvent.line)
  have still := follows.going running going
  obtain ⟨next, configured, running, ready, going⟩ : ∃ next : ConnectPool,
      final (ConnectPool.step doubles) pool
          (takeLine (delivered configEvent.line) pool.tasks.length) = next ∧
        next.shared.service.clientRunning = true ∧ next.shared.service.tunReady = true ∧
          next.shared.service.state ≠ .disconnecting :=
    ⟨_, configured, still.1, ready, still.2⟩
  refine ⟨takeLine (delivered configEvent.line) pool.tasks.length ++
    takeLine (delivered statsEvent.line) next.tasks.length, ?_, ?_⟩
  · rw [along_append, configured]
    exact ⟨along_takeLine doubles pool _, along_takeLine doubles next _⟩
  · rw [final_append, configured, final_takeLine]
    dsimp only
    exact onCoreLine_stats doubles running ready going

/-- A start that is on its way launches the core. -/
theorem not_heeded_of_prepares {before stopped : ConnectPool} {index : Nat} {task : Place}
    (here : before.tasks[index]? = some task) (prepares : task.prepares = true)
    (still : stopped.tasks[index]? = some task) : ¬Heeded doubles before stopped := by
  intro heeded
  have unlaunched := heeded.unlaunched [.step index .launching] index task here prepares
  rw [final, final, step_of_getElem? doubles still] at unlaunched
  cases task with
  | preparing toggled =>
    exact unlaunched (List.getElem?_set_self (List.getElem?_eq_some_iff.mp still).1)
  | _ => cases prepares

/-- What disconnects leaves the client running. -/
theorem next_disconnects (world : World) {task : Place} (input : Outside)
    (disconnects : task.disconnects = true) :
    (Place.next doubles world task input).1.service.clientRunning = world.service.clientRunning ∧
      (Place.next doubles world task input).1.service.state = .disconnected ∧
      ¬task.starts world.service.state := by
  cases task with
  | failing toggled failure =>
    cases failure <;> exact ⟨setState_clientRunning _ _, setState_state _ _, id⟩
  | finishing => exact ⟨setState_clientRunning _ _, setState_state _ _, id⟩
  | _ => cases disconnects

/-- Lines connect the service. -/
theorem not_heeded_of_going {before stopped : ConnectPool}
    (running : stopped.shared.service.clientRunning = true)
    (going : stopped.shared.service.state ≠ .disconnecting)
    (apart : stopped.shared.service.state ≠ .connected) : ¬Heeded doubles before stopped := by
  intro heeded
  obtain ⟨lines, quiet, connected⟩ := exists_connected doubles running going
  exact heeded.rests [] lines quiet apart connected

/-- Something disconnects while the client runs, and then lines connect the service. -/
theorem not_heeded_of_disconnects {before stopped : ConnectPool} {index : Nat} {task : Place}
    (still : stopped.tasks[index]? = some task) (disconnects : task.disconnects = true)
    (running : stopped.shared.service.clientRunning = true) : ¬Heeded doubles before stopped := by
  intro heeded
  obtain ⟨client, state, starts⟩ := next_disconnects doubles stopped.shared .going disconnects
  obtain ⟨next, after, runs, off⟩ : ∃ next : ConnectPool,
      (ConnectPool.step doubles stopped (.step index .going)).1 = next ∧
        next.shared.service.clientRunning = true ∧ next.shared.service.state = .disconnected :=
    ⟨_, step_of_getElem? doubles still .going, client.trans running, state⟩
  have going : next.shared.service.state ≠ .disconnecting := by
    rw [off]
    decide
  obtain ⟨lines, quiet, connected⟩ := exists_connected doubles runs going
  refine heeded.rests [.step index .going] lines ?_ ?_ ?_
  · rw [List.singleton_append]
    refine ⟨?_, by rw [after]; exact quiet⟩
    rintro ⟨other, here, goes⟩
    cases still.symm.trans here
    exact starts goes
  · rw [final, final, after, off]
    decide
  · rw [final_append, final, final, after]
    exact connected

/-- A stop lets the client run. -/
theorem enterStop_clientRunning (world : World) (toggled : Bool) :
    (world.enterStop toggled).1.service.clientRunning = world.service.clientRunning := by
  unfold World.enterStop
  split_ifs
  · rfl
  · exact setState_clientRunning _ _

/-- What is on its way to a run is busy. -/
theorem Place.prepares_busy {place : Place} (prepares : place.prepares = true) :
    place.busy = true := by
  cases place <;> first | rfl | cases prepares

/-- What disconnects is busy. -/
theorem Place.disconnects_busy {place : Place} (disconnects : place.disconnects = true) :
    place.busy = true := by
  cases place <;> first | rfl | cases disconnects

/-- The other tasks stay where they are. -/
theorem exists_still {pool : ConnectPool} {index : Nat} {task other : Place}
    (here : pool.tasks[index]? = some task) (idle : task.busy = false) (input : Outside)
    (member : other ∈ pool.tasks) (busy : other.busy = true) :
    ∃ place : Nat, pool.tasks[place]? = some other ∧
      (ConnectPool.step doubles pool (.step index input)).1.tasks[place]? = some other := by
  obtain ⟨place, there⟩ := List.getElem?_of_mem member
  have different : index ≠ place := by
    rintro rfl
    cases here.symm.trans there
    exact Bool.false_ne_true (idle.symm.trans busy)
  refine ⟨place, there, ?_⟩
  rw [step_of_getElem? doubles here]
  exact (List.getElem?_set_ne different).trans there

/-- A stop that is not lost counts. -/
theorem stoppable_of_heeded {pool : ConnectPool} {index : Nat} (stops : Stops pool index)
    {input : Outside}
    (heeded : Heeded doubles pool (ConnectPool.step doubles pool (.step index input)).1) :
    Stoppable pool := by
  obtain ⟨task, toggled, here, idle, next⟩ := next_of_stops doubles stops input
  have stepped := step_of_getElem? doubles here input
  rw [next] at stepped
  have client : (ConnectPool.step doubles pool (.step index input)).1.shared.service.clientRunning =
      pool.shared.service.clientRunning := by
    rw [stepped]
    exact enterStop_clientRunning _ _
  constructor
  · intro other member
    by_contra prepares
    rw [Bool.not_eq_false] at prepares
    have busy := Place.prepares_busy prepares
    obtain ⟨place, there, still⟩ := exists_still doubles here idle input member busy
    exact not_heeded_of_prepares doubles there prepares still heeded
  · intro running other member
    by_contra disconnects
    rw [Bool.not_eq_false] at disconnects
    have busy := Place.disconnects_busy disconnects
    obtain ⟨place, there, still⟩ := exists_still doubles here idle input member busy
    exact not_heeded_of_disconnects doubles still disconnects (client.trans running) heeded
  · intro running
    by_contra lost
    obtain ⟨unknown, apart⟩ := not_or.mp lost
    have same : (ConnectPool.step doubles pool (.step index input)).1.shared = pool.shared := by
      rw [stepped]
      simp only [World.enterStop, if_pos (not_not.mp unknown)]
    have connecting := stops.2.resolve_right apart
    refine not_heeded_of_going doubles (client.trans running) ?_ ?_ heeded
    · rw [same, connecting]
      decide
    · rw [same]
      exact apart

/-- A stop in a run is not lost if and only if no start is on its way, and if the client runs,
nothing disconnects without it, and its run is known or the service is connected. -/
theorem heeded_iff_stoppable (run : List (Tasks.Action Call Outside)) (index : Nat)
    (stops : Stops (final (ConnectPool.step doubles) .new run) index) (input : Outside) :
    Heeded doubles (final (ConnectPool.step doubles) .new run)
        (final (ConnectPool.step doubles) .new (run ++ [.step index input])) ↔
      Stoppable (final (ConnectPool.step doubles) .new run) := by
  rw [final_append]
  generalize final (ConnectPool.step doubles) .new run = pool at stops ⊢
  constructor
  · exact stoppable_of_heeded doubles stops
  · intro stoppable
    have stopped := stopped_of_stoppable doubles stops stoppable input
    constructor
    · intro first second quiet apart
      rw [along_append] at quiet
      rw [final_append]
      exact stopped_rests doubles _ second (stopped_final doubles _ first stopped quiet.1) apart
        quiet.2
    · intro later other task here prepares
      have rests := stoppable.prepares task (List.mem_of_getElem? here)
      exact absurd prepares (by rw [rests]; decide)

/-- The core is launched, and then there is a stop. -/
def launchedRun : List (Tasks.Action Call Outside) :=
  [.begin .start, .step 0 .going, .step 0 .launching, .begin .stop]

/-- The stop is not lost. -/
theorem launchedRun_heeded :
    Heeded Json.Doubles.literals
      (final (ConnectPool.step Json.Doubles.literals) .new launchedRun)
      (final (ConnectPool.step Json.Doubles.literals) .new (launchedRun ++ [.step 1 .going])) :=
  (heeded_iff_stoppable Json.Doubles.literals launchedRun 1
    ⟨.inl (by decide), .inl (by decide)⟩ .going).mpr
      ⟨by decide, by decide, fun _ => .inl (by decide)⟩

/-- There is a stop while the start is on its way. -/
def preparingRun : List (Tasks.Action Call Outside) :=
  [.begin .start, .step 0 .going, .begin .stop]

/-- The stop is lost: the start launches the core after it. -/
theorem preparingRun_lost :
    Stops (final (ConnectPool.step Json.Doubles.literals) .new preparingRun) 1 ∧
      ¬Heeded Json.Doubles.literals
        (final (ConnectPool.step Json.Doubles.literals) .new preparingRun)
        (final (ConnectPool.step Json.Doubles.literals) .new
          (preparingRun ++ [.step 1 .going])) := by
  refine ⟨⟨.inl (by decide), .inl (by decide)⟩, fun heeded => ?_⟩
  have unlaunched := heeded.unlaunched [.step 0 .launching] 0 (.preparing false) (by decide) rfl
  exact unlaunched (by decide)

end Lost

end Focsq.ConnectService
