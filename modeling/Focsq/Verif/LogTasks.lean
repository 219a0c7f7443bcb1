import Focsq.Verif.LogWriter

/-!
# The calls on a log

What is known of all calls together: which lines they have in their hands, how many of those are
outstanding, and that no two calls have the same line. It follows from what one call does.
-/

namespace Focsq.Logging

open Dispatcher (ArrayQueue)

variable {queues : ArrayQueue LogLine} {contents : queues.Queue → List LogLine}
  {capacity : queues.Queue → Nat}

section Projections

/-- Where a call stands with a line for a lane; other calls are like one that has just begun. -/
def Task.place (lane : Lane) : Task → Enqueue
  | .enqueue there _ place => if there = lane then place else .reading
  | _ => .reading

/-- The line that a call has counted. -/
def Enqueue.own : Enqueue → Option LogLine
  | .pushing line _ => some line
  | .popping line _ => some line
  | .discounting line _ _ => some line
  | .recording line _ _ => some line
  | .abandoning line => some line
  | .conceding line => some line
  | .waking line => some line
  | .leaving line => line
  | .returning line => line
  | .done line => line
  | _ => none

/-- The line of a call that has returned. -/
def Enqueue.finished : Enqueue → Option LogLine
  | .done line => line
  | _ => none

/-- The line that a call has counted. -/
def Task.own : Task → Option LogLine
  | .enqueue _ _ place => place.own
  | _ => none

/-- Whether a call is counted as a producer. -/
def Task.active : Task → Bool
  | .enqueue _ _ place => place.active
  | _ => false

end Projections

section Steps

/-- The lane that an event is about. -/
def Event.lane : Event → Option Lane
  | .pushed lane _ => some lane
  | .evicted lane _ => some lane
  | .dropped lane _ => some lane
  | .enqueued lane _ => some lane
  | .popped lane _ => some lane
  | .written lane _ _ _ => some lane
  | _ => none

/-- What the step of a call is for a lane. -/
inductive CallStep (lane : Lane) : View → Enqueue → View → Enqueue → Option Event → Prop where
  /-- The call is one on this lane. -/
  | on {before after : View} {place next : Enqueue} {event : Option Event}
    (moved : Enqueue.Moves lane before place after next event) :
    CallStep lane before place after next event
  /-- The lane is left alone. -/
  | off {before after : View} {place : Enqueue} {event : Option Event}
    (items : after.items = before.items) (outstanding : after.outstanding = before.outstanding)
    (elsewhere : ∀ happened ∈ event, happened.lane ≠ some lane) :
    CallStep lane before place after place event

/-- What happens in a step on one lane happens on this lane. -/
theorem moves_lane {there : Lane} {before after : View} {place next : Enqueue}
    {event : Option Event} (moved : Enqueue.Moves there before place after next event) :
    ∀ happened ∈ event, happened.lane = some there := by
  cases moved with
  | finish view line =>
    intro happened member
    obtain ⟨own, _, rfl⟩ := Option.map_eq_some_iff.mp member
    rfl
  | _ =>
    intro happened member
    cases member <;> rfl

/-- A request is on no lane. -/
theorem request_lane {event : Option Event} (requests : ∀ asked ∈ event, asked.IsRequest)
    (lane : Lane) : ∀ happened ∈ event, happened.lane ≠ some lane := by
  intro happened member
  have request := requests happened member
  cases happened <;> first | exact request.elim | exact fun equal => by cases equal

/-- A lane is left alone. -/
theorem callStep_off {before after : Shared queues} {lane : Lane} {place : Enqueue}
    {event : Option Event} (same : after.lane lane = before.lane lane)
    (elsewhere : ∀ happened ∈ event, happened.lane ≠ some lane) :
    CallStep lane (before.view contents lane) place (after.view contents lane) place event :=
  .off (by simp only [Shared.view, same]) (by simp only [Shared.view, same]) elsewhere

variable (shared : Shared queues) (task : Task) (timeout : Bool) (lane : Lane)

/-- What the step of a call is for a lane. -/
theorem task_lane (lawful : queues.Lawful contents capacity) :
    CallStep lane (shared.view contents lane) (task.place lane)
      ((task.next shared timeout).1.view contents lane) ((task.next shared timeout).2.1.place lane)
      (task.next shared timeout).2.2 := by
  cases task with
  | enqueue there arguments place =>
    have moved := enqueue_moves shared there arguments place lawful
    by_cases same : there = lane
    · subst same
      have here : (Task.enqueue there arguments place).place there = place := if_pos rfl
      have next : ((Task.enqueue there arguments place).next shared timeout).2.1.place there =
          (place.next shared there arguments).2.1 := if_pos rfl
      rw [here, next]
      exact .on moved
    · have here : (Task.enqueue there arguments place).place lane = .reading := if_neg same
      have next : ((Task.enqueue there arguments place).next shared timeout).2.1.place lane =
          .reading := if_neg same
      rw [here, next]
      refine callStep_off (enqueue_other shared _ arguments place (Ne.symm same))
        fun happened member => ?_
      rw [moves_lane moved happened member]
      exact fun equal => same (Option.some.inj equal)
  | flush place =>
    obtain ⟨other, requests⟩ := flush_lane shared timeout lane place
    exact callStep_off other (request_lane requests lane)
  | stop waits place =>
    obtain ⟨other, requests⟩ := stop_lane shared timeout lane waits place
    exact callStep_off other (request_lane requests lane)

end Steps

section Consequences

variable {lane : Lane} {before after : View} {place next : Enqueue} {event : Option Event}

/-- What is outstanding changes as the lines there are change. -/
theorem CallStep.balance (step : CallStep lane before place after next event)
    (counted : before.items.length + place.weight ≤ before.outstanding) :
    after.outstanding + (before.items.length + place.weight) =
      before.outstanding + (after.items.length + next.weight) := by
  cases step with
  | on moved => exact moved.balance counted
  | off items outstanding elsewhere => rw [items, outstanding]

/-- A line in the queue, or popped to make room, stays one of these until it is counted as
dropped. -/
theorem CallStep.located (step : CallStep lane before place after next event) {line : LogLine}
    (here : line ∈ before.items ∨ line ∈ place.evicting) :
    line ∈ after.items ∨ line ∈ next.evicting ∨ event = some (.dropped lane line) := by
  cases step with
  | on moved => exact moved.located here
  | off items outstanding elsewhere =>
    rw [items]
    exact here.imp_right .inl

/-- A line that is popped to make room was in the queue. -/
theorem CallStep.evicting (step : CallStep lane before place after next event) {line : LogLine}
    (here : line ∈ next.evicting) : line ∈ place.evicting ∨ line ∈ before.items := by
  cases step with
  | on moved => exact moved.evicting here
  | off items outstanding elsewhere => exact .inl here

/-- A line that is in the queue was there before, or it is pushed. -/
theorem CallStep.arrived (step : CallStep lane before place after next event) {line : LogLine}
    (here : line ∈ after.items) :
    line ∈ before.items ∨ ∃ left, place = .pushing line left := by
  cases step with
  | on moved =>
    cases moved with
    | push items outstanding producers other left =>
      rcases List.mem_append.mp here with old | new
      · exact .inl old
      · exact .inr ⟨left, by rw [List.mem_singleton.mp new]⟩
    | evict oldest => exact .inl (List.mem_cons_of_mem _ here)
    | _ => exact .inl here
  | off items outstanding elsewhere => exact .inl (items ▸ here)

/-- A line that a call is done with was pushed, or counted as dropped. -/
theorem CallStep.handed (step : CallStep lane before place after next event) {line : LogLine}
    (here : line ∈ next.handed) :
    line ∈ place.handed ∨ line ∈ after.items ∨ event = some (.dropped lane line) := by
  cases step with
  | on moved => exact moved.handed here
  | off items outstanding elsewhere => exact .inl here

/-- A call that has returned stays so. -/
theorem CallStep.finished (step : CallStep lane before place after next event)
    {line : Option LogLine} (finished : place = .done line) : next = .done line := by
  subst finished
  cases step with
  | on moved => cases moved; rfl
  | off items outstanding elsewhere => rfl

/-- When it happens that a call returns, it has returned. -/
theorem CallStep.enqueued {line : LogLine}
    (step : CallStep lane before place after next (some (.enqueued lane line))) :
    next = .done (some line) := by
  cases step with
  | on moved =>
    generalize happened : some (Event.enqueued lane line) = event at moved
    cases moved with
    | finish view own =>
      obtain ⟨other, rfl, same⟩ := Option.map_eq_some_iff.mp happened.symm
      cases same
      rfl
    | _ => cases happened
  | off items outstanding elsewhere => exact absurd rfl (elsewhere _ rfl)

end Consequences

section Counters

@[simp]
theorem stamps_setLane (shared : Shared queues) (state : LaneState queues) (lane : Lane) :
    (shared.setLane state lane).stamps = shared.stamps := by cases lane <;> rfl

@[simp]
theorem flushRequested_setLane (shared : Shared queues) (state : LaneState queues) (lane : Lane) :
    (shared.setLane state lane).flushRequested = shared.flushRequested := by cases lane <;> rfl

variable (shared : Shared queues) (task : Task) (timeout : Bool)

/-- A call that queues a line makes no request. -/
theorem enqueue_counters (lane : Lane) (arguments : Option (List Text)) (place : Enqueue) :
    (place.next shared lane arguments).1.flushRequested = shared.flushRequested ∧
      shared.stamps ≤ (place.next shared lane arguments).1.stamps := by
  fun_cases Enqueue.next shared lane arguments place <;>
    simp [Shared.setQueue, Shared.discount, Shared.drop, Shared.notifyWriter]
  all_goals rename_i counted; simp [counted]

/-- A call of `flush` counts no producer and no line, and makes requests one after the other. -/
theorem flush_counters (place : Flush) :
    (place.next shared timeout).1.producers = shared.producers ∧
      (place.next shared timeout).1.stamps = shared.stamps ∧
      shared.flushRequested ≤ (place.next shared timeout).1.flushRequested ∧
      ∀ generation, (place.next shared timeout).2.2 = some (.requested generation) →
        shared.flushRequested < generation ∧
          generation ≤ (place.next shared timeout).1.flushRequested := by
  fun_cases Flush.next shared timeout place
  case case2 =>
    refine ⟨rfl, rfl, Nat.le_succ _, fun generation happened => ?_⟩
    cases happened
    exact ⟨Nat.lt_succ_self _, Nat.le_refl _⟩
  all_goals exact ⟨rfl, rfl, Nat.le_refl _, fun generation happened => by cases happened⟩

/-- A call of `shutdown` counts no producer and no line, and makes no request of that kind. -/
theorem stop_counters (waits : Bool) (place : Stop) :
    (place.next shared waits timeout).1.producers = shared.producers ∧
      (place.next shared waits timeout).1.stamps = shared.stamps ∧
      (place.next shared waits timeout).1.flushRequested = shared.flushRequested ∧
      ∀ generation, (place.next shared waits timeout).2.2 ≠ some (.requested generation) := by
  fun_cases Stop.next shared waits timeout place
  all_goals exact ⟨rfl, rfl, rfl, fun generation happened => by cases happened⟩

/-- The number of producers changes as a call becomes one or ends to be one. -/
theorem task_producers (lawful : queues.Lawful contents capacity)
    (counted : task.active.toNat ≤ shared.producers) :
    (task.next shared timeout).1.producers + task.active.toNat =
      shared.producers + (task.next shared timeout).2.1.active.toNat := by
  cases task with
  | enqueue there arguments place =>
    exact (enqueue_moves shared there arguments place lawful).producers counted
  | flush place => exact congrArg (· + 0) (flush_counters shared timeout place).1
  | stop waits place => exact congrArg (· + 0) (stop_counters shared timeout waits place).1

/-- Requests to flush are numbered in the order in which they are made. -/
theorem task_requests (lawful : queues.Lawful contents capacity) :
    shared.flushRequested ≤ (task.next shared timeout).1.flushRequested ∧
      ∀ generation, (task.next shared timeout).2.2 = some (.requested generation) →
        shared.flushRequested < generation ∧
          generation ≤ (task.next shared timeout).1.flushRequested := by
  cases task with
  | enqueue there arguments place =>
    refine ⟨Nat.le_of_eq (enqueue_counters shared there arguments place).1.symm,
      fun generation happened => ?_⟩
    have moved := enqueue_moves shared there arguments place lawful
    have absurdly := moves_lane moved (.requested generation) happened
    cases absurdly
  | flush place => exact (flush_counters shared timeout place).2.2
  | stop waits place =>
    obtain ⟨_, _, same, never⟩ := stop_counters shared timeout waits place
    exact ⟨Nat.le_of_eq same.symm, fun generation happened => absurd happened (never generation)⟩

/-- A call keeps the line that it has counted. -/
theorem Enqueue.Moves.own {lane : Lane} {before after : View} {place next : Enqueue}
    {event : Option Event} (moved : Enqueue.Moves lane before place after next event)
    (counted : ∀ value, place ≠ .counting value) : next.own = place.own := by
  cases moved with
  | count items outstanding producers value stamp => exact absurd rfl (counted value)
  | empty view line left => cases left <;> rfl
  | record view line oldest left => cases left <;> rfl
  | _ => rfl

/-- A call keeps its line, or it counts one that has a number of its own. -/
theorem task_own (lawful : queues.Lawful contents capacity) :
    shared.stamps ≤ (task.next shared timeout).1.stamps ∧
      ((task.next shared timeout).2.1.own = task.own ∨
        ∀ line ∈ (task.next shared timeout).2.1.own, line.stamp = shared.stamps ∧
          (task.next shared timeout).1.stamps = shared.stamps + 1) := by
  cases task with
  | enqueue there arguments place =>
    refine ⟨(enqueue_counters shared there arguments place).2, ?_⟩
    by_cases counting : ∃ value, place = .counting value
    · obtain ⟨value, rfl⟩ := counting
      refine .inr fun line member => ?_
      cases member
      exact ⟨rfl, rfl⟩
    · have moved := enqueue_moves shared there arguments place lawful
      exact .inl (moved.own fun value same => counting ⟨value, same⟩)
  | flush place =>
    exact ⟨Nat.le_of_eq (flush_counters shared timeout place).2.1.symm, .inl rfl⟩
  | stop waits place =>
    exact ⟨Nat.le_of_eq (stop_counters shared timeout waits place).2.1.symm, .inl rfl⟩

end Counters

section Together

/-- How many lines a call counts as outstanding on a lane that are not in the queue. -/
def Task.weight (lane : Lane) (task : Task) : Nat := (task.place lane).weight

/-- Two calls have counted different lines. -/
def Task.Apart (one other : Task) : Prop :=
  ∀ first ∈ one.own, ∀ second ∈ other.own, first.stamp ≠ second.stamp

/-- What is known of the calls, after what has happened and with lines that are outstanding because
of the writer. -/
structure Calls (contents : queues.Queue → List LogLine) (history : List Event)
    (shared : Shared queues) (tasks : List Task) (writer : Lane → Nat) : Prop where
  /-- Lines that are outstanding are in the queue or in somebody's hands. -/
  balanced : ∀ lane, (shared.lane lane).outstanding =
    (contents (shared.lane lane).queue).length + (tasks.map (Task.weight lane)).sum + writer lane
  /-- The producers are counted. -/
  producing : shared.producers = tasks.countP Task.active
  /-- Lines are numbered as they are counted. -/
  stamped : ∀ task ∈ tasks, ∀ line ∈ task.own, line.stamp < shared.stamps
  /-- No two calls have counted the same line. -/
  apart : tasks.Pairwise Task.Apart
  /-- A line was queued by a call that has returned. -/
  enqueued : ∀ lane line, .enqueued lane line ∈ history →
    ∃ task ∈ tasks, task.place lane = .done (some line)

/-- The line that a call has at a place of a lane is its own. -/
theorem own_of_place {task : Task} {lane : Lane} {place : Enqueue} {line : LogLine}
    (here : task.place lane = place) (own : place.own = some line) : line ∈ task.own := by
  cases task with
  | enqueue there arguments stands =>
    by_cases same : there = lane
    · have stands' : stands = place := by rwa [Task.place, if_pos same] at here
      exact stands' ▸ own
    · rw [Task.place, if_neg same] at here
      rw [← here] at own
      cases own
  | _ =>
    rw [← here] at own
    cases own

/-- Calls are apart from each other. -/
theorem Task.Apart.symm (one other : Task) (apart : one.Apart other) : other.Apart one :=
  fun first mine second theirs => (apart second theirs first mine).symm

/-- A call begins. -/
theorem Calls.begin {history : List Event} {shared : Shared queues} {tasks : List Task}
    {writer : Lane → Nat} (calls : Calls contents history shared tasks writer) (call : Call) :
    Calls contents history shared (tasks ++ [call.enter]) writer := by
  have fresh : call.enter.own = none ∧ call.enter.active = false ∧
      ∀ lane, call.enter.weight lane = 0 := by
    cases call with
    | enqueue there arguments =>
      refine ⟨rfl, rfl, fun lane => ?_⟩
      simp only [Task.weight, Call.enter, Task.place, ite_self]
      rfl
    | _ => exact ⟨rfl, rfl, fun _ => rfl⟩
  obtain ⟨own, inactive, weight⟩ := fresh
  refine ⟨fun lane => ?_, ?_, fun task member line mine => ?_, ?_, fun lane line happened => ?_⟩
  · rw [calls.balanced lane, List.map_append, List.sum_append, List.map_singleton,
      List.sum_singleton, weight lane, Nat.add_zero]
  · rw [calls.producing, List.countP_append, List.countP_singleton, inactive]
    rfl
  · rcases List.mem_append.mp member with old | new
    · exact calls.stamped task old line mine
    · rw [List.mem_singleton.mp new, own] at mine
      cases mine
  · refine List.pairwise_append.mpr ⟨calls.apart, List.pairwise_singleton _ _, ?_⟩
    intro one old other new first mine second theirs
    rw [List.mem_singleton.mp new, own] at theirs
    cases theirs
  · obtain ⟨task, member, done⟩ := calls.enqueued lane line happened
    exact ⟨task, List.mem_append_left _ member, done⟩

/-- A call makes a step. -/
theorem Calls.step (lawful : queues.Lawful contents capacity) {history : List Event}
    {shared : Shared queues} {front back : List Task} {task : Task} {writer : Lane → Nat}
    (calls : Calls contents history shared (front ++ task :: back) writer) (timeout : Bool) :
    Calls contents (history ++ (task.next shared timeout).2.2.toList) (task.next shared timeout).1
      (front ++ (task.next shared timeout).2.1 :: back) writer := by
  have stepped (lane : Lane) := task_lane shared task timeout lane lawful
  have numbered := task_own shared task timeout lawful
  refine ⟨fun lane => ?_, ?_, fun other member line mine => ?_, ?_, fun lane line happened => ?_⟩
  · have before := calls.balanced lane
    rw [Tasks.sum_task] at before ⊢
    have counted : (contents (shared.lane lane).queue).length + task.weight lane ≤
        (shared.lane lane).outstanding := by omega
    have after : ((task.next shared timeout).1.lane lane).outstanding +
        ((contents (shared.lane lane).queue).length + task.weight lane) =
          (shared.lane lane).outstanding +
            ((contents ((task.next shared timeout).1.lane lane).queue).length +
              (task.next shared timeout).2.1.weight lane) := (stepped lane).balance counted
    omega
  · have before := calls.producing
    rw [Tasks.countP_task] at before ⊢
    have after := task_producers shared task timeout lawful (by omega)
    omega
  · rcases Tasks.eq_or_mem_others member with rfl | others
    · rcases numbered.2 with same | fresh
      · rw [same] at mine
        exact Nat.lt_of_lt_of_le
          (calls.stamped task (List.mem_append_right _ List.mem_cons_self) line mine) numbered.1
      · obtain ⟨stamp, stamps⟩ := fresh line mine
        omega
    · exact Nat.lt_of_lt_of_le (calls.stamped other (Tasks.mem_of_others others) line mine)
        numbered.1
  · refine Tasks.pairwise_replaced Task.Apart.symm calls.apart fun other others => ?_
    intro first mine second theirs
    rcases numbered.2 with same | fresh
    · rw [same] at mine
      exact Tasks.pairwise_others Task.Apart.symm calls.apart other others first mine second theirs
    · have earlier := calls.stamped other (Tasks.mem_of_others others) second theirs
      have stamp := (fresh first mine).1
      omega
  · rcases mem_concat_event happened with old | new
    · obtain ⟨other, member, done⟩ := calls.enqueued lane line old
      rcases Tasks.eq_or_mem_others member with rfl | others
      · exact ⟨_, List.mem_append_right _ List.mem_cons_self, (stepped lane).finished done⟩
      · exact ⟨other, Tasks.mem_of_others others, done⟩
    · have finished := stepped lane
      rw [new] at finished
      exact ⟨_, List.mem_append_right _ List.mem_cons_self, finished.enqueued⟩

/-- A line that is about to be pushed was not queued by a call that has returned. -/
theorem Calls.pushing {history : List Event} {shared : Shared queues} {front back : List Task}
    {task : Task} {writer : Lane → Nat} {lane : Lane} {line : LogLine} {left : Nat}
    (calls : Calls contents history shared (front ++ task :: back) writer)
    (pushing : task.place lane = .pushing line left) : .enqueued lane line ∉ history := by
  intro happened
  obtain ⟨other, member, done⟩ := calls.enqueued lane line happened
  rcases Tasks.eq_or_mem_others member with rfl | others
  · rw [pushing] at done
    cases done
  · have mine : line ∈ task.own := own_of_place pushing rfl
    have theirs : line ∈ other.own := own_of_place done rfl
    exact Tasks.pairwise_others Task.Apart.symm calls.apart other others line mine line theirs rfl

end Together

section Writer

variable (shared : Shared queues) (writer : Writer) (outcome : Outcome)

/-- The writer counts no producer and no line, and makes no request. -/
theorem writer_counters :
    (writer.next shared outcome).1.producers = shared.producers ∧
      (writer.next shared outcome).1.stamps = shared.stamps ∧
      (writer.next shared outcome).1.flushRequested = shared.flushRequested := by
  fun_cases Writer.next shared writer outcome <;> exact ⟨rfl, rfl, rfl⟩

/-- What is done by the writer, and where it stands then. -/
def Writer.Does (writer : Writer) : Event → Prop
  | .popped _ _ => True
  | .written _ _ _ _ => True
  | .completed generation => writer.place = .completing generation
  | .returned => writer.place = .stopping
  | _ => False

/-- What the writer makes happen is done by it. -/
theorem writer_does : ∀ event ∈ (writer.next shared outcome).2.2, writer.Does event := by
  fun_cases Writer.next shared writer outcome
  all_goals (intro event happened; cases happened)
  all_goals trivial

/-- What is known of the calls is kept by the writer. -/
theorem Calls.write (lawful : queues.Lawful contents capacity) {history : List Event}
    {tasks : List Task} (calls : Calls contents history shared tasks writer.weight)
    (sound : writer.Sound) :
    Calls contents (history ++ (writer.next shared outcome).2.2.toList)
      (writer.next shared outcome).1 tasks (writer.next shared outcome).2.1.weight := by
  obtain ⟨producers, stamps, _⟩ := writer_counters shared writer outcome
  refine ⟨fun lane => ?_, producers.trans calls.producing, ?_, calls.apart,
    fun lane line happened => ?_⟩
  · have before := calls.balanced lane
    have handled := writer_handles lawful shared writer outcome sound lane
    have after : ((writer.next shared outcome).1.lane lane).outstanding +
        ((contents (shared.lane lane).queue).length + writer.weight lane) =
          (shared.lane lane).outstanding +
            ((contents ((writer.next shared outcome).1.lane lane).queue).length +
              (writer.next shared outcome).2.1.weight lane) := by
      refine handled.balance ?_
      show (contents (shared.lane lane).queue).length + writer.weight lane ≤
        (shared.lane lane).outstanding
      omega
    omega
  · rw [stamps]
    exact calls.stamped
  · rcases mem_concat_event happened with old | new
    · exact calls.enqueued lane line old
    · exact (writer_does shared writer outcome _ new).elim

end Writer

end Focsq.Logging
