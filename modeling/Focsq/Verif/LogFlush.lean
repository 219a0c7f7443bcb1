import Focsq.Verif.LogTasks

/-!
# Flushing a log, and ending it

Before the writer looks for a request it has found that nothing is outstanding on either lane and that
there are no producers. It loads these counters one after the other. A line that comes in after the
counter of its lane was loaded is overlooked if a request follows before the writer looks for it.
If no request does, everything that was queued before a request is written or counted as dropped
when the request is completed.
-/

namespace Focsq.Logging

open Dispatcher (ArrayQueue)

variable {queues : ArrayQueue LogLine} {contents : queues.Queue → List LogLine}
  {capacity : queues.Queue → Nat}

section Promise

/-- A line was written, or counted as dropped. -/
def Settled (history : List Event) (lane : Lane) (line : LogLine) : Prop :=
  line ∈ history.flatMap (Event.writtenOn lane) ∨ .dropped lane line ∈ history

/-- There was a request after a call that queued the line had returned. -/
def Owed (asks : Event → Prop) (lane : Lane) (line : LogLine) (history : List Event) : Prop :=
  Past.Since (fun before request => asks request ∧ .enqueued lane line ∈ before) (fun _ => False)
    history

/-- Whether an event is a request to flush that has at most a number. -/
def Event.AsksFlush (generation : Nat) : Event → Prop
  | .requested number => number ≤ generation
  | _ => False

/-- Whether an event asks the writer to end. -/
def Event.AsksStop : Event → Prop
  | .stopRequested => True
  | _ => False

/-- What was queued before a request is settled when the writer completes it. -/
def Fulfilled (before : List Event) : Event → Prop
  | .completed generation =>
    ∀ lane line, Owed (Event.AsksFlush generation) lane line before → Settled before lane line
  | .returned => ∀ lane line, Owed Event.AsksStop lane line before → Settled before lane line
  | _ => True

end Promise

section Condition

/-- A request to the writer. -/
inductive Request where
  /-- To flush. -/
  | flush
  /-- To end. -/
  | stop
  deriving DecidableEq

/-- The writer has found that nothing is outstanding on a lane, and looks for the request later. -/
def Place.passed (request : Request) (lane : Lane) : Place → Bool
  | .idleDiagnostic => lane = .protocol
  | .idleProducers => true
  | .requested => true
  | .completing _ => request = .stop
  | .stopping => request = .stop
  | _ => false

/-- The writer has found that there are no producers, and looks for the request later. -/
def Place.unattended (request : Request) : Place → Bool
  | .requested => true
  | .completing _ => request = .stop
  | .stopping => request = .stop
  | _ => false

/-- The lines that were popped to make room and are not yet counted as dropped. -/
def Logger.evicting (logger : Logger queues) (lane : Lane) : List LogLine :=
  logger.pool.tasks.filterMap fun task => (task.place lane).evicting

/-- The lines of calls that have returned. -/
def Logger.finished (logger : Logger queues) (lane : Lane) : List LogLine :=
  logger.pool.tasks.filterMap fun task => (task.place lane).finished

/-- The lines that the writer does not see any more before it looks for the request. -/
def Logger.overlooked (contents : queues.Queue → List LogLine) (logger : Logger queues)
    (request : Request) (lane : Lane) : List LogLine :=
  (if logger.writer.place.passed request lane then contents (logger.pool.shared.lane lane).queue
    else []) ++ if logger.writer.place.unattended request then logger.evicting lane else []

/-- The request that a call makes next. -/
def Task.request : Task → Option Request
  | .flush .requesting => some .flush
  | .stop _ .requesting => some .stop
  | _ => none

/-- The request that an action makes. -/
def Logger.request (logger : Logger queues) : Action → Option Request
  | .call (.step index _) => logger.pool.tasks[index]? >>= Task.request
  | _ => none

/-- No request is made while the writer overlooks a line of a call that has returned. -/
def Logger.Calm (contents : queues.Queue → List LogLine) (logger : Logger queues)
    (action : Action) : Prop :=
  ∀ request ∈ logger.request action, ∀ lane, ∀ line ∈ logger.finished lane,
    line ∉ logger.overlooked contents request lane

/-- It is decided lane by lane. -/
instance decidableCalm (contents : queues.Queue → List LogLine) (logger : Logger queues)
    (action : Action) : Decidable (logger.Calm contents action) :=
  decidable_of_iff
    (∀ request ∈ (logger.request action).toList, ∀ lane ∈ [Lane.protocol, Lane.diagnostic],
      ∀ line ∈ logger.finished lane, line ∉ logger.overlooked contents request lane)
    ⟨fun all request asked lane => all request (Option.mem_toList.mpr asked) lane (by
        cases lane <;> decide),
      fun all request asked lane _ => all request (Option.mem_toList.mp asked) lane⟩

end Condition

section Counterexample

/-- A call takes its steps. -/
def takes (index steps : Nat) : List Action := List.replicate steps (.call (.step index false))

/-- The writer takes its steps. -/
def writes (steps : Nat) : List Action := List.replicate steps (.write ⟨true, true⟩)

/-- A line is queued and a request is made after the writer has loaded the counter of the lane: the
writer returns, or completes the flush, without having written the line. -/
theorem returned_unwritten :
    let start := Logger.withWriters (ArrayQueue.bounded LogLine) 128 512 true
    let queued := writes 4 ++ [.call (.begin (.enqueue .protocol (some [['a']])))] ++ takes 0 8
    let ended := Mealy.events Logger.step start
      (queued ++ [.call (.begin .shutdown)] ++ takes 1 2 ++ writes 4)
    let flushed := Mealy.events Logger.step start
      (queued ++ [.call (.begin .flush)] ++ takes 1 2 ++ writes 4)
    ended = [.pushed .protocol ⟨['a'], 0⟩, .enqueued .protocol ⟨['a'], 0⟩, .stopRequested,
      .returned] ∧
    flushed = [.pushed .protocol ⟨['a'], 0⟩, .enqueued .protocol ⟨['a'], 0⟩, .requested 1,
      .completed 1] ∧
    ¬Past.Always Fulfilled ended ∧ ¬Past.Always Fulfilled flushed := by
  intro start queued ended flushed
  have first : ended = [.pushed .protocol ⟨['a'], 0⟩, .enqueued .protocol ⟨['a'], 0⟩,
    .stopRequested, .returned] := by decide
  have second : flushed = [.pushed .protocol ⟨['a'], 0⟩, .enqueued .protocol ⟨['a'], 0⟩,
    .requested 1, .completed 1] := by decide
  have queuedBefore : Event.enqueued .protocol ⟨['a'], 0⟩ ∈
      [Event.pushed .protocol ⟨['a'], 0⟩, .enqueued .protocol ⟨['a'], 0⟩] := by decide
  have nothing (later : Event) (member : later ∈ ([] : List Event)) : ¬False := id
  refine ⟨first, second, ?_, ?_⟩
  · rw [first]
    intro always
    have settled := always [_, _, _] .returned [] rfl .protocol ⟨['a'], 0⟩
      ⟨[_, _], .stopRequested, [], rfl, ⟨trivial, queuedBefore⟩, nothing⟩
    simp [Settled, Event.writtenOn] at settled
  · rw [second]
    intro always
    have settled := always [_, _, _] (.completed 1) [] rfl .protocol ⟨['a'], 0⟩
      ⟨[_, _], .requested 1, [], rfl, ⟨Nat.le_refl 1, queuedBefore⟩, nothing⟩
    simp [Settled, Event.writtenOn] at settled

end Counterexample

section History

variable {history : List Event} {lane : Lane} {line : LogLine} {asks : Event → Prop}

/-- What is settled stays so. -/
theorem Settled.mono (settled : Settled history lane line) (later : List Event) :
    Settled (history ++ later) lane line := by
  rcases settled with written | dropped
  · rw [Settled, List.flatMap_append]
    exact .inl (List.mem_append_left _ written)
  · exact .inr (List.mem_append_left _ dropped)

/-- A line that is counted as dropped is settled. -/
theorem settled_dropped {event : Option Event} (dropped : event = some (.dropped lane line)) :
    Settled (history ++ event.toList) lane line := by
  rw [dropped]
  exact .inr (List.mem_append_right _ (List.mem_singleton_self _))

/-- What was owed before a request was queued before it. -/
theorem Owed.enqueued (owed : Owed asks lane line history) : .enqueued lane line ∈ history := by
  obtain ⟨before, request, after, rfl, ⟨_, queued⟩, _⟩ := owed
  exact List.mem_append_left _ queued

/-- More may be owed to more requests. -/
theorem Owed.imp {others : Event → Prop} (owed : Owed asks lane line history)
    (implies : ∀ event, asks event → others event) : Owed others lane line history := by
  obtain ⟨before, request, after, split, ⟨asked, queued⟩, kept⟩ := owed
  exact ⟨before, request, after, split, ⟨implies request asked, queued⟩, kept⟩

/-- What is owed after one more step was owed before, or there is a request in that step. -/
theorem owed_event {event : Option Event} (owed : Owed asks lane line (history ++ event.toList)) :
    Owed asks lane line history ∨
      .enqueued lane line ∈ history ∧ ∃ happened ∈ event, asks happened := by
  cases event with
  | none => exact .inl (by simpa using owed)
  | some happened =>
    rcases (Past.since_concat history happened).mp owed with ⟨asked, queued⟩ | ⟨earlier, _⟩
    · exact .inr ⟨queued, happened, rfl, asked⟩
    · exact .inl earlier

/-- Every event of one more step is fine. -/
theorem always_event {event : Option Event} (always : Past.Always Fulfilled history)
    (fine : ∀ happened ∈ event, Fulfilled history happened) :
    Past.Always Fulfilled (history ++ event.toList) := by
  cases event with
  | none => simpa using always
  | some happened => exact (Past.always_concat history happened).mpr ⟨always, fine happened rfl⟩

end History

section Invariant

/-- The events that make a request. -/
def Request.Asks : Request → Event → Prop
  | .flush, .requested _ => True
  | .stop, .stopRequested => True
  | _, _ => False

/-- Where a line is that was queued. -/
def Located (contents : queues.Queue → List LogLine) (history : List Event)
    (logger : Logger queues) (lane : Lane) (line : LogLine) : Prop :=
  line ∈ contents (logger.pool.shared.lane lane).queue ∨ line ∈ logger.writer.held lane ∨
    line ∈ logger.evicting lane ∨ Settled history lane line

/-- What is known of the log as long as the requests are calm. -/
structure Kept (contents : queues.Queue → List LogLine) (history : List Event)
    (logger : Logger queues) : Prop where
  /-- What is known of the writer. -/
  sound : logger.writer.Sound
  /-- What is known of the calls. -/
  calls : Calls contents history logger.pool.shared logger.pool.tasks logger.writer.weight
  /-- A line that a call is done with is somewhere. -/
  handed : ∀ lane, ∀ task ∈ logger.pool.tasks, ∀ line ∈ (task.place lane).handed,
    Located contents history logger lane line
  /-- Requests are numbered. -/
  numbered : ∀ generation, .requested generation ∈ history →
    generation ≤ logger.pool.shared.flushRequested
  /-- A lane that the writer has passed has no line in its queue that is owed. -/
  passed : ∀ request lane line, logger.writer.place.passed request lane = true →
    Owed request.Asks lane line history →
    line ∉ contents (logger.pool.shared.lane lane).queue
  /-- If the writer has found no producers, nobody has a line in its hands that is owed. -/
  unattended : ∀ request lane line, logger.writer.place.unattended request = true →
    Owed request.Asks lane line history → line ∉ logger.evicting lane
  /-- What is owed to a request is settled when the writer is about to complete it. -/
  completing : ∀ generation, logger.writer.place = .completing generation →
    generation ≤ logger.pool.shared.flushRequested ∧
      ∀ lane line, Owed (Event.AsksFlush generation) lane line history →
        Settled history lane line
  /-- What was promised is fulfilled. -/
  fulfilled : Past.Always Fulfilled history

/-- A lane is passed before the producers are. -/
theorem passed_of_unattended {request : Request} {place : Place} (lane : Lane)
    (unattended : place.unattended request = true) : place.passed request lane = true := by
  cases place <;> first | exact unattended | cases unattended

/-- The lines in the hands of those who make room. -/
theorem mem_evicting {logger : Logger queues} {lane : Lane} {line : LogLine} :
    line ∈ logger.evicting lane ↔
      ∃ task ∈ logger.pool.tasks, line ∈ (task.place lane).evicting := List.mem_filterMap

/-- Once a lane is passed and nobody has a line in its hands, what is owed is settled. -/
theorem Kept.settled {history : List Event} {logger : Logger queues} {request : Request}
    {lane : Lane} {line : LogLine} (kept : Kept contents history logger)
    (unattended : logger.writer.place.unattended request = true)
    (held : logger.writer.held lane = []) (owed : Owed request.Asks lane line history) :
    Settled history lane line := by
  obtain ⟨task, member, done⟩ := kept.calls.enqueued lane line owed.enqueued
  have passed := passed_of_unattended lane unattended
  rcases kept.handed lane task member line (by rw [done]; rfl) with
    queued | mine | evicted | settled
  · exact absurd queued (kept.passed request lane line passed owed)
  · rw [held] at mine
    cases mine
  · exact absurd evicted (kept.unattended request lane line unattended owed)
  · exact settled

end Invariant

section Calls

variable {history : List Event}

/-- What asks for something is asked by the call that makes the request. -/
theorem task_asks (lawful : queues.Lawful contents capacity) (shared : Shared queues) (task : Task)
    (timeout : Bool) {request : Request} {event : Event}
    (happened : event ∈ (task.next shared timeout).2.2) (asks : request.Asks event) :
    task.request = some request := by
  cases task with
  | enqueue there arguments place =>
    have onLane := moves_lane
      (enqueue_moves shared there arguments place lawful) event happened
    cases request <;> cases event <;> first | exact asks.elim | cases onLane
  | flush place =>
    replace happened : event ∈ (place.next shared timeout).2.2 := happened
    revert happened
    fun_cases Flush.next shared timeout place
    case case2 =>
      intro happened
      cases happened
      cases request with
      | flush => rfl
      | stop => exact asks.elim
    all_goals (intro happened; cases happened)
  | stop waits place =>
    replace happened : event ∈ (place.next shared waits timeout).2.2 := happened
    revert happened
    fun_cases Stop.next shared waits timeout place
    case case2 =>
      intro happened
      cases happened
      cases request with
      | flush => exact asks.elim
      | stop => rfl
    all_goals (intro happened; cases happened)

/-- A call completes no request. -/
theorem task_fulfilled (lawful : queues.Lawful contents capacity) (shared : Shared queues)
    (task : Task) (timeout : Bool) (history : List Event) :
    ∀ event ∈ (task.next shared timeout).2.2, Fulfilled history event := by
  rcases task_cases shared task timeout lawful with ⟨there, place, next, moved, _⟩ | ⟨_, requests⟩
  · intro event happened
    have onLane := moves_lane moved event happened
    cases event <;> trivial
  · intro event happened
    have request := requests event happened
    cases event <;> trivial

variable {logger : Logger queues} {front back : List Task} {task : Task} {timeout : Bool}

/-- The log after a step of a call. -/
def Logger.called (logger : Logger queues) (front : List Task) (task : Task) (timeout : Bool)
    (back : List Task) : Logger queues :=
  ⟨⟨(task.next logger.pool.shared timeout).1,
    front ++ (task.next logger.pool.shared timeout).2.1 :: back⟩, logger.writer⟩

/-- A line in the hands of somebody who makes room was there before, or in the queue. -/
theorem evicting_called (lawful : queues.Lawful contents capacity)
    (here : logger.pool.tasks = front ++ task :: back) {lane : Lane} {line : LogLine}
    (evicting : line ∈ (logger.called front task timeout back).evicting lane) :
    line ∈ logger.evicting lane ∨ line ∈ contents (logger.pool.shared.lane lane).queue := by
  obtain ⟨other, member, evicts⟩ := mem_evicting.mp evicting
  rcases Tasks.eq_or_mem_others member with rfl | others
  · rcases (task_lane logger.pool.shared task timeout lane lawful).evicting evicts with old | queued
    · refine .inl (mem_evicting.mpr ⟨task, ?_, old⟩)
      rw [here]
      exact List.mem_append_right _ List.mem_cons_self
    · exact .inr queued
  · refine .inl (mem_evicting.mpr ⟨other, ?_, evicts⟩)
    rw [here]
    exact Tasks.mem_of_others others

/-- A line stays somewhere when a call makes a step. -/
theorem Located.called (lawful : queues.Lawful contents capacity)
    (here : logger.pool.tasks = front ++ task :: back) {lane : Lane} {line : LogLine}
    (located : Located contents history logger lane line) :
    Located contents (history ++ (task.next logger.pool.shared timeout).2.2.toList)
      (logger.called front task timeout back) lane line := by
  have stepped := task_lane logger.pool.shared task timeout lane lawful
  have mine {line : LogLine}
      (before : line ∈ contents (logger.pool.shared.lane lane).queue ∨
        line ∈ (task.place lane).evicting) :
      Located contents (history ++ (task.next logger.pool.shared timeout).2.2.toList)
        (logger.called front task timeout back) lane line := by
    rcases stepped.located before with queued | evicts | dropped
    · exact .inl queued
    · exact .inr (.inr (.inl (mem_evicting.mpr
        ⟨_, List.mem_append_right _ List.mem_cons_self, evicts⟩)))
    · exact .inr (.inr (.inr (settled_dropped dropped)))
  rcases located with queued | held | evicting | settled
  · exact mine (.inl queued)
  · exact .inr (.inl held)
  · obtain ⟨other, member, evicts⟩ := mem_evicting.mp evicting
    rw [here] at member
    rcases Tasks.eq_or_mem_others member with rfl | others
    · exact mine (.inr evicts)
    · exact .inr (.inr (.inl (mem_evicting.mpr ⟨other, Tasks.mem_of_others others, evicts⟩)))
  · exact .inr (.inr (.inr (settled.mono _)))

/-- What is owed after a step of a call is neither in the queue of a lane that was passed, nor in the
hands of somebody who makes room once the producers were. -/
theorem Kept.owed (lawful : queues.Lawful contents capacity)
    (kept : Kept contents history logger)
    (calm : ∀ request ∈ task.request, ∀ lane, ∀ line ∈ logger.finished lane,
      line ∉ logger.overlooked contents request lane)
    {request : Request} {lane : Lane} {line : LogLine}
    (passed : logger.writer.place.passed request lane = true)
    (owed : Owed request.Asks lane line
      (history ++ (task.next logger.pool.shared timeout).2.2.toList)) :
    .enqueued lane line ∈ history ∧ line ∉ contents (logger.pool.shared.lane lane).queue ∧
      (logger.writer.place.unattended request = true → line ∉ logger.evicting lane) := by
  rcases owed_event owed with earlier | ⟨queued, event, happened, asks⟩
  · exact ⟨earlier.enqueued, kept.passed request lane line passed earlier,
      fun unattended => kept.unattended request lane line unattended earlier⟩
  · obtain ⟨other, member, done⟩ := kept.calls.enqueued lane line queued
    have finished : line ∈ logger.finished lane :=
      List.mem_filterMap.mpr ⟨other, member, by rw [done]; rfl⟩
    have absent := calm request (task_asks lawful _ task timeout happened asks) lane line finished
    rw [Logger.overlooked, if_pos passed, List.mem_append, not_or] at absent
    refine ⟨queued, absent.1, fun unattended => ?_⟩
    rw [if_pos unattended] at absent
    exact absent.2

/-- A call makes a step. -/
theorem Kept.called (lawful : queues.Lawful contents capacity)
    (kept : Kept contents history logger) (here : logger.pool.tasks = front ++ task :: back)
    (calm : ∀ request ∈ task.request, ∀ lane, ∀ line ∈ logger.finished lane,
      line ∉ logger.overlooked contents request lane) :
    Kept contents (history ++ (task.next logger.pool.shared timeout).2.2.toList)
      (logger.called front task timeout back) := by
  have stepped (lane : Lane) := task_lane logger.pool.shared task timeout lane lawful
  have requests := task_requests logger.pool.shared task timeout lawful
  have calls := kept.calls
  rw [here] at calls
  have queued {request : Request} {lane : Lane} {line : LogLine}
      (passed : logger.writer.place.passed request lane = true)
      (owed : Owed request.Asks lane line
        (history ++ (task.next logger.pool.shared timeout).2.2.toList)) :
      line ∉ contents ((task.next logger.pool.shared timeout).1.lane lane).queue := by
    intro inside
    obtain ⟨before, absent, _⟩ := kept.owed lawful calm passed owed
    rcases (stepped lane).arrived inside with old | ⟨left, pushing⟩
    · exact absent old
    · exact calls.pushing pushing before
  refine ⟨kept.sound, calls.step lawful timeout, ?_, ?_, ?_, ?_, ?_, ?_⟩
  · intro lane other member line handed
    rcases Tasks.eq_or_mem_others member with rfl | others
    · rcases (stepped lane).handed handed with old | inside | dropped
      · refine (kept.handed lane task ?_ line old).called lawful here
        rw [here]
        exact List.mem_append_right _ List.mem_cons_self
      · exact .inl inside
      · exact .inr (.inr (.inr (settled_dropped dropped)))
    · refine (kept.handed lane other ?_ line handed).called lawful here
      rw [here]
      exact Tasks.mem_of_others others
  · intro generation happened
    rcases mem_concat_event happened with old | new
    · exact (kept.numbered generation old).trans requests.1
    · exact (requests.2 generation new).2
  · intro request lane line passed owed
    exact queued passed owed
  · intro request lane line unattended owed evicting
    obtain ⟨_, absent, free⟩ := kept.owed lawful calm (passed_of_unattended lane unattended) owed
    rcases evicting_called lawful here evicting with old | inside
    · exact free unattended old
    · exact absent inside
  · intro generation place
    obtain ⟨bounded, settled⟩ := kept.completing generation place
    refine ⟨bounded.trans requests.1, fun lane line owed => ?_⟩
    rcases owed_event owed with earlier | ⟨_, event, happened, asks⟩
    · exact (settled lane line earlier).mono _
    · cases event with
      | requested number =>
        have later := (requests.2 number happened).1
        have earlier : number ≤ generation := asks
        omega
      | _ => exact asks.elim
  · exact always_event kept.fulfilled (task_fulfilled lawful _ task timeout history)

end Calls

section Writer

variable {history : List Event} {logger : Logger queues}

/-- A call begins. -/
theorem Kept.begin (kept : Kept contents history logger) (call : Call) :
    Kept contents history
      { logger with pool := { logger.pool with tasks := logger.pool.tasks ++ [call.enter] } } := by
  have fresh (lane : Lane) : call.enter.place lane = .reading := by
    cases call with
    | enqueue there arguments => exact ite_self _
    | _ => rfl
  have same (lane : Lane) : Logger.evicting
      { logger with pool := { logger.pool with tasks := logger.pool.tasks ++ [call.enter] } } lane =
        logger.evicting lane := by
    simp [Logger.evicting, fresh, Enqueue.evicting]
  refine ⟨kept.sound, kept.calls.begin call, ?_, kept.numbered, kept.passed, ?_, kept.completing,
    kept.fulfilled⟩
  · intro lane task member line handed
    rcases List.mem_append.mp member with old | new
    · have located := kept.handed lane task old line handed
      rw [Located] at located ⊢
      rwa [same lane]
    · rw [List.mem_singleton.mp new, fresh lane] at handed
      cases handed
  · intro request lane line unattended owed
    rw [same lane]
    exact kept.unattended request lane line unattended owed

/-- A line in the writer's hands or in the queue stays one of these until it is written. -/
theorem Handles.located {lane : Lane} {before after : Desk} {event : Option Event}
    (handled : Handles lane before after event) {line : LogLine}
    (here : line ∈ before.items ∨ line ∈ before.held) :
    line ∈ after.items ∨ line ∈ after.held ∨
      line ∈ event.toList.flatMap (Event.writtenOn lane) := by
  cases handled with
  | keep desk pops writes takes pushes => exact here.imp_right .inl
  | _ =>
    simp [Event.writtenOn] at here ⊢
    tauto

/-- The writer adds nothing to a queue. -/
theorem Handles.shrinks {lane : Lane} {before after : Desk} {event : Option Event}
    (handled : Handles lane before after event) {line : LogLine} (here : line ∈ after.items) :
    line ∈ before.items := by
  cases handled with
  | take first items outstanding held weight => exact List.mem_cons_of_mem _ here
  | _ => exact here

/-- How the writer comes to look for requests. -/
inductive Checks (shared : Shared queues) : Place → Place → Prop where
  /-- Nothing is outstanding on the lane for the host. -/
  | protocol (none : shared.protocol.outstanding = 0) : Checks shared .idleProtocol .idleDiagnostic
  /-- Nothing is outstanding on the lane for a reader. -/
  | diagnostic (none : shared.diagnostic.outstanding = 0) :
    Checks shared .idleDiagnostic .idleProducers
  /-- There are no producers. -/
  | producers (none : shared.producers = 0) : Checks shared .idleProducers .requested
  /-- There is a request to flush. -/
  | asked : Checks shared .requested (.completing shared.flushRequested)
  /-- There is no request to flush. -/
  | unasked : Checks shared .requested .stopping
  /-- The request is completed. -/
  | completed (generation : Nat) : Checks shared (.completing generation) .stopping
  /-- It does not look for requests next. -/
  | away {place next : Place} (outside : ∀ request lane, next.passed request lane = false)
    (incomplete : ∀ generation, next ≠ .completing generation) : Checks shared place next

/-- How the writer comes to look for requests. -/
theorem writer_checks (shared : Shared queues) (writer : Writer) (outcome : Outcome) :
    Checks shared writer.place (writer.next shared outcome).2.1.place := by
  have away {place next : Place} (outside : ∀ request lane, next.passed request lane = false)
      (incomplete : ∀ generation, next ≠ .completing generation) : Checks shared place next :=
    .away outside incomplete
  obtain ⟨place, burst, pending, stdout, stderr⟩ := writer
  cases place with
  | idleProtocol =>
    by_cases none : shared.protocol.outstanding = 0
    · simpa only [Writer.next, if_pos none] using .protocol none
    · simp only [Writer.next, if_neg none]
      exact away (fun _ _ => rfl) fun generation same => by cases same
  | idleDiagnostic =>
    by_cases none : shared.diagnostic.outstanding = 0
    · simpa only [Writer.next, if_pos none] using .diagnostic none
    · simp only [Writer.next, if_neg none]
      exact away (fun _ _ => rfl) fun generation same => by cases same
  | idleProducers =>
    by_cases none : shared.producers = 0
    · simpa only [Writer.next, if_pos none] using .producers none
    · simp only [Writer.next, if_neg none]
      exact away (fun _ _ => rfl) fun generation same => by cases same
  | requested =>
    by_cases more : shared.flushCompleted < shared.flushRequested
    · simpa only [Writer.next, if_pos more] using .asked
    · simpa only [Writer.next, if_neg more] using .unasked
  | completing generation => exact .completed generation
  | stopping =>
    simp only [Writer.next]
    split <;> exact away (fun _ _ => rfl) fun generation same => by cases same
  | _ =>
    simp only [Writer.next]
    repeat' split
    all_goals exact away (fun _ _ => rfl) fun generation same => by cases same

/-- A lane that the writer passes was passed before, or nothing is outstanding on it. -/
theorem Checks.passed {shared : Shared queues} {place next : Place} (checks : Checks shared place next)
    {request : Request} {lane : Lane} (passed : next.passed request lane = true) :
    place.passed request lane = true ∨ (shared.lane lane).outstanding = 0 := by
  cases checks with
  | protocol none =>
    cases lane with
    | protocol => exact .inr none
    | diagnostic => cases passed
  | diagnostic none =>
    cases lane with
    | protocol => exact .inl rfl
    | diagnostic => exact .inr none
  | producers none => exact .inl rfl
  | asked => exact .inl rfl
  | unasked => exact .inl rfl
  | completed generation => exact .inl passed
  | away outside incomplete =>
    rw [outside] at passed
    cases passed

/-- If the writer has found no producers, it had found none before, or there are none. -/
theorem Checks.unattended {shared : Shared queues} {place next : Place}
    (checks : Checks shared place next) {request : Request}
    (unattended : next.unattended request = true) :
    place.unattended request = true ∨ shared.producers = 0 := by
  cases checks with
  | protocol none => cases unattended
  | diagnostic none => cases unattended
  | producers none => exact .inr none
  | asked => exact .inl rfl
  | unasked => exact .inl rfl
  | completed generation => exact .inl unattended
  | away outside incomplete =>
    have passed := passed_of_unattended .protocol unattended
    rw [outside] at passed
    cases passed

/-- The writer completes the requests that it has found. -/
theorem Checks.completing {shared : Shared queues} {place : Place} {generation : Nat}
    (checks : Checks shared place (.completing generation)) :
    place = .requested ∧ generation = shared.flushRequested := by
  cases checks with
  | asked => exact ⟨rfl, rfl⟩
  | away outside incomplete => exact absurd rfl (incomplete generation)

/-- The writer has nothing in its hands when it looks for requests. -/
theorem held_nil {writer : Writer} (sound : writer.Sound) {request : Request}
    (unattended : writer.place.unattended request = true) (lane : Lane) : writer.held lane = [] := by
  obtain ⟨place, burst, pending, stdout, stderr⟩ := writer
  have known := sound.place
  cases place with
  | requested | completing | stopping =>
    obtain rfl : pending = none := known
    cases lane <;> rfl
  | _ => cases unattended

/-- Without producers nobody has a line in its hands. -/
theorem Calls.evicting_nil {logger : Logger queues} {writer : Lane → Nat}
    (calls : Calls contents history logger.pool.shared logger.pool.tasks writer)
    (none : logger.pool.shared.producers = 0) (lane : Lane) : logger.evicting lane = [] := by
  have inactive := calls.producing.symm.trans none
  rw [List.countP_eq_zero] at inactive
  refine List.filterMap_eq_nil_iff.mpr fun task member => ?_
  have idle := inactive task member
  cases task with
  | enqueue there arguments place =>
    by_cases same : there = lane
    · rw [Task.place, if_pos same]
      cases place <;> first | rfl | exact absurd rfl idle
    · rw [Task.place, if_neg same]
      rfl
  | _ => rfl

/-- The writer makes a step. -/
theorem Kept.written (lawful : queues.Lawful contents capacity)
    (kept : Kept contents history logger) (outcome : Outcome) :
    Kept contents (history ++ (logger.step (.write outcome)).2.toList)
      (logger.step (.write outcome)).1 := by
  have handled (lane : Lane) :=
    writer_handles lawful logger.pool.shared logger.writer outcome kept.sound lane
  have checks := writer_checks logger.pool.shared logger.writer outcome
  have does := writer_does logger.pool.shared logger.writer outcome
  have requests := (writer_counters logger.pool.shared logger.writer outcome).2.2
  have earlier {asks : Event → Prop} {lane : Lane} {line : LogLine}
      (silent : ∀ event, logger.writer.Does event → ¬asks event)
      (owed : Owed asks lane line
        (history ++ (logger.writer.next logger.pool.shared outcome).2.2.toList)) :
      Owed asks lane line history := by
    rcases owed_event owed with old | ⟨_, event, happened, asked⟩
    · exact old
    · exact absurd asked (silent event (does event happened))
  have silent (request : Request) (event : Event) (done : logger.writer.Does event) :
      ¬request.Asks event := by
    intro asked
    cases request <;> cases event <;> first | exact asked.elim | exact done.elim
  refine ⟨writer_sound _ _ _ kept.sound, ?_, ?_, ?_, ?_, ?_, ?_, ?_⟩
  · exact kept.calls.write logger.pool.shared logger.writer outcome lawful kept.sound
  · intro lane task member line handed
    have stays (here : line ∈ contents (logger.pool.shared.lane lane).queue ∨
        line ∈ logger.writer.held lane) :
        Located contents (history ++ (logger.step (.write outcome)).2.toList)
          (logger.step (.write outcome)).1 lane line := by
      rcases (handled lane).located here with inside | mine | written
      · exact .inl inside
      · exact .inr (.inl mine)
      · refine .inr (.inr (.inr (.inl ?_)))
        rw [List.flatMap_append]
        exact List.mem_append_right _ written
    rcases kept.handed lane task member line handed with queued | held | evicting | settled
    · exact stays (.inl queued)
    · exact stays (.inr held)
    · exact .inr (.inr (.inl evicting))
    · exact .inr (.inr (.inr (settled.mono _)))
  · intro generation happened
    rcases mem_concat_event happened with old | new
    · exact (kept.numbered generation old).trans (Nat.le_of_eq requests.symm)
    · exact (does _ new).elim
  · intro request lane line passed owed inside
    have before := (handled lane).shrinks inside
    rcases checks.passed passed with old | none
    · exact kept.passed request lane line old (earlier (silent request) owed) before
    · have balanced := kept.calls.balanced lane
      have empty : contents (logger.pool.shared.lane lane).queue = [] :=
        List.length_eq_zero_iff.mp (by omega)
      exact absurd before (by simp [Writer.desk, empty])
  · intro request lane line unattended owed
    rcases checks.unattended unattended with old | none
    · exact kept.unattended request lane line old (earlier (silent request) owed)
    · have nobody := kept.calls.evicting_nil none lane
      exact fun evicting => absurd (nobody ▸ evicting) List.not_mem_nil
  · intro generation completing
    rw [show (logger.writer.next logger.pool.shared outcome).2.1.place = .completing generation
      from completing] at checks
    obtain ⟨place, rfl⟩ := checks.completing
    have looks : logger.writer.place.unattended .flush = true := by rw [place]; rfl
    refine ⟨Nat.le_of_eq requests.symm, fun lane line owed => ?_⟩
    have before := earlier (fun event done asked => by
      cases event <;> first | exact asked.elim | exact done.elim) owed
    refine (kept.settled looks (held_nil kept.sound looks lane) (before.imp ?_)).mono _
    intro event asked
    cases event <;> trivial
  · refine always_event kept.fulfilled fun event happened => ?_
    have done := does event happened
    cases event with
    | completed generation => exact (kept.completing generation done).2
    | returned =>
      intro lane line owed
      have looks : logger.writer.place.unattended .stop = true := by
        rw [show logger.writer.place = .stopping from done]
        rfl
      refine kept.settled looks (held_nil kept.sound looks lane) (owed.imp ?_)
      intro event asked
      cases event <;> trivial
    | _ => trivial

end Writer

section Runs

/-- Nothing has happened, and there is nothing. -/
theorem kept_start (lawful : queues.Lawful contents capacity)
    (protocolCapacity diagnosticCapacity : Nat) (spawned : Bool) :
    Kept contents [] (Logger.withWriters queues protocolCapacity diagnosticCapacity spawned) := by
  have accounts := accounts_start lawful protocolCapacity diagnosticCapacity spawned
  have nothing {asks : Event → Prop} {lane : Lane} {line : LogLine} : ¬Owed asks lane line [] :=
    Past.not_since_nil
  have empty (lane : Lane) : contents ((Logger.withWriters queues protocolCapacity
      diagnosticCapacity spawned).pool.shared.lane lane).queue = [] := (accounts.queue lane).symm
  have calls : Calls contents [] (Logger.withWriters queues protocolCapacity diagnosticCapacity
      spawned).pool.shared [] (Logger.withWriters queues protocolCapacity diagnosticCapacity
      spawned).writer.weight := by
    refine ⟨fun lane => ?_, ?_, fun task member => ?_, .nil, fun lane line happened => ?_⟩
    · rw [empty lane]
      cases spawned <;> cases lane <;> rfl
    · cases spawned <;> rfl
    · cases member
    · cases happened
  have tasks : (Logger.withWriters queues protocolCapacity diagnosticCapacity spawned).pool.tasks =
      [] := by cases spawned <;> rfl
  refine ⟨accounts.sound, by rwa [tasks], fun lane task member => ?_, fun generation happened => ?_,
    fun request lane line passed owed => ?_, fun request lane line looks owed => ?_,
    fun generation completing => ?_, Past.always_nil⟩
  · rw [tasks] at member
    cases member
  · cases happened
  · exact absurd owed nothing
  · exact absurd owed nothing
  · cases spawned <;> cases completing

/-- One more step. -/
theorem Kept.step (lawful : queues.Lawful contents capacity) (history : List Event)
    (logger : Logger queues) (action : Action) (kept : Kept contents history logger)
    (calm : logger.Calm contents action) :
    Kept contents (history ++ (logger.step action).2.toList) (logger.step action).1 := by
  cases action with
  | write outcome => exact kept.written lawful outcome
  | call action =>
    cases action with
    | begin call =>
      have begun := kept.begin call
      simpa [Logger.step, Tasks.Pool.step] using begun
    | step index timeout =>
      cases here : logger.pool.tasks[index]? with
      | none => simpa [Logger.step, Tasks.Pool.step, here] using kept
      | some task =>
        obtain ⟨front, back, split, stepped⟩ :=
          Tasks.step_task Call.enter Task.next here timeout
        have calm' : ∀ request ∈ task.request, ∀ lane, ∀ line ∈ logger.finished lane,
            line ∉ logger.overlooked contents request lane := by
          intro request asked
          exact calm request (by simpa [Logger.request, here] using asked)
        simp only [Logger.step, stepped]
        exact kept.called lawful split calm'

/-- As long as no request is made while the writer overlooks a line of a call that has returned, what
was queued before a request is written or counted as dropped when the writer completes the request,
and when it returns because it was asked to end. -/
theorem flush_faithful (lawful : queues.Lawful contents capacity)
    (protocolCapacity diagnosticCapacity : Nat) (spawned : Bool) (actions : List Action)
    (calm : Mealy.Along Logger.step (Logger.Calm contents)
      (.withWriters queues protocolCapacity diagnosticCapacity spawned) actions) :
    Past.Always Fulfilled (Mealy.events Logger.step
      (.withWriters queues protocolCapacity diagnosticCapacity spawned) actions) :=
  (Mealy.events_invariant _ (Kept contents)
    (fun history logger action kept calm => kept.step lawful history logger action calm) [] _ actions
    (kept_start lawful protocolCapacity diagnosticCapacity spawned) calm).fulfilled

/-- A line is queued and a flush is requested before the writer looks for anything. -/
theorem flush_faithful_queued :
    let start := Logger.withWriters (ArrayQueue.bounded LogLine) 128 512 true
    let history := Mealy.events Logger.step start
      ([.call (.begin (.enqueue .protocol (some [['a']])))] ++ takes 0 8 ++
        [.call (.begin .flush)] ++ takes 1 2 ++ writes 11)
    Past.Always Fulfilled history ∧
      history = [.pushed .protocol ⟨['a'], 0⟩, .enqueued .protocol ⟨['a'], 0⟩, .requested 1,
        .popped .protocol ⟨['a'], 0⟩, .written .protocol ⟨['a'], 0⟩ 1 [], .completed 1] := by
  let := @decidableCalm (ArrayQueue.bounded LogLine) Dispatcher.BoundedQueue.items
  exact ⟨flush_faithful (ArrayQueue.bounded_lawful LogLine) 128 512 true _ (by decide),
    by decide⟩

end Runs

end Focsq.Logging
