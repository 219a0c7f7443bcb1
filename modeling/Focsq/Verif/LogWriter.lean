import Focsq.Verif.LogSteps
import Focsq.Lib.Past

/-!
# What the writer of a log writes

Whatever the threads do, the lines of a lane come out of its queue in the order in which they went in,
and the writer writes those it has popped in that order, each of them once: a line that is written
with a number stands for so many lines that read the same. While a line for a reader waits, only
so many lines for the host are written before it.
-/

namespace Focsq.Logging

open Dispatcher (ArrayQueue)

variable {queues : ArrayQueue LogLine} {contents : queues.Queue → List LogLine}
  {capacity : queues.Queue → Nat}

section Calls

variable {lane : Lane}

/-- What a call makes happen is not done by the writer. -/
theorem Enqueue.Moves.silent {before after : View} {place next : Enqueue} {event : Option Event}
    (moved : Enqueue.Moves lane before place after next event) (other : Lane) :
    event.toList.flatMap (Event.poppedFrom other) = [] ∧
      event.toList.flatMap (Event.writtenOn other) = [] := by
  cases moved with
  | finish view line => cases line <;> exact ⟨rfl, rfl⟩
  | _ => exact ⟨rfl, rfl⟩

/-- What a call makes happen is on its own lane. -/
theorem Enqueue.Moves.apart {before after : View} {place next : Enqueue} {event : Option Event}
    (moved : Enqueue.Moves lane before place after next event) {other : Lane}
    (apart : other ≠ lane) :
    event.toList.flatMap (Event.pushedTo other) = [] ∧
      event.toList.flatMap (Event.takenFrom other) = [] := by
  have away : lane ≠ other := Ne.symm apart
  cases moved with
  | finish view line => cases line <;> exact ⟨rfl, rfl⟩
  | _ => simp [Event.pushedTo, Event.takenFrom, away]

variable (shared : Shared queues) (task : Task) (timeout : Bool) (lane : Lane)

/-- Whether an event is a request. -/
def Event.IsRequest : Event → Prop
  | .requested _ => True
  | .stopRequested => True
  | _ => False

/-- Nothing happens on the lanes when there is a request. -/
theorem request_silent {event : Option Event} (requests : ∀ asked ∈ event, asked.IsRequest)
    (lane : Lane) :
    event.toList.flatMap (Event.pushedTo lane) = [] ∧
      event.toList.flatMap (Event.takenFrom lane) = [] ∧
      event.toList.flatMap (Event.poppedFrom lane) = [] ∧
      event.toList.flatMap (Event.writtenOn lane) = [] := by
  cases event with
  | none => exact ⟨rfl, rfl, rfl, rfl⟩
  | some asked =>
    have request := requests asked rfl
    cases asked with
    | requested generation => exact ⟨rfl, rfl, rfl, rfl⟩
    | stopRequested => exact ⟨rfl, rfl, rfl, rfl⟩
    | _ => exact request.elim

/-- A call of `flush` leaves the lanes alone and makes at most a request. -/
theorem flush_lane (place : Flush) :
    (place.next shared timeout).1.lane lane = shared.lane lane ∧
      ∀ event ∈ (place.next shared timeout).2.2, event.IsRequest := by
  fun_cases Flush.next shared timeout place
  case case2 => exact ⟨by cases lane <;> rfl, fun event happened => by cases happened; trivial⟩
  all_goals exact ⟨by cases lane <;> rfl, fun event happened => by cases happened⟩

/-- A call of `shutdown` leaves the lanes alone and makes at most a request. -/
theorem stop_lane (waits : Bool) (place : Stop) :
    (place.next shared waits timeout).1.lane lane = shared.lane lane ∧
      ∀ event ∈ (place.next shared waits timeout).2.2, event.IsRequest := by
  fun_cases Stop.next shared waits timeout place
  case case2 => exact ⟨by cases lane <;> rfl, fun event happened => by cases happened; trivial⟩
  all_goals exact ⟨by cases lane <;> rfl, fun event happened => by cases happened⟩

/-- A step of a call is one that queues a line, or it leaves the lanes alone and makes at most a
request. -/
theorem task_cases (lawful : queues.Lawful contents capacity) :
    (∃ there place next, Enqueue.Moves there (shared.view contents there) place
        ((task.next shared timeout).1.view contents there) next (task.next shared timeout).2.2 ∧
      (∃ arguments, task = .enqueue there arguments place ∧
        (task.next shared timeout).2.1 = .enqueue there arguments next) ∧
      ∀ other, other ≠ there → (task.next shared timeout).1.lane other = shared.lane other) ∨
    (∀ lane, (task.next shared timeout).1.lane lane = shared.lane lane) ∧
      ∀ event ∈ (task.next shared timeout).2.2, event.IsRequest := by
  cases task with
  | enqueue there arguments place =>
    exact .inl ⟨there, place, _, enqueue_moves shared _ arguments place lawful,
      ⟨arguments, rfl, rfl⟩, fun other apart => enqueue_other shared _ arguments place apart⟩
  | flush place =>
    exact .inr ⟨fun lane => (flush_lane shared timeout lane place).1,
      (flush_lane shared timeout .protocol place).2⟩
  | stop waits place =>
    exact .inr ⟨fun lane => (stop_lane shared timeout lane waits place).1,
      (stop_lane shared timeout .protocol waits place).2⟩

/-- What a call makes happen is not done by the writer. -/
theorem task_silent (lawful : queues.Lawful contents capacity) :
    (task.next shared timeout).2.2.toList.flatMap (Event.poppedFrom lane) = [] ∧
      (task.next shared timeout).2.2.toList.flatMap (Event.writtenOn lane) = [] := by
  rcases task_cases shared task timeout lawful with ⟨there, place, next, moved, _⟩ | ⟨_, requests⟩
  · exact moved.silent lane
  · exact (request_silent requests lane).2.2

/-- A step of a call adds a line behind the others in a queue, or takes one from the front, or leaves
the queues alone. -/
theorem task_queue (lawful : queues.Lawful contents capacity) :
    contents (shared.lane lane).queue ++
        (task.next shared timeout).2.2.toList.flatMap (Event.pushedTo lane) =
      (task.next shared timeout).2.2.toList.flatMap (Event.takenFrom lane) ++
        contents ((task.next shared timeout).1.lane lane).queue := by
  rcases task_cases shared task timeout lawful with
    ⟨there, place, next, moved, _, others⟩ | ⟨same, requests⟩
  · by_cases here : lane = there
    · subst here
      exact moved.queue
    · obtain ⟨pushes, takes⟩ := moved.apart here
      rw [pushes, takes, others lane here, List.append_nil, List.nil_append]
  · obtain ⟨pushes, takes, _⟩ := request_silent requests lane
    rw [pushes, takes, same lane, List.append_nil, List.nil_append]

end Calls

section Texts

/-- The texts that an event passes on for a lane. -/
def Event.textOn (lane : Lane) : Event → List Text
  | .written there line repetitions _ =>
    if there = lane then [render line.value repetitions] else []
  | _ => []

/-- An event without lines that are written on a lane passes nothing on for it. -/
theorem textOn_nil {event : Option Event} {lane : Lane}
    (silent : event.toList.flatMap (Event.writtenOn lane) = []) :
    event.toList.flatMap (Event.textOn lane) = [] := by
  cases event with
  | none => rfl
  | some happened =>
    cases happened with
    | written there line repetitions merged =>
      by_cases same : there = lane
      · simp [Event.writtenOn, same] at silent
      · simp [Event.textOn, same]
    | _ => rfl

/-- What a sink has passed on: all texts, unless something has failed. -/
structure Passed (sink : Sink) (texts : List Text) : Prop where
  /-- Texts are passed on in order. -/
  front : sink.writer <+: texts
  /-- Nothing is left out if nothing has failed. -/
  whole : sink.disabled = false → sink.writer = texts

/-- One more line. -/
theorem Passed.write {sink : Sink} {texts : List Text} (passed : Passed sink texts) (value : Text)
    (repetitions : Nat) (succeeds : Bool) :
    Passed (sink.writeLine value repetitions succeeds) (texts ++ [render value repetitions]) := by
  unfold Sink.writeLine
  cases disabled : sink.disabled with
  | true => exact ⟨passed.front.trans (List.prefix_append _ _), fun enabled => by simp_all⟩
  | false =>
    rw [← passed.whole disabled]
    exact ⟨List.prefix_refl _, fun _ => rfl⟩

/-- A flush passes on no text. -/
theorem Passed.flush {sink : Sink} {texts : List Text} (passed : Passed sink texts)
    (succeeds : Bool) : Passed (sink.flush succeeds) texts := by
  unfold Sink.flush
  cases disabled : sink.disabled with
  | true => exact passed
  | false => exact ⟨passed.front, fun _ => passed.whole disabled⟩

/-- Where the lines of a lane are written to. -/
def Writer.sink (writer : Writer) : Lane → Sink
  | .protocol => writer.stdout
  | .diagnostic => writer.stderr

/-- What the writer writes is passed on. -/
theorem writer_passed (shared : Shared queues) (writer : Writer) (outcome : Outcome) {lane : Lane}
    {texts : List Text} (passed : Passed (writer.sink lane) texts) :
    Passed ((writer.next shared outcome).2.1.sink lane)
      (texts ++ (writer.next shared outcome).2.2.toList.flatMap (Event.textOn lane)) := by
  have same : Passed (writer.sink lane) (texts ++ []) := by rwa [List.append_nil]
  fun_cases Writer.next shared writer outcome
  case case4 =>
    cases lane with
    | protocol => exact passed.write _ _ _
    | diagnostic => exact same
  case case14 =>
    cases lane with
    | protocol => exact same
    | diagnostic => exact passed.write _ _ _
  case case21 => cases lane <;> exact same.flush _
  case case24 => cases lane <;> exact same.flush _
  all_goals exact same

end Texts

section Budget

/-- How many lines for the host may be written before a line for a reader that waits. -/
def Writer.budget (writer : Writer) : Nat :=
  match writer.place with
  | .writingProtocol _ burst => protocolBurst + 1 - burst
  | .countingProtocol burst => protocolBurst - burst
  | .choosing => 0
  | .coalescing _ _ _ => 0
  | .merging _ _ _ => 0
  | .writingDiagnostic _ _ _ => 0
  | .countingDiagnostic => protocolBurst
  | .fallback => protocolBurst
  | _ => protocolBurst - writer.burst

/-- There are never too many. -/
theorem budget_le {writer : Writer} (sound : writer.Sound) : writer.budget ≤ protocolBurst := by
  obtain ⟨place, burst, pending, stdout, stderr⟩ := writer
  have known := sound.place
  cases place with
  | writingProtocol line count =>
    have positive : 1 ≤ count := known.1
    simp only [Writer.budget]
    omega
  | _ => simp [Writer.budget]

/-- A line for a reader has not been written yet. -/
def Waits (contents : queues.Queue → List LogLine) (shared : Shared queues) (writer : Writer) :
    Prop :=
  contents shared.diagnostic.queue ≠ [] ∨ writer.held .diagnostic ≠ []

/-- As long as a line for a reader waits, lines for the host that are written are taken from the
budget. -/
theorem writer_budget (lawful : queues.Lawful contents capacity) (shared : Shared queues)
    (writer : Writer) (outcome : Outcome) (sound : writer.Sound)
    (waits : Waits contents shared writer)
    (silent : (writer.next shared outcome).2.2.toList.flatMap (Event.textOn .diagnostic) = []) :
    ((writer.next shared outcome).2.2.toList.flatMap (Event.textOn .protocol)).length +
      (writer.next shared outcome).2.1.budget ≤ writer.budget := by
  obtain ⟨place, burst, pending, stdout, stderr⟩ := writer
  obtain ⟨bounded, known⟩ := sound
  cases place with
  | top =>
    simp only [Writer.next]
    split
    · rename_i early
      split
      · show 0 + (protocolBurst + 1 - (burst + 1)) ≤ protocolBurst - burst
        omega
      · exact Nat.zero_le _
    · exact Nat.zero_le _
  | writingProtocol line count =>
    have limits : 1 ≤ count ∧ count ≤ protocolBurst := known
    show 1 + (protocolBurst - count) ≤ protocolBurst + 1 - count
    omega
  | countingProtocol count => exact Nat.le_of_eq (Nat.zero_add _)
  | choosing =>
    cases pending with
    | some line => exact Nat.le_refl 0
    | none =>
      rcases lawful.pop_cases shared.diagnostic.queue with
        ⟨after, popped, empty, still⟩ | ⟨line, after, popped, items⟩
      · rcases waits with queued | held
        · exact absurd empty queued
        · exact absurd rfl held
      · simp only [Writer.next, popped]
        exact Nat.le_refl 0
  | coalescing line repetitions merged =>
    simp only [Writer.next]
    split
    · split
      · exact Nat.le_refl 0
      · split
        · exact Nat.le_refl 0
        · exact Nat.le_refl 0
    · exact Nat.le_refl 0
  | merging line repetitions merged => exact Nat.le_refl 0
  | writingDiagnostic line repetitions merged => simp [Writer.next, Event.textOn] at silent
  | countingDiagnostic => exact Nat.le_refl _
  | fallback =>
    simp only [Writer.next]
    split
    · exact Nat.le_refl _
    · show 0 + (protocolBurst - burst) ≤ protocolBurst
      omega
  | completing | observing | waiting | stopped | returned => exact Nat.le_of_eq (Nat.zero_add _)
  | _ =>
    simp only [Writer.next]
    split
    all_goals exact Nat.le_of_eq (Nat.zero_add _)

end Budget

section Runs

/-- What is known of the log after what has happened. -/
structure Accounts (contents : queues.Queue → List LogLine) (history : List Event)
    (logger : Logger queues) : Prop where
  /-- Lines leave a queue in the order in which they came, and the others are in it. -/
  queue : ∀ lane, history.flatMap (Event.pushedTo lane) =
    history.flatMap (Event.takenFrom lane) ++ contents (logger.pool.shared.lane lane).queue
  /-- The writer writes what it has popped, and the rest is in its hands. -/
  hands : ∀ lane, history.flatMap (Event.poppedFrom lane) =
    history.flatMap (Event.writtenOn lane) ++ logger.writer.held lane
  /-- What is written is passed on. -/
  passed : ∀ lane, Passed (logger.writer.sink lane) (history.flatMap (Event.textOn lane))
  /-- Lines that are merged read the same. -/
  merged : ∀ lane line repetitions merged, .written lane line repetitions merged ∈ history →
    Merged line repetitions merged
  /-- What is known of the writer. -/
  sound : logger.writer.Sound

/-- Nothing has happened, and there is nothing. -/
theorem accounts_start (lawful : queues.Lawful contents capacity)
    (protocolCapacity diagnosticCapacity : Nat) (spawned : Bool) :
    Accounts contents []
      (Logger.withWriters queues protocolCapacity diagnosticCapacity spawned) := by
  have protocol := (lawful.new (max protocolCapacity 1) (by omega)).1
  have diagnostic := (lawful.new (max diagnosticCapacity 1) (by omega)).1
  have sound : (Logger.withWriters queues protocolCapacity diagnosticCapacity
      spawned).writer.Sound := by cases spawned <;> exact ⟨Nat.zero_le _, by trivial⟩
  refine ⟨fun lane => ?_, fun lane => ?_, fun lane => ?_, fun lane line repetitions merged member =>
    absurd member List.not_mem_nil, sound⟩
  · cases spawned <;> cases lane <;>
      first | exact protocol.symm | exact diagnostic.symm
  · cases spawned <;> cases lane <;> rfl
  · cases spawned <;> cases lane <;> exact ⟨List.prefix_refl _, fun _ => rfl⟩

/-- Lines that are merged read the same. -/
theorem Handles.merged {lane : Lane} {before after : Desk} {line : LogLine} {repetitions : Nat}
    {merged : List LogLine}
    (handled : Handles lane before after (some (.written lane line repetitions merged))) :
    Merged line repetitions merged := by
  cases handled with
  | write items outstanding line repetitions merged held weight whole => exact whole
  | keep desk pops writes takes pushes => simp [Event.writtenOn] at writes

/-- What has happened after one more step has happened before, or in that step. -/
theorem mem_concat_event {history : List Event} {event : Option Event} {other : Event}
    (member : other ∈ history ++ event.toList) : other ∈ history ∨ event = some other := by
  rcases List.mem_append.mp member with old | new
  · exact .inl old
  · exact .inr (Option.mem_toList.mp new)

/-- What a call does on the lanes. -/
theorem call_lane (lawful : queues.Lawful contents capacity) (logger : Logger queues)
    (action : Tasks.Action Call Bool) (lane : Lane) :
    contents (logger.pool.shared.lane lane).queue ++
        (logger.step (.call action)).2.toList.flatMap (Event.pushedTo lane) =
      (logger.step (.call action)).2.toList.flatMap (Event.takenFrom lane) ++
        contents ((logger.step (.call action)).1.pool.shared.lane lane).queue ∧
    (logger.step (.call action)).2.toList.flatMap (Event.poppedFrom lane) = [] ∧
    (logger.step (.call action)).2.toList.flatMap (Event.writtenOn lane) = [] := by
  have moves : logger.pool.Moves Call.enter Task.next (logger.pool.step Call.enter Task.next action).1
      (logger.pool.step Call.enter Task.next action).2 := Tasks.step_moves logger.pool action
  simp only [Logger.step]
  generalize (logger.pool.step Call.enter Task.next action).1 = pool at moves ⊢
  generalize (logger.pool.step Call.enter Task.next action).2 = event at moves ⊢
  cases moves with
  | stay => exact ⟨List.append_nil _, rfl, rfl⟩
  | begin call => exact ⟨List.append_nil _, rfl, rfl⟩
  | step front task back timeout here =>
    exact ⟨task_queue logger.pool.shared task timeout lane lawful,
      task_silent logger.pool.shared task timeout lane lawful⟩

/-- One more step of a call. -/
theorem accounts_call (lawful : queues.Lawful contents capacity) {history : List Event}
    {logger : Logger queues} (accounts : Accounts contents history logger)
    (action : Tasks.Action Call Bool) :
    Accounts contents (history ++ (logger.step (.call action)).2.toList)
      (logger.step (.call action)).1 := by
  have lanes := call_lane lawful logger action
  refine ⟨fun lane => ?_, fun lane => ?_, fun lane => ?_,
    fun lane line repetitions merged member => ?_, accounts.sound⟩
  · rw [List.flatMap_append, List.flatMap_append, accounts.queue lane, List.append_assoc,
      List.append_assoc]
    exact congrArg _ (lanes lane).1
  · rw [List.flatMap_append, List.flatMap_append, (lanes lane).2.1, (lanes lane).2.2,
      List.append_nil, List.append_nil]
    exact accounts.hands lane
  · rw [List.flatMap_append, textOn_nil (lanes lane).2.2, List.append_nil]
    exact accounts.passed lane
  · rcases mem_concat_event member with old | new
    · exact accounts.merged _ _ _ _ old
    · have absent := (lanes lane).2.2
      rw [new] at absent
      simp [Event.writtenOn] at absent

/-- One more step of the writer. -/
theorem accounts_write (lawful : queues.Lawful contents capacity) {history : List Event}
    {logger : Logger queues} (accounts : Accounts contents history logger) (outcome : Outcome) :
    Accounts contents (history ++ (logger.step (.write outcome)).2.toList)
      (logger.step (.write outcome)).1 := by
  have handled (lane : Lane) :=
    writer_handles lawful logger.pool.shared logger.writer outcome accounts.sound lane
  refine ⟨fun lane => ?_, fun lane => ?_, fun lane => ?_, fun lane line repetitions merged member =>
    ?_, writer_sound _ _ _ accounts.sound⟩
  · have moved := (handled lane).queue
    rw [List.flatMap_append, List.flatMap_append, accounts.queue lane, List.append_assoc,
      List.append_assoc]
    exact congrArg _ moved
  · have moved := (handled lane).hands
    rw [List.flatMap_append, List.flatMap_append, accounts.hands lane, List.append_assoc,
      List.append_assoc]
    exact congrArg _ moved
  · rw [List.flatMap_append]
    exact writer_passed _ _ _ (accounts.passed lane)
  · rcases mem_concat_event member with old | new
    · exact accounts.merged _ _ _ _ old
    · have written := handled lane
      rw [show (logger.writer.next logger.pool.shared outcome).2.2 =
        some (.written lane line repetitions merged) from new] at written
      exact written.merged

/-- One more step. -/
theorem accounts_step (lawful : queues.Lawful contents capacity) (history : List Event)
    (logger : Logger queues) (action : Action) (accounts : Accounts contents history logger) :
    Accounts contents (history ++ (logger.step action).2.toList) (logger.step action).1 := by
  cases action with
  | call action => exact accounts_call lawful accounts action
  | write outcome => exact accounts_write lawful accounts outcome

/-- What is known after a run. -/
theorem accounts_run (lawful : queues.Lawful contents capacity)
    (protocolCapacity diagnosticCapacity : Nat) (spawned : Bool) (actions : List Action) :
    Accounts contents
      (Mealy.events Logger.step
        (.withWriters queues protocolCapacity diagnosticCapacity spawned) actions)
      (Mealy.final Logger.step
        (.withWriters queues protocolCapacity diagnosticCapacity spawned) actions) :=
  Mealy.events_invariant (fun _ _ => True) (Accounts contents)
    (fun history logger action accounts _ => accounts_step lawful history logger action accounts)
    [] _ actions (accounts_start lawful protocolCapacity diagnosticCapacity spawned)
    (Mealy.along_of_forall (fun _ _ => trivial) _ actions)

/-- A line for a reader has not been written yet. -/
def Logger.Waits (contents : queues.Queue → List LogLine) (logger : Logger queues) : Prop :=
  Logging.Waits contents logger.pool.shared logger.writer

/-- As long as a line for a reader waits, lines for the host are taken from the budget. -/
theorem budget_run (lawful : queues.Lawful contents capacity) (logger : Logger queues)
    (stretch : List Action) (sound : logger.writer.Sound)
    (waits : Mealy.Along Logger.step (fun logger _ => logger.Waits contents) logger stretch)
    (silent : (Mealy.events Logger.step logger stretch).flatMap (Event.textOn .diagnostic) = []) :
    ((Mealy.events Logger.step logger stretch).flatMap (Event.textOn .protocol)).length ≤
      logger.writer.budget := by
  induction stretch generalizing logger with
  | nil => exact Nat.zero_le _
  | cons action rest ih =>
    obtain ⟨now, later⟩ := waits
    rw [Mealy.events, List.flatMap_append, List.append_eq_nil_iff] at silent
    rw [Mealy.events, List.flatMap_append, List.length_append]
    cases action with
    | call action =>
      rw [textOn_nil (call_lane lawful logger action .protocol).2.2, List.length_nil, Nat.zero_add]
      exact ih (logger.step (.call action)).1 sound later silent.2
    | write outcome =>
      have spent := writer_budget lawful logger.pool.shared logger.writer outcome sound now silent.1
      have others := ih (logger.step (.write outcome)).1
        (writer_sound _ _ _ sound) later silent.2
      have same : (logger.step (.write outcome)).1.writer =
        (logger.writer.next logger.pool.shared outcome).2.1 := rfl
      rw [same] at others
      exact (Nat.add_le_add_left others _).trans spent

/-- Whatever the threads do: on each lane, lines leave the queue in the order in which they came, the
writer writes the lines it has popped in this order, each of them once, and what it writes is passed
on unless that has failed; a line that is written with a number stands for so many lines that read
the same, at most 64; and at most 32 lines for the host are written in a row while a line for a
reader waits. -/
theorem writerLoop_faithful (lawful : queues.Lawful contents capacity)
    (protocolCapacity diagnosticCapacity : Nat) (spawned : Bool) (actions : List Action) :
    let start := Logger.withWriters queues protocolCapacity diagnosticCapacity spawned
    let logger := Mealy.final Logger.step start actions
    let history := Mealy.events Logger.step start actions
    (∀ lane, history.flatMap (Event.pushedTo lane) =
      history.flatMap (Event.takenFrom lane) ++ contents (logger.pool.shared.lane lane).queue) ∧
    (∀ lane, history.flatMap (Event.poppedFrom lane) =
      history.flatMap (Event.writtenOn lane) ++ logger.writer.held lane) ∧
    (∀ lane, Passed (logger.writer.sink lane) (history.flatMap (Event.textOn lane))) ∧
    (∀ lane line repetitions merged, .written lane line repetitions merged ∈ history →
      repetitions ≤ coalesceBatch ∧
        (line :: merged).map LogLine.value = List.replicate repetitions line.value) ∧
    ∀ stretch, Mealy.Along Logger.step (fun logger _ => logger.Waits contents) logger stretch →
      (Mealy.events Logger.step logger stretch).flatMap (Event.textOn .diagnostic) = [] →
      ((Mealy.events Logger.step logger stretch).flatMap (Event.textOn .protocol)).length ≤
        protocolBurst := by
  intro start logger history
  have accounts := accounts_run lawful protocolCapacity diagnosticCapacity spawned actions
  refine ⟨accounts.queue, accounts.hands, accounts.passed, ?_, ?_⟩
  · intro lane line repetitions merged member
    have whole := accounts.merged lane line repetitions merged member
    refine ⟨whole.bounded, ?_⟩
    rw [whole.count, List.map_cons, List.replicate_succ]
    exact congrArg _ (List.eq_replicate_iff.mpr ⟨List.length_map _, by
      intro value among
      obtain ⟨other, inside, rfl⟩ := List.mem_map.mp among
      exact whole.same other inside⟩)
  · intro stretch waits silent
    exact (budget_run lawful logger stretch accounts.sound waits silent).trans
      (budget_le accounts.sound)

/-- Two lines that read the same are queued one after the other, and the writer writes them as
one. -/
theorem writerLoop_faithful_repeated :
    let calls := [.begin (.enqueue .diagnostic (some [['a']]))] ++
      List.replicate 8 (.step 0 false) ++ [.begin (.enqueue .diagnostic (some [['a']]))] ++
      List.replicate 8 (.step 1 false)
    let run := calls.map Action.call ++ List.replicate 6 (.write ⟨true, true⟩)
    let start := Logger.withWriters (ArrayQueue.bounded LogLine) 1 2 true
    let history := Mealy.events Logger.step start run
    history.flatMap (Event.poppedFrom .diagnostic) =
        history.flatMap (Event.writtenOn .diagnostic) ++
          (Mealy.final Logger.step start run).writer.held .diagnostic ∧
      .written .diagnostic ⟨['a'], 0⟩ 2 [⟨['a'], 1⟩] ∈ history := by
  intro calls run start history
  exact ⟨(writerLoop_faithful (ArrayQueue.bounded_lawful LogLine) 1 2 true run).2.1 .diagnostic,
    by decide⟩

end Runs

end Focsq.Logging
