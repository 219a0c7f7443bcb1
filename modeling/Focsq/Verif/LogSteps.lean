import Focsq.Backend.Logging
import Focsq.Verif.PacketQueue

/-!
# What a step does to the lines of a log

Each thread has some lines in its hands, and some of them are still counted as outstanding. A step
moves lines between a thread, a queue and what has happened to them. Here it is said for the step of
one thread what it moves; nothing of the other threads is needed for it.
-/

namespace Focsq.Logging

open Dispatcher (ArrayQueue)

variable {queues : ArrayQueue LogLine} {contents : queues.Queue → List LogLine}
  {capacity : queues.Queue → Nat}

section Lanes

variable (shared : Shared queues) (state : LaneState queues) (queue : queues.Queue)
  {lane other : Lane}

@[simp]
theorem lane_setLane : (shared.setLane state lane).lane lane = state := by cases lane <;> rfl

theorem lane_setLane_ne (apart : other ≠ lane) :
    (shared.setLane state lane).lane other = shared.lane other := by
  cases lane <;> cases other <;> first | rfl | exact absurd rfl apart

@[simp]
theorem lane_producers (producers : Nat) :
    Shared.lane { shared with producers } lane = shared.lane lane := by cases lane <;> rfl

@[simp]
theorem lane_stamps (stamps : Nat) :
    Shared.lane { shared with stamps } lane = shared.lane lane := by cases lane <;> rfl

@[simp]
theorem lane_accepting (accepting : Bool) :
    Shared.lane { shared with accepting } lane = shared.lane lane := by cases lane <;> rfl

@[simp]
theorem lane_shutdown (shutdown : Bool) :
    Shared.lane { shared with shutdown } lane = shared.lane lane := by cases lane <;> rfl

@[simp]
theorem lane_flushRequested (flushRequested : Nat) :
    Shared.lane { shared with flushRequested } lane = shared.lane lane := by cases lane <;> rfl

@[simp]
theorem lane_notifyWriter : shared.notifyWriter.lane lane = shared.lane lane := by cases lane <;> rfl

@[simp]
theorem lane_setQueue :
    (shared.setQueue lane queue).lane lane = { shared.lane lane with queue } := lane_setLane _ _

@[simp]
theorem lane_discount : (shared.discount lane).lane lane =
    { shared.lane lane with outstanding := (shared.lane lane).outstanding - 1 } := lane_setLane _ _

@[simp]
theorem lane_drop : (shared.drop lane).lane lane =
    { shared.lane lane with dropped := (shared.lane lane).dropped + 1 } := lane_setLane _ _

@[simp]
theorem producers_setLane : (shared.setLane state lane).producers = shared.producers := by
  cases lane <;> rfl

end Lanes

section Events

/-- The lines that an event adds to the queue of a lane. -/
def Event.pushedTo (lane : Lane) : Event → List LogLine
  | .pushed there line => if there = lane then [line] else []
  | _ => []

/-- The lines that an event takes from the queue of a lane. -/
def Event.takenFrom (lane : Lane) : Event → List LogLine
  | .evicted there line => if there = lane then [line] else []
  | .popped there line => if there = lane then [line] else []
  | _ => []

/-- The lines that an event takes from the queue of a lane for the writer. -/
def Event.poppedFrom (lane : Lane) : Event → List LogLine
  | .popped there line => if there = lane then [line] else []
  | _ => []

/-- The lines for which an event writes on a lane. -/
def Event.writtenOn (lane : Lane) : Event → List LogLine
  | .written there line _ merged => if there = lane then line :: merged else []
  | _ => []

end Events

section Producers

/-- How many lines a call counts as outstanding that are not in the queue. -/
def Enqueue.weight : Enqueue → Nat
  | .pushing _ _ => 1
  | .popping _ _ => 1
  | .discounting _ _ _ => 2
  | .recording _ _ _ => 1
  | .abandoning _ => 1
  | _ => 0

/-- The line that a call has popped and not yet counted as dropped. -/
def Enqueue.evicting : Enqueue → Option LogLine
  | .discounting _ oldest _ => some oldest
  | .recording _ oldest _ => some oldest
  | _ => none

/-- The line that a call is done with: it was pushed, or counted as dropped. -/
def Enqueue.handed : Enqueue → Option LogLine
  | .waking line => some line
  | .leaving line => line
  | .returning line => line
  | .done line => line
  | _ => none

/-- Whether a call is counted as a producer. -/
def Enqueue.active : Enqueue → Bool
  | .reading => false
  | .entering => false
  | .returning _ => false
  | .done _ => false
  | _ => true

/-- What the steps of a call on a lane depend on. -/
structure View where
  /-- What is in the queue. -/
  items : List LogLine
  /-- Number of lines that are counted as outstanding. -/
  outstanding : Nat
  /-- Number of producers. -/
  producers : Nat

/-- How a lane is seen. -/
def Shared.view (shared : Shared queues) (contents : queues.Queue → List LogLine) (lane : Lane) :
    View :=
  ⟨contents (shared.lane lane).queue, (shared.lane lane).outstanding, shared.producers⟩

/-- What a step of a call does to its lane. -/
inductive Enqueue.Moves (lane : Lane) : View → Enqueue → View → Enqueue → Option Event → Prop where
  /-- Lines are accepted. -/
  | start (view) : Moves lane view .reading view .entering none
  /-- Lines are not accepted. -/
  | refuse (view) : Moves lane view .reading view (.done none) none
  /-- The producer is counted. -/
  | enter (items outstanding producers) :
    Moves lane ⟨items, outstanding, producers⟩ .entering ⟨items, outstanding, producers + 1⟩
      .checking none
  /-- There is a line. -/
  | format (view value) : Moves lane view .checking view (.counting value) none
  /-- There is no line. -/
  | skip (view) : Moves lane view .checking view (.leaving none) none
  /-- The line is counted. -/
  | count (items outstanding producers value stamp) :
    Moves lane ⟨items, outstanding, producers⟩ (.counting value)
      ⟨items, outstanding + 1, producers⟩ (.pushing ⟨value, stamp⟩ 3) none
  /-- The line is pushed. -/
  | push (items outstanding producers line left) :
    Moves lane ⟨items, outstanding, producers⟩ (.pushing line left)
      ⟨items ++ [line], outstanding, producers⟩ (.waking line) (some (.pushed lane line))
  /-- The queue is full. -/
  | full (view line left) : Moves lane view (.pushing line left) view (.popping line left) none
  /-- The oldest line is popped. -/
  | evict (oldest items outstanding producers line left) :
    Moves lane ⟨oldest :: items, outstanding, producers⟩ (.popping line left)
      ⟨items, outstanding, producers⟩ (.discounting line oldest left)
      (some (.evicted lane oldest))
  /-- The queue is empty. -/
  | empty (view line left) : Moves lane view (.popping line left) view (.again line left) none
  /-- The popped line is no longer counted as outstanding. -/
  | discount (items outstanding producers line oldest left) :
    Moves lane ⟨items, outstanding, producers⟩ (.discounting line oldest left)
      ⟨items, outstanding - 1, producers⟩ (.recording line oldest left) none
  /-- The popped line is counted as dropped. -/
  | record (view line oldest left) :
    Moves lane view (.recording line oldest left) view (.again line left)
      (some (.dropped lane oldest))
  /-- The line is no longer counted as outstanding. -/
  | abandon (items outstanding producers line) :
    Moves lane ⟨items, outstanding, producers⟩ (.abandoning line)
      ⟨items, outstanding - 1, producers⟩ (.conceding line) none
  /-- The line is counted as dropped. -/
  | concede (view line) :
    Moves lane view (.conceding line) view (.waking line) (some (.dropped lane line))
  /-- The writer is notified. -/
  | wake (view line) : Moves lane view (.waking line) view (.leaving (some line)) none
  /-- The producer is not counted any longer. -/
  | leave (items outstanding producers line) :
    Moves lane ⟨items, outstanding, producers⟩ (.leaving line)
      ⟨items, outstanding, producers - 1⟩ (.returning line) none
  /-- The call returns. -/
  | finish (view line) :
    Moves lane view (.returning line) view (.done line) (line.map (.enqueued lane))
  /-- It has returned. -/
  | stay (view line) : Moves lane view (.done line) view (.done line) none

variable (shared : Shared queues) (lane : Lane) (arguments : Option (List Text)) (place : Enqueue)

/-- The other lane is left alone. -/
theorem enqueue_other {other : Lane} (apart : other ≠ lane) :
    (place.next shared lane arguments).1.lane other = shared.lane other := by
  fun_cases Enqueue.next shared lane arguments place
  case case6 => exact lane_setLane_ne _ _ apart
  all_goals simp [Shared.setQueue, Shared.discount, Shared.drop, lane_setLane_ne _ _ apart]

/-- Every step does one of these. -/
theorem enqueue_moves (lawful : queues.Lawful contents capacity) :
    Enqueue.Moves lane (shared.view contents lane) place
      ((place.next shared lane arguments).1.view contents lane)
      (place.next shared lane arguments).2.1 (place.next shared lane arguments).2.2 := by
  cases place with
  | reading =>
    cases accepting : shared.accepting
    · simpa [Enqueue.next, accepting] using .refuse _
    · simpa [Enqueue.next, accepting] using .start _
  | entering => simpa [Enqueue.next, Shared.view] using .enter _ _ _
  | checking =>
    cases accepting : shared.accepting
    · simpa [Enqueue.next, accepting] using .skip _
    · cases formatted : formatLine arguments with
      | none => simpa [Enqueue.next, accepting, formatted] using .skip _
      | some value => simpa [Enqueue.next, accepting, formatted] using .format _ value
  | counting value =>
    cases lane <;> exact .count _ _ _ value shared.stamps
  | pushing line left =>
    rcases lawful.push_cases (shared.lane lane).queue line with
      ⟨after, pushed, items⟩ | ⟨after, pushed, items⟩
    · simpa [Enqueue.next, pushed, Shared.view, items, Shared.setQueue] using .push _ _ _ line left
    · simpa [Enqueue.next, pushed, Shared.view, items, Shared.setQueue] using .full _ line left
  | popping line left =>
    rcases lawful.pop_cases (shared.lane lane).queue with
      ⟨after, popped, none, items⟩ | ⟨oldest, after, popped, items⟩
    · simpa [Enqueue.next, popped, Shared.view, items, none, Shared.setQueue] using
        .empty _ line left
    · simpa [Enqueue.next, popped, Shared.view, items, Shared.setQueue] using
        .evict oldest _ _ _ line left
  | discounting line oldest left =>
    simpa [Enqueue.next, Shared.view, Shared.discount] using .discount _ _ _ line oldest left
  | recording line oldest left =>
    simpa [Enqueue.next, Shared.view, Shared.drop] using .record _ line oldest left
  | abandoning line =>
    simpa [Enqueue.next, Shared.view, Shared.discount] using .abandon _ _ _ line
  | conceding line => simpa [Enqueue.next, Shared.view, Shared.drop] using .concede _ line
  | waking line => simpa [Enqueue.next, Shared.view] using .wake _ line
  | leaving line => simpa [Enqueue.next, Shared.view] using .leave _ _ _ line
  | returning line => simpa [Enqueue.next, Shared.view] using .finish _ line
  | done line => exact .stay _ line

end Producers

section Writer

/-- The lines that the writer has in its hands. -/
def Place.held : Lane → Place → List LogLine
  | .protocol, .writingProtocol line _ => [line]
  | .diagnostic, .coalescing line _ merged => line :: merged
  | .diagnostic, .merging line _ merged => line :: merged
  | .diagnostic, .writingDiagnostic line _ merged => line :: merged
  | _, _ => []

/-- How many lines the writer has popped that are still counted as outstanding. -/
def Place.weight : Lane → Place → Nat
  | .protocol, .writingProtocol _ _ => 1
  | .protocol, .countingProtocol _ => 1
  | .diagnostic, .coalescing _ _ _ => 1
  | .diagnostic, .merging _ _ _ => 2
  | .diagnostic, .writingDiagnostic _ _ _ => 1
  | .diagnostic, .countingDiagnostic => 1
  | _, _ => 0

/-- The line that is parked from one turn to the next. -/
def Writer.parked (writer : Writer) : Lane → List LogLine
  | .protocol => []
  | .diagnostic => writer.pendingDiagnostic.toList

/-- The lines that the writer has popped and not written. -/
def Writer.held (writer : Writer) (lane : Lane) : List LogLine :=
  writer.place.held lane ++ writer.parked lane

/-- How many lines are outstanding because of the writer. -/
def Writer.weight (writer : Writer) (lane : Lane) : Nat :=
  writer.place.weight lane + (writer.parked lane).length

/-- A line is written as often as there are lines that were merged, and they all read the same. -/
structure Merged (line : LogLine) (repetitions : Nat) (merged : List LogLine) : Prop where
  /-- The repetitions are counted. -/
  count : repetitions = merged.length + 1
  /-- There are not too many. -/
  bounded : repetitions ≤ coalesceBatch
  /-- The lines read the same. -/
  same : ∀ other ∈ merged, other.value = line.value

/-- What is known of the variables at a place. -/
def Place.Sound (pending : Option LogLine) : Place → Prop
  | .top => True
  | .writingProtocol _ burst => 1 ≤ burst ∧ burst ≤ protocolBurst
  | .countingProtocol burst => 1 ≤ burst ∧ burst ≤ protocolBurst
  | .choosing => True
  | .coalescing line repetitions merged => pending = none ∧ Merged line repetitions merged
  | .merging line repetitions merged => pending = none ∧ Merged line repetitions merged
  | .writingDiagnostic line repetitions merged => Merged line repetitions merged
  | .countingDiagnostic => True
  | _ => pending = none

/-- What is known of the writer. -/
structure Writer.Sound (writer : Writer) : Prop where
  /-- There were not too many lines for the host in a row. -/
  burst : writer.burst ≤ protocolBurst
  /-- What is known at the place. -/
  place : writer.place.Sound writer.pendingDiagnostic

/-- A lane as far as the writer changes it. -/
structure Desk where
  /-- What is in the queue. -/
  items : List LogLine
  /-- Number of lines that are counted as outstanding. -/
  outstanding : Nat
  /-- What the writer has in its hands. -/
  held : List LogLine
  /-- How many lines are outstanding because of the writer. -/
  weight : Nat

/-- A lane as the writer sees it. -/
def Writer.desk (writer : Writer) (shared : Shared queues)
    (contents : queues.Queue → List LogLine) (lane : Lane) : Desk :=
  ⟨contents (shared.lane lane).queue, (shared.lane lane).outstanding, writer.held lane,
    writer.weight lane⟩

/-- What a step of the writer does on a lane. -/
inductive Handles (lane : Lane) : Desk → Desk → Option Event → Prop where
  /-- The oldest line is popped. -/
  | take (line items outstanding held weight) :
    Handles lane ⟨line :: items, outstanding, held, weight⟩
      ⟨items, outstanding, held ++ [line], weight + 1⟩ (some (.popped lane line))
  /-- The lines in front are written as one. -/
  | write (items outstanding line repetitions merged held weight)
    (whole : Merged line repetitions merged) :
    Handles lane ⟨items, outstanding, line :: merged ++ held, weight⟩
      ⟨items, outstanding, held, weight⟩ (some (.written lane line repetitions merged))
  /-- A line is no longer counted as outstanding. -/
  | discount (items outstanding held weight) :
    Handles lane ⟨items, outstanding, held, weight + 1⟩ ⟨items, outstanding - 1, held, weight⟩ none
  /-- The lane is left alone. -/
  | keep (desk) {event : Option Event} (pops : event.toList.flatMap (Event.poppedFrom lane) = [])
    (writes : event.toList.flatMap (Event.writtenOn lane) = [])
    (takes : event.toList.flatMap (Event.takenFrom lane) = [])
    (pushes : event.toList.flatMap (Event.pushedTo lane) = []) : Handles lane desk desk event

end Writer

section Handling

variable (shared : Shared queues) (mine : Lane) {before after : Writer} {queue : queues.Queue}

/-- The writer's hands are left alone. -/
def SameHands (before after : Writer) (lane : Lane) : Prop :=
  after.held lane = before.held lane ∧ after.weight lane = before.weight lane

/-- Nothing is done on any lane. -/
theorem handles_move (hands : ∀ lane, SameHands before after lane) (lane : Lane) :
    Handles lane (before.desk shared contents lane) (after.desk shared contents lane) none := by
  obtain ⟨held, weight⟩ := hands lane
  rw [Writer.desk, Writer.desk, held, weight]
  exact .keep _ rfl rfl rfl rfl

/-- An empty queue is found empty. -/
theorem handles_empty (empty : contents (shared.lane mine).queue = []) (still : contents queue = [])
    (hands : ∀ lane, SameHands before after lane) (lane : Lane) :
    Handles lane (before.desk shared contents lane)
      (after.desk (shared.setQueue mine queue) contents lane) none := by
  obtain ⟨held, weight⟩ := hands lane
  by_cases same : lane = mine
  · subst same
    rw [Writer.desk, Writer.desk, held, weight, empty]
    simp only [lane_setQueue, still]
    exact .keep _ rfl rfl rfl rfl
  · rw [Writer.desk, Writer.desk, held, weight, Shared.setQueue, lane_setLane_ne _ _ same]
    exact .keep _ rfl rfl rfl rfl

/-- The oldest line of a queue gets into the writer's hands. -/
theorem handles_pop {line : LogLine}
    (items : contents (shared.lane mine).queue = line :: contents queue)
    (held : after.held mine = before.held mine ++ [line])
    (weight : after.weight mine = before.weight mine + 1)
    (others : ∀ lane, lane ≠ mine → SameHands before after lane) (lane : Lane) :
    Handles lane (before.desk shared contents lane)
      (after.desk (shared.setQueue mine queue) contents lane) (some (.popped mine line)) := by
  by_cases same : lane = mine
  · subst same
    rw [Writer.desk, Writer.desk, held, weight, items]
    simp only [lane_setQueue]
    exact .take _ _ _ _ _
  · obtain ⟨held, weight⟩ := others lane same
    rw [Writer.desk, Writer.desk, held, weight, Shared.setQueue, lane_setLane_ne _ _ same]
    have apart : mine ≠ lane := Ne.symm same
    apply Handles.keep <;>
      simp [Event.poppedFrom, Event.writtenOn, Event.takenFrom, Event.pushedTo, apart]

/-- A line that the writer has popped is no longer counted as outstanding. -/
theorem handles_discount (held : after.held mine = before.held mine)
    (weight : before.weight mine = after.weight mine + 1)
    (others : ∀ lane, lane ≠ mine → SameHands before after lane) (lane : Lane) :
    Handles lane (before.desk shared contents lane)
      (after.desk (shared.discount mine) contents lane) none := by
  by_cases same : lane = mine
  · subst same
    rw [Writer.desk, Writer.desk, held, weight]
    simp only [lane_discount]
    exact .discount _ _ _ _
  · obtain ⟨held, weight⟩ := others lane same
    rw [Writer.desk, Writer.desk, held, weight, Shared.discount, lane_setLane_ne _ _ same]
    exact .keep _ rfl rfl rfl rfl

/-- The lines in front of the writer's hands are written as one. -/
theorem handles_write {line : LogLine} {repetitions : Nat} {merged : List LogLine}
    (whole : Merged line repetitions merged)
    (held : before.held mine = line :: merged ++ after.held mine)
    (weight : after.weight mine = before.weight mine)
    (others : ∀ lane, lane ≠ mine → SameHands before after lane) (lane : Lane) :
    Handles lane (before.desk shared contents lane) (after.desk shared contents lane)
      (some (.written mine line repetitions merged)) := by
  by_cases same : lane = mine
  · subst same
    rw [Writer.desk, Writer.desk, held, weight]
    exact .write _ _ _ _ _ _ _ whole
  · obtain ⟨held, weight⟩ := others lane same
    rw [Writer.desk, Writer.desk, held, weight]
    have apart : mine ≠ lane := Ne.symm same
    apply Handles.keep <;>
      simp [Event.poppedFrom, Event.writtenOn, Event.takenFrom, Event.pushedTo, apart]

end Handling

section Step

/-- There is one lane other than that of the host. -/
theorem forall_ne_protocol {holds : Lane → Prop} (other : holds .diagnostic) (lane : Lane)
    (apart : lane ≠ .protocol) : holds lane := by
  cases lane with
  | protocol => exact absurd rfl apart
  | diagnostic => exact other

/-- There is one lane other than that of a reader. -/
theorem forall_ne_diagnostic {holds : Lane → Prop} (other : holds .protocol) (lane : Lane)
    (apart : lane ≠ .diagnostic) : holds lane := by
  cases lane with
  | protocol => exact other
  | diagnostic => exact absurd rfl apart

/-- The writer's hands are the same on both lanes. -/
theorem same_hands {before after : Writer} (protocol : SameHands before after .protocol)
    (diagnostic : SameHands before after .diagnostic) (lane : Lane) :
    SameHands before after lane := by
  cases lane with
  | protocol => exact protocol
  | diagnostic => exact diagnostic

variable (lawful : queues.Lawful contents capacity) (shared : Shared queues) (writer : Writer)
  (outcome : Outcome)

include lawful

/-- What a step of the writer does on each lane. -/
theorem writer_handles (sound : writer.Sound) (lane : Lane) :
    Handles lane (writer.desk shared contents lane)
      ((writer.next shared outcome).2.1.desk (writer.next shared outcome).1 contents lane)
      (writer.next shared outcome).2.2 := by
  obtain ⟨place, burst, pending, stdout, stderr⟩ := writer
  have known := sound.place
  cases place with
  | top =>
    by_cases early : burst < protocolBurst
    · rcases lawful.pop_cases shared.protocol.queue with
        ⟨after, popped, empty, still⟩ | ⟨line, after, popped, items⟩
      · simp only [Writer.next, if_pos early, popped]
        exact handles_empty shared .protocol empty still
          (by exact same_hands ⟨rfl, rfl⟩ ⟨rfl, rfl⟩) lane
      · simp only [Writer.next, if_pos early, popped]
        exact handles_pop shared .protocol items (by rfl) (by rfl)
          (by exact forall_ne_protocol ⟨rfl, rfl⟩) lane
    · simp only [Writer.next, if_neg early]
      exact handles_move shared (by exact same_hands ⟨rfl, rfl⟩ ⟨rfl, rfl⟩) lane
  | writingProtocol line count =>
    exact handles_write shared .protocol
      ⟨rfl, by decide, fun _ member => absurd member List.not_mem_nil⟩ (by rfl) (by rfl)
      (by exact forall_ne_protocol ⟨rfl, rfl⟩) lane
  | countingProtocol count =>
    exact handles_discount shared .protocol (by rfl) (by rfl)
      (by exact forall_ne_protocol ⟨rfl, rfl⟩) lane
  | choosing =>
    cases pending with
    | some line => exact handles_move shared (by exact same_hands ⟨rfl, rfl⟩ ⟨rfl, rfl⟩) lane
    | none =>
      rcases lawful.pop_cases shared.diagnostic.queue with
        ⟨after, popped, empty, still⟩ | ⟨line, after, popped, items⟩
      · simp only [Writer.next, popped]
        exact handles_empty shared .diagnostic empty still
          (by exact same_hands ⟨rfl, rfl⟩ ⟨rfl, rfl⟩) lane
      · simp only [Writer.next, popped]
        exact handles_pop shared .diagnostic items (by rfl) (by rfl)
          (by exact forall_ne_diagnostic ⟨rfl, rfl⟩) lane
  | coalescing line repetitions merged =>
    obtain ⟨rfl, whole⟩ : pending = none ∧ Merged line repetitions merged := known
    by_cases more : repetitions < coalesceBatch
    · rcases lawful.pop_cases shared.diagnostic.queue with
        ⟨after, popped, empty, still⟩ | ⟨next, after, popped, items⟩
      · simp only [Writer.next, if_pos more, popped]
        exact handles_empty shared .diagnostic empty still
          (by exact same_hands ⟨rfl, rfl⟩ ⟨rfl, rfl⟩) lane
      · by_cases same : next.value = line.value
        · simp only [Writer.next, if_pos more, popped, if_pos same]
          refine handles_pop shared .diagnostic items ?_ (by rfl)
            (by exact forall_ne_diagnostic ⟨rfl, rfl⟩) lane
          simp [Writer.held, Place.held, Writer.parked]
        · simp only [Writer.next, if_pos more, popped, if_neg same]
          refine handles_pop shared .diagnostic items ?_ (by rfl)
            (by exact forall_ne_diagnostic ⟨rfl, rfl⟩) lane
          simp [Writer.held, Place.held, Writer.parked]
    · simp only [Writer.next, if_neg more]
      exact handles_move shared (by exact same_hands ⟨rfl, rfl⟩ ⟨rfl, rfl⟩) lane
  | merging line repetitions merged =>
    obtain ⟨rfl, whole⟩ : pending = none ∧ Merged line repetitions merged := known
    exact handles_discount shared .diagnostic (by rfl) (by rfl)
      (by exact forall_ne_diagnostic ⟨rfl, rfl⟩) lane
  | writingDiagnostic line repetitions merged =>
    exact handles_write shared .diagnostic known (by rfl) (by rfl)
      (by exact forall_ne_diagnostic ⟨rfl, rfl⟩) lane
  | countingDiagnostic =>
    refine handles_discount shared .diagnostic (by rfl) ?_
      (by exact forall_ne_diagnostic ⟨rfl, rfl⟩) lane
    simp [Writer.next, Writer.weight, Place.weight, Writer.parked, Nat.add_comm]
  | fallback =>
    rcases lawful.pop_cases shared.protocol.queue with
      ⟨after, popped, empty, still⟩ | ⟨line, after, popped, items⟩
    · simp only [Writer.next, popped]
      exact handles_empty shared .protocol empty still
          (by exact same_hands ⟨rfl, rfl⟩ ⟨rfl, rfl⟩) lane
    · simp only [Writer.next, popped]
      exact handles_pop shared .protocol items (by rfl) (by rfl)
          (by exact forall_ne_protocol ⟨rfl, rfl⟩) lane
  | idleProtocol | idleDiagnostic | idleProducers | comparing | remaining | emptyProtocol
  | emptyDiagnostic =>
    simp only [Writer.next]
    split
    all_goals exact handles_move shared (by exact same_hands ⟨rfl, rfl⟩ ⟨rfl, rfl⟩) lane
  | observing | waiting =>
    exact handles_move shared (by exact same_hands ⟨rfl, rfl⟩ ⟨rfl, rfl⟩) lane
  | requested =>
    simp only [Writer.next]
    split
    all_goals exact handles_move shared (by exact same_hands ⟨rfl, rfl⟩ ⟨rfl, rfl⟩) lane
  | completing requested => cases lane <;> exact .keep _ rfl rfl rfl rfl
  | stopping =>
    simp only [Writer.next]
    split
    · cases lane <;> exact .keep _ rfl rfl rfl rfl
    · exact handles_move shared (by exact same_hands ⟨rfl, rfl⟩ ⟨rfl, rfl⟩) lane
  | returned => cases lane <;> exact .keep _ rfl rfl rfl rfl
  | stopped => exact handles_move shared (by exact same_hands ⟨rfl, rfl⟩ ⟨rfl, rfl⟩) lane

end Step

section Consequences

variable {lane : Lane}

/-- The queue before a step of a call, with what is pushed, is what is taken, with the queue after
it. -/
theorem Enqueue.Moves.queue {before after : View} {place next : Enqueue} {event : Option Event}
    (moved : Enqueue.Moves lane before place after next event) :
    before.items ++ event.toList.flatMap (Event.pushedTo lane) =
      event.toList.flatMap (Event.takenFrom lane) ++ after.items := by
  cases moved with
  | finish view line => cases line <;> simp [Event.pushedTo, Event.takenFrom]
  | _ => simp [Event.pushedTo, Event.takenFrom]

/-- A step of a call changes what is outstanding as it changes the lines there are. -/
theorem Enqueue.Moves.balance {before after : View} {place next : Enqueue} {event : Option Event}
    (moved : Enqueue.Moves lane before place after next event)
    (counted : before.items.length + place.weight ≤ before.outstanding) :
    after.outstanding + (before.items.length + place.weight) =
      before.outstanding + (after.items.length + next.weight) := by
  cases moved with
  | empty view line left => cases left <;> simp [Enqueue.again, Enqueue.weight] at counted ⊢
  | record view line oldest left =>
    cases left <;> simp [Enqueue.again, Enqueue.weight] at counted ⊢
  | _ => simp [Enqueue.weight] at counted ⊢ <;> omega

/-- A step of a call changes the number of producers as it becomes one or ends to be one. -/
theorem Enqueue.Moves.producers {before after : View} {place next : Enqueue}
    {event : Option Event} (moved : Enqueue.Moves lane before place after next event)
    (counted : place.active.toNat ≤ before.producers) :
    after.producers + place.active.toNat = before.producers + next.active.toNat := by
  cases moved with
  | empty view line left => cases left <;> simp [Enqueue.again, Enqueue.active] at counted ⊢
  | record view line oldest left =>
    cases left <;> simp [Enqueue.again, Enqueue.active] at counted ⊢
  | _ => simp [Enqueue.active] at counted ⊢ <;> omega

/-- A line in the queue, or popped to make room, stays one of these until it is counted as
dropped. -/
theorem Enqueue.Moves.located {before after : View} {place next : Enqueue} {event : Option Event}
    (moved : Enqueue.Moves lane before place after next event) {line : LogLine}
    (here : line ∈ before.items ∨ line ∈ place.evicting) :
    line ∈ after.items ∨ line ∈ next.evicting ∨ event = some (.dropped lane line) := by
  cases moved with
  | empty view other left =>
    cases left <;> simpa [Enqueue.again, Enqueue.evicting] using here
  | record view other oldest left =>
    cases left <;> simp [Enqueue.again, Enqueue.evicting] at here ⊢ <;> tauto
  | _ =>
    simp [Enqueue.evicting] at here ⊢
    tauto

/-- A line that is popped to make room was in the queue. -/
theorem Enqueue.Moves.evicting {before after : View} {place next : Enqueue} {event : Option Event}
    (moved : Enqueue.Moves lane before place after next event) {line : LogLine}
    (here : line ∈ next.evicting) : line ∈ place.evicting ∨ line ∈ before.items := by
  cases moved with
  | empty view other left => cases left <;> cases here
  | record view other oldest left => cases left <;> cases here
  | _ => simp [Enqueue.evicting] at here ⊢ <;> tauto

/-- A line that a call is done with was pushed, or counted as dropped. -/
theorem Enqueue.Moves.handed {before after : View} {place next : Enqueue} {event : Option Event}
    (moved : Enqueue.Moves lane before place after next event) {line : LogLine}
    (here : line ∈ next.handed) :
    line ∈ place.handed ∨ line ∈ after.items ∨ event = some (.dropped lane line) := by
  cases moved with
  | empty view other left => cases left <;> cases here
  | record view other oldest left => cases left <;> cases here
  | _ => simp [Enqueue.handed] at here ⊢ <;> tauto

/-- The queue before a step of the writer, with what is pushed, is what is taken, with the queue
after it. -/
theorem Handles.queue {before after : Desk} {event : Option Event}
    (handled : Handles lane before after event) :
    before.items ++ event.toList.flatMap (Event.pushedTo lane) =
      event.toList.flatMap (Event.takenFrom lane) ++ after.items := by
  cases handled with
  | keep desk pops writes takes pushes => rw [takes, pushes, List.append_nil, List.nil_append]
  | _ => simp [Event.pushedTo, Event.takenFrom]

/-- What the writer has in its hands, with what it pops, is what it writes, with what it has in its
hands afterwards. -/
theorem Handles.hands {before after : Desk} {event : Option Event}
    (handled : Handles lane before after event) :
    before.held ++ event.toList.flatMap (Event.poppedFrom lane) =
      event.toList.flatMap (Event.writtenOn lane) ++ after.held := by
  cases handled with
  | keep desk pops writes takes pushes => rw [pops, writes, List.append_nil, List.nil_append]
  | _ => simp [Event.poppedFrom, Event.writtenOn]

/-- A step of the writer changes what is outstanding as it changes the lines there are. -/
theorem Handles.balance {before after : Desk} {event : Option Event}
    (handled : Handles lane before after event)
    (counted : before.items.length + before.weight ≤ before.outstanding) :
    after.outstanding + (before.items.length + before.weight) =
      before.outstanding + (after.items.length + after.weight) := by
  cases handled <;> simp at counted ⊢ <;> omega

end Consequences

section Sound

/-- What is known of the writer is kept. -/
theorem writer_sound (shared : Shared queues) (writer : Writer) (outcome : Outcome)
    (sound : writer.Sound) : (writer.next shared outcome).2.1.Sound := by
  obtain ⟨place, burst, pending, stdout, stderr⟩ := writer
  obtain ⟨bounded, known⟩ := sound
  have one (line : LogLine) : Merged line 1 [] :=
    ⟨rfl, by decide, fun _ member => absurd member List.not_mem_nil⟩
  cases place with
  | top =>
    simp only [Writer.next]
    split
    · rename_i early
      split
      · exact ⟨bounded, Nat.le_add_left 1 burst, early⟩
      · exact ⟨bounded, trivial⟩
    · exact ⟨bounded, trivial⟩
  | writingProtocol line count => exact ⟨bounded, known⟩
  | countingProtocol count => exact ⟨known.2, trivial⟩
  | choosing =>
    cases pending with
    | some line => exact ⟨bounded, rfl, one line⟩
    | none =>
      simp only [Writer.next]
      split
      · exact ⟨bounded, rfl, one _⟩
      · exact ⟨bounded, rfl⟩
  | coalescing line repetitions merged =>
    obtain ⟨rfl, whole⟩ : pending = none ∧ Merged line repetitions merged := known
    simp only [Writer.next]
    split
    · rename_i more
      split
      · exact ⟨bounded, whole⟩
      · rename_i next queue popped
        split
        · rename_i same
          refine ⟨bounded, rfl, ?_, more, ?_⟩
          · rw [List.length_append, whole.count]
            rfl
          · intro other member
            rcases List.mem_append.mp member with old | new
            · exact whole.same other old
            · rw [List.mem_singleton.mp new, same]
        · exact ⟨bounded, whole⟩
    · exact ⟨bounded, whole⟩
  | merging line repetitions merged => exact ⟨bounded, known⟩
  | writingDiagnostic line repetitions merged => exact ⟨bounded, trivial⟩
  | countingDiagnostic => exact ⟨Nat.zero_le _, trivial⟩
  | fallback =>
    simp only [Writer.next]
    split
    · exact ⟨bounded, Nat.le_refl 1, by decide⟩
    · exact ⟨bounded, known⟩
  | comparing | remaining | emptyProtocol | emptyDiagnostic =>
    simp only [Writer.next]
    split
    · exact ⟨bounded, by first | exact known | trivial⟩
    · exact ⟨bounded, by first | exact known | trivial⟩
  | idleProtocol | idleDiagnostic | idleProducers | requested | stopping =>
    simp only [Writer.next]
    split
    · exact ⟨bounded, known⟩
    · exact ⟨bounded, known⟩
  | waiting => exact ⟨bounded, trivial⟩
  | completing | observing | returned | stopped => exact ⟨bounded, known⟩

end Sound

end Focsq.Logging
