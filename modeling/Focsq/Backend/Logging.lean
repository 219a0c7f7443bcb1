import Focsq.Backend.PacketQueue
import Focsq.Lib.Tasks
import Focsq.Lib.Text

/-!
# The log

Lines of the log are queued by any number of threads, and one thread of its own writes them:
`logging.rs`. There are two lanes, each with a queue that drops its oldest line when it is full.

An atomic step is one access to what the threads share. A list of actions is an interleaving.
What the program does not know is that lines are numbered as they are counted, and which lines were
merged into one that is written.
-/

namespace Focsq.Logging

open Dispatcher (ArrayQueue)

/-- `PROTOCOL_CAPACITY`. -/
def protocolCapacity : Nat := 128

/-- `DIAGNOSTIC_CAPACITY`. -/
def diagnosticCapacity : Nat := 512

/-- `MAX_LINE_BYTES`. -/
def maxLineBytes : Nat := 4096

/-- `PROTOCOL_BURST`. -/
def protocolBurst : Nat := 32

/-- `COALESCE_BATCH`. -/
def coalesceBatch : Nat := 64

/-- `BoundedLine` — a line that is put together. -/
structure BoundedLine where
  /-- `value`. -/
  value : Text
  /-- `full`. -/
  full : Bool
  deriving DecidableEq

/-- `BoundedLine::new`. -/
def BoundedLine.new : BoundedLine := ⟨[], false⟩

/-- The characters from the front that fit into so many bytes. -/
def fitting (room : Nat) : Text → Text
  | [] => []
  | char :: rest => if char.utf8Size ≤ room then char :: fitting (room - char.utf8Size) rest else []

/-- `write_str`. -/
def BoundedLine.writeStr (line : BoundedLine) (value : Text) : BoundedLine :=
  if line.full then line
  else
    let remaining := maxLineBytes - line.value.utf8Length
    if value.utf8Length ≤ remaining then { line with value := line.value ++ value }
    else { value := line.value ++ fitting remaining value, full := true }

/-- `format_line` — of what the arguments write; formatting may fail or panic. -/
def formatLine (arguments : Option (List Text)) : Option Text :=
  arguments.map fun pieces => (pieces.foldl BoundedLine.writeStr .new).value

/-- `LogLine`. -/
structure LogLine where
  /-- `value`. -/
  value : Text
  /-- Number of lines that were counted before. -/
  stamp : Nat
  deriving DecidableEq

/-- Lines for the host, and lines for a reader. -/
inductive Lane where
  /-- Written to `stdout`. -/
  | protocol
  /-- Written to `stderr`. -/
  | diagnostic
  deriving DecidableEq

/-- What belongs to a lane. -/
structure LaneState (queues : ArrayQueue LogLine) where
  /-- `protocol`, `diagnostic`. -/
  queue : queues.Queue
  /-- `protocol_outstanding`, `diagnostic_outstanding`. -/
  outstanding : Nat
  /-- `dropped_protocol`, `dropped_diagnostic`. -/
  dropped : UInt64

/-- `Shared` — what the threads share. -/
structure Shared (queues : ArrayQueue LogLine) where
  /-- The lines for the host. -/
  protocol : LaneState queues
  /-- The lines for a reader. -/
  diagnostic : LaneState queues
  /-- `producers`. -/
  producers : Nat
  /-- `accepting`. -/
  accepting : Bool
  /-- `shutdown`. -/
  shutdown : Bool
  /-- `stopped`. -/
  stopped : Bool
  /-- `flush_requested`. -/
  flushRequested : Nat
  /-- `flush_completed`. -/
  flushCompleted : Nat
  /-- `wake_generation`. -/
  wakeGeneration : UInt64
  /-- Number of lines that were counted. -/
  stamps : Nat

variable {queues : ArrayQueue LogLine}

/-- `Shared::new`. -/
def Shared.new (queues : ArrayQueue LogLine) (protocolCapacity diagnosticCapacity : Nat) :
    Shared queues where
  protocol := ⟨queues.new (max protocolCapacity 1), 0, 0⟩
  diagnostic := ⟨queues.new (max diagnosticCapacity 1), 0, 0⟩
  producers := 0
  accepting := true
  shutdown := false
  stopped := false
  flushRequested := 0
  flushCompleted := 0
  wakeGeneration := 0
  stamps := 0

/-- The state of a lane. -/
def Shared.lane (shared : Shared queues) : Lane → LaneState queues
  | .protocol => shared.protocol
  | .diagnostic => shared.diagnostic

/-- The state of a lane is replaced. -/
def Shared.setLane (shared : Shared queues) (state : LaneState queues) : Lane → Shared queues
  | .protocol => { shared with protocol := state }
  | .diagnostic => { shared with diagnostic := state }

/-- The queue of a lane is replaced. -/
def Shared.setQueue (shared : Shared queues) (lane : Lane) (queue : queues.Queue) : Shared queues :=
  shared.setLane { shared.lane lane with queue } lane

/-- `outstanding.fetch_sub`. -/
def Shared.discount (shared : Shared queues) (lane : Lane) : Shared queues :=
  shared.setLane
    { shared.lane lane with outstanding := (shared.lane lane).outstanding - 1 } lane

/-- `dropped.fetch_add`. -/
def Shared.drop (shared : Shared queues) (lane : Lane) : Shared queues :=
  shared.setLane { shared.lane lane with dropped := (shared.lane lane).dropped + 1 } lane

/-- `notify_writer`. -/
def Shared.notifyWriter (shared : Shared queues) : Shared queues :=
  { shared with wakeGeneration := shared.wakeGeneration + 1 }

/-- What happens. -/
inductive Event where
  /-- A line is pushed. -/
  | pushed (lane : Lane) (line : LogLine)
  /-- A line is popped to make room. -/
  | evicted (lane : Lane) (line : LogLine)
  /-- A line is counted as dropped. -/
  | dropped (lane : Lane) (line : LogLine)
  /-- A call that queues a line returns. -/
  | enqueued (lane : Lane) (line : LogLine)
  /-- `flush` makes its request. -/
  | requested (generation : Nat)
  /-- The writer is asked to end. -/
  | stopRequested
  /-- The writer pops a line. -/
  | popped (lane : Lane) (line : LogLine)
  /-- The writer writes a line for itself and those that were merged into it. -/
  | written (lane : Lane) (line : LogLine) (repetitions : Nat) (merged : List LogLine)
  /-- The writer completes the requests up to one. -/
  | completed (generation : Nat)
  /-- The writer sees that it was asked to end; it flushes and returns. -/
  | returned
  deriving DecidableEq

/-- Where a call of `enqueue_protocol` or `enqueue_diagnostic` stands. -/
inductive Enqueue where
  /-- `begin_producer` loads `accepting` next. -/
  | reading
  /-- `begin_producer` counts the producer next. -/
  | entering
  /-- `begin_producer` loads `accepting` once more next. -/
  | checking
  /-- `replace_oldest` counts the line next. -/
  | counting (value : Text)
  /-- The line is pushed next, with so many further tries. -/
  | pushing (line : LogLine) (left : Nat)
  /-- The oldest line is popped next. -/
  | popping (line : LogLine) (left : Nat)
  /-- `outstanding` is decremented next for the popped line. -/
  | discounting (line oldest : LogLine) (left : Nat)
  /-- The popped line is counted as dropped next. -/
  | recording (line oldest : LogLine) (left : Nat)
  /-- `outstanding` is decremented next for a line that was not pushed. -/
  | abandoning (line : LogLine)
  /-- A line that was not pushed is counted as dropped next. -/
  | conceding (line : LogLine)
  /-- `notify_writer` of `push_protocol` or `push_diagnostic` is next. -/
  | waking (line : LogLine)
  /-- `finish_producer` decrements the number of producers next. -/
  | leaving (line : Option LogLine)
  /-- `notify_writer` of `finish_producer` is next. -/
  | returning (line : Option LogLine)
  /-- It returned. -/
  | done (line : Option LogLine)
  deriving DecidableEq

/-- The place before a further try to push a line. -/
def Enqueue.again (line : LogLine) : Nat → Enqueue
  | 0 => .abandoning line
  | left + 1 => .pushing line left

/-- The next step of a call that queues a line. -/
def Enqueue.next (shared : Shared queues) (lane : Lane) (arguments : Option (List Text)) :
    Enqueue → Shared queues × Enqueue × Option Event
  | .reading => (shared, if shared.accepting then .entering else .done none, none)
  | .entering => ({ shared with producers := shared.producers + 1 }, .checking, none)
  | .checking =>
    if shared.accepting then
      match formatLine arguments with
      | some value => (shared, .counting value, none)
      | none => (shared, .leaving none, none)
    else (shared, .leaving none, none)
  | .counting value =>
    let state := shared.lane lane
    let counted := shared.setLane { state with outstanding := state.outstanding + 1 } lane
    ({ counted with stamps := shared.stamps + 1 }, .pushing ⟨value, shared.stamps⟩ 3, none)
  | .pushing line left =>
    match queues.push (shared.lane lane).queue line with
    | (none, queue) => (shared.setQueue lane queue, .waking line, some (.pushed lane line))
    | (some returned, queue) => (shared.setQueue lane queue, .popping returned left, none)
  | .popping line left =>
    match queues.pop (shared.lane lane).queue with
    | (some oldest, queue) =>
      (shared.setQueue lane queue, .discounting line oldest left, some (.evicted lane oldest))
    | (none, queue) => (shared.setQueue lane queue, .again line left, none)
  | .discounting line oldest left => (shared.discount lane, .recording line oldest left, none)
  | .recording line oldest left =>
    (shared.drop lane, .again line left, some (.dropped lane oldest))
  | .abandoning line => (shared.discount lane, .conceding line, none)
  | .conceding line => (shared.drop lane, .waking line, some (.dropped lane line))
  | .waking line => (shared.notifyWriter, .leaving (some line), none)
  | .leaving line => ({ shared with producers := shared.producers - 1 }, .returning line, none)
  | .returning line => (shared.notifyWriter, .done line, line.map (.enqueued lane))
  | .done line => (shared, .done line, none)

/-- Where a call of `flush` stands. -/
inductive Flush where
  /-- It loads `stopped` next. -/
  | checking
  /-- It makes its request next. -/
  | requesting
  /-- `notify_writer` is next. -/
  | waking (generation : Nat)
  /-- It waits for the writer. -/
  | waiting (generation : Nat)
  /-- It returned. -/
  | done (answer : Bool)
  deriving DecidableEq

/-- The next step of `flush`; a wait may be over because of the time. -/
def Flush.next (shared : Shared queues) (timeout : Bool) :
    Flush → Shared queues × Flush × Option Event
  | .checking => (shared, if shared.stopped then .done true else .requesting, none)
  | .requesting =>
    let generation := shared.flushRequested + 1
    ({ shared with flushRequested := generation }, .waking generation,
      some (.requested generation))
  | .waking generation => (shared.notifyWriter, .waiting generation, none)
  | .waiting generation =>
    if generation ≤ shared.flushCompleted || shared.stopped then (shared, .done true, none)
    else (shared, if timeout then .done false else .waiting generation, none)
  | .done answer => (shared, .done answer, none)

/-- Where a call of `shutdown`, or the `drop` of the logger, stands. -/
inductive Stop where
  /-- It stores `accepting` next. -/
  | refusing
  /-- It stores `shutdown` next. -/
  | requesting
  /-- `notify_writer` is next. -/
  | waking
  /-- It waits for the writer. -/
  | waiting
  /-- It returned. -/
  | done (answer : Bool)
  deriving DecidableEq

/-- The next step of `shutdown`, or of `drop`, which does not wait. -/
def Stop.next (shared : Shared queues) (waits timeout : Bool) :
    Stop → Shared queues × Stop × Option Event
  | .refusing => ({ shared with accepting := false }, .requesting, none)
  | .requesting => ({ shared with shutdown := true }, .waking, some .stopRequested)
  | .waking => (shared.notifyWriter, if waits then .waiting else .done false, none)
  | .waiting =>
    if shared.stopped then (shared, .done true, none)
    else (shared, if timeout then .done false else .waiting, none)
  | .done answer => (shared, .done answer, none)

/-- A call. -/
inductive Call where
  /-- `enqueue_protocol`, `enqueue_diagnostic`. -/
  | enqueue (lane : Lane) (arguments : Option (List Text))
  /-- `flush`. -/
  | flush
  /-- `shutdown`. -/
  | shutdown
  /-- `drop` of the logger. -/
  | drop
  deriving DecidableEq

/-- A call and where it stands. -/
inductive Task where
  /-- `enqueue_protocol`, `enqueue_diagnostic`. -/
  | enqueue (lane : Lane) (arguments : Option (List Text)) (place : Enqueue)
  /-- `flush`. -/
  | flush (place : Flush)
  /-- `shutdown`, or `drop`, which does not wait. -/
  | stop (waits : Bool) (place : Stop)
  deriving DecidableEq

/-- A call begins. -/
def Call.enter : Call → Task
  | .enqueue lane arguments => .enqueue lane arguments .reading
  | .flush => .flush .checking
  | .shutdown => .stop true .refusing
  | .drop => .stop false .refusing

/-- The next step of a call. -/
def Task.next (shared : Shared queues) (task : Task) (timeout : Bool) :
    Shared queues × Task × Option Event :=
  match task with
  | .enqueue lane arguments place =>
    let (shared, place, event) := place.next shared lane arguments
    (shared, .enqueue lane arguments place, event)
  | .flush place =>
    let (shared, place, event) := place.next shared timeout
    (shared, .flush place, event)
  | .stop waits place =>
    let (shared, place, event) := place.next shared waits timeout
    (shared, .stop waits place, event)

/-- `Sink` — what was passed on to be written, and whether that has failed. -/
structure Sink where
  /-- What `write_all` was called with. -/
  writer : List Text
  /-- `disabled`. -/
  disabled : Bool
  deriving DecidableEq

/-- `Sink::new`. -/
def Sink.new : Sink := ⟨[], false⟩

/-- The text of a line with the number of its repetitions. -/
def render (value : Text) (repetitions : Nat) : Text :=
  value ++ (if 1 < repetitions then " (x".toList ++ (toString repetitions).toList ++ [')'] else []) ++
    ['\n']

/-- `write_line`. -/
def Sink.writeLine (sink : Sink) (value : Text) (repetitions : Nat) (succeeds : Bool) : Sink :=
  if sink.disabled then sink
  else { writer := sink.writer ++ [render value repetitions], disabled := !succeeds }

/-- `flush`. -/
def Sink.flush (sink : Sink) (succeeds : Bool) : Sink :=
  if sink.disabled then sink else { sink with disabled := !succeeds }

/-- Where `writer_loop` stands. -/
inductive Place where
  /-- A turn begins. -/
  | top
  /-- A line for the host is written next. -/
  | writingProtocol (line : LogLine) (burst : Nat)
  /-- `protocol_outstanding` is decremented next. -/
  | countingProtocol (burst : Nat)
  /-- A line for a reader is looked for next. -/
  | choosing
  /-- A further line for a reader is popped next. -/
  | coalescing (line : LogLine) (repetitions : Nat) (merged : List LogLine)
  /-- `diagnostic_outstanding` is decremented next for a merged line. -/
  | merging (line : LogLine) (repetitions : Nat) (merged : List LogLine)
  /-- A line for a reader is written next. -/
  | writingDiagnostic (line : LogLine) (repetitions : Nat) (merged : List LogLine)
  /-- `diagnostic_outstanding` is decremented next. -/
  | countingDiagnostic
  /-- A line for the host is looked for once more next. -/
  | fallback
  /-- `idle` loads `protocol_outstanding` next. -/
  | idleProtocol
  /-- `idle` loads `diagnostic_outstanding` next. -/
  | idleDiagnostic
  /-- `idle` loads `producers` next. -/
  | idleProducers
  /-- `flush_requested` is loaded next. -/
  | requested
  /-- `complete_flush` is next. -/
  | completing (requested : Nat)
  /-- `shutdown` is loaded next. -/
  | stopping
  /-- `wake_generation` is loaded next. -/
  | observing
  /-- `wake_generation` is loaded once more next. -/
  | comparing (observed : UInt64)
  /-- `shutdown` is loaded next before the wait. -/
  | remaining
  /-- `protocol.is_empty` is next. -/
  | emptyProtocol
  /-- `diagnostic.is_empty` is next. -/
  | emptyDiagnostic
  /-- It waits to be woken, or for the time. -/
  | waiting
  /-- `mark_stopped` is next. -/
  | returned
  /-- The thread has ended. -/
  | stopped
  deriving DecidableEq

/-- The variables of `writer_loop`. -/
structure Writer where
  /-- Where it stands. -/
  place : Place
  /-- `protocol_burst`. -/
  burst : Nat
  /-- `pending_diagnostic`. -/
  pendingDiagnostic : Option LogLine
  /-- `stdout`. -/
  stdout : Sink
  /-- `stderr`. -/
  stderr : Sink
  deriving DecidableEq

/-- The writer's thread begins. -/
def Writer.new : Writer := ⟨.top, 0, none, .new, .new⟩

/-- Whether what is written succeeds. -/
structure Outcome where
  /-- To `stdout`. -/
  stdout : Bool
  /-- To `stderr`. -/
  stderr : Bool
  deriving DecidableEq

/-- Both are flushed. -/
def Writer.flush (writer : Writer) (outcome : Outcome) : Writer :=
  { writer with
    stdout := writer.stdout.flush outcome.stdout
    stderr := writer.stderr.flush outcome.stderr }

/-- The next step of the writer's thread. -/
def Writer.next (shared : Shared queues) (writer : Writer) (outcome : Outcome) :
    Shared queues × Writer × Option Event :=
  let goes (place : Place) := { writer with place }
  match writer.place with
  | .top =>
    if writer.burst < protocolBurst then
      match queues.pop shared.protocol.queue with
      | (some line, queue) =>
        (shared.setQueue .protocol queue, goes (.writingProtocol line (writer.burst + 1)),
          some (.popped .protocol line))
      | (none, queue) => (shared.setQueue .protocol queue, goes .choosing, none)
    else (shared, goes .choosing, none)
  | .writingProtocol line burst =>
    (shared,
      { writer with
        place := .countingProtocol burst
        stdout := writer.stdout.writeLine line.value 1 outcome.stdout },
      some (.written .protocol line 1 []))
  | .countingProtocol burst =>
    (shared.discount .protocol, { writer with place := .top, burst }, none)
  | .choosing =>
    match writer.pendingDiagnostic with
    | some line =>
      (shared, { writer with place := .coalescing line 1 [], pendingDiagnostic := none }, none)
    | none =>
      match queues.pop shared.diagnostic.queue with
      | (some line, queue) =>
        (shared.setQueue .diagnostic queue, goes (.coalescing line 1 []),
          some (.popped .diagnostic line))
      | (none, queue) => (shared.setQueue .diagnostic queue, goes .fallback, none)
  | .coalescing line repetitions merged =>
    if repetitions < coalesceBatch then
      match queues.pop shared.diagnostic.queue with
      | (none, queue) =>
        (shared.setQueue .diagnostic queue, goes (.writingDiagnostic line repetitions merged), none)
      | (some next, queue) =>
        if next.value = line.value then
          (shared.setQueue .diagnostic queue,
            goes (.merging line (repetitions + 1) (merged ++ [next])),
            some (.popped .diagnostic next))
        else
          (shared.setQueue .diagnostic queue,
            { writer with
              place := .writingDiagnostic line repetitions merged
              pendingDiagnostic := some next },
            some (.popped .diagnostic next))
    else (shared, goes (.writingDiagnostic line repetitions merged), none)
  | .merging line repetitions merged =>
    (shared.discount .diagnostic, goes (.coalescing line repetitions merged), none)
  | .writingDiagnostic line repetitions merged =>
    (shared,
      { writer with
        place := .countingDiagnostic
        stderr := writer.stderr.writeLine line.value repetitions outcome.stderr },
      some (.written .diagnostic line repetitions merged))
  | .countingDiagnostic =>
    (shared.discount .diagnostic, { writer with place := .top, burst := 0 }, none)
  | .fallback =>
    match queues.pop shared.protocol.queue with
    | (some line, queue) =>
      (shared.setQueue .protocol queue, goes (.writingProtocol line 1),
        some (.popped .protocol line))
    | (none, queue) => (shared.setQueue .protocol queue, goes .idleProtocol, none)
  | .idleProtocol =>
    (shared, goes (if shared.protocol.outstanding = 0 then .idleDiagnostic else .observing), none)
  | .idleDiagnostic =>
    (shared, goes (if shared.diagnostic.outstanding = 0 then .idleProducers else .observing), none)
  | .idleProducers =>
    (shared, goes (if shared.producers = 0 then .requested else .observing), none)
  | .requested =>
    let requested := shared.flushRequested
    -- Only the writer stores `flush_completed`, so that this load may be part of the step.
    if shared.flushCompleted < requested then
      (shared, { writer.flush outcome with place := .completing requested }, none)
    else (shared, goes .stopping, none)
  | .completing requested =>
    ({ shared with flushCompleted := requested }, goes .stopping, some (.completed requested))
  | .stopping =>
    if shared.shutdown then
      (shared, { writer.flush outcome with place := .returned }, some .returned)
    else (shared, goes .observing, none)
  | .observing => (shared, goes (.comparing shared.wakeGeneration), none)
  | .comparing observed =>
    (shared, goes (if observed = shared.wakeGeneration then .remaining else .top), none)
  | .remaining => (shared, goes (if shared.shutdown then .top else .emptyProtocol), none)
  | .emptyProtocol =>
    (shared, goes (if queues.len shared.protocol.queue = 0 then .emptyDiagnostic else .top), none)
  | .emptyDiagnostic =>
    (shared, goes (if queues.len shared.diagnostic.queue = 0 then .waiting else .top), none)
  | .waiting => (shared, goes .top, none)
  | .returned => ({ shared with stopped := true }, goes .stopped, none)
  | .stopped => (shared, writer, none)

/-- `Logger` — the calls, and the writer's thread. -/
structure Logger (queues : ArrayQueue LogLine) where
  /-- The calls on what is shared. -/
  pool : Tasks.Pool (Shared queues) Task
  /-- The writer's thread. -/
  writer : Writer

/-- `with_writers`; the thread cannot always be started. -/
def Logger.withWriters (queues : ArrayQueue LogLine) (protocolCapacity diagnosticCapacity : Nat)
    (spawned : Bool) : Logger queues :=
  let shared := Shared.new queues protocolCapacity diagnosticCapacity
  if spawned then ⟨⟨shared, []⟩, .new⟩
  else ⟨⟨{ shared with accepting := false, stopped := true }, []⟩, { Writer.new with place := .stopped }⟩

/-- An atomic step. -/
inductive Action where
  /-- A call begins or makes a step; its wait may be over because of the time. -/
  | call (action : Tasks.Action Call Bool)
  /-- The writer makes a step. -/
  | write (outcome : Outcome)
  deriving DecidableEq

/-- One action. -/
def Logger.step (logger : Logger queues) : Action → Logger queues × Option Event
  | .call action =>
    let (pool, event) := logger.pool.step Call.enter Task.next action
    ({ logger with pool }, event)
  | .write outcome =>
    let (shared, writer, event) := logger.writer.next logger.pool.shared outcome
    ({ pool := { logger.pool with shared }, writer }, event)

end Focsq.Logging
