import Focsq.Verif.Packet
import Focsq.Verif.Returns

/-!
# What is written to the tunnel

Every packet that is its turn is written as a whole or dropped, and the next one is taken only then.
The device gets the bytes of the packets one after the other, of a dropped packet only the part that
it took before, and the bytes of the packets that are written are counted.
-/

namespace Focsq.Dispatcher

open FlowFrame Packet StripedScheduler

variable {queues : ArrayQueue (QueuedPacket PacketBuf)} {notifies : Notify}
  {contents : queues.Queue → List (QueuedPacket PacketBuf)} {capacity : queues.Queue → Nat}

section Events

/-- How it ended with a packet. -/
structure Fate where
  /-- The packet. -/
  packet : PacketBuf
  /-- How much of it the device took. -/
  written : Nat
  /-- Whether it is written. -/
  complete : Bool

/-- The part of the packet that the device took. -/
def Fate.bytes (fate : Fate) : List UInt8 := fate.packet.asSlice.take fate.written

/-- The packets whose turn it was. -/
def tookOf (events : List TunEvent) : List PacketBuf :=
  events.filterMap fun event =>
    match event with
    | .took packet => some packet
    | _ => none

/-- The bytes that the device took. -/
def wroteOf (events : List TunEvent) : List UInt8 :=
  events.flatMap fun event =>
    match event with
    | .wrote bytes => bytes
    | _ => []

/-- The packets that are written. -/
def completedOf (events : List TunEvent) : List PacketBuf :=
  events.filterMap fun event =>
    match event with
    | .completed packet => some packet
    | _ => none

/-- The packets that sessions returned. -/
def returnedOf (actions : List TunAction) : List PacketBuf :=
  actions.filterMap fun action =>
    match action with
    | .returned packet => some packet
    | _ => none

/-- The device does not take more than it is given. -/
def Honest (writer : TunWriter queues notifies) : TunAction → Prop
  | .write (.taken length) => ∀ pending ∈ writer.pending, pending.2 + length ≤ pending.1.len
  | _ => True

instance (writer : TunWriter queues notifies) : DecidablePred (Honest writer)
  | .write (.taken length) =>
    inferInstanceAs (Decidable (∀ pending ∈ writer.pending, pending.2 + length ≤ pending.1.len))
  | .write (.failed _) => isTrue trivial
  | .write .notReady => isTrue trivial
  | .returned _ => isTrue trivial
  | .receive => isTrue trivial

end Events

section Progress

/-- What became of the packets whose turn it was, and of the one whose turn it is. -/
structure Written (events : List TunEvent) (finished : List Fate)
    (writer : TunWriter queues notifies) : Prop where
  /-- Packets come one after the other. -/
  took : tookOf events = finished.map Fate.packet ++ (writer.pending.map Prod.fst).toList
  /-- So do their bytes. -/
  wrote : wroteOf events = finished.flatMap Fate.bytes ++
    (writer.pending.map fun pending => pending.1.asSlice.take pending.2).getD []
  /-- What is written. -/
  completed : completedOf events = (finished.filter Fate.complete).map Fate.packet
  /-- What is written is written as a whole. -/
  whole : ∀ fate ∈ finished, fate.complete = true → fate.written = fate.packet.len
  /-- How much of the pending packet is written. -/
  part : ∀ pending, writer.pending = some pending → pending.2 ≤ pending.1.len
  /-- What is counted. -/
  total : writer.totalBytesDown = ((completedOf events).map PacketBuf.len).sum

variable {events : List TunEvent} {finished : List Fate} {writer : TunWriter queues notifies}

/-- What is seen later is seen behind what was seen before. -/
theorem events_append (first second : List TunEvent) :
    tookOf (first ++ second) = tookOf first ++ tookOf second ∧
      wroteOf (first ++ second) = wroteOf first ++ wroteOf second ∧
      completedOf (first ++ second) = completedOf first ++ completedOf second :=
  ⟨List.filterMap_append, List.flatMap_append, List.filterMap_append⟩

/-- Only what is pending and what is counted matter. -/
theorem Written.congr (written : Written events finished writer)
    {other : TunWriter queues notifies} (pending : other.pending = writer.pending)
    (total : other.totalBytesDown = writer.totalBytesDown) : Written events finished other where
  took := by rw [pending]; exact written.took
  wrote := by rw [pending]; exact written.wrote
  completed := written.completed
  whole := written.whole
  part := by rw [pending]; exact written.part
  total := total.trans written.total

/-- The next packet is taken when there is none. -/
theorem Written.takeNext (written : Written events finished writer) (clock : Nat → Nat)
    (idle : writer.pending = none) :
    Written (events ++ (writer.takeNext clock).2) finished (writer.takeNext clock).1 := by
  have took := written.took
  have wrote := written.wrote
  rw [idle, Option.map_none] at took wrote
  unfold TunWriter.takeNext
  cases writer.returns.nextOrdered clock with
  | mk next returns =>
    cases next with
    | none =>
      dsimp only
      rw [List.append_nil]
      exact written.congr idle.symm rfl
    | some packet =>
      obtain ⟨first, second, third⟩ := events_append events [.took packet]
      exact
        { took := by rw [first, took, Option.toList_none, List.append_nil]; rfl
          wrote := by rw [second, wrote]; exact List.append_nil _
          completed := by rw [third, written.completed]; exact List.append_nil _
          whole := written.whole
          part := fun pending same => by cases same; exact Nat.zero_le _
          total := by
            show writer.totalBytesDown = _
            rw [third, written.total]
            exact congrArg (fun packets => (packets.map PacketBuf.len).sum)
              (List.append_nil _).symm }

/-- The device takes a part of the pending packet. -/
theorem Written.more (written : Written events finished writer) {packet : PacketBuf} {before : Nat}
    (pending : writer.pending = some (packet, before)) {length : Nat}
    (fits : before + length ≤ packet.len) {other : TunWriter queues notifies}
    (after : other.pending = some (packet, before + length))
    (total : other.totalBytesDown = writer.totalBytesDown) :
    Written (events ++ [.wrote ((packet.asSlice.drop before).take length)]) finished other := by
  have took := written.took
  have wrote := written.wrote
  rw [pending] at took wrote
  obtain ⟨first, second, third⟩ :=
    events_append events [.wrote ((packet.asSlice.drop before).take length)]
  exact
    { took := by rw [first, took, after]; exact List.append_nil _
      wrote := by
        rw [second, wrote, after, List.append_assoc]
        show _ ++ (packet.asSlice.take before ++ ((packet.asSlice.drop before).take length ++ [])) =
          _ ++ packet.asSlice.take (before + length)
        rw [List.append_nil, ← List.take_add]
      completed := by rw [third, written.completed]; exact List.append_nil _
      whole := written.whole
      part := fun other same => by
        rw [after] at same
        cases same
        exact fits
      total := by
        rw [third, total, written.total]
        exact congrArg (fun packets => (packets.map PacketBuf.len).sum) (List.append_nil _).symm }

/-- It is over with the pending packet. -/
theorem Written.finish (written : Written events finished writer) {packet : PacketBuf}
    {before : Nat} (pending : writer.pending = some (packet, before)) (complete : Bool)
    (event : TunEvent) (whole : complete = true → before = packet.len)
    (silent : tookOf [event] = [] ∧ wroteOf [event] = [] ∧
      completedOf [event] = if complete then [packet] else [])
    (other : TunWriter queues notifies) (after : other.pending = none)
    (total : other.totalBytesDown = writer.totalBytesDown + if complete then packet.len else 0) :
    Written (events ++ [event]) (finished ++ [⟨packet, before, complete⟩]) other := by
  have took := written.took
  have wrote := written.wrote
  rw [pending] at took wrote
  obtain ⟨first, second, third⟩ := events_append events [event]
  exact
    { took := by
        rw [first, took, silent.1, after, List.map_append]
        rfl
      wrote := by
        rw [second, wrote, silent.2.1, after, List.flatMap_append]
        show finished.flatMap Fate.bytes ++ packet.asSlice.take before ++ [] =
          finished.flatMap Fate.bytes ++ (packet.asSlice.take before ++ []) ++ []
        rw [List.append_nil, List.append_nil, List.append_nil]
      completed := by
        rw [third, written.completed, silent.2.2, List.filter_append, List.map_append]
        cases complete <;> rfl
      whole := fun fate member done => by
        rcases List.mem_append.mp member with early | late
        · exact written.whole fate early done
        · rw [List.mem_singleton.mp late] at done ⊢
          exact whole done
      part := fun other same => by
        rw [after] at same
        cases same
      total := by
        rw [third, total, written.total, silent.2.2, List.map_append, List.sum_append]
        cases complete <;> rfl }

end Progress

section Run

variable {clock : Nat → Nat} {returned : List PacketBuf} {taken : List (PacketBuf × Nat)}
  {items : PacketClass → List PacketBuf} {events : List TunEvent} {finished : List Fate}
  {writer : TunWriter queues notifies}

/-- Where the packets of the writer come from, and what became of them. -/
structure Served (contents : queues.Queue → List (QueuedPacket PacketBuf))
    (capacity : queues.Queue → Nat) (clock : Nat → Nat) (returned : List PacketBuf)
    (taken : List (PacketBuf × Nat)) (items : PacketClass → List PacketBuf)
    (events : List TunEvent) (finished : List Fate) (writer : TunWriter queues notifies) :
    Prop where
  /-- Where they come from. -/
  account : Account contents capacity clock returned taken (tookOf events) items writer.returns
  /-- What became of them. -/
  written : Written events finished writer

/-- The writer looks for the next packet. -/
theorem Served.takeNext (lawful : queues.Lawful contents capacity)
    (served : Served contents capacity clock returned taken items events finished writer)
    (idle : writer.pending = none) :
    ∃ more items, Served contents capacity clock returned (taken ++ more) items
      (events ++ (writer.takeNext clock).2) finished (writer.takeNext clock).1 := by
  obtain ⟨more, items, account, -⟩ := served.account.nextOrdered lawful
  refine ⟨more, items, ?_, served.written.takeNext clock idle⟩
  rw [(events_append _ _).1]
  unfold TunWriter.takeNext
  cases found : writer.returns.nextOrdered clock with
  | mk next returns =>
    rw [found] at account
    cases next with
    | none => exact account
    | some packet => exact account

/-- The next packet does not depend on the pending one. -/
theorem takeNext_pending (writer : TunWriter queues notifies) (pending : Option (PacketBuf × Nat)) :
    { writer with pending }.takeNext clock = writer.takeNext clock := rfl

/-- The account does not depend on events that take no packet. -/
theorem Account.congr {handed : List PacketBuf} {returns : Returns queues notifies}
    (account : Account contents capacity clock returned taken handed items returns)
    {other : List PacketBuf} (same : other = handed ++ []) :
    Account contents capacity clock returned (taken ++ []) other items returns := by
  rw [same, List.append_nil, List.append_nil]
  exact account

/-- What the loops do after a packet is written, or not. -/
theorem Served.follow (lawful : queues.Lawful contents capacity)
    (served : Served contents capacity clock returned taken items events finished writer)
    {packet : PacketBuf} {before : Nat} (pending : writer.pending = some (packet, before))
    (state : TunWriteState) (whole : state = .complete → before = packet.len)
    {other : TunWriter queues notifies} (still : other.pending = writer.pending)
    (source : other.returns = writer.returns)
    (total : other.totalBytesDown = writer.totalBytesDown +
      if state = .complete then packet.len else 0) :
    ∃ more items finished, Served contents capacity clock returned (taken ++ more) items
      (events ++ (other.follow clock packet state).2) finished
      (other.follow clock packet state).1 := by
  have account := served.account
  have quiet (event : TunEvent) (silent : tookOf [event] = []) :
      tookOf (events ++ [event]) = tookOf events ++ [] := by
    rw [(events_append _ _).1, silent]
  have goesOn (after : TunWriter queues notifies) (pending : after.pending = other.pending)
      (source : after.returns = writer.returns)
      (total : after.totalBytesDown = writer.totalBytesDown) :
      ∃ more items finished, Served contents capacity clock returned (taken ++ more) items
        (events ++ []) finished after := by
    refine ⟨[], items, finished, ?_, ?_⟩
    · rw [List.append_nil, List.append_nil, source]
      exact account
    · rw [List.append_nil]
      exact served.written.congr (pending.trans still) total
  cases state with
  | complete =>
    rw [if_pos rfl] at total
    have done := served.written.finish pending true (.completed packet) (fun _ => whole rfl)
      ⟨rfl, rfl, rfl⟩ { other with burst := other.burst + 1, pending := none } rfl total
    have kept := account.congr (quiet (.completed packet) rfl)
    rw [← source] at kept
    unfold TunWriter.follow
    dsimp only
    by_cases full : other.burst + 1 = 64
    · rw [if_pos full]
      exact ⟨[], items, _, kept, done⟩
    · rw [if_neg full, List.append_cons, ← takeNext_pending _ none]
      rw [List.append_nil] at kept
      have next : Served contents capacity clock returned taken items _ _
          { other with burst := other.burst + 1, pending := none } := ⟨kept, done⟩
      obtain ⟨more, later, found⟩ := next.takeNext lawful rfl
      exact ⟨more, later, _, found⟩
  | partly => exact goesOn _ rfl source total
  | wait => exact goesOn _ rfl source total
  | backoff => exact goesOn _ rfl source total
  | yield => exact goesOn _ rfl source total
  | closed => exact goesOn _ rfl source total
  | dropped =>
    have done := served.written.finish pending false (.discarded packet)
      (fun never => by cases never) ⟨rfl, rfl, rfl⟩ { other with pending := none } rfl total
    have kept := account.congr (quiet (.discarded packet) rfl)
    rw [← source] at kept
    exact ⟨[], items, _, kept, done⟩

/-- What the device takes is more of the pending packet. -/
theorem Served.more
    (served : Served contents capacity clock returned taken items events finished writer)
    {packet : PacketBuf} {before : Nat} (pending : writer.pending = some (packet, before))
    {length : Nat} (fits : before + length ≤ packet.len) :
    Served contents capacity clock returned taken items
      (events ++ [.wrote ((packet.asSlice.drop before).take length)]) finished
      { writer with pending := some (packet, before + length) } where
  account := by
    have same : tookOf (events ++ [.wrote ((packet.asSlice.drop before).take length)]) =
        tookOf events := by
      rw [(events_append _ _).1]
      exact List.append_nil _
    rw [same]
    exact served.account
  written := served.written.more pending fits rfl rfl

/-- What an attempt to write leads to: the device takes some bytes, maybe none, and the packet is
complete only when it has all of them. -/
structure Tried (writer : TunWriter queues notifies) (packet : PacketBuf) (before : Nat)
    (state : TunWriteState) (bytes : List UInt8) (other : TunWriter queues notifies)
    (length : Nat) : Prop where
  /-- The device takes part of the packet. -/
  fits : before + length ≤ packet.len
  /-- Which part. -/
  bytes : bytes = (packet.asSlice.drop before).take length
  /-- It is written down. -/
  pending : other.pending = some (packet, before + length)
  /-- The queues stay. -/
  source : other.returns = writer.returns
  /-- Complete packets are written as a whole. -/
  whole : state = .complete → before + length = packet.len
  /-- They are counted. -/
  total : other.totalBytesDown = writer.totalBytesDown +
    if state = .complete then packet.len else 0

/-- An attempt in which the device takes nothing. -/
theorem tried_nothing {packet : PacketBuf} {before : Nat}
    (pending : writer.pending = some (packet, before)) (inside : before ≤ packet.len)
    (state : TunWriteState) (quiet : state ≠ .complete) (dropped : Nat) :
    Tried writer packet before state [] { writer with dropped } 0 where
  fits := inside
  bytes := rfl
  pending := pending
  source := rfl
  whole := fun complete => absurd complete quiet
  total := by
    rw [if_neg quiet]
    rfl

/-- The device takes at least one byte. -/
theorem tryWrite_taken (writer : TunWriter queues notifies) (packet : PacketBuf)
    (before length : Nat) :
    writer.tryWriteTunPacket packet before (.taken (length + 1)) =
      if before + (length + 1) = packet.len then
        (.complete, (packet.asSlice.drop before).take (length + 1),
          { writer with
            dropped := 0
            pending := some (packet, before + (length + 1))
            totalBytesDown := writer.totalBytesDown + packet.len })
      else
        (.partly, (packet.asSlice.drop before).take (length + 1),
          { writer with dropped := 0, pending := some (packet, before + (length + 1)) }) := rfl

/-- How an attempt to write ends. -/
theorem tryWrite_spec {packet : PacketBuf} {before : Nat}
    (pending : writer.pending = some (packet, before)) (inside : before ≤ packet.len)
    (result : TunWrite)
    (honest : ∀ length, result = .taken length → before + length ≤ packet.len) :
    ∃ length, Tried writer packet before (writer.tryWriteTunPacket packet before result).1
      (writer.tryWriteTunPacket packet before result).2.1
      (writer.tryWriteTunPacket packet before result).2.2 length := by
  cases result with
  | notReady => exact ⟨0, tried_nothing pending inside .wait (by decide) writer.dropped⟩
  | failed code =>
    unfold TunWriter.tryWriteTunPacket
    dsimp only
    split
    · split
      · exact ⟨0, tried_nothing pending inside .backoff (by decide) writer.dropped⟩
      · exact ⟨0, tried_nothing pending inside .yield (by decide) writer.dropped⟩
    · split
      · exact ⟨0, tried_nothing pending inside .closed (by decide) writer.dropped⟩
      · exact ⟨0, tried_nothing pending inside .dropped (by decide) (writer.dropped + 1)⟩
  | taken length =>
    cases length with
    | zero => exact ⟨0, tried_nothing pending inside .dropped (by decide) (writer.dropped + 1)⟩
    | succ length =>
      have fits := honest (length + 1) rfl
      rw [tryWrite_taken]
      by_cases full : before + (length + 1) = packet.len
      · rw [if_pos full]
        exact ⟨length + 1, fits, rfl, rfl, rfl, fun _ => full, rfl⟩
      · rw [if_neg full]
        exact ⟨length + 1, fits, rfl, rfl, rfl, fun never => (by cases never), rfl⟩

/-- What one action means. -/
theorem Served.step (lawful : queues.Lawful contents capacity)
    (served : Served contents capacity clock returned taken items events finished writer)
    {action : TunAction} (honest : Honest writer action) :
    ∃ more items finished, Served contents capacity clock (returned ++ returnedOf [action])
      (taken ++ more) items (events ++ (writer.step clock action).2) finished
      (writer.step clock action).1 := by
  have same : Served contents capacity clock returned (taken ++ []) items (events ++ []) finished
      writer := by
    rw [List.append_nil, List.append_nil]
    exact served
  cases action with
  | returned packet =>
    obtain ⟨items, account⟩ := served.account.returnPacket lawful packet
    refine ⟨[], items, finished, ?_, ?_⟩
    · rw [List.append_nil, (events_append _ _).1]
      exact (List.append_nil (tookOf events)).symm ▸ account
    · show Written (events ++ []) _ _
      rw [List.append_nil]
      exact served.written.congr rfl rfl
  | receive =>
    rw [returnedOf, List.filterMap_cons_none rfl, List.filterMap_nil, List.append_nil]
    unfold TunWriter.step
    by_cases busy : (writer.ended || writer.pending.isSome) = true
    · rw [if_pos busy]
      exact ⟨[], items, finished, same⟩
    · rw [if_neg busy]
      have idle : writer.pending = none := by
        rw [Bool.not_eq_true, Bool.or_eq_false_iff] at busy
        exact Option.isNone_iff_eq_none.mp (by simpa using busy.2)
      have ready : Served contents capacity clock returned taken items events finished
          { writer with burst := 0 } := ⟨served.account, served.written.congr rfl rfl⟩
      obtain ⟨more, later, found⟩ := ready.takeNext lawful idle
      exact ⟨more, later, finished, found⟩
  | write result =>
    rw [returnedOf, List.filterMap_cons_none rfl, List.filterMap_nil, List.append_nil]
    unfold TunWriter.step
    cases pending : writer.pending with
    | none => exact ⟨[], items, finished, same⟩
    | some entry =>
      obtain ⟨packet, before⟩ := entry
      dsimp only
      by_cases ended : writer.ended = true
      · rw [if_pos ended]
        exact ⟨[], items, finished, same⟩
      · rw [if_neg ended]
        obtain ⟨length, tried⟩ := tryWrite_spec pending (served.written.part _ pending) result
          (fun length same => by
            subst same
            exact honest (packet, before) pending)
        obtain ⟨more, later, ends, found⟩ := (served.more pending tried.fits).follow lawful rfl _
          tried.whole tried.pending tried.source tried.total
        refine ⟨more, later, ends, ?_⟩
        rw [List.append_cons, tried.bytes]
        exact found

/-- What a run means. -/
theorem Served.run (lawful : queues.Lawful contents capacity)
    (served : Served contents capacity clock returned taken items events finished writer)
    (actions : List TunAction) (honest : Mealy.Along (TunWriter.step clock) Honest writer actions) :
    ∃ taken items finished, Served contents capacity clock (returned ++ returnedOf actions) taken
      items (events ++ (Mealy.outputs (TunWriter.step clock) writer actions).flatten) finished
      (Mealy.final (TunWriter.step clock) writer actions) := by
  induction actions generalizing returned taken items events finished writer with
  | nil =>
    refine ⟨taken, items, finished, ?_⟩
    rw [Mealy.outputs, List.flatten_nil, returnedOf, List.filterMap_nil, List.append_nil,
      List.append_nil]
    exact served
  | cons action rest ih =>
    obtain ⟨more, later, ends, after⟩ := served.step lawful honest.1
    have goal := ih after honest.2
    have split : returnedOf (action :: rest) = returnedOf [action] ++ returnedOf rest := by
      rw [← List.singleton_append]
      exact List.filterMap_append
    rw [split, Mealy.outputs, List.flatten_cons, ← List.append_assoc, ← List.append_assoc]
    exact goal

/-- A task that looks for a packet and finds none has emptied the queues. -/
theorem Served.idle (lawful : queues.Lawful contents capacity)
    (served : Served contents capacity clock returned taken items events finished writer)
    (alive : writer.ended = false) (free : writer.pending = none)
    (none : (writer.step clock .receive).1.pending = none) (kind : PacketClass) :
    contents ((writer.step clock .receive).1.returns.queue kind).queue = [] ∧
      (writer.step clock .receive).1.returns.reorder.ready = [] := by
  obtain ⟨more, left, account, empty⟩ := served.account.nextOrdered lawful
  have found : writer.step clock .receive = { writer with burst := 0 }.takeNext clock := by
    unfold TunWriter.step
    rw [alive, free]
    rfl
  rw [found] at none ⊢
  unfold TunWriter.takeNext at none ⊢
  dsimp only at none ⊢
  cases next : writer.returns.nextOrdered clock with
  | mk packet returns =>
    rw [next] at none account empty
    cases packet with
    | some packet => cases none
    | none =>
      have idle := empty rfl
      have items := (account.holds kind).items
      rw [idle.empty kind] at items
      exact ⟨List.map_eq_nil_iff.mp items.symm, idle.ready⟩

end Run

end Focsq.Dispatcher
