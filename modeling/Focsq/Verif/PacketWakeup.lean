import Focsq.Verif.PacketChannel
import Focsq.Verif.PacketQueue

/-!
# No wakeup is lost

When `recv` waits although there is a packet, a sender has pushed and will notify; when it waits
although there is no sender, the last one was dropped and will notify. In both cases the step that
notifies wakes it.
-/

namespace Focsq.Dispatcher

variable {π : Type} {queues : ArrayQueue (QueuedPacket (Stamped π))} {notifies : Notify}
  {contents : queues.Queue → List (QueuedPacket (Stamped π))} {capacity : queues.Queue → Nat}
  {idle : notifies.State → Prop} {awaits : notifies.State → notifies.Notified → Prop}

/-- Whether `recv` waits and nothing has woken it. -/
def Channel.parked (channel : Channel queues notifies) : Bool :=
  match channel.receiver with
  | .waiting future =>
    !channel.cancelled && !(notifies.poll channel.shared.notify future).1
  | _ => false

/-- There is someone to wake the receiver if it has something to do. -/
structure Channel.Attended (contents : queues.Queue → List (QueuedPacket (Stamped π)))
    (channel : Channel queues notifies) : Prop where
  /-- If there is a packet, a sender that has pushed wakes the receiver next. -/
  packet : contents channel.shared.queue ≠ [] → ∃ index call,
    channel.calls[index]? = some call ∧ call.place = .notifying ∧
      (channel.step (.call index)).1.parked = false
  /-- If there is no sender, the last one wakes the receiver next. -/
  senders : (∀ handle ∈ channel.handles, handle ≠ .live) → ∃ handle : Nat,
    channel.handles[handle]? = some .closing ∧ (channel.step (.close handle)).1.parked = false

/-- What the receiver awaits. -/
def Receiver.future : Receiver π notifies → Option notifies.Notified
  | .popping within _ => within.future
  | .popped within _ _ => within.future
  | .counting future => future
  | .selecting future => some future
  | .waiting future => some future
  | _ => none

/-- What the receiver awaits since it has found the queue empty. -/
def Receiver.emptied : Receiver π notifies → Option notifies.Notified
  | .counting future => future
  | .selecting future => some future
  | .waiting future => some future
  | _ => none

/-- What the receiver awaits since it has found senders. -/
def Receiver.counted : Receiver π notifies → Option notifies.Notified
  | .selecting future => some future
  | .waiting future => some future
  | _ => none

/-- The receiver is awake, or there is someone to wake it. -/
structure Awake (idle : notifies.State → Prop)
    (awaits : notifies.State → notifies.Notified → Prop)
    (contents : queues.Queue → List (QueuedPacket (Stamped π)))
    (channel : Channel queues notifies) : Prop where
  /-- The number of senders is that of the handles. -/
  senders : channel.shared.senders = channel.handles.count .live
  /-- Nothing is awaited. -/
  idle : channel.receiver.future = none → idle channel.shared.notify
  /-- Something is awaited. -/
  awaits : ∀ future, channel.receiver.future = some future → awaits channel.shared.notify future
  /-- The queue is still empty, or the receiver will be woken, or it was woken. -/
  emptied : ∀ future, channel.receiver.emptied = some future →
    contents channel.shared.queue = [] ∨
      (∃ call ∈ channel.calls, call.place = .notifying) ∨
        (notifies.poll channel.shared.notify future).1 = true
  /-- There are still senders, or the receiver will be woken, or it was woken. -/
  counted : ∀ future, channel.receiver.counted = some future →
    channel.shared.senders ≠ 0 ∨ .closing ∈ channel.handles ∨
      (notifies.poll channel.shared.notify future).1 = true

/-- The receiver awaits what it awaits since it has found the queue empty. -/
theorem Receiver.future_of_emptied {receiver : Receiver π notifies} {future : notifies.Notified}
    (emptied : receiver.emptied = some future) : receiver.future = some future := by
  cases receiver with
  | counting awaited => exact emptied
  | selecting awaited => exact emptied
  | waiting awaited => exact emptied
  | _ => cases emptied

/-- It has found the queue empty before it counted the senders. -/
theorem Receiver.emptied_of_counted {receiver : Receiver π notifies} {future : notifies.Notified}
    (counted : receiver.counted = some future) : receiver.emptied = some future := by
  cases receiver with
  | selecting awaited => exact counted
  | waiting awaited => exact counted
  | _ => cases counted

/-- What every call that notifies does. -/
structure Notify.Wakes (idle : notifies.State → Prop)
    (awaits : notifies.State → notifies.Notified → Prop)
    (wake : notifies.State → notifies.State) : Prop where
  /-- It makes no task await. -/
  stays : ∀ state, idle state → idle (wake state)
  /-- It does not end that a task awaits. -/
  keeps : ∀ state future, awaits state future → awaits (wake state) future
  /-- It wakes the task. -/
  ready : ∀ state future, awaits state future → (notifies.poll (wake state) future).1 = true

/-- `notify_one` wakes. -/
theorem Notify.Lawful.wakes_one (notified : notifies.Lawful idle awaits) :
    Notify.Wakes idle awaits notifies.notifyOne :=
  ⟨notified.idleOne, notified.awaitsOne, notified.one⟩

/-- `notify_waiters` wakes. -/
theorem Notify.Lawful.wakes_all (notified : notifies.Lawful idle awaits) :
    Notify.Wakes idle awaits notifies.notifyWaiters :=
  ⟨notified.idleAll, notified.awaitsAll, notified.all⟩

/-- After a call that notifies the receiver is awake, whatever has become of calls and handles. -/
theorem Awake.woken {channel : Channel queues notifies}
    (awake : Awake idle awaits contents channel) {wake : notifies.State → notifies.State}
    (wakes : Notify.Wakes idle awaits wake) {shared : PacketQueue queues notifies}
    {handles : List Handle} (calls : List (SendCall π)) (control : Control)
    (notify : shared.notify = wake channel.shared.notify)
    (senders : shared.senders = handles.count .live) :
    Awake idle awaits contents { channel with shared, handles, calls, control } where
  senders := senders
  idle := fun none => notify ▸ wakes.stays _ (awake.idle none)
  awaits := fun future some => notify ▸ wakes.keeps _ future (awake.awaits future some)
  emptied := fun future some => .inr (.inr
    (notify ▸ wakes.ready _ future (awake.awaits future (Receiver.future_of_emptied some))))
  counted := fun future some => .inr (.inr
    (notify ▸ wakes.ready _ future (awake.awaits future
      (Receiver.future_of_emptied (Receiver.emptied_of_counted some)))))

/-- A pop leaves an empty queue empty. -/
theorem popped_nil (lawful : queues.Lawful contents capacity) {queue : queues.Queue}
    (empty : contents queue = []) : contents (queues.pop queue).2 = [] := by
  rw [(lawful.pop queue).2.1, empty, Fifo.pop_nil]

/-- A pop that gives nothing leaves the queue empty. -/
theorem popped_none (lawful : queues.Lawful contents capacity) {queue : queues.Queue}
    (nothing : (queues.pop queue).1 = none) : contents (queues.pop queue).2 = [] := by
  apply popped_nil lawful
  rw [(lawful.pop queue).1] at nothing
  exact (Fifo.pop_eq_none _).mp nothing

/-- After a pop the receiver is awake as before. -/
theorem Awake.popped (lawful : queues.Lawful contents capacity)
    {channel : Channel queues notifies} (awake : Awake idle awaits contents channel) :
    Awake idle awaits contents
      { channel with
        shared := { channel.shared with queue := (queues.pop channel.shared.queue).2 } } :=
  { awake with
    emptied := fun future some => (awake.emptied future some).imp_left (popped_nil lawful) }

/-- When the receiver's call returns nothing is awaited. -/
theorem Awake.returned (notified : notifies.Lawful idle awaits)
    {channel : Channel queues notifies} (awake : Awake idle awaits contents channel)
    {future : Option notifies.Notified} (same : channel.receiver.future = future) :
    Awake idle awaits contents (channel.returned future) := by
  cases future with
  | none =>
    exact
      { senders := awake.senders
        idle := fun _ => awake.idle same
        awaits := fun future some => by cases some
        emptied := fun future some => by cases some
        counted := fun future some => by cases some }
  | some future =>
    exact
      { senders := awake.senders
        idle := fun _ => notified.drop _ future (awake.awaits future same)
        awaits := fun future some => by cases some
        emptied := fun future some => by cases some
        counted := fun future some => by cases some }

/-- As long as nothing is awaited, the receiver may stand anywhere. -/
theorem Awake.free {channel : Channel queues notifies} (awake : Awake idle awaits contents channel)
    (none : channel.receiver.future = none) {receiver : Receiver π notifies}
    (still : receiver.future = .none) :
    Awake idle awaits contents { channel with receiver } where
  senders := awake.senders
  idle := fun _ => awake.idle none
  awaits := fun future some => by simp [still] at some
  emptied := fun future some => by simpa [still] using Receiver.future_of_emptied some
  counted := fun future some => by
    simpa [still] using Receiver.future_of_emptied (Receiver.emptied_of_counted some)

/-- As long as the same is awaited, the receiver may have found out more, if it is true. -/
theorem Awake.found {channel : Channel queues notifies} (awake : Awake idle awaits contents channel)
    {future : notifies.Notified} (some : channel.receiver.future = some future)
    {receiver : Receiver π notifies} (still : receiver.future = .some future)
    (emptied : receiver.emptied = .some future → contents channel.shared.queue = [] ∨
      channel.receiver.emptied = .some future)
    (counted : receiver.counted = .some future → channel.shared.senders ≠ 0) :
    Awake idle awaits contents { channel with receiver } where
  senders := awake.senders
  idle := fun none => by simp [still] at none
  awaits := fun other same => awake.awaits other (some.trans (still.symm.trans same))
  emptied := by
    intro other same
    have one : future = other := by
      simpa [still] using Receiver.future_of_emptied same
    rw [← one] at same ⊢
    exact (emptied same).elim .inl (awake.emptied future)
  counted := by
    intro other same
    have one : future = other := by
      simpa [still] using Receiver.future_of_emptied (Receiver.emptied_of_counted same)
    rw [← one] at same ⊢
    exact .inl (counted same)

/-- A call of a sender that does not notify leaves one that does. -/
theorem exists_notifying_set {calls : List (SendCall π)} {index : Nat} {call other : SendCall π}
    (found : calls[index]? = some call) (quiet : call.place ≠ .notifying)
    (waits : ∃ call ∈ calls, call.place = .notifying) :
    ∃ call ∈ calls.set index other, call.place = .notifying := by
  obtain ⟨notifier, member, place⟩ := waits
  obtain ⟨position, here⟩ := List.mem_iff_getElem?.mp member
  refine ⟨notifier, List.mem_iff_getElem?.mpr ⟨position, ?_⟩, place⟩
  rw [List.getElem?_set_ne, here]
  intro same
  rw [← same, found] at here
  cases here
  exact quiet place

/-- A push that gives the packet back leaves the queue as it is. -/
theorem pushed_some (lawful : queues.Lawful contents capacity) {queue : queues.Queue}
    {queued refused : QueuedPacket (Stamped π)}
    (given : (queues.push queue queued).1 = some refused) :
    contents (queues.push queue queued).2 = contents queue := by
  obtain ⟨answer, left, _⟩ := lawful.push queue queued
  rw [answer] at given
  rw [left]
  by_cases room : (contents queue).length < capacity queue
  · simp [Fifo.push, room] at given
  · simp [Fifo.push, room]

/-- After a step of a sender the receiver is awake, or there is someone to wake it. -/
theorem Awake.call (lawful : queues.Lawful contents capacity)
    (notified : notifies.Lawful idle awaits) {channel : Channel queues notifies}
    (awake : Awake idle awaits contents channel) {index : Nat} {call : SendCall π}
    (found : channel.calls[index]? = some call) :
    Awake idle awaits contents
      { channel with
        shared := (call.place.next channel.shared channel.resumes).1
        calls := channel.calls.set index
          { call with place := (call.place.next channel.shared channel.resumes).2.1 } } := by
  have size : index < channel.calls.length := (List.getElem?_eq_some_iff.mp found).1
  cases stands : call.place with
  | reading packet force =>
    have kept (place : SendPlace π) : Awake idle awaits contents
        { channel with calls := channel.calls.set index { call with place } } :=
      { awake with
        emptied := fun future some => (awake.emptied future some).imp_right
          (Or.imp_left (exists_notifying_set found (by simp [stands]))) }
    by_cases inactive : channel.shared.state &&& queueActive = 0
    · simp only [SendPlace.next, if_pos inactive]
      exact kept .done
    · simp only [SendPlace.next, if_neg inactive]
      exact kept _
  | pushing queued force =>
    have kept (queue : queues.Queue) : Awake idle awaits contents
        { channel with
          shared := { channel.shared with queue }
          calls := channel.calls.set index { call with place := .notifying } } :=
      { awake with
        emptied := fun future some => .inr (.inl
          ⟨{ call with place := .notifying }, List.mem_set size _, rfl⟩) }
    cases force with
    | true =>
      simp only [SendPlace.next, if_true]
      exact kept _
    | false =>
      have unchanged (refused : QueuedPacket (Stamped π))
          (given : (queues.push channel.shared.queue queued).1 = some refused) :
          contents (queues.push channel.shared.queue queued).2 = contents channel.shared.queue :=
        pushed_some lawful given
      cases answer : queues.push channel.shared.queue queued with
      | mk given queue =>
        rw [answer] at unchanged
        cases given with
        | none =>
          simp only [SendPlace.next, answer, Bool.false_eq_true, if_false]
          exact kept queue
        | some refused =>
          simp only [SendPlace.next, answer, Bool.false_eq_true, if_false]
          exact
            { awake with
              emptied := fun future some =>
                ((awake.emptied future some).imp_left (unchanged refused rfl).trans).imp_right
                  (Or.imp_left (exists_notifying_set found (by simp [stands]))) }
  | notifying => exact awake.woken notified.wakes_one _ _ rfl awake.senders
  | done =>
    exact
      { awake with
        emptied := fun future some => (awake.emptied future some).imp_right
          (Or.imp_left (exists_notifying_set found (by simp [stands]))) }

/-- A dropped handle is not counted any more. -/
theorem count_dropped {handles : List Handle} {handle : Nat} {state : Handle}
    (live : handles[handle]? = some .live) (dropped : state ≠ .live) :
    (handles.set handle state).count .live = handles.count .live - 1 := by
  obtain ⟨bound, same⟩ := List.getElem?_eq_some_iff.mp live
  simp [List.count_set bound, same, dropped]

/-- There is a handle to be dropped. -/
theorem count_positive {handles : List Handle} {handle : Nat}
    (live : handles[handle]? = some .live) : 0 < handles.count .live :=
  List.count_pos_iff.mpr (List.mem_of_getElem? live)

/-- After a handle is dropped there are others, or the receiver will be woken. -/
theorem Awake.dropHandle {channel : Channel queues notifies}
    (awake : Awake idle awaits contents channel) {handle : Nat}
    (live : channel.handles[handle]? = some .live) :
    Awake idle awaits contents (channel.dropHandle handle) := by
  have positive := count_positive live
  have size : handle < channel.handles.length := (List.getElem?_eq_some_iff.mp live).1
  refine { awake with senders := ?_, counted := fun future some => ?_ }
  · show channel.shared.senders - 1 = (channel.handles.set handle _).count .live
    rw [awake.senders, count_dropped live]
    split_ifs <;> decide
  · by_cases last : channel.shared.senders = 1
    · refine .inr (.inl ?_)
      simp only [Channel.dropHandle, if_pos last]
      exact List.mem_set size _
    · refine .inl ?_
      show channel.shared.senders - 1 ≠ 0
      have same := awake.senders
      omega

/-- After a step of `resume`, `suspend`, `purge` or the drop the receiver is as awake as before. -/
theorem Awake.controlStep (lawful : queues.Lawful contents capacity)
    (notified : notifies.Lawful idle awaits) {channel : Channel queues notifies}
    (awake : Awake idle awaits contents channel) :
    Awake idle awaits contents channel.controlStep := by
  cases stands : channel.control with
  | purging next =>
    have popped := awake.popped lawful
    cases answer : queues.pop channel.shared.queue with
    | mk front queue =>
      rw [answer] at popped
      cases front with
      | none =>
        simp only [Channel.controlStep, stands, answer]
        exact { popped with }
      | some queued =>
        simp only [Channel.controlStep, stands, answer]
        exact { popped with }
  | notifying =>
    simp only [Channel.controlStep, stands]
    exact awake.woken notified.wakes_all _ _ rfl awake.senders
  | idle => simpa only [Channel.controlStep, stands] using awake
  | storing epoch =>
    simp only [Channel.controlStep, stands]
    exact { awake with }
  | clearing read =>
    simp only [Channel.controlStep, stands]
    exact { awake with }
  | activating epoch =>
    simp only [Channel.controlStep, stands]
    exact { awake with }

/-- After a poll the receiver is awake, or there is someone to wake it. -/
theorem Awake.select (notified : notifies.Lawful idle awaits) {channel : Channel queues notifies}
    (awake : Awake idle awaits contents channel) {future : notifies.Notified}
    (counted : channel.receiver.counted = some future) :
    Awake idle awaits contents (channel.select (π := π) future).1 := by
  have emptied := Receiver.emptied_of_counted counted
  have some := Receiver.future_of_emptied emptied
  have awaited := awake.awaits future some
  by_cases cancelled : channel.cancelled = true
  · simp only [Channel.select, if_pos cancelled]
    exact awake.returned notified some
  · have waits := notified.waits _ future awaited
    have woken := notified.woken _ future awaited
    have empty := awake.emptied future emptied
    have others := awake.counted future counted
    cases polled : notifies.poll channel.shared.notify future with
    | mk ready rest =>
      obtain ⟨notify, still⟩ := rest
      rw [polled] at waits woken empty others
      simp only [Channel.select, if_neg cancelled, polled]
      cases ready with
      | true =>
        exact
          { senders := awake.senders
            idle := fun _ => woken rfl
            awaits := fun future some => by cases some
            emptied := fun future some => by cases some
            counted := fun future some => by cases some }
      | false =>
        -- As it was not woken, one of the other two is true.
        simp only [Bool.false_eq_true, or_false] at empty others
        exact
          { senders := awake.senders
            idle := fun none => by cases none
            awaits := fun other same => Option.some.inj same ▸ waits rfl
            emptied := fun other same => empty.imp_right .inl
            counted := fun other same => others.imp_right .inl }

/-- After a step of its own the receiver is awake, or there is someone to wake it. -/
theorem Awake.receiverStep (lawful : queues.Lawful contents capacity)
    (notified : notifies.Lawful idle awaits) {channel : Channel queues notifies}
    (awake : Awake idle awaits contents channel) :
    Awake idle awaits contents channel.receiverStep.1 := by
  cases stands : channel.receiver with
  | idle => simpa only [Channel.receiverStep, stands] using awake
  | checking =>
    by_cases cancelled : channel.cancelled = true
    · simp only [Channel.receiverStep, stands, if_pos cancelled]
      exact awake.returned notified (by rw [stands]; rfl)
    · simp only [Channel.receiverStep, stands, if_neg cancelled]
      exact awake.free (by rw [stands]; rfl) rfl
  | popping within started =>
    have popped := awake.popped lawful
    have empty (nothing : (queues.pop channel.shared.queue).1 = none) :
        contents (queues.pop channel.shared.queue).2 = [] := popped_none lawful nothing
    have same : channel.receiver.future = within.future := by rw [stands]; rfl
    cases answer : queues.pop channel.shared.queue with
    | mk front queue =>
      rw [answer] at popped empty
      cases front with
      | some queued =>
        simp only [Channel.receiverStep, stands, answer]
        cases within with
        | alone => exact popped.free same rfl
        | first => exact popped.free same rfl
        | second future =>
          exact popped.found same rfl (fun some => by cases some) (fun some => by cases some)
      | none =>
        cases within with
        | alone =>
          simp only [Channel.receiverStep, stands, answer]
          have returned := popped.returned notified same
          exact returned
        | first =>
          simp only [Channel.receiverStep, stands, answer]
          exact popped.free same rfl
        | second future =>
          simp only [Channel.receiverStep, stands, answer]
          exact popped.found same rfl (fun _ => .inl (empty rfl)) (fun some => by cases some)
  | popped within started queued =>
    have same : channel.receiver.future = within.future := by rw [stands]; rfl
    by_cases accepted : channel.shared.state &&& queueActive ≠ 0 ∧
        queued.epoch = channel.shared.state >>> 1
    · simp only [Channel.receiverStep, stands, if_pos accepted]
      exact awake.returned notified same
    · simp only [Channel.receiverStep, stands, if_neg accepted]
      cases within with
      | alone => exact awake.free same rfl
      | first => exact awake.free same rfl
      | second future =>
        exact awake.found same rfl (fun some => by cases some) (fun some => by cases some)
  | counting future =>
    have same : channel.receiver.future = future := by rw [stands]; rfl
    by_cases last : channel.shared.senders = 0
    · simp only [Channel.receiverStep, stands, if_pos last]
      exact awake.returned notified same
    · cases future with
      | none =>
        simp only [Channel.receiverStep, stands, if_neg last]
        exact awake.free same rfl
      | some future =>
        simp only [Channel.receiverStep, stands, if_neg last]
        exact awake.found same rfl (fun _ => .inr (by rw [stands]; rfl)) (fun _ => last)
  | awaiting =>
    simp only [Channel.receiverStep, stands]
    have free : idle channel.shared.notify := awake.idle (by rw [stands]; rfl)
    exact
      { senders := awake.senders
        idle := fun none => by cases none
        awaits := fun future same => Option.some.inj same ▸ notified.notified _ free
        emptied := fun future some => by cases some
        counted := fun future some => by cases some }
  | selecting future =>
    simp only [Channel.receiverStep, stands]
    exact awake.select notified (by rw [stands]; rfl)
  | waiting future =>
    simp only [Channel.receiverStep, stands]
    exact awake.select notified (by rw [stands]; rfl)

/-- After every action the receiver is awake, or there is someone to wake it. -/
theorem Channel.Moves.awake (lawful : queues.Lawful contents capacity)
    (notified : notifies.Lawful idle awaits) {channel next : Channel queues notifies}
    {event : Event π} (moves : channel.Moves next event)
    (awake : Awake idle awaits contents channel) : Awake idle awaits contents next := by
  cases moves with
  | stay ignored => exact awake
  | send handle packet force live receiverOpen =>
    refine { awake with emptied := fun future some =>
      (awake.emptied future some).imp_right (Or.imp_left ?_) }
    rintro ⟨call, member, place⟩
    exact ⟨call, List.mem_append_left _ member, place⟩
  | call index call found => exact awake.call lawful notified found
  | clone handle live =>
    refine { awake with senders := ?_, counted := fun future some => .inl (Nat.succ_ne_zero _) }
    show channel.shared.senders + 1 = (channel.handles ++ [Handle.live]).count .live
    rw [awake.senders, List.count_append, List.count_singleton_self]
  | drop handle live unused => exact awake.dropHandle live
  | close handle closing =>
    refine awake.woken notified.wakes_all _ _ rfl ?_
    obtain ⟨bound, same⟩ := List.getElem?_eq_some_iff.mp closing
    show channel.shared.senders = (channel.handles.set handle .dropped).count .live
    rw [awake.senders, List.count_set bound, same]
    simp
  | resume free => exact { awake with }
  | suspend free => exact { awake with }
  | purge free => exact { awake with }
  | dropReceiver free alone => exact { awake with }
  | control => exact awake.controlStep lawful notified
  | tryRecv free => exact awake.free (by rw [free]; rfl) rfl
  | recv free => exact awake.free (by rw [free]; rfl) rfl
  | receive => exact awake.receiverStep lawful notified
  | abandon future waiting => exact awake.returned notified (by rw [waiting]; rfl)
  | cancel => exact { awake with }

/-- The receiver of a new queue is awake. -/
theorem awake_new (notified : notifies.Lawful idle awaits) (size : Nat) (active : Bool) :
    Awake idle awaits contents (Channel.new queues notifies size active) where
  senders := rfl
  idle := fun _ => notified.new
  awaits := fun future some => by cases some
  emptied := fun future some => by cases some
  counted := fun future some => by cases some

/-- A parked receiver waits, and was not woken. -/
theorem parked_waiting {channel : Channel queues notifies} (parked : channel.parked = true) :
    ∃ future, channel.receiver = .waiting future ∧
      (notifies.poll channel.shared.notify future).1 = false := by
  unfold Channel.parked at parked
  cases stands : channel.receiver with
  | waiting future =>
    have unready : channel.cancelled = false ∧
        (notifies.poll channel.shared.notify future).1 = false := by
      simpa [stands] using parked
    exact ⟨future, rfl, unready.2⟩
  | _ => simp [stands] at parked

/-- A receiver that is woken is not parked. -/
theorem parked_ready {channel : Channel queues notifies} {future : notifies.Notified}
    (waits : channel.receiver = .waiting future)
    (ready : (notifies.poll channel.shared.notify future).1 = true) :
    channel.parked = false := by
  simp [Channel.parked, waits, ready]

/-- If the receiver is parked, there is someone to wake it if it has something to do. -/
theorem Awake.attended (notified : notifies.Lawful idle awaits) {channel : Channel queues notifies}
    (awake : Awake idle awaits contents channel) (parked : channel.parked = true) :
    channel.Attended contents := by
  obtain ⟨future, waits, unready⟩ := parked_waiting parked
  have awaited : awaits channel.shared.notify future := awake.awaits future (by rw [waits]; rfl)
  have empty := awake.emptied future (by rw [waits]; rfl)
  have others := awake.counted future (by rw [waits]; rfl)
  simp only [unready, Bool.false_eq_true, or_false] at empty others
  constructor
  · intro packets
    obtain ⟨call, member, place⟩ := empty.resolve_left packets
    obtain ⟨index, found⟩ := List.mem_iff_getElem?.mp member
    refine ⟨index, call, found, place, ?_⟩
    simp only [Channel.step, found, place, SendPlace.next]
    exact parked_ready waits (notified.one _ future awaited)
  · intro dead
    have none : channel.shared.senders = 0 := by
      rw [awake.senders, List.count_eq_zero]
      exact fun live => dead _ live rfl
    obtain ⟨handle, found⟩ := List.mem_iff_getElem?.mp (others.resolve_left (not_not.mpr none))
    refine ⟨handle, found, ?_⟩
    simp only [Channel.step, found, ne_eq, not_true_eq_false, if_false]
    exact parked_ready waits (notified.all _ future awaited)

/-- Whenever the receiver is parked although there is a packet or no sender is left, the sender
that pushed or the one that was dropped last will wake it with its next step. -/
theorem parked_attended (lawful : queues.Lawful contents capacity)
    (notified : notifies.Lawful idle awaits) (size : Nat) (active : Bool)
    (actions : List (Action π))
    (parked : (Mealy.final Channel.step (Channel.new queues notifies size active)
      actions).parked = true) :
    (Mealy.final Channel.step (Channel.new queues notifies size active) actions).Attended
      contents := by
  refine Awake.attended notified ?_ parked
  exact Mealy.final_invariant (Awake idle awaits contents)
    (fun channel action awake => (channel.step_moves action).awake lawful notified awake) _ actions
    (awake_new notified size active)

/-- The receiver waits, and a sender pushes. -/
def pushedRun : List (Action Nat) :=
  [.recv, .receive, .receive, .receive, .receive, .receive, .receive, .receive, .send 0 7 false,
    .call 0, .call 0]

/-- The sender that pushed wakes the receiver. -/
theorem pushedRun_attended :
    (Mealy.final Channel.step
      (Channel.new (ArrayQueue.bounded (QueuedPacket (Stamped Nat))) Notify.single 1 true)
      pushedRun).Attended BoundedQueue.items :=
  parked_attended (ArrayQueue.bounded_lawful (QueuedPacket (Stamped Nat))) Notify.single_lawful 1
    true pushedRun (by decide +kernel)

/-- Before it does, the receiver is parked although there is a packet of the present epoch in the
active queue. -/
theorem pushedRun_parked :
    (Mealy.final Channel.step
      (Channel.new (ArrayQueue.bounded (QueuedPacket (Stamped Nat))) Notify.single 1 true)
      pushedRun).parked = true ∧
    (Mealy.final Channel.step
      (Channel.new (ArrayQueue.bounded (QueuedPacket (Stamped Nat))) Notify.single 1 true)
      pushedRun).shared.queue.items = [⟨⟨7, 0⟩, 0⟩] ∧
    (Mealy.final Channel.step
      (Channel.new (ArrayQueue.bounded (QueuedPacket (Stamped Nat))) Notify.single 1 true)
      pushedRun).shared.state = queueActive := by
  decide +kernel

end Focsq.Dispatcher
