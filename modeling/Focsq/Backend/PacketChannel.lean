import Focsq.Backend.PacketQueue

/-!
# Senders and receiver step by step

The calls of `dispatcher.rs` on one packet queue as sequences of atomic steps: any number of send
calls through any number of handles, one call of the receiver, and one call that switches or purges
the queue. An action is one atomic step of one of them, so that a list of actions is an
interleaving; an action whose call is not there changes nothing.

What the program does not know is how often the queue was resumed. It is counted here, and the
count is remembered with a packet when its sender reads the state, and with a call of `try_recv`
when it starts.
-/

namespace Focsq.Dispatcher

/-- A packet, and how often the queue had been resumed when its sender read the state. -/
structure Stamped (π : Type) where
  /-- The packet. -/
  packet : π
  /-- The number of resumes. -/
  readAt : Nat
  deriving DecidableEq

/-- `PacketSender` — a handle. -/
inductive Handle where
  /-- It can be used. -/
  | live
  /-- It was the last one when it was dropped; `notify_waiters` is next. -/
  | closing
  /-- It was dropped. -/
  | dropped
  deriving DecidableEq

/-- Where a call of `send_inner` stands. -/
inductive SendPlace (π : Type) where
  /-- The state is read next. -/
  | reading (packet : π) (force : Bool)
  /-- The packet is pushed next. -/
  | pushing (queued : QueuedPacket (Stamped π)) (force : Bool)
  /-- `notify_one` is next. -/
  | notifying
  /-- It returned. -/
  | done

/-- A call of `send_inner`. -/
structure SendCall (π : Type) where
  /-- The handle it is made through. -/
  handle : Nat
  /-- Where it stands. -/
  place : SendPlace π

/-- What follows when `purge` has found the queue empty. -/
inductive AfterPurge where
  /-- The call returns. -/
  | finish
  /-- `resume` stores the active state. -/
  | activate (epoch : UInt64)
  /-- `notify_waiters`. -/
  | notify

/-- Where the call stands that switches or purges the queue. -/
inductive Control where
  /-- There is none. -/
  | idle
  /-- `resume` stores the inactive state of its epoch next. -/
  | storing (epoch : UInt64)
  /-- `suspend` clears the active bit next in what it read. -/
  | clearing (state : UInt64)
  /-- `purge` pops next. -/
  | purging (next : AfterPurge)
  /-- `resume` stores the active state of its epoch next. -/
  | activating (epoch : UInt64)
  /-- `notify_waiters` is next. -/
  | notifying

/-- Where a call of `try_recv_inner` is made. -/
inductive Within (notifies : Notify) where
  /-- On its own. -/
  | alone
  /-- In `recv`, before it starts to await. -/
  | first
  /-- In `recv`, after it started to await. -/
  | second (future : notifies.Notified)

/-- Where the receiver stands. -/
inductive Receiver (π : Type) (notifies : Notify) where
  /-- There is no call. -/
  | idle
  /-- `recv` checks next whether it is cancelled. -/
  | checking
  /-- `try_recv_inner` pops next. -/
  | popping (within : Within notifies) (started : Nat)
  /-- `try_recv_inner` reads the state next. -/
  | popped (within : Within notifies) (started : Nat) (queued : QueuedPacket (Stamped π))
  /-- `recv` reads the number of senders next. -/
  | counting (future : Option notifies.Notified)
  /-- `recv` starts to await next. -/
  | awaiting
  /-- `recv` polls next. -/
  | selecting (future : notifies.Notified)
  /-- `recv` has polled, and waits to be woken. -/
  | waiting (future : notifies.Notified)

/-- What an action makes a call return. -/
inductive Event (π : Type) where
  /-- No call returns. -/
  | quiet
  /-- A packet is not sent. -/
  | refused (packet : π)
  /-- A packet is sent. -/
  | sent
  /-- A packet is received by a call that started after so many resumes. -/
  | received (packet : Stamped π) (started : Nat)
  /-- No packet is received. -/
  | nothing
  deriving DecidableEq

/-- The queue and the calls on it. -/
structure Channel {π : Type} (queues : ArrayQueue (QueuedPacket (Stamped π)))
    (notifies : Notify) where
  /-- The queue. -/
  shared : PacketQueue queues notifies
  /-- The handles of senders. -/
  handles : List Handle
  /-- The calls of senders. -/
  calls : List (SendCall π)
  /-- The call that switches or purges the queue. -/
  control : Control
  /-- The call of the receiver. -/
  receiver : Receiver π notifies
  /-- Whether `recv` is cancelled. -/
  cancelled : Bool
  /-- How often the queue was resumed. -/
  resumes : Nat

/-- An atomic step. -/
inductive Action (π : Type) where
  /-- A call of `try_send` or `force_send` starts and reads whether there is a receiver. -/
  | send (handle : Nat) (packet : π) (force : Bool)
  /-- A send call takes its next step. -/
  | call (index : Nat)
  /-- A handle is cloned. -/
  | clone (handle : Nat)
  /-- A handle is dropped. -/
  | drop (handle : Nat)
  /-- The handle that was the last one calls `notify_waiters`. -/
  | close (handle : Nat)
  /-- `resume` starts and reads the state. -/
  | resume
  /-- `suspend` starts and reads the state. -/
  | suspend
  /-- `purge` starts. -/
  | purge
  /-- The receiver is dropped, and `receiver_open` with it. -/
  | dropReceiver
  /-- `resume`, `suspend`, `purge` or the drop takes its next step. -/
  | control
  /-- `try_recv` starts. -/
  | tryRecv
  /-- `recv` starts. -/
  | recv
  /-- The call of the receiver takes its next step. -/
  | receive
  /-- The caller drops what `recv` returned while it waits. -/
  | abandon
  /-- The token of `recv` is cancelled. -/
  | cancel

variable {π : Type} {queues : ArrayQueue (QueuedPacket (Stamped π))} {notifies : Notify}

/-- A new queue with one handle. -/
def Channel.new (queues : ArrayQueue (QueuedPacket (Stamped π))) (notifies : Notify)
    (capacity : Nat) (active : Bool) : Channel queues notifies where
  shared := packetChannel queues notifies capacity active
  handles := [.live]
  calls := []
  control := .idle
  receiver := .idle
  cancelled := false
  resumes := 0

/-- Whether a call of `send_inner` returned. -/
def SendPlace.isDone : SendPlace π → Bool
  | .done => true
  | _ => false

/-- The next step of a call of `send_inner`. -/
def SendPlace.next (shared : PacketQueue queues notifies) (resumes : Nat) :
    SendPlace π → PacketQueue queues notifies × SendPlace π × Event π
  | .reading packet force =>
    let state := shared.state
    if state &&& queueActive = 0 then (shared, .done, .refused packet)
    else (shared, .pushing ⟨⟨packet, resumes⟩, state >>> 1⟩ force, .quiet)
  | .pushing queued force =>
    if force then
      ({ shared with queue := (queues.forcePush shared.queue queued).2 }, .notifying, .quiet)
    else
      match queues.push shared.queue queued with
      | (some queued, queue) => ({ shared with queue }, .done, .refused queued.packet.packet)
      | (none, queue) => ({ shared with queue }, .notifying, .quiet)
  | .notifying =>
    ({ shared with notify := notifies.notifyOne shared.notify }, .done, .sent)
  | .done => (shared, .done, .quiet)

/-- Where `purge` leads when the queue is empty. -/
def AfterPurge.control : AfterPurge → Control
  | .finish => .idle
  | .activate epoch => .activating epoch
  | .notify => .notifying

/-- The next step of the call that switches or purges the queue. -/
def Channel.controlStep (channel : Channel queues notifies) : Channel queues notifies :=
  let shared := channel.shared
  match channel.control with
  | .idle => channel
  | .storing epoch =>
    { channel with
      shared := { shared with state := epoch <<< 1 }
      control := .purging (.activate epoch) }
  | .clearing state =>
    { channel with
      shared := { shared with state := state &&& ~~~queueActive }
      control := .purging .notify }
  | .purging next =>
    match queues.pop shared.queue with
    | (none, queue) =>
      { channel with shared := { shared with queue }, control := next.control }
    | (some _, queue) => { channel with shared := { shared with queue } }
  | .activating epoch =>
    { channel with
      shared := { shared with state := epoch <<< 1 ||| queueActive }
      control := .notifying
      resumes := channel.resumes + 1 }
  | .notifying =>
    { channel with
      shared := { shared with notify := notifies.notifyWaiters shared.notify }
      control := .idle }

/-- The receiver's call returns, and what it awaits is dropped. -/
def Channel.returned (channel : Channel queues notifies) :
    Option notifies.Notified → Channel queues notifies
  | none => { channel with receiver := .idle }
  | some future =>
    { channel with
      shared :=
        { channel.shared with notify := notifies.drop channel.shared.notify future }
      receiver := .idle }

/-- What is awaited during a call of `try_recv_inner`. -/
def Within.future : Within notifies → Option notifies.Notified
  | .alone => none
  | .first => none
  | .second future => some future

/-- The next poll of `select!`, in which cancellation comes first. -/
def Channel.select (channel : Channel queues notifies) (future : notifies.Notified) :
    Channel queues notifies × Event π :=
  if channel.cancelled then (channel.returned (some future), .nothing)
  else
    match notifies.poll channel.shared.notify future with
    | (ready, notify, future) =>
      ({ channel with
          shared := { channel.shared with notify }
          receiver := if ready then .checking else .waiting future }, .quiet)

/-- The next step of the call of the receiver. -/
def Channel.receiverStep (channel : Channel queues notifies) :
    Channel queues notifies × Event π :=
  let shared := channel.shared
  match channel.receiver with
  | .idle => (channel, .quiet)
  | .checking =>
    if channel.cancelled then (channel.returned none, .nothing)
    else ({ channel with receiver := .popping .first channel.resumes }, .quiet)
  | .popping within started =>
    match queues.pop shared.queue with
    | (some queued, queue) =>
      ({ channel with
          shared := { shared with queue }
          receiver := .popped within started queued }, .quiet)
    | (none, queue) =>
      let channel := { channel with shared := { shared with queue } }
      match within with
      | .alone => (channel.returned none, .nothing)
      | .first => ({ channel with receiver := .counting none }, .quiet)
      | .second future => ({ channel with receiver := .counting (some future) }, .quiet)
  | .popped within started queued =>
    let state := shared.state
    if state &&& queueActive ≠ 0 ∧ queued.epoch = state >>> 1 then
      (channel.returned within.future, .received queued.packet started)
    else ({ channel with receiver := .popping within started }, .quiet)
  | .counting future =>
    if shared.senders = 0 then (channel.returned future, .nothing)
    else
      match future with
      | none => ({ channel with receiver := .awaiting }, .quiet)
      | some future => ({ channel with receiver := .selecting future }, .quiet)
  | .awaiting =>
    ({ channel with
        receiver := .popping (.second (notifies.notified shared.notify)) channel.resumes }, .quiet)
  | .selecting future => channel.select future
  | .waiting future => channel.select future

/-- Whether a call through a handle has not returned. -/
def Channel.borrowed (channel : Channel queues notifies) (handle : Nat) : Bool :=
  channel.calls.any fun call => call.handle = handle && !call.place.isDone

/-- `drop` of a handle, as far as to the decrement. -/
def Channel.dropHandle (channel : Channel queues notifies) (handle : Nat) :
    Channel queues notifies :=
  { channel with
    shared := { channel.shared with senders := channel.shared.senders - 1 }
    handles := channel.handles.set handle
      (if channel.shared.senders = 1 then .closing else .dropped) }

/-- Whether the receiver can be called. -/
def Channel.receiving (channel : Channel queues notifies) : Bool :=
  match channel.receiver with
  | .idle => channel.shared.receiverOpen
  | _ => false

/-- Whether the queue can be switched or purged. -/
def Channel.controlling (channel : Channel queues notifies) : Bool :=
  match channel.control with
  | .idle => channel.shared.receiverOpen
  | _ => false

/-- One action. -/
def Channel.step (channel : Channel queues notifies) :
    Action π → Channel queues notifies × Event π
  | .send handle packet force =>
    if channel.handles[handle]? ≠ some .live then (channel, .quiet)
    else if channel.shared.receiverOpen = false then (channel, .refused packet)
    else ({ channel with calls := channel.calls ++ [⟨handle, .reading packet force⟩] }, .quiet)
  | .call index =>
    match channel.calls[index]? with
    | none => (channel, .quiet)
    | some call =>
      let (shared, place, event) := call.place.next channel.shared channel.resumes
      ({ channel with shared, calls := channel.calls.set index { call with place } }, event)
  | .clone handle =>
    if channel.handles[handle]? ≠ some .live then (channel, .quiet)
    else
      ({ channel with
          shared := { channel.shared with senders := channel.shared.senders + 1 }
          handles := channel.handles ++ [.live] }, .quiet)
  | .drop handle =>
    if channel.handles[handle]? ≠ some .live ∨ channel.borrowed handle then (channel, .quiet)
    else (channel.dropHandle handle, .quiet)
  | .close handle =>
    if channel.handles[handle]? ≠ some .closing then (channel, .quiet)
    else
      ({ channel with
          shared :=
            { channel.shared with notify := notifies.notifyWaiters channel.shared.notify }
          handles := channel.handles.set handle .dropped }, .quiet)
  | .resume =>
    if channel.controlling then
      ({ channel with control := .storing (nextEpoch channel.shared.state) }, .quiet)
    else (channel, .quiet)
  | .suspend =>
    if channel.controlling then
      ({ channel with control := .clearing channel.shared.state }, .quiet)
    else (channel, .quiet)
  | .purge =>
    if channel.controlling then ({ channel with control := .purging .finish }, .quiet)
    else (channel, .quiet)
  | .dropReceiver =>
    if channel.controlling && channel.receiving then
      ({ channel with
          shared := { channel.shared with receiverOpen := false }
          control := .purging .notify }, .quiet)
    else (channel, .quiet)
  | .control => (channel.controlStep, .quiet)
  | .tryRecv =>
    if channel.receiving then
      ({ channel with receiver := .popping .alone channel.resumes }, .quiet)
    else (channel, .quiet)
  | .recv =>
    if channel.receiving then ({ channel with receiver := .checking }, .quiet)
    else (channel, .quiet)
  | .receive => channel.receiverStep
  | .abandon =>
    match channel.receiver with
    | .waiting future => (channel.returned (some future), .quiet)
    | _ => (channel, .quiet)
  | .cancel => ({ channel with cancelled := true }, .quiet)

end Focsq.Dispatcher
