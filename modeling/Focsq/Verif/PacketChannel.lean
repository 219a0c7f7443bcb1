import Focsq.Backend.PacketChannel
import Focsq.Lib.Mealy

/-!
# What a step of a packet queue can do

`Channel.Moves` lists what the actions do where their calls are there. Invariants of the queue are
proved of the list.
-/

namespace Focsq.Dispatcher

variable {π : Type} {queues : ArrayQueue (QueuedPacket (Stamped π))} {notifies : Notify}

/-- What an action can do. -/
inductive Channel.Moves (channel : Channel queues notifies) :
    Channel queues notifies → Event π → Prop where
  /-- Nothing, as when the call is not there; a sender may be refused. -/
  | stay {event : Event π} (ignored : event = .quiet ∨ ∃ packet, event = .refused packet) :
    Moves channel channel event
  /-- A send call starts. -/
  | send (handle : Nat) (packet : π) (force : Bool)
      (live : channel.handles[handle]? = some .live) (receiverOpen : channel.shared.receiverOpen) :
    Moves channel
      { channel with calls := channel.calls ++ [⟨handle, .reading packet force⟩] } .quiet
  /-- A send call goes on. -/
  | call (index : Nat) (call : SendCall π) (found : channel.calls[index]? = some call) :
    Moves channel
      { channel with
        shared := (call.place.next channel.shared channel.resumes).1
        calls := channel.calls.set index
          { call with place := (call.place.next channel.shared channel.resumes).2.1 } }
      (call.place.next channel.shared channel.resumes).2.2
  /-- A handle is cloned. -/
  | clone (handle : Nat) (live : channel.handles[handle]? = some .live) :
    Moves channel
      { channel with
        shared := { channel.shared with senders := channel.shared.senders + 1 }
        handles := channel.handles ++ [.live] } .quiet
  /-- A handle is dropped. -/
  | drop (handle : Nat) (live : channel.handles[handle]? = some .live)
      (unused : channel.borrowed handle = false) :
    Moves channel (channel.dropHandle handle) .quiet
  /-- The last handle notifies. -/
  | close (handle : Nat) (closing : channel.handles[handle]? = some .closing) :
    Moves channel
      { channel with
        shared :=
          { channel.shared with notify := notifies.notifyWaiters channel.shared.notify }
        handles := channel.handles.set handle .dropped } .quiet
  /-- `resume` starts. -/
  | resume (free : channel.control = .idle) :
    Moves channel { channel with control := .storing (nextEpoch channel.shared.state) } .quiet
  /-- `suspend` starts. -/
  | suspend (free : channel.control = .idle) :
    Moves channel { channel with control := .clearing channel.shared.state } .quiet
  /-- `purge` starts. -/
  | purge (free : channel.control = .idle) :
    Moves channel { channel with control := .purging .finish } .quiet
  /-- The receiver is dropped. -/
  | dropReceiver (free : channel.control = .idle) (alone : channel.receiver = .idle) :
    Moves channel
      { channel with
        shared := { channel.shared with receiverOpen := false }
        control := .purging .notify } .quiet
  /-- The call that switches or purges the queue goes on. -/
  | control : Moves channel channel.controlStep .quiet
  /-- `try_recv` starts. -/
  | tryRecv (free : channel.receiver = .idle) :
    Moves channel { channel with receiver := .popping .alone channel.resumes } .quiet
  /-- `recv` starts. -/
  | recv (free : channel.receiver = .idle) :
    Moves channel { channel with receiver := .checking } .quiet
  /-- The call of the receiver goes on. -/
  | receive : Moves channel channel.receiverStep.1 channel.receiverStep.2
  /-- The call of the receiver is given up. -/
  | abandon (future : notifies.Notified) (waiting : channel.receiver = .waiting future) :
    Moves channel (channel.returned (some future)) .quiet
  /-- The token is cancelled. -/
  | cancel : Moves channel { channel with cancelled := true } .quiet

/-- An action that is ignored. -/
theorem Channel.Moves.ignored (channel : Channel queues notifies) :
    channel.Moves channel (.quiet : Event π) := .stay (.inl rfl)

/-- The receiver can be called when it is idle. -/
theorem Channel.receiving_idle {channel : Channel queues notifies}
    (receiving : channel.receiving = true) : channel.receiver = .idle := by
  unfold Channel.receiving at receiving
  cases stands : channel.receiver <;> simp [stands] at receiving ⊢

/-- The queue can be switched when no call does. -/
theorem Channel.controlling_idle {channel : Channel queues notifies}
    (controlling : channel.controlling = true) : channel.control = .idle := by
  unfold Channel.controlling at controlling
  cases stands : channel.control <;> simp [stands] at controlling ⊢

/-- Every action does what is listed. -/
theorem Channel.step_moves (channel : Channel queues notifies) (action : Action π) :
    channel.Moves (channel.step action).1 (channel.step action).2 := by
  cases action with
  | send handle packet force =>
    by_cases live : channel.handles[handle]? = some .live
    · cases opened : channel.shared.receiverOpen with
      | false => simpa [Channel.step, live, opened] using .stay (.inr ⟨packet, rfl⟩)
      | true => simpa [Channel.step, live, opened] using .send handle packet force live opened
    · simpa [Channel.step, live] using .ignored channel
  | call index =>
    cases found : channel.calls[index]? with
    | none => simpa [Channel.step, found] using .ignored channel
    | some call => simpa [Channel.step, found] using .call index call found
  | clone handle =>
    by_cases live : channel.handles[handle]? = some .live
    · simpa [Channel.step, live] using .clone handle live
    · simpa [Channel.step, live] using .ignored channel
  | drop handle =>
    by_cases live : channel.handles[handle]? = some .live
    · cases used : channel.borrowed handle with
      | true => simpa [Channel.step, live, used] using .ignored channel
      | false => simpa [Channel.step, live, used] using .drop handle live used
    · simpa [Channel.step, live] using .ignored channel
  | close handle =>
    by_cases closing : channel.handles[handle]? = some .closing
    · simpa [Channel.step, closing] using .close handle closing
    · simpa [Channel.step, closing] using .ignored channel
  | resume =>
    cases free : channel.controlling with
    | true => simpa [Channel.step, free] using .resume (controlling_idle free)
    | false => simpa [Channel.step, free] using .ignored channel
  | suspend =>
    cases free : channel.controlling with
    | true => simpa [Channel.step, free] using .suspend (controlling_idle free)
    | false => simpa [Channel.step, free] using .ignored channel
  | purge =>
    cases free : channel.controlling with
    | true => simpa [Channel.step, free] using .purge (controlling_idle free)
    | false => simpa [Channel.step, free] using .ignored channel
  | dropReceiver =>
    cases free : channel.controlling with
    | false => simpa [Channel.step, free] using .ignored channel
    | true =>
      cases alone : channel.receiving with
      | false => simpa [Channel.step, free, alone] using .ignored channel
      | true =>
        simpa [Channel.step, free, alone] using
          .dropReceiver (controlling_idle free) (receiving_idle alone)
  | control => exact .control
  | tryRecv =>
    cases free : channel.receiving with
    | true => simpa [Channel.step, free] using .tryRecv (receiving_idle free)
    | false => simpa [Channel.step, free] using .ignored channel
  | recv =>
    cases free : channel.receiving with
    | true => simpa [Channel.step, free] using .recv (receiving_idle free)
    | false => simpa [Channel.step, free] using .ignored channel
  | receive => exact .receive
  | abandon =>
    cases stands : channel.receiver with
    | waiting future => simpa [Channel.step, stands] using .abandon future stands
    | _ => simpa [Channel.step, stands] using .ignored channel
  | cancel => exact .cancel

end Focsq.Dispatcher
