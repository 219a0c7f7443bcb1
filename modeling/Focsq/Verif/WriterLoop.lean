import Focsq.Backend.WriterLoop
import Focsq.Lib.Costs
import Focsq.Verif.Packet
import Focsq.Verif.Returns

/-!
# The order in which the writer takes packets

In whatever order packets arrive and the writer does its steps, every packet that it takes is given
to the transport, in batches of one class that are not longer than they may be. While a packet of a
class waits, at most one packet of a lower class is taken, and while a command waits, at most one
batch.
-/

namespace Focsq.Session

open Dispatcher Effects Obfs Packet StripedScheduler

variable {queues : ArrayQueue (QueuedPacket PacketBuf)} {notifies : Notify}
  {contents : queues.Queue → List (QueuedPacket PacketBuf)} {capacity : queues.Queue → Nat}

section Queues

/-- There is room for every class. -/
theorem workerCapacity_pos (packetClass : PacketClass) : 0 < workerCapacity packetClass := by
  cases packetClass <;> decide

/-- What the queues hold when an event has been seen. -/
def heldAfter (items : PacketClass → List PacketBuf) :
    Option WriterEvent → PacketClass → List PacketBuf
  | some (.sent packetClass packet) =>
    Function.update items packetClass
      (Fifo.forcePush (workerCapacity packetClass) (items packetClass) packet).2
  | some (.taken packetClass _) => Function.update items packetClass (items packetClass).tail
  | _ => items

/-- A packet that is taken is the oldest one of its queue. -/
def TakesOldest (items : PacketClass → List PacketBuf) (event : Option WriterEvent) : Prop :=
  ∀ packetClass packet, event = some (.taken packetClass packet) →
    (items packetClass).head? = some packet

/-- To await a queue, or no longer, or to count its senders, changes nothing of what it holds. -/
theorem refines_aside {shared : PacketQueue queues notifies} {queue : Reference PacketBuf}
    (refines : Refines contents capacity shared queue) (notify : notifies.State) (senders : Nat) :
    Refines contents capacity { shared with notify, senders } queue :=
  ⟨refines.receiverOpen, refines.capacity, refines.items, refines.epochs, refines.active,
    refines.idle⟩

/-- To drop a call of `recv` changes nothing of what a queue holds. -/
theorem refines_drop {shared : PacketQueue queues notifies} {queue : Reference PacketBuf}
    (refines : Refines contents capacity shared queue) (place : RecvPlace notifies) :
    Refines contents capacity (place.drop shared) queue := by
  rw [RecvPlace.drop]
  cases place.future with
  | none => exact refines
  | some future => exact refines_aside refines _ shared.senders

/-- To drop the calls changes nothing of what the queues hold. -/
theorem holds_dropCalls {shared : PacketClass → PacketQueue queues notifies}
    {items : PacketClass → List PacketBuf}
    (holds : Holds workerCapacity contents capacity shared items)
    (calls : PacketClass → RecvPlace notifies) :
    Holds workerCapacity contents capacity (dropCalls calls shared) items :=
  fun packetClass => refines_drop (holds packetClass) (calls packetClass)

/-- One queue changes, and holds what it held. -/
theorem holds_same {room : PacketClass → Nat}
    {shared : PacketClass → PacketQueue queues notifies} {items : PacketClass → List PacketBuf}
    (holds : Holds room contents capacity shared items) {packetClass : PacketClass}
    {after : PacketQueue queues notifies}
    (refines : Refines contents capacity after ⟨room packetClass, true, items packetClass⟩) :
    Holds room contents capacity (Function.update shared packetClass after) items := by
  have updated := holds.update refines
  rwa [Function.update_eq_self] at updated

/-- What a step of `recv` leaves in its queue. -/
theorem recvNext_holds (lawful : queues.Lawful contents capacity) {size : Nat}
    {shared : PacketQueue queues notifies} {items : List PacketBuf}
    (refines : Refines contents capacity shared ⟨size, true, items⟩) (cancelled : Bool)
    (place : RecvPlace notifies) :
    (∃ packet rest, items = packet :: rest ∧
        (place.next cancelled shared).2 = .returned (some packet) ∧
        Refines contents capacity (place.next cancelled shared).1 ⟨size, true, rest⟩) ∨
      (∀ packet, (place.next cancelled shared).2 ≠ .returned (some packet)) ∧
        Refines contents capacity (place.next cancelled shared).1 ⟨size, true, items⟩ := by
  cases place with
  | checking =>
    right
    rw [RecvPlace.next]
    split
    · exact ⟨fun _ same => (by cases same), refines⟩
    · exact ⟨fun _ same => (by cases same), refines⟩
  | trying future =>
    obtain ⟨answer, after⟩ := recv_refines lawful refines
    rw [RecvPlace.next]
    cases taken : shared.tryRecvInner with
    | mk packet left =>
      rw [taken] at answer after
      cases items with
      | nil =>
        cases answer
        right
        exact ⟨fun _ same => (by cases same), after⟩
      | cons oldest rest =>
        cases answer
        left
        exact ⟨oldest, rest, rfl, rfl, refines_drop after _⟩
  | counting future =>
    right
    unfold RecvPlace.next
    dsimp only
    split
    · exact ⟨fun _ same => (by cases same), refines_drop refines _⟩
    · cases future with
      | none => exact ⟨fun _ same => (by cases same), refines⟩
      | some future => exact ⟨fun _ same => (by cases same), refines⟩
  | awaiting => exact .inr ⟨fun _ same => (by cases same), refines⟩
  | selecting future =>
    right
    rw [RecvPlace.next]
    split
    · exact ⟨fun _ same => (by cases same), refines_drop refines (.selecting future)⟩
    · rcases notifies.poll shared.notify future with ⟨_ | _, notify, future⟩
      · exact ⟨fun _ same => (by cases same), refines_aside refines _ shared.senders⟩
      · exact ⟨fun _ same => (by cases same), refines_aside refines _ shared.senders⟩

end Queues

section Moves

/-- What the writer can do next, where its queues hold some packets and there are some commands. -/
inductive WriterMoves (items : PacketClass → List PacketBuf) (commands : List (List UInt8)) :
    WriterPlace notifies → Option WriterEvent → WriterPlace notifies → Prop where
  /-- A command comes first. -/
  | commanded {data : List UInt8} {rest : List (List UInt8)} (given : commands = data :: rest) :
    WriterMoves items commands .turn (some (.command data)) (.handling data)
  /-- There is none. -/
  | uncommanded (none_given : commands = []) :
    WriterMoves items commands .turn none (.finding .small)
  /-- A command is handled. -/
  | handled (data : List UInt8) (acquired : Option PacketBuf) :
    WriterMoves items commands (.handling data) (some (.turned (.command acquired data))) .turn
  /-- A packet is found. -/
  | found (packetClass : PacketClass) (packet : PacketBuf) :
    WriterMoves items commands (.finding packetClass) (some (.taken packetClass packet))
      (OpenBatch.place ⟨packetClass, packet, 1, []⟩)
  /-- No packet is found, and the next queue follows. -/
  | passed {packetClass following : PacketClass} (empty : items packetClass = [])
    (after : nextClass packetClass = some following) :
    WriterMoves items commands (.finding packetClass) none (.finding following)
  /-- No packet is found in the last queue. -/
  | unfound {packetClass : PacketClass} (empty : items packetClass = [])
    (last : nextClass packetClass = none) :
    WriterMoves items commands (.finding packetClass) none (.closing false .small)
  /-- A queue is closed, and the next one follows. -/
  | closed (selected : Bool) (packetClass following : PacketClass) :
    WriterMoves items commands (.closing selected packetClass) none (.closing selected following)
  /-- All queues are closed. -/
  | ended (selected : Bool) (packetClass : PacketClass) :
    WriterMoves items commands (.closing selected packetClass) none
      (if selected then .stopped else .nothing)
  /-- A queue is not closed. -/
  | opened (selected : Bool) (packetClass : PacketClass)
    (calls : PacketClass → RecvPlace notifies) :
    WriterMoves items commands (.closing selected packetClass) none
      (if selected then .turn else .selecting calls .cancel)
  /-- The next poll of the selection. -/
  | polled (calls others : PacketClass → RecvPlace notifies) (poll other : WriterPoll) :
    WriterMoves items commands (.selecting calls poll) none (.selecting others other)
  /-- The selection ends without a packet. -/
  | unselected (calls : PacketClass → RecvPlace notifies) (poll : WriterPoll)
    {place : WriterPlace notifies} (ends : place = .stopped ∨ place = .turn ∨ place = .nothing) :
    WriterMoves items commands (.selecting calls poll) none place
  /-- A command is selected. -/
  | selectedCommand (calls : PacketClass → RecvPlace notifies) (poll : WriterPoll)
    {data : List UInt8} {rest : List (List UInt8)} (given : commands = data :: rest) :
    WriterMoves items commands (.selecting calls poll) (some (.command data)) (.handling data)
  /-- A packet is selected. -/
  | selected (calls : PacketClass → RecvPlace notifies) (poll : WriterPoll)
    (packetClass : PacketClass) (packet : PacketBuf) :
    WriterMoves items commands (.selecting calls poll) (some (.taken packetClass packet))
      (OpenBatch.place ⟨packetClass, packet, 1, []⟩)
  /-- There was nothing. -/
  | missed {place : WriterPlace notifies} (next : place = .stopped ∨ place = .closing true .small) :
    WriterMoves items commands .nothing none place
  /-- The queue of small packets is looked at. -/
  | looked (batch : OpenBatch) :
    WriterMoves items commands (.extending batch) none
      (.comparing batch !(items .small).isEmpty)
  /-- The queue of medium packets is looked at, and the batch may grow. -/
  | extended {batch : OpenBatch} {latencyPending : Bool}
    (grows : writerBatchCanExtend batch.batch
      ⟨latencyPending, !(items .medium).isEmpty, none⟩ = true) :
    WriterMoves items commands (.comparing batch latencyPending) none
      (.taking batch latencyPending !(items .medium).isEmpty)
  /-- The queue of medium packets is looked at, and the batch is sent. -/
  | complete (batch : OpenBatch) (latencyPending priorityPending : Bool) :
    WriterMoves items commands (.comparing batch latencyPending) none
      (.flushing (batch.found latencyPending priorityPending none))
  /-- The batch grows. -/
  | grown (batch : OpenBatch) (latencyPending priorityPending : Bool) (packet : PacketBuf) :
    WriterMoves items commands (.taking batch latencyPending priorityPending)
      (some (.taken batch.batch packet))
      (OpenBatch.place (batch.found latencyPending priorityPending (some packet)))
  /-- There is nothing more for the batch. -/
  | exhausted (batch : OpenBatch) (latencyPending priorityPending : Bool) :
    WriterMoves items commands (.taking batch latencyPending priorityPending) none
      (.flushing (batch.found latencyPending priorityPending none))
  /-- The batch is sent, or fails. -/
  | flushed (batch : OpenBatch) {place : WriterPlace notifies}
    (next : place = .turn ∨ place = .stopped) :
    WriterMoves items commands (.flushing batch)
      (some (.turned (.batch batch.batch batch.first batch.arrivals))) place
  /-- It has returned. -/
  | stopped : WriterMoves items commands .stopped none .stopped

/-- The commands that are left. -/
def commandsAfter (commands : List (List UInt8)) : Option WriterEvent → List (List UInt8)
  | some (.command _) => commands.tail
  | _ => commands

/-- A step of the writer from some packets and commands. -/
structure Writer.Turns (contents : queues.Queue → List (QueuedPacket PacketBuf))
    (capacity : queues.Queue → Nat) (items : PacketClass → List PacketBuf)
    (writer : Writer queues notifies) (next : Writer queues notifies × Option WriterEvent) :
    Prop where
  /-- What it does. -/
  moves : WriterMoves items writer.commands writer.place next.2 next.1.place
  /-- What the queues hold afterwards. -/
  holds : Holds workerCapacity contents capacity next.1.shared (heldAfter items next.2)
  /-- Packets are taken in their order. -/
  oldest : TakesOldest items next.2
  /-- The commands that are left. -/
  commands : next.1.commands = commandsAfter writer.commands next.2

/-- Nothing is taken. -/
theorem takesOldest_none (items : PacketClass → List PacketBuf) : TakesOldest items none :=
  fun _ _ same => by cases same

/-- The first packet of a queue is taken. -/
theorem takesOldest_cons {items : PacketClass → List PacketBuf} {packetClass : PacketClass}
    {packet : PacketBuf} {rest : List PacketBuf} (here : items packetClass = packet :: rest) :
    TakesOldest items (some (.taken packetClass packet)) := by
  intro other taken same
  cases same
  rw [here]
  rfl

/-- What `try_recv` does to the queues. -/
theorem tryRecv_holds (lawful : queues.Lawful contents capacity)
    {shared : PacketClass → PacketQueue queues notifies} {items : PacketClass → List PacketBuf}
    (holds : Holds workerCapacity contents capacity shared items) (packetClass : PacketClass) :
    (∃ packet rest, items packetClass = packet :: rest ∧
        (shared packetClass).tryRecvInner.1 = some packet ∧
        Holds workerCapacity contents capacity
          (Function.update shared packetClass (shared packetClass).tryRecvInner.2)
          (heldAfter items (some (.taken packetClass packet)))) ∨
      items packetClass = [] ∧ (shared packetClass).tryRecvInner.1 = none ∧
        Holds workerCapacity contents capacity
          (Function.update shared packetClass (shared packetClass).tryRecvInner.2) items := by
  obtain ⟨answer, after⟩ := recv_refines lawful (holds packetClass)
  cases here : items packetClass with
  | nil =>
    rw [here] at answer after
    exact .inr ⟨rfl, answer, holds_same holds (by rw [here]; exact after)⟩
  | cons packet rest =>
    rw [here] at answer after
    refine .inl ⟨packet, rest, rfl, answer, ?_⟩
    rw [heldAfter, here]
    exact holds.update after

/-- Whether a queue holds something. -/
theorem hasQueuedPacket_eq (lawful : queues.Lawful contents capacity)
    {writer : Writer queues notifies} {items : PacketClass → List PacketBuf}
    (holds : Holds workerCapacity contents capacity writer.shared items)
    (packetClass : PacketClass) :
    writer.hasQueuedPacket packetClass = !(items packetClass).isEmpty := by
  have length : (contents (writer.shared packetClass).queue).length =
      (items packetClass).length := by
    have same := (holds packetClass).items
    dsimp only at same
    rw [same, List.length_map]
  rw [Writer.hasQueuedPacket, lawful.len, length]
  cases items packetClass <;> rfl

/-- What a poll of the selection does. -/
theorem poll_turns (lawful : queues.Lawful contents capacity) {writer : Writer queues notifies}
    {items : PacketClass → List PacketBuf}
    (holds : Holds workerCapacity contents capacity writer.shared items)
    {calls : PacketClass → RecvPlace notifies} {poll : WriterPoll}
    (here : writer.place = .selecting calls poll) :
    writer.Turns contents capacity items (writer.poll calls poll) := by
  cases poll with
  | cancel =>
    rw [Writer.poll]
    split
    · exact ⟨here ▸ .unselected calls _ (.inl rfl), holds_dropCalls holds calls,
        takesOldest_none items, rfl⟩
    · exact ⟨here ▸ .polled calls calls _ _, holds, takesOldest_none items, rfl⟩
  | command =>
    rw [Writer.poll]
    split
    · rename_i data rest given
      exact ⟨here ▸ .selectedCommand calls _ given, holds_dropCalls holds calls,
        fun _ _ same => (by cases same), by rw [given]; rfl⟩
    · split
      · exact ⟨here ▸ .polled calls calls _ _, holds, takesOldest_none items, rfl⟩
      · exact ⟨here ▸ .unselected calls _ (.inr (.inl rfl)), holds_dropCalls holds calls,
          takesOldest_none items, rfl⟩
  | recv packetClass =>
    have stepped := recvNext_holds lawful (holds packetClass) writer.cancelled (calls packetClass)
    unfold Writer.poll
    dsimp only
    generalize (calls packetClass).next writer.cancelled (writer.shared packetClass) = next
      at stepped
    obtain ⟨shared, turn⟩ := next
    rcases stepped with ⟨packet, rest, nonempty, taken, after⟩ | ⟨untaken, after⟩
    · dsimp only at taken after
      subst taken
      have held : Holds workerCapacity contents capacity
          (Function.update writer.shared packetClass shared)
          (heldAfter items (some (.taken packetClass packet))) := by
        rw [heldAfter, nonempty]
        exact holds.update after
      exact ⟨here ▸ .selected calls _ packetClass packet, holds_dropCalls held _,
        takesOldest_cons nonempty, rfl⟩
    · dsimp only at untaken after
      have same := holds_same holds after
      cases turn with
      | on place => exact ⟨here ▸ .polled calls _ _ _, same, takesOldest_none items, rfl⟩
      | pending place => exact ⟨here ▸ .polled calls _ _ _, same, takesOldest_none items, rfl⟩
      | returned packet =>
        cases packet with
        | none =>
          exact ⟨here ▸ .unselected calls _ (.inr (.inr rfl)), holds_dropCalls same _,
            takesOldest_none items, rfl⟩
        | some packet => exact absurd rfl (untaken packet)

/-- What a step of the writer does. -/
theorem next_turns (lawful : queues.Lawful contents capacity) {writer : Writer queues notifies}
    {items : PacketClass → List PacketBuf}
    (holds : Holds workerCapacity contents capacity writer.shared items)
    (acquired : Option PacketBuf) (sent : Bool) :
    writer.Turns contents capacity items (writer.next acquired sent) := by
  cases here : writer.place with
  | turn =>
    unfold Writer.next
    rw [here]
    dsimp only
    split
    · rename_i data rest given
      exact ⟨here ▸ .commanded given, holds, fun _ _ same => (by cases same), by rw [given]; rfl⟩
    · rename_i given
      exact ⟨here ▸ .uncommanded given, holds, takesOldest_none items, rfl⟩
  | handling data =>
    unfold Writer.next
    rw [here]
    dsimp only
    exact ⟨here ▸ .handled data acquired, holds, fun _ _ same => (by cases same), rfl⟩
  | finding packetClass =>
    have taking := tryRecv_holds lawful holds packetClass
    unfold Writer.next
    rw [here]
    dsimp only
    rcases taking with ⟨packet, rest, nonempty, taken, after⟩ | ⟨empty, taken, after⟩
    · rw [taken]
      dsimp only [Writer.begin]
      exact ⟨here ▸ .found packetClass packet, after, takesOldest_cons nonempty, rfl⟩
    · rw [taken]
      dsimp only
      split
      · rename_i following follows
        exact ⟨here ▸ .passed empty follows, after, takesOldest_none items, rfl⟩
      · rename_i last
        exact ⟨here ▸ .unfound empty last, after, takesOldest_none items, rfl⟩
  | closing selected packetClass =>
    unfold Writer.next
    rw [here]
    dsimp only
    split
    · split
      · exact ⟨here ▸ .closed selected packetClass _, holds, takesOldest_none items, rfl⟩
      · exact ⟨here ▸ .ended selected packetClass, holds, takesOldest_none items, rfl⟩
    · cases selected with
      | false =>
        exact ⟨here ▸ .opened false packetClass fun _ => .checking, holds,
          takesOldest_none items, rfl⟩
      | true =>
        exact ⟨here ▸ .opened true packetClass fun _ => .checking, holds,
          takesOldest_none items, rfl⟩
  | selecting calls poll =>
    unfold Writer.next
    rw [here]
    exact poll_turns lawful holds here
  | nothing =>
    unfold Writer.next
    rw [here]
    dsimp only
    refine ⟨here ▸ .missed ?_, holds, takesOldest_none items, rfl⟩
    split
    · exact .inl rfl
    · exact .inr rfl
  | extending batch =>
    unfold Writer.next
    rw [here]
    dsimp only
    rw [hasQueuedPacket_eq lawful holds]
    exact ⟨here ▸ .looked batch, holds, takesOldest_none items, rfl⟩
  | comparing batch latencyPending =>
    unfold Writer.next
    rw [here]
    dsimp only
    rw [hasQueuedPacket_eq lawful holds]
    split
    · rename_i grows
      exact ⟨here ▸ .extended grows, holds, takesOldest_none items, rfl⟩
    · exact ⟨here ▸ .complete batch latencyPending _, holds, takesOldest_none items, rfl⟩
  | taking batch latencyPending priorityPending =>
    have taking := tryRecv_holds lawful holds batch.batch
    unfold Writer.next
    rw [here]
    dsimp only
    rcases taking with ⟨packet, rest, nonempty, taken, after⟩ | ⟨empty, taken, after⟩
    · rw [taken]
      exact ⟨here ▸ .grown batch latencyPending priorityPending packet, after,
        takesOldest_cons nonempty, rfl⟩
    · rw [taken]
      exact ⟨here ▸ .exhausted batch latencyPending priorityPending, after,
        takesOldest_none items, rfl⟩
  | flushing batch =>
    unfold Writer.next
    rw [here]
    dsimp only
    refine ⟨here ▸ .flushed batch ?_, holds, fun _ _ same => (by cases same), rfl⟩
    cases sent with
    | false => exact .inr rfl
    | true => exact .inl rfl
  | stopped =>
    unfold Writer.next
    rw [here]
    exact ⟨by rw [here]; exact .stopped, holds, takesOldest_none items, rfl⟩

/-- A step of something else. -/
structure Writer.Outside (contents : queues.Queue → List (QueuedPacket PacketBuf))
    (capacity : queues.Queue → Nat) (items : PacketClass → List PacketBuf)
    (writer : Writer queues notifies) (next : Writer queues notifies × Option WriterEvent) :
    Prop where
  /-- The writer stays where it is. -/
  place : next.1.place = writer.place
  /-- Only packets that are sent are seen. -/
  event : next.2 = none ∨ ∃ packetClass packet, next.2 = some (.sent packetClass packet)
  /-- What the queues hold afterwards. -/
  holds : Holds workerCapacity contents capacity next.1.shared (heldAfter items next.2)
  /-- There are no fewer commands. -/
  commands : writer.commands <+: next.1.commands

/-- A packet is put into its queue, or it is refused. -/
theorem sendInner_refines (lawful : queues.Lawful contents capacity)
    {shared : PacketQueue queues notifies} {size : Nat} {items : List PacketBuf}
    (refines : Refines contents capacity shared ⟨size, true, items⟩) (packet : PacketBuf)
    (force : Bool) :
    ((shared.sendInner packet force).1 = none ∧
        Refines contents capacity (shared.sendInner packet force).2
          ⟨size, true, (Fifo.forcePush size items packet).2⟩) ∨
      (shared.sendInner packet force).1 ≠ none ∧
        Refines contents capacity (shared.sendInner packet force).2 ⟨size, true, items⟩ := by
  cases force with
  | true =>
    obtain ⟨answer, after⟩ := forceSend_refines lawful refines packet
    exact .inl ⟨QueueAnswer.refused.inj answer, after⟩
  | false =>
    obtain ⟨answer, after⟩ := trySend_refines lawful refines packet
    have refused : (shared.sendInner packet false).1 = (Fifo.push size items packet).1 :=
      QueueAnswer.refused.inj answer
    have left : Refines contents capacity (shared.sendInner packet false).2
      ⟨size, true, (Fifo.push size items packet).2⟩ := after
    by_cases room : items.length < size
    · rw [Fifo.push, if_pos room] at refused left
      rw [Fifo.forcePush, if_pos room]
      exact .inl ⟨refused, left⟩
    · rw [Fifo.push, if_neg room] at refused left
      exact .inr ⟨by rw [refused]; exact Option.some_ne_none packet, left⟩

/-- What can happen next. -/
theorem step_spec (lawful : queues.Lawful contents capacity) {writer : Writer queues notifies}
    {items : PacketClass → List PacketBuf}
    (holds : Holds workerCapacity contents capacity writer.shared items) (action : WriterAction) :
    writer.Turns contents capacity items (writer.step action) ∨
      writer.Outside contents capacity items (writer.step action) := by
  cases action with
  | send packetClass packet force =>
    right
    unfold Writer.step
    dsimp only
    split
    · exact ⟨rfl, .inl rfl, holds, List.prefix_refl _⟩
    · have sending := sendInner_refines lawful (holds packetClass) packet force
      generalize (writer.shared packetClass).sendInner packet force = answer at sending
      obtain ⟨refused, shared⟩ := answer
      rcases sending with ⟨accepted, after⟩ | ⟨rejected, after⟩
      · dsimp only at accepted after
        subst accepted
        exact ⟨rfl, .inr ⟨packetClass, packet, rfl⟩, holds.update after, List.prefix_refl _⟩
      · cases refused with
        | none => exact absurd rfl rejected
        | some packet => exact ⟨rfl, .inl rfl, holds_same holds after, List.prefix_refl _⟩
  | cloneSender packetClass =>
    exact .inr ⟨rfl, .inl rfl, holds_same holds (refines_aside (holds packetClass) _ _),
      List.prefix_refl _⟩
  | dropSender packetClass =>
    exact .inr ⟨rfl, .inl rfl, holds_same holds (refines_aside (holds packetClass) _ _),
      List.prefix_refl _⟩
  | command data =>
    right
    unfold Writer.step
    dsimp only
    split
    · exact ⟨rfl, .inl rfl, holds, List.prefix_append _ _⟩
    · exact ⟨rfl, .inl rfl, holds, List.prefix_refl _⟩
  | closeCommands => exact .inr ⟨rfl, .inl rfl, holds, List.prefix_refl _⟩
  | cancel => exact .inr ⟨rfl, .inl rfl, holds, List.prefix_refl _⟩
  | step acquired sent => exact .inl (next_turns lawful holds acquired sent)

/-- A new writer has empty queues. -/
theorem new_holds (lawful : queues.Lawful contents capacity) :
    Holds workerCapacity contents capacity (Writer.new queues notifies).shared fun _ => [] := by
  intro packetClass
  have refines : Refines contents capacity
      (packetChannel queues notifies (workerCapacity packetClass) true)
      ⟨max (workerCapacity packetClass) 1, true, []⟩ := packetChannel_refines lawful _ true
  rwa [Nat.max_eq_left (workerCapacity_pos packetClass)] at refines

end Moves

section Growth

/-- A batch may have a packet. -/
theorem batchLimit_pos (batch : PacketClass) : 0 < batchLimit batch := by
  cases batch <;> decide

/-- Turns of the loop of `send_writer_batch` that find a packet. -/
def Grown (batch : PacketClass) : Nat → List Arrival → Prop
  | _, [] => True
  | sent, arrival :: arrivals =>
    sent < batchLimit batch ∧ writerBatchCanExtend batch arrival = true ∧
      arrival.packet ≠ none ∧ Grown batch (sent + 1) arrivals

/-- One turn more. -/
theorem Grown.concat {batch : PacketClass} {sent : Nat} {arrivals : List Arrival}
    {arrival : Arrival} (grown : Grown batch sent arrivals)
    (room : sent + arrivals.length < batchLimit batch)
    (able : writerBatchCanExtend batch arrival = true) (found : arrival.packet ≠ none) :
    Grown batch sent (arrivals ++ [arrival]) := by
  induction arrivals generalizing sent with
  | nil => exact ⟨room, able, found, trivial⟩
  | cons head rest ih =>
    obtain ⟨less, able, some_packet, later⟩ := grown
    refine ⟨less, able, some_packet, ih later ?_⟩
    rw [List.length_cons] at room
    omega

/-- Every turn finds one packet. -/
theorem Grown.length {batch : PacketClass} {sent : Nat} {arrivals : List Arrival}
    (grown : Grown batch sent arrivals) :
    (arrivals.filterMap Arrival.packet).length = arrivals.length := by
  induction arrivals generalizing sent with
  | nil => rfl
  | cons head rest ih =>
    obtain ⟨_, _, found, later⟩ := grown
    obtain ⟨packet, some_packet⟩ := Option.ne_none_iff_exists'.mp found
    rw [List.filterMap_cons_some some_packet, List.length_cons, ih later, List.length_cons]

/-- The loop queues what the turns have found. -/
theorem batchLoop_grown {batch : PacketClass} {sent : Nat} {arrivals : List Arrival}
    (grown : Grown batch sent arrivals) (rest : List Arrival) :
    batchLoop batch sent (arrivals ++ rest) =
      (do (arrivals.filterMap Arrival.packet).forM queueData
          batchLoop batch (sent + arrivals.length) rest) := by
  induction arrivals generalizing sent with
  | nil => exact (pure_bind _ _).symm
  | cons head tail ih =>
    obtain ⟨room, able, found, later⟩ := grown
    obtain ⟨packet, some_packet⟩ := Option.ne_none_iff_exists'.mp found
    rw [List.cons_append, batchLoop, if_pos ⟨room, able⟩, some_packet,
      List.filterMap_cons_some some_packet]
    dsimp only
    rw [ih later, List.forM, bind_assoc, List.length_cons,
      Nat.add_right_comm, Nat.add_assoc]

/-- A batch that ended: its last turn found nothing, or there was no room for one more. -/
def Whole (batch : PacketClass) (arrivals : List Arrival) : Prop :=
  ∃ grown last, arrivals = grown ++ last ∧ Grown batch 1 grown ∧
    1 + grown.length ≤ batchLimit batch ∧
    (last = [] ∨ ∃ arrival, last = [arrival] ∧ arrival.packet = none)

/-- A batch that is being collected and has room. -/
structure OpenBatch.Collects (batch : OpenBatch) : Prop where
  /-- Every turn has found a packet. -/
  grown : Grown batch.batch 1 batch.arrivals
  /-- They are counted. -/
  sent : batch.sent = 1 + batch.arrivals.length
  /-- There is room for one more. -/
  room : batch.sent < batchLimit batch.batch

/-- What holds of the batch at a place. -/
def Collecting : WriterPlace notifies → Prop
  | .extending batch => batch.Collects
  | .comparing batch _ => batch.Collects
  | .taking batch latencyPending priorityPending =>
    batch.Collects ∧
      writerBatchCanExtend batch.batch ⟨latencyPending, priorityPending, none⟩ = true
  | .flushing batch => Whole batch.batch batch.arrivals
  | _ => True

/-- At the beginning of a turn of the loop there is room, or the batch has ended. -/
theorem collecting_place {batch : OpenBatch} (grown : Grown batch.batch 1 batch.arrivals)
    (sent : batch.sent = 1 + batch.arrivals.length) (fits : batch.sent ≤ batchLimit batch.batch) :
    Collecting (batch.place : WriterPlace notifies) := by
  rw [OpenBatch.place]
  split
  · rename_i room
    exact ⟨grown, sent, room⟩
  · exact ⟨batch.arrivals, [], (List.append_nil _).symm, grown, sent ▸ fits, .inl rfl⟩

/-- A batch begins with room. -/
theorem collecting_begin (packetClass : PacketClass) (packet : PacketBuf) :
    Collecting (OpenBatch.place ⟨packetClass, packet, 1, []⟩ : WriterPlace notifies) :=
  collecting_place trivial rfl (batchLimit_pos packetClass)

/-- A batch that finds nothing more has ended. -/
theorem OpenBatch.Collects.whole {batch : OpenBatch} (collects : batch.Collects)
    (latencyPending priorityPending : Bool) :
    Whole batch.batch (batch.found latencyPending priorityPending none).arrivals :=
  ⟨batch.arrivals, [⟨latencyPending, priorityPending, none⟩], rfl, collects.grown,
    collects.sent ▸ Nat.le_of_lt collects.room, .inr ⟨_, rfl, rfl⟩⟩

/-- Every step keeps it. -/
theorem moves_collecting {items : PacketClass → List PacketBuf} {commands : List (List UInt8)}
    {place next : WriterPlace notifies} {event : Option WriterEvent}
    (moves : WriterMoves items commands place event next) (collecting : Collecting place) :
    Collecting next := by
  cases moves with
  | found packetClass packet => exact collecting_begin packetClass packet
  | selected calls poll packetClass packet => exact collecting_begin packetClass packet
  | looked batch => exact collecting
  | extended grows => exact ⟨collecting, grows⟩
  | complete batch latencyPending priorityPending =>
    exact OpenBatch.Collects.whole collecting latencyPending priorityPending
  | grown batch latencyPending priorityPending packet =>
    obtain ⟨collects, able⟩ := collecting
    have room := collects.room
    have sent := collects.sent
    refine collecting_place (collects.grown.concat (sent ▸ room) ?_ (Option.some_ne_none packet)) ?_
      room
    · cases kind : batch.batch <;> (rw [kind] at able; exact able)
    · show batch.sent + 1 = 1 + (batch.arrivals ++ [_]).length
      rw [sent, List.length_append, List.length_singleton, Nat.add_assoc]
  | exhausted batch latencyPending priorityPending =>
    exact OpenBatch.Collects.whole collecting.1 latencyPending priorityPending
  | ended selected packetClass => cases selected <;> trivial
  | opened selected packetClass calls => cases selected <;> trivial
  | unselected calls poll ends => rcases ends with rfl | rfl | rfl <;> trivial
  | missed next => rcases next with rfl | rfl <;> trivial
  | flushed batch next => rcases next with rfl | rfl <;> trivial
  | _ => trivial

/-- What holds of a writer in every run. -/
def Writer.Sound (contents : queues.Queue → List (QueuedPacket PacketBuf))
    (capacity : queues.Queue → Nat) (writer : Writer queues notifies) : Prop :=
  Collecting writer.place ∧ ∃ items, Holds workerCapacity contents capacity writer.shared items

/-- Every step keeps it. -/
theorem step_sound (lawful : queues.Lawful contents capacity) {writer : Writer queues notifies}
    (sound : writer.Sound contents capacity) (action : WriterAction) :
    (writer.step action).1.Sound contents capacity := by
  obtain ⟨collecting, items, holds⟩ := sound
  rcases step_spec lawful holds action with turns | outside
  · exact ⟨moves_collecting turns.moves collecting, _, turns.holds⟩
  · exact ⟨outside.place ▸ collecting, _, outside.holds⟩

end Growth

section Waiting

/-- The order in which the queues are looked at. -/
def order : PacketClass → Nat
  | .small => 0
  | .medium => 1
  | .bulk => 2

/-- Whether a packet is taken. -/
def takes : WriterEvent → Bool
  | .taken _ _ => true
  | _ => false

end Waiting

section Batches

/-- The packets that are taken, with their classes. -/
def takenIn (events : List WriterEvent) : List (PacketClass × PacketBuf) :=
  events.filterMap fun
    | .taken packetClass packet => some (packetClass, packet)
    | _ => none

/-- The turns of the loop. -/
def turnsIn (events : List WriterEvent) : List WriterTurn :=
  events.filterMap fun
    | .turned turn => some turn
    | _ => none

/-- The packets that are sent to the queue of a class. -/
def sentTo (packetClass : PacketClass) (events : List WriterEvent) : List PacketBuf :=
  events.filterMap fun
    | .sent other packet => if other = packetClass then some packet else none
    | _ => none

/-- The packets of a class among some. -/
def ofClass (packetClass : PacketClass) (taken : List (PacketClass × PacketBuf)) :
    List PacketBuf :=
  (taken.filter fun packet => packet.1 = packetClass).map Prod.snd

/-- The packets of a batch. -/
def batchPackets (first : PacketBuf) (arrivals : List Arrival) : List PacketBuf :=
  first :: arrivals.filterMap Arrival.packet

/-- The packets of a turn, with their classes. -/
def turnPackets : WriterTurn → List (PacketClass × PacketBuf)
  | .command _ _ => []
  | .batch batch first arrivals => (batchPackets first arrivals).map (batch, ·)

/-- The packets that are taken and not sent yet, with their classes. -/
def openPackets : WriterPlace notifies → List (PacketClass × PacketBuf)
  | .extending batch => (batchPackets batch.first batch.arrivals).map (batch.batch, ·)
  | .comparing batch _ => (batchPackets batch.first batch.arrivals).map (batch.batch, ·)
  | .taking batch _ _ => (batchPackets batch.first batch.arrivals).map (batch.batch, ·)
  | .flushing batch => (batchPackets batch.first batch.arrivals).map (batch.batch, ·)
  | _ => []

/-- A turn of the loop that has been made. -/
def MadeWhole : WriterTurn → Prop
  | .command _ _ => True
  | .batch batch first arrivals =>
    (batchPackets first arrivals).length ≤ batchLimit batch ∧
      ∀ (config : ObfsConfig) (cipher : ObfsCipher) (outside : Nat → Input config),
        sendWriterBatch cipher outside batch first arrivals =
          (do (batchPackets first arrivals).forM queueData
              flushQueuedData cipher outside
              return (batchPackets first arrivals).length)

/-- All packets of a batch that has ended are queued, and it is not too long. -/
theorem Whole.made {batch : PacketClass} {arrivals : List Arrival} (whole : Whole batch arrivals)
    (first : PacketBuf) : MadeWhole (.batch batch first arrivals) := by
  obtain ⟨grown, last, rfl, found, fits, ending⟩ := whole
  have none_last : last.filterMap Arrival.packet = [] := by
    rcases ending with rfl | ⟨arrival, rfl, nothing⟩
    · rfl
    · rw [List.filterMap_cons_none nothing, List.filterMap_nil]
  have packets : (grown ++ last).filterMap Arrival.packet = grown.filterMap Arrival.packet := by
    rw [List.filterMap_append, none_last, List.append_nil]
  have stops (sent : Nat) : batchLoop batch sent last = pure sent := by
    rcases ending with rfl | ⟨arrival, rfl, nothing⟩
    · rfl
    · rw [batchLoop, nothing]
      split <;> rfl
  have length : (batchPackets first (grown ++ last)).length = 1 + grown.length := by
    rw [batchPackets, packets, List.length_cons, found.length, Nat.add_comm]
  refine ⟨length ▸ fits, fun config cipher outside => ?_⟩
  rw [length, sendWriterBatch, batchLoop_grown found, batchPackets, packets]
  simp only [stops, List.forM, bind_assoc, pure_bind]

/-- What is known of the packets after a run. -/
structure Accounts (contents : queues.Queue → List (QueuedPacket PacketBuf))
    (capacity : queues.Queue → Nat) (events : List WriterEvent)
    (writer : Writer queues notifies) : Prop where
  /-- What was taken was sent in the turns, or is in the batch that is being collected. -/
  taken : takenIn events = (turnsIn events).flatMap turnPackets ++ openPackets writer.place
  /-- Every batch was queued as a whole, and none was too long. -/
  turns : ∀ turn ∈ turnsIn events, MadeWhole turn
  /-- The batch that is being collected. -/
  collecting : Collecting writer.place
  /-- The queues keep what was sent to them. -/
  queues : ∃ items, Holds workerCapacity contents capacity writer.shared items ∧
    ∀ packetClass, Fifo.Keeps (workerCapacity packetClass) (sentTo packetClass events)
      (ofClass packetClass (takenIn events)) (items packetClass)

/-- What is sent in two parts of a run. -/
theorem sentTo_append (packetClass : PacketClass) (events others : List WriterEvent) :
    sentTo packetClass (events ++ others) =
      sentTo packetClass events ++ sentTo packetClass others := List.filterMap_append

/-- What is taken in two parts of a run. -/
theorem takenIn_append (events others : List WriterEvent) :
    takenIn (events ++ others) = takenIn events ++ takenIn others := List.filterMap_append

/-- The turns of two parts of a run. -/
theorem turnsIn_append (events others : List WriterEvent) :
    turnsIn (events ++ others) = turnsIn events ++ turnsIn others := List.filterMap_append

/-- The packets of a class among those of two parts. -/
theorem ofClass_append (packetClass : PacketClass) (taken others : List (PacketClass × PacketBuf)) :
    ofClass packetClass (taken ++ others) =
      ofClass packetClass taken ++ ofClass packetClass others := by
  rw [ofClass, List.filter_append, List.map_append]
  rfl

/-- A packet is sent to one queue. -/
theorem sentTo_sent (packetClass other : PacketClass) (packet : PacketBuf) :
    sentTo packetClass [.sent other packet] = if other = packetClass then [packet] else [] := by
  by_cases same : other = packetClass
  · simp [sentTo, same]
  · simp [sentTo, same]

/-- A packet is of one class. -/
theorem ofClass_taken (packetClass other : PacketClass) (packet : PacketBuf) :
    ofClass packetClass [(other, packet)] = if other = packetClass then [packet] else [] := by
  by_cases same : other = packetClass
  · simp [ofClass, same]
  · simp [ofClass, same]

/-- One event more changes a queue as it should. -/
theorem keeps_event {items : PacketClass → List PacketBuf} {events : List WriterEvent}
    {packetClass : PacketClass}
    (keeps : Fifo.Keeps (workerCapacity packetClass) (sentTo packetClass events)
      (ofClass packetClass (takenIn events)) (items packetClass))
    {event : Option WriterEvent} (oldest : TakesOldest items event) :
    Fifo.Keeps (workerCapacity packetClass) (sentTo packetClass (events ++ event.toList))
      (ofClass packetClass (takenIn (events ++ event.toList)))
      (heldAfter items event packetClass) := by
  cases event with
  | none => rwa [Option.toList_none, List.append_nil]
  | some event =>
    rw [Option.toList_some, sentTo_append, takenIn_append, ofClass_append]
    cases event with
    | sent other packet =>
      show Fifo.Keeps _ (_ ++ sentTo packetClass [.sent other packet]) (_ ++ []) _
      rw [List.append_nil]
      by_cases same : other = packetClass
      · subst same
        rw [heldAfter, Function.update_self, sentTo_sent, if_pos rfl]
        exact keeps.forcePush (workerCapacity_pos other) packet
      · rw [heldAfter, Function.update_of_ne (Ne.symm same), sentTo_sent, if_neg same,
          List.append_nil]
        exact keeps
    | taken other packet =>
      show Fifo.Keeps _ (_ ++ []) (_ ++ ofClass packetClass [(other, packet)]) _
      rw [List.append_nil]
      by_cases same : other = packetClass
      · subst same
        have first : (Fifo.pop (items other)).1 = some packet := oldest other packet rfl
        have popped := keeps.pop
        rw [first] at popped
        rw [heldAfter, Function.update_self, ofClass_taken, if_pos rfl]
        exact popped
      · rw [heldAfter, Function.update_of_ne (Ne.symm same), ofClass_taken, if_neg same,
          List.append_nil]
        exact keeps
    | command data =>
      show Fifo.Keeps _ (_ ++ []) (_ ++ []) _
      rw [List.append_nil, List.append_nil]
      exact keeps
    | turned turn =>
      show Fifo.Keeps _ (_ ++ []) (_ ++ []) _
      rw [List.append_nil, List.append_nil]
      exact keeps

/-- The packets of a batch at the beginning of a turn of the loop. -/
theorem openPackets_place (batch : OpenBatch) :
    openPackets (batch.place : WriterPlace notifies) =
      (batchPackets batch.first batch.arrivals).map (batch.batch, ·) := by
  rw [OpenBatch.place]
  split <;> rfl

/-- The packets of a batch when a turn of the loop has found something, or nothing. -/
theorem batchPackets_found (batch : OpenBatch) (latencyPending priorityPending : Bool)
    (packet : Option PacketBuf) :
    batchPackets batch.first (batch.found latencyPending priorityPending packet).arrivals =
      batchPackets batch.first batch.arrivals ++ packet.toList := by
  rw [batchPackets, OpenBatch.found, List.filterMap_append, ← List.cons_append]
  cases packet <;> rfl

/-- What a step takes, it sends or collects. -/
theorem moves_packets {items : PacketClass → List PacketBuf} {commands : List (List UInt8)}
    {place next : WriterPlace notifies} {event : Option WriterEvent}
    (moves : WriterMoves items commands place event next) :
    openPackets place ++ takenIn event.toList =
      (turnsIn event.toList).flatMap turnPackets ++ openPackets next := by
  have ended (batch : OpenBatch) (latencyPending priorityPending : Bool) :
      (batchPackets batch.first batch.arrivals).map (batch.batch, ·) ++ [] =
        [] ++ (batchPackets batch.first
          (batch.found latencyPending priorityPending none).arrivals).map (batch.batch, ·) := by
    rw [batchPackets_found, Option.toList_none, List.append_nil, List.append_nil, List.nil_append]
  cases moves with
  | found packetClass packet =>
    rw [openPackets_place]
    rfl
  | selected calls poll packetClass packet =>
    rw [openPackets_place]
    rfl
  | looked batch => exact List.append_nil _
  | extended grows => exact List.append_nil _
  | grown batch latencyPending priorityPending packet =>
    rw [openPackets_place]
    show _ = [] ++ (batchPackets batch.first _).map (batch.batch, ·)
    rw [batchPackets_found, List.map_append]
    rfl
  | complete batch latencyPending priorityPending => exact ended batch _ _
  | exhausted batch latencyPending priorityPending => exact ended batch _ _
  | ended selected packetClass => cases selected <;> rfl
  | opened selected packetClass calls => cases selected <;> rfl
  | unselected calls poll ends => rcases ends with rfl | rfl | rfl <;> rfl
  | missed next => rcases next with rfl | rfl <;> rfl
  | flushed batch next =>
    have same : (batchPackets batch.first batch.arrivals).map (batch.batch, ·) ++ [] =
        [turnPackets (.batch batch.batch batch.first batch.arrivals)].flatten ++ [] := by
      rw [List.flatten_singleton]
      rfl
    rcases next with rfl | rfl <;> exact same
  | _ => rfl

/-- A turn of the loop that ends was whole. -/
theorem moves_made {items : PacketClass → List PacketBuf} {commands : List (List UInt8)}
    {place next : WriterPlace notifies} {event : Option WriterEvent}
    (moves : WriterMoves items commands place event next) (collecting : Collecting place) :
    ∀ turn ∈ turnsIn event.toList, MadeWhole turn := by
  cases moves with
  | handled data acquired =>
    intro turn member
    rw [List.mem_singleton.mp member]
    trivial
  | flushed batch next =>
    intro turn member
    rw [List.mem_singleton.mp member]
    exact Whole.made collecting batch.first
  | _ => exact fun _ member => by cases member

/-- What happens besides takes and sends nothing. -/
theorem outside_quiet {items : PacketClass → List PacketBuf} {writer : Writer queues notifies}
    {next : Writer queues notifies × Option WriterEvent}
    (outside : writer.Outside contents capacity items next) :
    takenIn next.2.toList = [] ∧ turnsIn next.2.toList = [] ∧ TakesOldest items next.2 := by
  rcases outside.event with same | ⟨packetClass, packet, same⟩
  · rw [same]
    exact ⟨rfl, rfl, takesOldest_none items⟩
  · rw [same]
    exact ⟨rfl, rfl, fun _ _ other => by cases other⟩

/-- Every step keeps account. -/
theorem step_accounts (lawful : queues.Lawful contents capacity) {events : List WriterEvent}
    {writer : Writer queues notifies} (accounts : Accounts contents capacity events writer)
    (action : WriterAction) :
    Accounts contents capacity (events ++ (writer.step action).2.toList)
      (writer.step action).1 := by
  obtain ⟨items, holds, keeps⟩ := accounts.queues
  have collecting := step_sound lawful ⟨accounts.collecting, items, holds⟩ action
  rcases step_spec lawful holds action with turns | outside
  · constructor
    · rw [takenIn_append, accounts.taken, List.append_assoc, moves_packets turns.moves,
        turnsIn_append, List.flatMap_append, List.append_assoc]
    · rw [turnsIn_append]
      exact List.forall_mem_append.mpr
        ⟨accounts.turns, moves_made turns.moves accounts.collecting⟩
    · exact collecting.1
    · exact ⟨_, turns.holds, fun packetClass => keeps_event (keeps packetClass) turns.oldest⟩
  · obtain ⟨untaken, unturned, oldest⟩ := outside_quiet outside
    constructor
    · rw [takenIn_append, turnsIn_append, untaken, unturned, List.append_nil, List.append_nil,
        outside.place, accounts.taken]
    · rw [turnsIn_append, unturned, List.append_nil]
      exact accounts.turns
    · exact collecting.1
    · exact ⟨_, outside.holds, fun packetClass => keeps_event (keeps packetClass) oldest⟩

/-- In whatever order packets and commands are given and the writer does its steps: of each class
the packets are taken that were sent to its queue, in their order, but for those that made room for
others, and all that is taken is queued for the transport in batches that are not too long. -/
theorem writer_accounts (lawful : queues.Lawful contents capacity) (actions : List WriterAction) :
    Accounts contents capacity (Mealy.events Writer.step (.new queues notifies) actions)
      (Mealy.final Writer.step (.new queues notifies) actions) := by
  have start : Accounts contents capacity [] (.new queues notifies) :=
    ⟨rfl, (fun _ member => by cases member), trivial, _, new_holds lawful,
      fun packetClass => Fifo.keeps_nil (workerCapacity packetClass)⟩
  have run := Mealy.events_invariant (fun _ _ => True) (Accounts contents capacity)
    (fun _ _ action accounts _ => step_accounts lawful accounts action) [] (.new queues notifies)
    actions start (Mealy.along_of_forall (fun _ _ => trivial) _ _)
  rwa [List.nil_append] at run

/-- Two small packets, and a command, which comes first. -/
def mixedSteps : List WriterAction :=
  [.send .small (.holding [1] 0 (by decide)) false, .send .small (.holding [2] 0 (by decide)) true,
    .command [7]] ++ List.replicate 12 (.step none true)

/-- Both packets are one batch. -/
theorem mixedSteps_accounts :
    takenIn (Mealy.events Writer.step (.new (ArrayQueue.bounded (QueuedPacket PacketBuf))
        Notify.single) mixedSteps) =
      [(.small, .holding [1] 0 (by decide)), (.small, .holding [2] 0 (by decide))] ∧
    Accounts BoundedQueue.items BoundedQueue.capacity
      (Mealy.events Writer.step (.new (ArrayQueue.bounded (QueuedPacket PacketBuf))
        Notify.single) mixedSteps)
      (Mealy.final Writer.step (.new (ArrayQueue.bounded (QueuedPacket PacketBuf))
        Notify.single) mixedSteps) :=
  ⟨by decide +kernel,
    writer_accounts (ArrayQueue.bounded_lawful (QueuedPacket PacketBuf)) mixedSteps⟩

end Batches

end Focsq.Session
