import Mathlib.Data.Nat.Bitwise
import Focsq.Backend.PacketQueue
import Focsq.Lib.Mealy
import Focsq.Verif.Notify

/-!
# The packet queue is a bounded queue with a switch

As long as calls do not overlap, every packet in the queue carries the present epoch, and an
inactive queue is empty. So nothing is ever left to be discarded, and the queue answers like a
bounded queue that is emptied when it is switched.
-/

namespace Focsq.Dispatcher

section Documented

/-- Bounded queues do what is documented of array queues. -/
theorem ArrayQueue.bounded_lawful (α : Type) :
    (ArrayQueue.bounded α).Lawful BoundedQueue.items BoundedQueue.capacity where
  new := fun _ _ => ⟨rfl, rfl⟩
  push := fun _ _ => ⟨rfl, rfl, rfl⟩
  forcePush := fun _ _ => ⟨rfl, rfl, rfl⟩
  pop := fun _ => ⟨rfl, rfl, rfl⟩
  len := fun _ => rfl

variable {α : Type} {queues : ArrayQueue α} {contents : queues.Queue → List α}
  {capacity : queues.Queue → Nat}

/-- A queue gives its oldest element, or it is empty. -/
theorem ArrayQueue.Lawful.pop_cases (lawful : queues.Lawful contents capacity)
    (queue : queues.Queue) :
    (∃ rest, queues.pop queue = (none, rest) ∧ contents queue = [] ∧ contents rest = []) ∨
      ∃ item rest, queues.pop queue = (some item, rest) ∧
        contents queue = item :: contents rest := by
  obtain ⟨taken, left, _⟩ := lawful.pop queue
  cases popped : queues.pop queue with
  | mk answer rest =>
    rw [popped] at taken left
    cases items : contents queue with
    | nil =>
      rw [items, Fifo.pop_nil] at taken left
      exact .inl ⟨rest, Prod.ext taken rfl, rfl, left⟩
    | cons item others =>
      rw [items, Fifo.pop_cons] at taken left
      exact .inr ⟨item, rest, Prod.ext taken rfl, congrArg _ left.symm⟩

/-- A queue takes an element behind all others, or gives it back. -/
theorem ArrayQueue.Lawful.push_cases (lawful : queues.Lawful contents capacity)
    (queue : queues.Queue) (item : α) :
    (∃ after, queues.push queue item = (none, after) ∧
        contents after = contents queue ++ [item]) ∨
      ∃ after, queues.push queue item = (some item, after) ∧
        contents after = contents queue := by
  obtain ⟨refused, left, _⟩ := lawful.push queue item
  cases pushed : queues.push queue item with
  | mk answer after =>
    rw [pushed] at refused left
    by_cases room : (contents queue).length < capacity queue
    · rw [Fifo.push, if_pos room] at refused left
      exact .inl ⟨after, Prod.ext refused rfl, left⟩
    · rw [Fifo.push, if_neg room] at refused left
      exact .inr ⟨after, Prod.ext refused rfl, left⟩

end Documented

section State

/-- The lowest bit of the state. -/
theorem toNat_active (state : UInt64) : (state &&& queueActive).toNat = state.toNat % 2 := by
  rw [UInt64.toNat_and]
  exact Nat.and_one_is_mod _

/-- The epoch of the state. -/
theorem toNat_epoch (state : UInt64) : (state >>> 1).toNat = state.toNat / 2 := by
  rw [UInt64.toNat_shiftRight]
  exact Nat.shiftRight_eq_div_pow _ 1

/-- The inactive state of an epoch. -/
theorem toNat_stored (epoch : UInt64) : (epoch <<< 1).toNat = 2 * (epoch.toNat % 2 ^ 63) := by
  rw [UInt64.toNat_shiftLeft]
  show (epoch.toNat <<< 1) % 2 ^ 64 = _
  rw [Nat.shiftLeft_eq]
  omega

/-- The active state of an epoch. -/
theorem toNat_resumed (epoch : UInt64) :
    (epoch <<< 1 ||| queueActive).toNat = 2 * (epoch.toNat % 2 ^ 63) + 1 := by
  rw [UInt64.toNat_or, toNat_stored]
  show 2 ^ 1 * (epoch.toNat % 2 ^ 63) ||| 1 = 2 ^ 1 * (epoch.toNat % 2 ^ 63) + 1
  rw [Nat.two_pow_add_eq_or_of_lt (by decide)]

/-- The sum that makes the next epoch never stops. -/
theorem toNat_nextEpoch (state : UInt64) : (nextEpoch state).toNat = state.toNat / 2 + 1 := by
  have half := toNat_epoch state
  have small := state.toNat_lt
  unfold nextEpoch
  rw [if_neg]
  · rw [UInt64.toNat_add, half]
    show (state.toNat / 2 + 1) % 2 ^ 64 = _
    omega
  · intro full
    have most : (0xffffffffffffffff : UInt64).toNat = 2 ^ 64 - 1 := by decide
    rw [full, most] at half
    omega

/-- A suspended queue is inactive. -/
theorem suspended_inactive (state : UInt64) :
    (state &&& ~~~queueActive) &&& queueActive = 0 := by
  rw [UInt64.and_assoc]
  exact UInt64.and_zero

/-- A suspended queue keeps its epoch. -/
theorem suspended_epoch (state : UInt64) : (state &&& ~~~queueActive) >>> 1 = state >>> 1 := by
  have mask : (~~~queueActive >>> 1).toNat = 2 ^ 63 - 1 := by decide
  have small := state.toNat_lt
  rw [UInt64.shiftRight_and]
  apply UInt64.toNat_inj.mp
  rw [UInt64.toNat_and, toNat_epoch, mask, Nat.and_two_pow_sub_one_eq_mod]
  omega

/-- A resumed queue is active. -/
theorem resumed_active (epoch : UInt64) :
    (epoch <<< 1 ||| queueActive) &&& queueActive ≠ 0 := by
  intro inactive
  have bit := toNat_active (epoch <<< 1 ||| queueActive)
  rw [inactive, toNat_resumed] at bit
  have none : (0 : UInt64).toNat = 0 := rfl
  omega

end State

/-- The queue that is meant: bounded, and with a switch. -/
structure Reference (π : Type) where
  /-- How many packets there may be. -/
  capacity : Nat
  /-- Whether packets are taken. -/
  active : Bool
  /-- The packets, oldest first. -/
  items : List π

/-- One call of it: sends are refused while it is inactive; a full queue refuses a packet, or drops
the oldest one when forced; switching and purging empty it. -/
def Reference.call {π : Type} (queue : Reference π) :
    QueueCall π → Reference π × QueueAnswer π
  | .trySend packet =>
    if queue.active then
      let (refused, items) := Fifo.push queue.capacity queue.items packet
      ({ queue with items }, .refused refused)
    else (queue, .refused (some packet))
  | .forceSend packet =>
    if queue.active then
      ({ queue with items := (Fifo.forcePush queue.capacity queue.items packet).2 },
        .refused none)
    else (queue, .refused (some packet))
  | .tryRecv =>
    let (received, items) := Fifo.pop queue.items
    ({ queue with items }, .received received)
  | .suspend => ({ queue with active := false, items := [] }, .done)
  | .resume => ({ queue with active := true, items := [] }, .done)
  | .purge => ({ queue with items := [] }, .done)

section Refinement

variable {π : Type} {queues : ArrayQueue (QueuedPacket π)} {notifies : Notify}
  {contents : queues.Queue → List (QueuedPacket π)} {capacity : queues.Queue → Nat}

/-- The queue holds what the other one does, with the present epoch. -/
structure Refines (contents : queues.Queue → List (QueuedPacket π))
    (capacity : queues.Queue → Nat) (shared : PacketQueue queues notifies)
    (queue : Reference π) : Prop where
  /-- There is a receiver. -/
  receiverOpen : shared.receiverOpen = true
  /-- They have the same capacity. -/
  capacity : capacity shared.queue = queue.capacity
  /-- They hold the same packets. -/
  items : queue.items = (contents shared.queue).map QueuedPacket.packet
  /-- No packet is stale. -/
  epochs : ∀ queued ∈ contents shared.queue, queued.epoch = shared.state >>> 1
  /-- They are switched alike. -/
  active : queue.active = true ↔ shared.state &&& queueActive ≠ 0
  /-- An inactive queue is empty. -/
  idle : queue.active = false → queue.items = []

/-- Purging empties the queue and changes nothing else. -/
theorem purge_empties (lawful : queues.Lawful contents capacity)
    (shared : PacketQueue queues notifies) :
    ∃ queue, shared.purge = { shared with queue } ∧ contents queue = [] ∧
      capacity queue = capacity shared.queue := by
  unfold PacketQueue.purge
  generalize turned : queues.len shared.queue = turns
  rw [lawful.len] at turned
  induction turns generalizing shared with
  | zero => exact ⟨shared.queue, rfl, List.length_eq_zero_iff.mp turned, rfl⟩
  | succ turns ih =>
    obtain ⟨answer, left, same⟩ := lawful.pop shared.queue
    cases held : contents shared.queue with
    | nil =>
      rw [held] at turned
      cases turned
    | cons queued rest =>
      rw [held, Fifo.pop_cons] at answer left
      rw [held] at turned
      obtain ⟨queue, purged, empty, size⟩ :=
        ih { shared with queue := (queues.pop shared.queue).2 } (by
          show (contents (queues.pop shared.queue).2).length = turns
          rw [left]
          exact Nat.succ.inj turned)
      refine ⟨queue, ?_, empty, size.trans same⟩
      rw [PacketQueue.purgeLoop]
      cases popped : queues.pop shared.queue with
      | mk front queue =>
        rw [popped] at answer purged
        dsimp only at answer
        rw [answer]
        exact purged

/-- A queue whose packets were all taken out is empty whatever its state is. -/
theorem Refines.emptied {shared : PacketQueue queues notifies} {queue : Reference π}
    (refines : Refines contents capacity shared queue) {held : queues.Queue}
    (notify : notifies.State) {state : UInt64} (empty : contents held = [])
    (size : capacity held = capacity shared.queue)
    (active : Bool) (switched : active = true ↔ state &&& queueActive ≠ 0) :
    Refines contents capacity { shared with queue := held, notify, state }
      { queue with active, items := [] } where
  receiverOpen := refines.receiverOpen
  capacity := size.trans refines.capacity
  items := by simp [empty]
  epochs := by simp [empty]
  active := switched
  idle := fun _ => rfl

/-- A packet that was sent carries the present epoch, as do those that were sent before. -/
theorem Refines.sent {shared : PacketQueue queues notifies} {queue : Reference π}
    (refines : Refines contents capacity shared queue) {held : queues.Queue}
    (notify : notifies.State) {items : List π} (active : queue.active = true)
    (size : capacity held = capacity shared.queue)
    (same : items = (contents held).map QueuedPacket.packet)
    (epochs : ∀ queued ∈ contents held,
      queued ∈ contents shared.queue ∨ queued.epoch = shared.state >>> 1) :
    Refines contents capacity { shared with queue := held, notify } { queue with items } where
  receiverOpen := refines.receiverOpen
  capacity := size.trans refines.capacity
  items := same
  epochs := fun queued member => (epochs queued member).elim (refines.epochs queued) id
  active := refines.active
  idle := fun inactive => by simp [active] at inactive

/-- An inactive queue refuses packets. -/
theorem sendInner_inactive (shared : PacketQueue queues notifies)
    (receiverOpen : shared.receiverOpen = true) (inactive : shared.state &&& queueActive = 0)
    (packet : π) (force : Bool) : shared.sendInner packet force = (some packet, shared) := by
  simp [PacketQueue.sendInner, receiverOpen, inactive]

/-- An active queue takes packets by force. -/
theorem sendInner_forced (shared : PacketQueue queues notifies)
    (receiverOpen : shared.receiverOpen = true) (active : shared.state &&& queueActive ≠ 0)
    (packet : π) :
    shared.sendInner packet true =
      (none, { shared with
        queue := (queues.forcePush shared.queue ⟨packet, shared.state >>> 1⟩).2
        notify := notifies.notifyOne shared.notify }) := by
  unfold PacketQueue.sendInner
  rw [if_neg (by simp [receiverOpen])]
  dsimp only
  rw [if_neg active, if_pos rfl]

/-- An active queue with room takes packets. -/
theorem sendInner_pushed (shared : PacketQueue queues notifies)
    (receiverOpen : shared.receiverOpen = true) (active : shared.state &&& queueActive ≠ 0)
    (packet : π) {held : queues.Queue}
    (pushed : queues.push shared.queue ⟨packet, shared.state >>> 1⟩ = (none, held)) :
    shared.sendInner packet false =
      (none, { shared with queue := held, notify := notifies.notifyOne shared.notify }) := by
  unfold PacketQueue.sendInner
  rw [if_neg (by simp [receiverOpen])]
  dsimp only
  rw [if_neg active, if_neg (by decide), pushed]

/-- An active queue without room gives back what it refuses. -/
theorem sendInner_refused (shared : PacketQueue queues notifies)
    (receiverOpen : shared.receiverOpen = true) (active : shared.state &&& queueActive ≠ 0)
    (packet : π) {held : queues.Queue} {refused : QueuedPacket π}
    (pushed : queues.push shared.queue ⟨packet, shared.state >>> 1⟩ = (some refused, held)) :
    shared.sendInner packet false = (some refused.packet, { shared with queue := held }) := by
  unfold PacketQueue.sendInner
  rw [if_neg (by simp [receiverOpen])]
  dsimp only
  rw [if_neg active, if_neg (by decide), pushed]

/-- `try_send` answers alike. -/
theorem trySend_refines (lawful : queues.Lawful contents capacity)
    {shared : PacketQueue queues notifies} {queue : Reference π}
    (refines : Refines contents capacity shared queue) (packet : π) :
    (shared.call (.trySend packet)).2 = (queue.call (.trySend packet)).2 ∧
      Refines contents capacity (shared.call (.trySend packet)).1
        (queue.call (.trySend packet)).1 := by
  unfold PacketQueue.call PacketQueue.trySend Reference.call
  dsimp only
  by_cases active : queue.active = true
  · have switched := refines.active.mp active
    obtain ⟨answer, left, size⟩ := lawful.push shared.queue ⟨packet, shared.state >>> 1⟩
    have mapped := Fifo.push_map QueuedPacket.packet (capacity shared.queue)
      (contents shared.queue) ⟨packet, shared.state >>> 1⟩
    dsimp only at mapped
    rw [if_pos active, ← refines.capacity, refines.items, mapped, ← answer, ← left]
    have epochs : ∀ queued ∈ contents (queues.push shared.queue ⟨packet, shared.state >>> 1⟩).2,
        queued ∈ contents shared.queue ∨ queued.epoch = shared.state >>> 1 := by
      intro queued member
      rw [left] at member
      exact (Fifo.mem_push member).imp_right (fun same => by rw [same])
    cases pushed : queues.push shared.queue ⟨packet, shared.state >>> 1⟩ with
    | mk refused held =>
      rw [pushed] at size epochs
      cases refused with
      | none =>
        rw [sendInner_pushed shared refines.receiverOpen switched packet pushed]
        exact ⟨rfl, refines.capacity ▸ refines.sent _ active size rfl epochs⟩
      | some refused =>
        rw [sendInner_refused shared refines.receiverOpen switched packet pushed]
        exact ⟨rfl, refines.capacity ▸ refines.sent _ active size rfl epochs⟩
  · have inactive : shared.state &&& queueActive = 0 :=
      not_not.mp (fun switched => active (refines.active.mpr switched))
    rw [if_neg active, sendInner_inactive shared refines.receiverOpen inactive]
    exact ⟨rfl, refines⟩

/-- `force_send` answers alike. -/
theorem forceSend_refines (lawful : queues.Lawful contents capacity)
    {shared : PacketQueue queues notifies} {queue : Reference π}
    (refines : Refines contents capacity shared queue) (packet : π) :
    (shared.call (.forceSend packet)).2 = (queue.call (.forceSend packet)).2 ∧
      Refines contents capacity (shared.call (.forceSend packet)).1
        (queue.call (.forceSend packet)).1 := by
  unfold PacketQueue.call PacketQueue.forceSend Reference.call
  dsimp only
  by_cases active : queue.active = true
  · obtain ⟨_, left, size⟩ := lawful.forcePush shared.queue ⟨packet, shared.state >>> 1⟩
    have mapped := Fifo.forcePush_map QueuedPacket.packet (capacity shared.queue)
      (contents shared.queue) ⟨packet, shared.state >>> 1⟩
    dsimp only at mapped
    rw [if_pos active, ← refines.capacity, refines.items, mapped, ← left,
      sendInner_forced shared refines.receiverOpen (refines.active.mp active)]
    refine ⟨rfl, refines.capacity ▸ refines.sent _ active size rfl ?_⟩
    intro queued member
    rw [left] at member
    exact (Fifo.mem_forcePush member).imp_right (fun same => by rw [same])
  · have inactive : shared.state &&& queueActive = 0 :=
      not_not.mp (fun switched => active (refines.active.mpr switched))
    rw [if_neg active, sendInner_inactive shared refines.receiverOpen inactive]
    exact ⟨rfl, refines⟩

/-- `try_recv` answers alike: the first packet is not stale. -/
theorem tryRecv_refines (lawful : queues.Lawful contents capacity)
    {shared : PacketQueue queues notifies} {queue : Reference π}
    (refines : Refines contents capacity shared queue) :
    (shared.call .tryRecv).2 = (queue.call .tryRecv).2 ∧
      Refines contents capacity (shared.call .tryRecv).1 (queue.call .tryRecv).1 := by
  unfold PacketQueue.call PacketQueue.tryRecvInner Reference.call
  dsimp only
  obtain ⟨answer, left, size⟩ := lawful.pop shared.queue
  rw [lawful.len, refines.items]
  cases held : contents shared.queue with
  | nil =>
    have empty : queue.items = [] := by rw [refines.items, held, List.map_nil]
    refine ⟨rfl, ?_⟩
    exact
      { refines with
        items := by
          show [] = (contents shared.queue).map _
          rw [held, List.map_nil]
        idle := fun _ => rfl }
  | cons queued rest =>
    rw [held, Fifo.pop_cons] at answer left
    have active : queue.active = true := by
      by_contra inactive
      have empty := refines.idle (by simpa using inactive)
      simp [refines.items, held] at empty
    have fresh : shared.state &&& queueActive ≠ 0 ∧ queued.epoch = shared.state >>> 1 := by
      refine ⟨refines.active.mp active, refines.epochs queued ?_⟩
      rw [held]
      exact List.mem_cons_self
    rw [List.length_cons, PacketQueue.recvLoop]
    cases popped : queues.pop shared.queue with
    | mk front queue =>
      rw [popped] at answer left size
      dsimp only at answer left size
      rw [answer]
      dsimp only
      rw [if_pos fresh]
      refine ⟨rfl, refines.sent _ active size ?_ ?_⟩
      · rw [left]
        rfl
      · intro other member
        rw [left] at member
        rw [held]
        exact .inl (List.mem_cons_of_mem _ member)

/-- Every call answers alike. -/
theorem call_refines (lawful : queues.Lawful contents capacity)
    (shared : PacketQueue queues notifies) (queue : Reference π) (call : QueueCall π)
    (refines : Refines contents capacity shared queue) :
    (shared.call call).2 = (queue.call call).2 ∧
      Refines contents capacity (shared.call call).1 (queue.call call).1 := by
  cases call with
  | trySend packet => exact trySend_refines lawful refines packet
  | forceSend packet => exact forceSend_refines lawful refines packet
  | tryRecv => exact tryRecv_refines lawful refines
  | suspend =>
    obtain ⟨held, purged, empty, size⟩ :=
      purge_empties lawful { shared with state := shared.state &&& ~~~queueActive }
    refine ⟨rfl, ?_⟩
    show Refines contents capacity shared.suspend { queue with active := false, items := [] }
    unfold PacketQueue.suspend
    rw [purged]
    refine refines.emptied _ empty size false ?_
    simp [suspended_inactive]
  | resume =>
    obtain ⟨held, purged, empty, size⟩ :=
      purge_empties lawful { shared with state := nextEpoch shared.state <<< 1 }
    refine ⟨rfl, ?_⟩
    show Refines contents capacity shared.resume { queue with active := true, items := [] }
    unfold PacketQueue.resume
    dsimp only
    rw [purged]
    refine refines.emptied _ empty size true ?_
    simpa using resumed_active (nextEpoch shared.state)
  | purge =>
    obtain ⟨held, purged, empty, size⟩ := purge_empties lawful shared
    refine ⟨rfl, ?_⟩
    show Refines contents capacity shared.purge { queue with active := queue.active, items := [] }
    rw [purged]
    exact refines.emptied _ empty size queue.active refines.active

/-- A new queue is as good as a new one. -/
theorem packetChannel_refines (lawful : queues.Lawful contents capacity) (size : Nat)
    (active : Bool) :
    Refines contents capacity (packetChannel queues notifies size active)
      ⟨max size 1, active, []⟩ := by
  obtain ⟨empty, full⟩ := lawful.new (max size 1) (by omega)
  exact
    { receiverOpen := rfl
      capacity := full
      items := by
        show [] = (contents (queues.new (max size 1))).map _
        rw [empty, List.map_nil]
      epochs := by
        show ∀ queued ∈ contents (queues.new (max size 1)), _
        rw [empty]
        exact fun queued member => by cases member
      active := by
        show active = true ↔ (if active then 1 else 0) * queueActive &&& queueActive ≠ 0
        cases active with
        | false => decide
        | true => decide
      idle := fun _ => rfl }

/-- The packet queue answers every sequence of calls like a bounded queue with a switch. -/
theorem packetQueue_refines (lawful : queues.Lawful contents capacity) (size : Nat)
    (active : Bool) (calls : List (QueueCall π)) :
    Mealy.outputs PacketQueue.call (packetChannel queues notifies size active) calls =
      Mealy.outputs Reference.call ⟨max size 1, active, []⟩ calls :=
  Mealy.outputs_eq_of_related (Refines contents capacity)
    (fun shared queue call refines => call_refines lawful shared queue call refines) _ _ calls
    (packetChannel_refines lawful size active)

/-- Calls that fill a queue of two packets, switch it off and on, and purge it. -/
def switchedCalls : List (QueueCall Nat) :=
  [.trySend 1, .trySend 2, .trySend 3, .forceSend 4, .tryRecv, .suspend, .trySend 5, .tryRecv,
    .resume, .forceSend 6, .tryRecv, .trySend 7, .purge, .tryRecv]

/-- A queue that is filled, switched off and on, and purged. -/
theorem switchedCalls_refine :
    Mealy.outputs PacketQueue.call
        (packetChannel (ArrayQueue.bounded (QueuedPacket Nat)) Notify.single 2 true)
        switchedCalls =
      Mealy.outputs Reference.call ⟨max 2 1, true, []⟩ switchedCalls ∧
    Mealy.outputs Reference.call ⟨max 2 1, true, []⟩ switchedCalls =
      [.refused none, .refused none, .refused (some 3), .refused none, .received (some 2), .done,
        .refused (some 5), .received none, .done, .refused none, .received (some 6), .refused none,
        .done, .received none] :=
  ⟨packetQueue_refines (ArrayQueue.bounded_lawful (QueuedPacket Nat)) 2 true switchedCalls,
    by decide⟩

end Refinement

end Focsq.Dispatcher
