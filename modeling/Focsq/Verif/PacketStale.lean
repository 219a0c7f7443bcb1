import Focsq.Verif.PacketChannel
import Focsq.Verif.PacketQueue

/-!
# No packet outlives a resume

While fewer than `2 ^ 63` resumes are made, the epoch of an active queue is their number, and a
packet carries the number its sender has seen. A call of `try_recv` that compares both therefore
receives only packets whose senders read the state after the last resume. The resume after that
makes the epoch zero again.
-/

namespace Focsq.Dispatcher

variable {π : Type} {queues : ArrayQueue (QueuedPacket (Stamped π))} {notifies : Notify}
  {contents : queues.Queue → List (QueuedPacket (Stamped π))} {capacity : queues.Queue → Nat}

/-- The packet was received by a call that did not start after a resume that came after its sender
had read the state. -/
def Event.Fresh : Event π → Prop
  | .received packet started => started ≤ packet.readAt
  | _ => True

/-- The packet carries the number of resumes its sender has seen. -/
structure QueuedPacket.Carries (resumes : Nat) (queued : QueuedPacket (Stamped π)) : Prop where
  /-- Its epoch is that number. -/
  epoch : queued.epoch.toNat = queued.packet.readAt
  /-- The queue was not resumed less often. -/
  past : queued.packet.readAt ≤ resumes

/-- A packet about to be pushed carries the number of resumes its sender has seen. -/
def SendPlace.Carries (resumes : Nat) : SendPlace π → Prop
  | .pushing queued _ => queued.Carries resumes
  | _ => True

/-- A packet about to be received carries the number of resumes its sender has seen. -/
def Receiver.Carries (resumes : Nat) : Receiver π notifies → Prop
  | .popping _ started => started ≤ resumes
  | .popped _ started queued => started ≤ resumes ∧ queued.Carries resumes
  | _ => True

/-- The epoch is the number of resumes, or the next one as long as the queue is inactive. -/
def Control.Carries (state : UInt64) (resumes : Nat) : Control → Prop
  | .storing epoch => state.toNat / 2 = resumes ∧ epoch.toNat = resumes + 1
  | .clearing read => state.toNat / 2 = resumes ∧ read = state
  | .purging (.activate epoch) => state &&& queueActive = 0 ∧ epoch.toNat = resumes + 1
  | .activating epoch => state &&& queueActive = 0 ∧ epoch.toNat = resumes + 1
  | _ => state.toNat / 2 = resumes

/-- Everything carries the number of resumes. -/
structure Carries (contents : queues.Queue → List (QueuedPacket (Stamped π)))
    (channel : Channel queues notifies) : Prop where
  /-- The epoch does. -/
  control : channel.control.Carries channel.shared.state channel.resumes
  /-- The packets in the queue do. -/
  queue : ∀ queued ∈ contents channel.shared.queue, queued.Carries channel.resumes
  /-- Those of senders do. -/
  calls : ∀ call ∈ channel.calls, call.place.Carries channel.resumes
  /-- That of the receiver does. -/
  receiver : channel.receiver.Carries channel.resumes

/-- The epoch of an active queue is the number of resumes. -/
theorem Control.Carries.active {state : UInt64} {resumes : Nat} {control : Control}
    (carries : control.Carries state resumes) (active : state &&& queueActive ≠ 0) :
    (state >>> 1).toNat = resumes := by
  rw [toNat_epoch]
  cases control with
  | storing epoch => exact carries.1
  | clearing read => exact carries.1
  | activating epoch => exact absurd carries.1 active
  | purging next =>
    cases next with
    | activate epoch => exact absurd carries.1 active
    | finish => exact carries
    | notify => exact carries
  | idle => exact carries
  | notifying => exact carries

/-- A packet carries its number after another resume. -/
theorem QueuedPacket.Carries.later {queued : QueuedPacket (Stamped π)} {resumes later : Nat}
    (carries : queued.Carries resumes) (order : resumes ≤ later) : queued.Carries later :=
  ⟨carries.epoch, carries.past.trans order⟩

/-- So does one of a sender. -/
theorem SendPlace.Carries.later {place : SendPlace π} {resumes later : Nat}
    (carries : place.Carries resumes) (order : resumes ≤ later) : place.Carries later := by
  cases place with
  | pushing queued force => exact QueuedPacket.Carries.later carries order
  | reading packet force => trivial
  | notifying => trivial
  | done => trivial

/-- So does that of the receiver. -/
theorem Receiver.Carries.later {receiver : Receiver π notifies} {resumes later : Nat}
    (carries : receiver.Carries resumes) (order : resumes ≤ later) : receiver.Carries later := by
  cases receiver with
  | popping within started => exact Nat.le_trans carries order
  | popped within started queued => exact ⟨carries.1.trans order, carries.2.later order⟩
  | _ => trivial

/-- What a pop leaves was there, and so was what it gives. -/
theorem popped_mem (lawful : queues.Lawful contents capacity) (queue : queues.Queue) :
    (∀ queued ∈ contents (queues.pop queue).2, queued ∈ contents queue) ∧
      ∀ queued, (queues.pop queue).1 = some queued → queued ∈ contents queue := by
  obtain ⟨answer, left, _⟩ := lawful.pop queue
  rw [answer, left]
  cases contents queue with
  | nil => simp
  | cons front rest =>
    simp only [Fifo.pop_cons, List.mem_cons, Option.some.injEq]
    exact ⟨fun queued member => .inr member, fun queued same => .inl same.symm⟩

/-- A step of a sender keeps the state, and what it pushes carries its number. -/
theorem SendPlace.next_carries (lawful : queues.Lawful contents capacity)
    (shared : PacketQueue queues notifies) {resumes : Nat} {control : Control}
    (epochs : control.Carries shared.state resumes)
    (held : ∀ queued ∈ contents shared.queue, queued.Carries resumes) {place : SendPlace π}
    (carries : place.Carries resumes) :
    (place.next shared resumes).1.state = shared.state ∧
      (∀ queued ∈ contents (place.next shared resumes).1.queue, queued.Carries resumes) ∧
      (place.next shared resumes).2.1.Carries resumes ∧
      (place.next shared resumes).2.2.Fresh := by
  cases place with
  | reading packet force =>
    by_cases inactive : shared.state &&& queueActive = 0
    · simp only [SendPlace.next, if_pos inactive]
      exact ⟨trivial, held, trivial, trivial⟩
    · simp only [SendPlace.next, if_neg inactive]
      exact ⟨trivial, held, ⟨epochs.active inactive, Nat.le_refl _⟩, trivial⟩
  | pushing queued force =>
    obtain ⟨_, pushed, _⟩ := lawful.push shared.queue queued
    obtain ⟨_, forced, _⟩ := lawful.forcePush shared.queue queued
    cases force with
    | true =>
      simp only [SendPlace.next, if_true]
      refine ⟨trivial, fun other member => ?_, trivial, trivial⟩
      rw [forced] at member
      exact (Fifo.mem_forcePush member).elim (held other) (fun same => same ▸ carries)
    | false =>
      have among : ∀ other ∈ contents (queues.push shared.queue queued).2,
          other.Carries resumes := by
        intro other member
        rw [pushed] at member
        exact (Fifo.mem_push member).elim (held other) (fun same => same ▸ carries)
      cases answer : queues.push shared.queue queued with
      | mk refused queue =>
        rw [answer] at among
        cases refused with
        | none =>
          simp only [SendPlace.next, answer, Bool.false_eq_true, if_false]
          exact ⟨trivial, among, trivial, trivial⟩
        | some refused =>
          simp only [SendPlace.next, answer, Bool.false_eq_true, if_false]
          exact ⟨trivial, among, trivial, trivial⟩
  | notifying => exact ⟨rfl, held, trivial, trivial⟩
  | done => exact ⟨rfl, held, trivial, trivial⟩

/-- A step of `resume`, `suspend`, `purge` or the drop keeps all numbers. -/
theorem controlStep_carries (lawful : queues.Lawful contents capacity)
    {channel : Channel queues notifies} (carries : Carries contents channel)
    (few : channel.controlStep.resumes < 2 ^ 63) :
    Carries contents channel.controlStep := by
  have epochs := carries.control
  cases stands : channel.control with
  | idle => simpa only [Channel.controlStep, stands] using carries
  | storing epoch =>
    simp only [Channel.controlStep, stands] at few ⊢
    rw [stands] at epochs
    refine { carries with control := ⟨?_, epochs.2⟩ }
    apply UInt64.toNat_inj.mp
    rw [toNat_active, toNat_stored]
    have zero : (0 : UInt64).toNat = 0 := rfl
    omega
  | clearing read =>
    simp only [Channel.controlStep, stands] at few ⊢
    rw [stands] at epochs
    refine { carries with control := ?_ }
    show (read &&& ~~~queueActive).toNat / 2 = channel.resumes
    rw [← toNat_epoch, suspended_epoch, toNat_epoch, epochs.2]
    exact epochs.1
  | purging next =>
    obtain ⟨left, _⟩ := popped_mem lawful channel.shared.queue
    rw [stands] at epochs
    cases answer : queues.pop channel.shared.queue with
    | mk front queue =>
      rw [answer] at left
      cases front with
      | some queued =>
        simp only [Channel.controlStep, stands, answer]
        exact
          { carries with
            control := epochs
            queue := fun queued member => carries.queue queued (left queued member) }
      | none =>
        simp only [Channel.controlStep, stands, answer]
        refine { carries with
          control := ?_
          queue := fun queued member => carries.queue queued (left queued member) }
        cases next with
        | finish => exact epochs
        | activate epoch => exact epochs
        | notify => exact epochs
  | activating epoch =>
    simp only [Channel.controlStep, stands] at few ⊢
    rw [stands] at epochs
    exact
      { control := by
          show (epoch <<< 1 ||| queueActive).toNat / 2 = channel.resumes + 1
          rw [toNat_resumed, epochs.2]
          omega
        queue := fun queued member => (carries.queue queued member).later (Nat.le_succ _)
        calls := fun call member => (carries.calls call member).later (Nat.le_succ _)
        receiver := carries.receiver.later (Nat.le_succ _) }
  | notifying =>
    simp only [Channel.controlStep, stands]
    rw [stands] at epochs
    exact { carries with control := epochs }

/-- A call of the receiver that returns keeps all numbers. -/
theorem Carries.returned {channel : Channel queues notifies} (carries : Carries contents channel)
    (future : Option notifies.Notified) : Carries contents (channel.returned future) := by
  cases future with
  | none => exact { carries with receiver := trivial }
  | some future => exact { carries with receiver := trivial }

/-- A poll keeps all numbers, and receives nothing. -/
theorem Carries.select {channel : Channel queues notifies} (carries : Carries contents channel)
    (future : notifies.Notified) :
    Carries contents (channel.select future).1 ∧ (channel.select future).2.Fresh := by
  by_cases cancelled : channel.cancelled = true
  · simp only [Channel.select, if_pos cancelled]
    exact ⟨carries.returned _, trivial⟩
  · cases polled : notifies.poll channel.shared.notify future with
    | mk ready rest =>
      simp only [Channel.select, if_neg cancelled, polled]
      cases ready with
      | true => exact ⟨{ carries with receiver := trivial }, trivial⟩
      | false => exact ⟨{ carries with receiver := trivial }, trivial⟩

/-- A step of the receiver keeps all numbers, and what it receives is not stale. -/
theorem receiverStep_carries (lawful : queues.Lawful contents capacity)
    {channel : Channel queues notifies} (carries : Carries contents channel) :
    Carries contents channel.receiverStep.1 ∧ channel.receiverStep.2.Fresh := by
  have held := carries.receiver
  cases stands : channel.receiver with
  | idle =>
    simp only [Channel.receiverStep, stands]
    exact ⟨carries, trivial⟩
  | checking =>
    by_cases cancelled : channel.cancelled = true
    · simp only [Channel.receiverStep, stands, if_pos cancelled]
      exact ⟨carries.returned _, trivial⟩
    · simp only [Channel.receiverStep, stands, if_neg cancelled]
      exact ⟨{ carries with receiver := Nat.le_refl _ }, trivial⟩
  | popping within started =>
    rw [stands] at held
    obtain ⟨left, given⟩ := popped_mem lawful channel.shared.queue
    cases answer : queues.pop channel.shared.queue with
    | mk front queue =>
      rw [answer] at left given
      have after : Carries contents { channel with shared := { channel.shared with queue } } :=
        { carries with queue := fun queued member => carries.queue queued (left queued member) }
      cases front with
      | some queued =>
        simp only [Channel.receiverStep, stands, answer]
        exact ⟨{ after with receiver := ⟨held, carries.queue queued (given queued rfl)⟩ }, trivial⟩
      | none =>
        cases within with
        | alone =>
          simp only [Channel.receiverStep, stands, answer]
          exact ⟨after.returned none, trivial⟩
        | first =>
          simp only [Channel.receiverStep, stands, answer]
          exact ⟨{ after with receiver := trivial }, trivial⟩
        | second future =>
          simp only [Channel.receiverStep, stands, answer]
          exact ⟨{ after with receiver := trivial }, trivial⟩
  | popped within started queued =>
    rw [stands] at held
    by_cases accepted : channel.shared.state &&& queueActive ≠ 0 ∧
        queued.epoch = channel.shared.state >>> 1
    · simp only [Channel.receiverStep, stands, if_pos accepted]
      have present := carries.control.active accepted.1
      rw [← accepted.2, held.2.epoch] at present
      exact ⟨carries.returned _, held.1.trans (Nat.le_of_eq present.symm)⟩
    · simp only [Channel.receiverStep, stands, if_neg accepted]
      exact ⟨{ carries with receiver := held.1 }, trivial⟩
  | counting future =>
    by_cases last : channel.shared.senders = 0
    · simp only [Channel.receiverStep, stands, if_pos last]
      exact ⟨carries.returned _, trivial⟩
    · cases future with
      | none =>
        simp only [Channel.receiverStep, stands, if_neg last]
        exact ⟨{ carries with receiver := trivial }, trivial⟩
      | some future =>
        simp only [Channel.receiverStep, stands, if_neg last]
        exact ⟨{ carries with receiver := trivial }, trivial⟩
  | awaiting =>
    simp only [Channel.receiverStep, stands]
    exact ⟨{ carries with receiver := Nat.le_refl _ }, trivial⟩
  | selecting future => simpa only [Channel.receiverStep, stands] using carries.select future
  | waiting future => simpa only [Channel.receiverStep, stands] using carries.select future

/-- A step of `resume` counts it, or keeps the number of resumes. -/
theorem controlStep_resumes (channel : Channel queues notifies) :
    channel.resumes ≤ channel.controlStep.resumes := by
  cases stands : channel.control with
  | purging next =>
    cases answer : queues.pop channel.shared.queue with
    | mk front queue =>
      cases front with
      | none => simp only [Channel.controlStep, stands, answer, Nat.le_refl]
      | some queued => simp only [Channel.controlStep, stands, answer, Nat.le_refl]
  | _ => simp only [Channel.controlStep, stands, Nat.le_refl, Nat.le_succ]

/-- A call of the receiver that returns keeps the number of resumes. -/
@[simp]
theorem returned_resumes (channel : Channel queues notifies) (future : Option notifies.Notified) :
    (channel.returned future).resumes = channel.resumes := by
  cases future with
  | none => rfl
  | some future => rfl

/-- So does a poll. -/
@[simp]
theorem select_resumes (channel : Channel queues notifies) (future : notifies.Notified) :
    (channel.select future).1.resumes = channel.resumes := by
  by_cases cancelled : channel.cancelled = true
  · simp only [Channel.select, if_pos cancelled, returned_resumes]
  · simp only [Channel.select, if_neg cancelled]

/-- So does every step of the receiver. -/
theorem receiverStep_resumes (channel : Channel queues notifies) :
    channel.receiverStep.1.resumes = channel.resumes := by
  cases stands : channel.receiver with
  | idle => simp only [Channel.receiverStep, stands]
  | checking =>
    by_cases cancelled : channel.cancelled = true
    · simp only [Channel.receiverStep, stands, if_pos cancelled, returned_resumes]
    · simp only [Channel.receiverStep, stands, if_neg cancelled]
  | popping within started =>
    cases answer : queues.pop channel.shared.queue with
    | mk front queue =>
      cases front with
      | some queued => simp only [Channel.receiverStep, stands, answer]
      | none => cases within <;> simp only [Channel.receiverStep, stands, answer, returned_resumes]
  | popped within started queued =>
    by_cases accepted : channel.shared.state &&& queueActive ≠ 0 ∧
        queued.epoch = channel.shared.state >>> 1
    · simp only [Channel.receiverStep, stands, if_pos accepted, returned_resumes]
    · simp only [Channel.receiverStep, stands, if_neg accepted]
  | counting future =>
    by_cases last : channel.shared.senders = 0
    · simp only [Channel.receiverStep, stands, if_pos last, returned_resumes]
    · cases future <;> simp only [Channel.receiverStep, stands, if_neg last]
  | awaiting => simp only [Channel.receiverStep, stands]
  | selecting future => simp only [Channel.receiverStep, stands, select_resumes]
  | waiting future => simp only [Channel.receiverStep, stands, select_resumes]

/-- No action makes the number of resumes smaller. -/
theorem Channel.Moves.resumes {channel next : Channel queues notifies} {event : Event π}
    (moves : channel.Moves next event) : channel.resumes ≤ next.resumes := by
  cases moves with
  | control => exact controlStep_resumes channel
  | receive => exact Nat.le_of_eq (receiverStep_resumes channel).symm
  | _ => exact Nat.le_refl _

/-- An action keeps all numbers, and what it receives is not stale. -/
theorem Channel.Moves.carries (lawful : queues.Lawful contents capacity)
    {channel next : Channel queues notifies} {event : Event π} (moves : channel.Moves next event)
    (carries : Carries contents channel) (few : next.resumes < 2 ^ 63) :
    Carries contents next ∧ event.Fresh := by
  have epochs := carries.control
  cases moves with
  | stay ignored =>
    refine ⟨carries, ?_⟩
    rcases ignored with quiet | ⟨packet, refused⟩
    · rw [quiet]
      trivial
    · rw [refused]
      trivial
  | send handle packet force live receiverOpen =>
    refine ⟨{ carries with calls := fun call member => ?_ }, trivial⟩
    rcases List.mem_append.mp member with earlier | new
    · exact carries.calls call earlier
    · rw [List.mem_singleton.mp new]
      trivial
  | call index call found =>
    obtain ⟨state, queue, place, fresh⟩ :=
      SendPlace.next_carries lawful channel.shared epochs carries.queue
        (carries.calls call (List.mem_of_getElem? found))
    refine ⟨{ carries with
      control := ?_
      queue := queue
      calls := fun other member => ?_ }, fresh⟩
    · show channel.control.Carries _ _
      rw [state]
      exact epochs
    · rcases List.mem_or_eq_of_mem_set member with earlier | same
      · exact carries.calls other earlier
      · rw [same]
        exact place
  | clone handle live => exact ⟨{ carries with }, trivial⟩
  | drop handle live unused => exact ⟨{ carries with }, trivial⟩
  | close handle closing => exact ⟨{ carries with }, trivial⟩
  | resume free =>
    rw [free] at epochs
    refine ⟨{ carries with control := ⟨epochs, ?_⟩ }, trivial⟩
    have number : channel.shared.state.toNat / 2 = channel.resumes := epochs
    rw [toNat_nextEpoch, number]
  | suspend free =>
    rw [free] at epochs
    exact ⟨{ carries with control := ⟨epochs, rfl⟩ }, trivial⟩
  | purge free =>
    rw [free] at epochs
    exact ⟨{ carries with control := epochs }, trivial⟩
  | dropReceiver free alone =>
    rw [free] at epochs
    exact ⟨{ carries with control := epochs }, trivial⟩
  | control => exact ⟨controlStep_carries lawful carries few, trivial⟩
  | tryRecv free => exact ⟨{ carries with receiver := Nat.le_refl _ }, trivial⟩
  | recv free => exact ⟨{ carries with receiver := trivial }, trivial⟩
  | receive => exact receiverStep_carries lawful carries
  | abandon future waiting => exact ⟨carries.returned _, trivial⟩
  | cancel => exact ⟨{ carries with }, trivial⟩

/-- A new queue carries no number of resumes. -/
theorem carries_new (lawful : queues.Lawful contents capacity) (size : Nat) (active : Bool) :
    Carries contents (Channel.new queues notifies size active) := by
  obtain ⟨empty, _⟩ := lawful.new (max size 1) (by omega)
  exact
    { control := by
        show ((if active then 1 else 0) * queueActive : UInt64).toNat / 2 = 0
        cases active with
        | false => decide
        | true => decide
      queue := by
        show ∀ queued ∈ contents (queues.new (max size 1)), queued.Carries 0
        simp [empty]
      calls := by simp [Channel.new]
      receiver := trivial }

/-- As long as the queue is resumed fewer than `2 ^ 63` times, no packet whose sender read the state
before a resume is received by a call of `try_recv` that starts after it. -/
theorem received_fresh (lawful : queues.Lawful contents capacity) (size : Nat) (active : Bool)
    (actions : List (Action π))
    (few : (Mealy.final Channel.step (Channel.new queues notifies size active) actions).resumes
      < 2 ^ 63) :
    ∀ event ∈ Mealy.outputs Channel.step (Channel.new queues notifies size active) actions,
      event.Fresh := by
  obtain ⟨admissible, _⟩ := Mealy.along_lt_of_final_lt
    (fun channel action => (channel.step_moves action).resumes) _ actions few
  exact Mealy.forall_outputs (Carries contents)
    (fun channel action carries few => ((channel.step_moves action).carries lawful carries few).1)
    (fun channel action carries few => ((channel.step_moves action).carries lawful carries few).2)
    _ actions (carries_new lawful size active) admissible

/-- A sender reads the state and is late, as the queue is resumed; another packet is sent, and the
receiver tries to receive one. -/
def lateRun : List (Action Nat) :=
  [.send 0 7 false, .call 0, .resume, .control, .control, .control, .control, .call 0, .call 0,
    .send 0 8 false, .call 1, .call 1, .call 1, .tryRecv, .receive, .receive, .receive, .receive]

/-- The late packet is discarded. -/
theorem lateRun_fresh :
    (∀ event ∈ Mealy.outputs Channel.step
        (Channel.new (ArrayQueue.bounded (QueuedPacket (Stamped Nat))) Notify.single 2 true)
        lateRun, event.Fresh) ∧
      Event.received ⟨8, 1⟩ 1 ∈ Mealy.outputs Channel.step
        (Channel.new (ArrayQueue.bounded (QueuedPacket (Stamped Nat))) Notify.single 2 true)
        lateRun :=
  ⟨received_fresh (ArrayQueue.bounded_lawful (QueuedPacket (Stamped Nat))) 2 true lateRun
    (by decide +kernel), by decide +kernel⟩

section Wrapped

/-- All steps of one call of `resume` on an empty queue. -/
def resumeSteps : List (Action Nat) := [.resume, .control, .control, .control, .control]

/-- A sender reads the state, the queue is resumed many times, the packet is pushed, and the
receiver tries to receive one. -/
def wrappedRun (rounds : Nat) : List (Action Nat) :=
  [.send 0 7 true, .call 0] ++ (List.replicate rounds resumeSteps).flatten ++
    [.call 0, .tryRecv, .receive, .receive]

/-- The queue while its sender is late. -/
def lateChannel (notify : SingleNotify) (state : UInt64) (resumes : Nat) :
    Channel (ArrayQueue.bounded (QueuedPacket (Stamped Nat))) Notify.single where
  shared := ⟨⟨1, []⟩, notify, state, 1, true⟩
  handles := [.live]
  calls := [⟨0, .pushing ⟨⟨7, 0⟩, 0⟩ true⟩]
  control := .idle
  receiver := .idle
  cancelled := false
  resumes := resumes

/-- After many resumes the epoch is their number, modulo `2 ^ 63`. -/
theorem final_resumed (rounds : Nat) (notify : SingleNotify) (state : UInt64) (resumes : Nat)
    (active : state.toNat % 2 = 1) :
    ∃ later now, Mealy.final Channel.step (lateChannel notify state resumes)
        (List.replicate rounds resumeSteps).flatten = lateChannel later now (resumes + rounds) ∧
      now.toNat = 2 * ((state.toNat / 2 + rounds) % 2 ^ 63) + 1 := by
  induction rounds generalizing notify state resumes with
  | zero =>
    have small := state.toNat_lt
    exact ⟨notify, state, rfl, by omega⟩
  | succ rounds ih =>
    have once : Mealy.final Channel.step (lateChannel notify state resumes) resumeSteps =
        lateChannel notify.notifyWaiters (nextEpoch state <<< 1 ||| queueActive) (resumes + 1) :=
      rfl
    have number := toNat_resumed (nextEpoch state)
    rw [toNat_nextEpoch] at number
    obtain ⟨later, now, reached, epoch⟩ :=
      ih notify.notifyWaiters (nextEpoch state <<< 1 ||| queueActive) (resumes + 1) (by omega)
    refine ⟨later, now, ?_, ?_⟩
    · rw [List.replicate_succ, List.flatten_cons, Mealy.final_append, once, reached]
      congr 1
      omega
    · rw [epoch, number]
      omega

/-- After `2 ^ 63` resumes a packet is received whose sender read the state before all of them. -/
theorem wrappedRun_stale :
    Event.received ⟨7, 0⟩ (2 ^ 63) ∈ Mealy.outputs Channel.step
        (Channel.new (ArrayQueue.bounded (QueuedPacket (Stamped Nat))) Notify.single 1 true)
        (wrappedRun (2 ^ 63)) ∧
      ¬ (Event.received (⟨7, 0⟩ : Stamped Nat) (2 ^ 63)).Fresh := by
  have begun : Mealy.final Channel.step
      (Channel.new (ArrayQueue.bounded (QueuedPacket (Stamped Nat))) Notify.single 1 true)
      [.send 0 7 true, .call 0] = lateChannel ⟨false, 0, none⟩ 1 0 := rfl
  obtain ⟨later, now, reached, epoch⟩ := final_resumed (2 ^ 63) ⟨false, 0, none⟩ 1 0 rfl
  have first : now = 1 := UInt64.toNat_inj.mp (epoch.trans rfl)
  have ended (resumes : Nat) : Mealy.outputs Channel.step (lateChannel later 1 resumes)
      [.call 0, .tryRecv, .receive, .receive] =
        [.quiet, .quiet, .quiet, .received ⟨7, 0⟩ resumes] := by
    with_unfolding_all rfl
  constructor
  · unfold wrappedRun
    rw [Mealy.outputs_append, Mealy.final_append, begun, reached, first, ended, Nat.zero_add]
    exact List.mem_append_right _ (by simp only [List.mem_cons, true_or, or_true])
  · show ¬ 2 ^ 63 ≤ 0
    decide

end Wrapped

end Focsq.Dispatcher
