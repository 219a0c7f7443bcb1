import Focsq.Backend.Uplink
import Focsq.Verif.FastPathScheduler
import Focsq.Verif.PacketQueue

/-!
# Every queue holds the last packets of its worker

Whatever happens in between, a session receives the packets that the scheduler has given it, in
their order and each at most once, and of the last ones none is missing for which its queue has
room. A queue that was dropped takes nothing more.
-/

namespace Focsq.Dispatcher

open StripedScheduler

variable {π κ : Type} {queues : ArrayQueue (QueuedPacket π)} {notifies : Notify}

section Queue

variable {contents : queues.Queue → List (QueuedPacket π)} {capacity : queues.Queue → Nat}

/-- A packet is appended, by force if it is refused. -/
def PacketQueue.append (shared : PacketQueue queues notifies) (packet : π) :
    PacketQueue queues notifies :=
  match shared.trySend packet with
  | (none, shared) => shared
  | (some packet, shared) => (shared.forceSend packet).2

/-- What is appended to an active queue takes the place of the oldest packet if there is no room. -/
theorem append_refines (lawful : queues.Lawful contents capacity)
    {shared : PacketQueue queues notifies} {size : Nat} {items : List π}
    (refines : Refines contents capacity shared ⟨size, true, items⟩) (packet : π) :
    Refines contents capacity (shared.append packet)
      ⟨size, true, (Fifo.forcePush size items packet).2⟩ := by
  obtain ⟨answer, tried⟩ := trySend_refines lawful refines packet
  unfold PacketQueue.append
  cases sent : shared.trySend packet with
  | mk refused queue =>
    have real : shared.call (.trySend packet) = (queue, .refused refused) := by
      dsimp only [PacketQueue.call]
      rw [sent]
    rw [real] at answer tried
    by_cases room : items.length < size
    · have meant : (⟨size, true, items⟩ : Reference π).call (.trySend packet) =
          (⟨size, true, items ++ [packet]⟩, .refused none) := by
        simp [Reference.call, Fifo.push, room]
      rw [meant] at answer tried
      cases answer
      have same : (Fifo.forcePush size items packet).2 = items ++ [packet] := by
        simp [Fifo.forcePush, room]
      rw [same]
      exact tried
    · have meant : (⟨size, true, items⟩ : Reference π).call (.trySend packet) =
          (⟨size, true, items⟩, .refused (some packet)) := by
        simp [Reference.call, Fifo.push, room]
      rw [meant] at answer tried
      cases answer
      obtain ⟨-, forced⟩ := forceSend_refines lawful tried packet
      exact forced

/-- A queue whose receiver is gone refuses packets. -/
theorem append_closed {shared : PacketQueue queues notifies}
    (closed : shared.receiverOpen = false) (packet : π) : shared.append packet = shared := by
  have refused (force : Bool) : shared.sendInner packet force = (some packet, shared) :=
    if_pos closed
  rw [PacketQueue.append, PacketQueue.trySend, refused]
  dsimp only
  rw [PacketQueue.forceSend, refused]

/-- The oldest packet is received. -/
theorem recv_refines (lawful : queues.Lawful contents capacity)
    {shared : PacketQueue queues notifies} {size : Nat} {items : List π}
    (refines : Refines contents capacity shared ⟨size, true, items⟩) :
    shared.tryRecvInner.1 = (Fifo.pop items).1 ∧
      Refines contents capacity shared.tryRecvInner.2 ⟨size, true, (Fifo.pop items).2⟩ := by
  obtain ⟨answer, after⟩ := tryRecv_refines lawful refines
  exact ⟨QueueAnswer.received.inj answer, after⟩

/-- Nothing is received from an empty queue. -/
theorem recv_empty (lawful : queues.Lawful contents capacity)
    {shared : PacketQueue queues notifies} (empty : contents shared.queue = []) :
    shared.tryRecvInner = (none, shared) := by
  rw [PacketQueue.tryRecvInner, lawful.len, empty]
  rfl

/-- A queue that is dropped is empty. -/
theorem dropReceiver_empties (lawful : queues.Lawful contents capacity)
    (shared : PacketQueue queues notifies) :
    shared.dropReceiver.receiverOpen = false ∧ contents shared.dropReceiver.queue = [] := by
  obtain ⟨queue, purged, empty, -⟩ := purge_empties lawful { shared with receiverOpen := false }
  unfold PacketQueue.dropReceiver
  dsimp only
  rw [purged]
  exact ⟨rfl, empty⟩

end Queue

section Plan

variable [DecidableEq κ] (asSlice : π → List UInt8) (key : κ)

/-- The sender that a packet is assigned to. -/
def FastPath.target (path : FastPath κ) (bytes : List UInt8) : Option κ :=
  (path.step (.packet bytes)).2.map fun chosen => chosen.2.sender chosen.1

/-- What an action means for the workers and the scheduler. -/
def FastPath.after (path : FastPath κ) (action : UplinkAction π κ) : FastPath κ :=
  match action with
  | .register channels => (path.step (.register channels)).1
  | .unregister id incarnationId => (path.step (.unregister id incarnationId)).1
  | .packet packet => (path.step (.packet (asSlice packet))).1
  | .receive _ | .drop _ => path

/-- The packet that an action brings for a sender. -/
def FastPath.offer (path : FastPath κ) (action : UplinkAction π κ) : List π :=
  match action with
  | .packet packet => if path.target (asSlice packet) = some key then [packet] else []
  | _ => []

/-- Whether an action drops a queue. -/
def dropsQueue (action : UplinkAction π κ) : Bool :=
  match action with
  | .drop other => other = key
  | _ => false

/-- The packets that the scheduler assigns to a sender until its queue is dropped. -/
def offered (path : FastPath κ) : List (UplinkAction π κ) → List π
  | [] => []
  | action :: rest =>
    if dropsQueue key action then []
    else path.offer asSlice key action ++ offered (path.after asSlice action) rest

/-- The packets that are received from a queue. -/
def receivedFrom (answers : List (Option (κ × π))) : List π :=
  answers.filterMap fun answer => (answer.filter fun received => received.1 = key).map Prod.snd

/-- A packet is appended to the queue of the sender it is assigned to. -/
theorem dispatchNow_eq (uplink : Uplink κ queues notifies) (packet : π) :
    uplink.dispatchNow asSlice packet =
      { path := (uplink.path.step (.packet (asSlice packet))).1
        shared := (uplink.path.target (asSlice packet)).elim uplink.shared fun key =>
          Function.update uplink.shared key ((uplink.shared key).append packet) } := by
  unfold Uplink.dispatchNow FastPath.target FastPath.step
  dsimp only
  cases uplink.path.scheduler.begin uplink.path.workers (asSlice packet) with
  | mk scheduler ticket =>
    cases ticket with
    | none => rfl
    | some ticket =>
      dsimp only [Option.bind_some]
      unfold enqueueSelectedWorker replaceOldestInSelectedQueue
      cases found : scheduler.workers[ticket.startSlot]? with
      | none => rfl
      | some worker =>
        dsimp only [Option.map_some, Option.elim_some]
        unfold PacketQueue.append
        cases sent : (uplink.shared (worker.sender ticket.packetClass)).trySend packet with
        | mk refused queue =>
          cases refused with
          | none => rfl
          | some refused =>
            dsimp only
            rw [Function.update_self, Function.update_idem]

/-- The workers and the scheduler do not depend on the queues. -/
theorem path_step (uplink : Uplink κ queues notifies) (action : UplinkAction π κ) :
    (uplink.step asSlice action).1.path = uplink.path.after asSlice action := by
  cases action with
  | packet packet =>
    show (uplink.dispatchNow asSlice packet).path = _
    rw [dispatchNow_eq]
    rfl
  | register channels => rfl
  | unregister id incarnationId => rfl
  | receive key => rfl
  | drop key => rfl

end Plan

section Run

variable [DecidableEq κ] {asSlice : π → List UInt8} {key : κ}
  {contents : queues.Queue → List (QueuedPacket π)} {capacity : queues.Queue → Nat}

/-- What an action means for an open queue. -/
theorem step_open (asSlice : π → List UInt8) (lawful : queues.Lawful contents capacity)
    {uplink : Uplink κ queues notifies}
    {size : Nat} {items : List π} (positive : 0 < size)
    (refines : Refines contents capacity (uplink.shared key) ⟨size, true, items⟩)
    {action : UplinkAction π κ} (alive : dropsQueue key action = false) :
    ∃ held, Refines contents capacity ((uplink.step asSlice action).1.shared key)
        ⟨size, true, held⟩ ∧
      ∀ offers given, Fifo.Keeps size offers given items →
        Fifo.Keeps size (offers ++ uplink.path.offer asSlice key action)
          (given ++ receivedFrom key [(uplink.step asSlice action).2]) held := by
  have same (offers given : List π) (keeps : Fifo.Keeps size offers given items) :
      Fifo.Keeps size (offers ++ []) (given ++ []) items := by simpa using keeps
  cases action with
  | register channels => exact ⟨items, refines, same⟩
  | unregister id incarnationId => exact ⟨items, refines, same⟩
  | packet packet =>
    show ∃ held, Refines contents capacity ((uplink.dispatchNow asSlice packet).shared key) _ ∧
      ∀ offers given, _ → Fifo.Keeps size
        (offers ++ if uplink.path.target (asSlice packet) = some key then [packet] else [])
        (given ++ []) held
    rw [dispatchNow_eq]
    dsimp only
    cases uplink.path.target (asSlice packet) with
    | none => exact ⟨items, refines, same⟩
    | some target =>
      rw [Option.elim_some]
      by_cases here : target = key
      · subst here
        rw [Function.update_self, if_pos rfl]
        refine ⟨_, append_refines lawful refines packet, fun offers given keeps => ?_⟩
        rw [List.append_nil]
        exact keeps.forcePush positive packet
      · rw [Function.update_of_ne (Ne.symm here), if_neg fun equal => here (Option.some.inj equal)]
        exact ⟨items, refines, same⟩
  | receive other =>
    by_cases here : other = key
    · subst here
      obtain ⟨answer, after⟩ := recv_refines lawful refines
      refine ⟨(Fifo.pop items).2, ?_, fun offers given keeps => ?_⟩
      · show Refines contents capacity (Function.update uplink.shared other _ other) _
        rw [Function.update_self]
        exact after
      · have popped := keeps.pop
        rw [← answer] at popped
        show Fifo.Keeps size (offers ++ []) (given ++ receivedFrom other
          [(uplink.shared other).tryRecvInner.1.map (other, ·)]) _
        rw [List.append_nil]
        cases received : (uplink.shared other).tryRecvInner.1 with
        | none =>
          rw [received] at popped
          exact popped
        | some packet =>
          rw [received] at popped
          have one : receivedFrom other [(some packet).map (other, ·)] = [packet] := by
            simp [receivedFrom]
          rw [one]
          exact popped
    · refine ⟨items, ?_, fun offers given keeps => ?_⟩
      · show Refines contents capacity (Function.update uplink.shared other _ key) _
        rw [Function.update_of_ne (Ne.symm here)]
        exact refines
      · have none : receivedFrom key [(uplink.step asSlice (.receive other)).2] = [] := by
          show receivedFrom key [(uplink.shared other).tryRecvInner.1.map (other, ·)] = []
          cases (uplink.shared other).tryRecvInner.1 with
          | none => rfl
          | some packet => simp [receivedFrom, here]
        rw [none]
        exact same offers given keeps
  | drop other =>
    have here : other ≠ key := by simpa [dropsQueue] using alive
    refine ⟨items, ?_, same⟩
    show Refines contents capacity (Function.update uplink.shared other _ key) _
    rw [Function.update_of_ne (Ne.symm here)]
    exact refines

/-- A queue that was dropped. -/
def Closed (contents : queues.Queue → List (QueuedPacket π))
    (shared : PacketQueue queues notifies) : Prop :=
  shared.receiverOpen = false ∧ contents shared.queue = []

/-- Nothing happens to a queue that was dropped. -/
theorem step_closed (asSlice : π → List UInt8) (lawful : queues.Lawful contents capacity)
    {uplink : Uplink κ queues notifies}
    (closed : Closed contents (uplink.shared key)) (action : UplinkAction π κ) :
    Closed contents ((uplink.step asSlice action).1.shared key) ∧
      receivedFrom key [(uplink.step asSlice action).2] = [] := by
  cases action with
  | register channels => exact ⟨closed, rfl⟩
  | unregister id incarnationId => exact ⟨closed, rfl⟩
  | packet packet =>
    refine ⟨?_, rfl⟩
    show Closed contents ((uplink.dispatchNow asSlice packet).shared key)
    rw [dispatchNow_eq]
    dsimp only
    cases uplink.path.target (asSlice packet) with
    | none => exact closed
    | some target =>
      rw [Option.elim_some]
      by_cases here : target = key
      · subst here
        rw [Function.update_self, append_closed closed.1]
        exact closed
      · rw [Function.update_of_ne (Ne.symm here)]
        exact closed
  | receive other =>
    show Closed contents
        (Function.update uplink.shared other (uplink.shared other).tryRecvInner.2 key) ∧
      receivedFrom key [(uplink.shared other).tryRecvInner.1.map (other, ·)] = []
    by_cases here : other = key
    · subst here
      rw [Function.update_self, recv_empty lawful closed.2]
      exact ⟨closed, rfl⟩
    · rw [Function.update_of_ne (Ne.symm here)]
      refine ⟨closed, ?_⟩
      cases (uplink.shared other).tryRecvInner.1 with
      | none => rfl
      | some packet => simp [receivedFrom, here]
  | drop other =>
    refine ⟨?_, rfl⟩
    show Closed contents (Function.update uplink.shared other _ key)
    by_cases here : other = key
    · subst here
      rw [Function.update_self]
      exact dropReceiver_empties lawful _
    · rw [Function.update_of_ne (Ne.symm here)]
      exact closed

/-- The first answer, and the others. -/
theorem receivedFrom_cons (answer : Option (κ × π)) (answers : List (Option (κ × π))) :
    receivedFrom key (answer :: answers) =
      receivedFrom key [answer] ++ receivedFrom key answers := by
  unfold receivedFrom
  rw [← List.filterMap_append, List.singleton_append]

/-- Nothing is received from a queue that was dropped. -/
theorem run_closed (asSlice : π → List UInt8) (lawful : queues.Lawful contents capacity)
    {uplink : Uplink κ queues notifies}
    (closed : Closed contents (uplink.shared key)) (actions : List (UplinkAction π κ)) :
    receivedFrom key (Mealy.outputs (Uplink.step asSlice) uplink actions) = [] ∧
      Closed contents ((Mealy.final (Uplink.step asSlice) uplink actions).shared key) := by
  induction actions generalizing uplink with
  | nil => exact ⟨rfl, closed⟩
  | cons action rest ih =>
    obtain ⟨after, none⟩ := step_closed asSlice lawful closed action
    obtain ⟨nothing, later⟩ := ih after
    refine ⟨?_, later⟩
    rw [Mealy.outputs, receivedFrom_cons, none, nothing, List.append_nil]

/-- What a run means for an open queue. -/
theorem run_open (lawful : queues.Lawful contents capacity) {uplink : Uplink κ queues notifies}
    {size : Nat} {items offers given : List π} (positive : 0 < size)
    (refines : Refines contents capacity (uplink.shared key) ⟨size, true, items⟩)
    (keeps : Fifo.Keeps size offers given items) (actions : List (UplinkAction π κ)) :
    ∃ held, Fifo.Keeps size (offers ++ offered asSlice key uplink.path actions)
        (given ++ receivedFrom key (Mealy.outputs (Uplink.step asSlice) uplink actions)) held ∧
      (contents ((Mealy.final (Uplink.step asSlice) uplink actions).shared key).queue).map
        QueuedPacket.packet = if actions.any (dropsQueue key) then [] else held := by
  induction actions generalizing uplink items offers given with
  | nil =>
    refine ⟨items, ?_, refines.items.symm⟩
    rw [offered, Mealy.outputs, receivedFrom, List.filterMap_nil, List.append_nil, List.append_nil]
    exact keeps
  | cons action rest ih =>
    rw [List.any_cons, Mealy.outputs, receivedFrom_cons, offered]
    by_cases gone : dropsQueue key action = true
    · rw [if_pos gone, gone, Bool.true_or]
      cases action with
      | drop other =>
        have here : other = key := by simpa [dropsQueue] using gone
        subst here
        have closed : Closed contents ((uplink.step asSlice (.drop other)).1.shared other) := by
          show Closed contents (Function.update uplink.shared other _ other)
          rw [Function.update_self]
          exact dropReceiver_empties lawful _
        obtain ⟨nothing, later⟩ := run_closed asSlice lawful closed rest
        refine ⟨items, ?_, ?_⟩
        · rw [nothing, List.append_nil]
          show Fifo.Keeps size offers (given ++ ([] ++ [])) items
          rw [List.append_nil, List.append_nil]
          exact keeps
        · rw [if_pos rfl]
          rw [Mealy.final, later.2, List.map_nil]
      | register channels => cases gone
      | unregister id incarnationId => cases gone
      | packet packet => cases gone
      | receive other => cases gone
    · have alive := Bool.not_eq_true _ ▸ gone
      obtain ⟨held, after, kept⟩ := step_open asSlice lawful positive refines alive
      have later := ih after (kept offers given keeps)
      rw [if_neg gone, alive, Bool.false_or, ← List.append_assoc, ← List.append_assoc,
        ← path_step asSlice uplink action]
      exact later

/-- From every queue of a worker a session receives the packets that the scheduler assigned to it,
in order and each at most once; the queue holds the last of the others, and none of the last ones
that there is room for is missing. -/
theorem uplink_delivers (lawful : queues.Lawful contents capacity) (asSlice : π → List UInt8)
    (room : κ → Nat) (actions : List (UplinkAction π κ)) (key : κ) :
    ∃ held, Fifo.Keeps (max (room key) 1)
        (offered asSlice key (Uplink.new queues notifies room).path actions)
        (receivedFrom key
          (Mealy.outputs (Uplink.step asSlice) (Uplink.new queues notifies room) actions)) held ∧
      (contents ((Mealy.final (Uplink.step asSlice) (Uplink.new queues notifies room)
        actions).shared key).queue).map QueuedPacket.packet =
          if actions.any (dropsQueue key) then [] else held := by
  have start := @packetChannel_refines _ _ notifies _ _ lawful (room key) true
  exact run_open lawful (by omega) start (Fifo.keeps_nil _) actions

/-- The queues of a worker are numbered from the one for small packets on. -/
def numbered (id first : Nat) : WorkerChannels Nat := ⟨id, 1, "path", first, first + 1, first + 2⟩

/-- A worker with room for two small packets is given four, and takes one in between. -/
def fullRun : List (UplinkAction Nat Nat) :=
  [.register (numbered 0 10), .packet 1, .packet 2, .packet 3, .receive 10, .packet 4, .drop 11]

/-- The first packet makes room, and the second one is received. -/
theorem fullRun_delivered :
    offered (fun _ => []) 10 (Uplink.new (ArrayQueue.bounded (QueuedPacket Nat)) Notify.single
        fun _ => 2).path fullRun = [1, 2, 3, 4] ∧
      receivedFrom 10 (Mealy.outputs (Uplink.step fun _ => []) (Uplink.new
        (ArrayQueue.bounded (QueuedPacket Nat)) Notify.single fun _ => 2) fullRun) = [2] ∧
      ∃ held, Fifo.Keeps 2
        (offered (fun _ => []) 10 (Uplink.new (ArrayQueue.bounded (QueuedPacket Nat))
          Notify.single fun _ => 2).path fullRun)
        (receivedFrom 10 (Mealy.outputs (Uplink.step fun _ => []) (Uplink.new
          (ArrayQueue.bounded (QueuedPacket Nat)) Notify.single fun _ => 2) fullRun)) held := by
  obtain ⟨held, keeps, -⟩ := @uplink_delivers _ _ _ Notify.single _ _ _
    (ArrayQueue.bounded_lawful (QueuedPacket Nat)) (fun _ => []) (fun _ => 2) fullRun 10
  exact ⟨by decide +kernel, by decide +kernel, held, keeps⟩

end Run

end Focsq.Dispatcher
