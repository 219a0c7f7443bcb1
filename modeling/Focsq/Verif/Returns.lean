import Focsq.Backend.Downlink
import Focsq.Verif.Uplink

/-!
# What is taken from the queues of returned packets

For each class the packets that are taken are those that were returned, in their order, except for
those that made room for others. What is handed on is what putting them in order gives, and as long
as there is something in a queue or ready, something is handed on.
-/

namespace Focsq.Dispatcher

open FlowFrame Packet StripedScheduler

variable {queues : ArrayQueue (QueuedPacket PacketBuf)} {notifies : Notify}
  {contents : queues.Queue → List (QueuedPacket PacketBuf)} {capacity : queues.Queue → Nat}

section Queues

/-- There is room for every class. -/
theorem returnRoom_pos (packetClass : PacketClass) : 0 < returnRoom packetClass := by
  cases packetClass <;> decide

/-- What three queues hold. -/
def Holds (room : PacketClass → Nat) (contents : queues.Queue → List (QueuedPacket PacketBuf))
    (capacity : queues.Queue → Nat) (queue : PacketClass → PacketQueue queues notifies)
    (items : PacketClass → List PacketBuf) : Prop :=
  ∀ packetClass, Refines contents capacity (queue packetClass)
    ⟨room packetClass, true, items packetClass⟩

/-- One queue is another one. -/
theorem Holds.update {room : PacketClass → Nat} {queue : PacketClass → PacketQueue queues notifies}
    {items : PacketClass → List PacketBuf} (holds : Holds room contents capacity queue items)
    {packetClass : PacketClass} {after : PacketQueue queues notifies} {held : List PacketBuf}
    (refines : Refines contents capacity after ⟨room packetClass, true, held⟩) :
    Holds room contents capacity (Function.update queue packetClass after)
      (Function.update items packetClass held) := by
  intro other
  by_cases same : other = packetClass
  · subst same
    rw [Function.update_self, Function.update_self]
    exact refines
  · rw [Function.update_of_ne same, Function.update_of_ne same]
    exact holds other

/-- The first packet of some queues is that of the first one that is not empty. -/
theorem recvFirst_spec (lawful : queues.Lawful contents capacity)
    {room : PacketClass → Nat} {queue : PacketClass → PacketQueue queues notifies}
    {items : PacketClass → List PacketBuf}
    (holds : Holds room contents capacity queue items) (classes : List PacketClass) :
    (∃ after, recvFirst queue classes = (none, after) ∧ Holds room contents capacity after items ∧
        ∀ packetClass ∈ classes, items packetClass = []) ∨
      ∃ packetClass ∈ classes, ∃ packet rest after, items packetClass = packet :: rest ∧
        recvFirst queue classes = (some packet, after) ∧
        Holds room contents capacity after (Function.update items packetClass rest) := by
  induction classes generalizing queue with
  | nil => exact .inl ⟨queue, rfl, holds, fun _ member => by cases member⟩
  | cons packetClass classes ih =>
    obtain ⟨answer, after⟩ := recv_refines lawful (holds packetClass)
    cases taken : (queue packetClass).tryRecvInner with
    | mk front left =>
      rw [taken] at answer after
      rw [recvFirst, taken]
      cases held : items packetClass with
      | nil =>
        rw [held] at answer after
        cases answer
        have still := holds.update after
        have same : Function.update items packetClass (Fifo.pop []).2 = items := by
          rw [Fifo.pop_nil, ← held, Function.update_eq_self]
        rw [same] at still
        rcases ih still with ⟨final, none, keeps, empty⟩ | ⟨chosen, member, found⟩
        · refine .inl ⟨final, none, keeps, fun other member => ?_⟩
          rcases List.mem_cons.mp member with rfl | later
          · exact held
          · exact empty other later
        · exact .inr ⟨chosen, List.mem_cons_of_mem _ member, found⟩
      | cons packet rest =>
        rw [held] at answer after
        cases answer
        exact .inr ⟨packetClass, List.mem_cons_self, packet, rest, _, held, rfl,
          holds.update after⟩

end Queues

section Order

/-- What putting packets in order leads to, each at its time. -/
def reordered (taken : List (PacketBuf × Nat)) : ReturnReorder :=
  taken.foldl (fun reorder entry => reorder.push entry.1 entry.2) .new

/-- What is ready in front does not matter. -/
theorem push_ready (reorder : ReturnReorder) (handed : List PacketBuf) (packet : PacketBuf)
    (nowMs : Nat) :
    { reorder with ready := handed ++ reorder.ready : ReturnReorder }.push packet nowMs =
      { reorder.push packet nowMs with
        ready := handed ++ (reorder.push packet nowMs).ready } := by
  unfold ReturnReorder.push
  cases FrameHeader.decode packet.asSlice with
  | none =>
    dsimp only
    rw [List.append_assoc]
  | some decoded =>
    dsimp only
    cases packet.trimFront frameLen with
    | error failure => rfl
    | ok packet =>
      dsimp only
      rw [List.append_assoc]

end Order

section Account

/-- The packets of a class. -/
def ofPacketClass (packets : List PacketBuf) (kind : PacketClass) : List PacketBuf :=
  packets.filter fun packet => packetClass packet.asSlice = kind

/-- What was returned, what was taken from the queues and when, and what was handed on. -/
structure Account (contents : queues.Queue → List (QueuedPacket PacketBuf))
    (capacity : queues.Queue → Nat) (clock : Nat → Nat) (returned : List PacketBuf)
    (taken : List (PacketBuf × Nat)) (handed : List PacketBuf)
    (items : PacketClass → List PacketBuf) (returns : Returns queues notifies) : Prop where
  /-- What the queues hold. -/
  holds : Holds returnRoom contents capacity returns.queue items
  /-- What is taken for each class. -/
  keeps : ∀ kind, Fifo.Keeps (returnRoom kind) (ofPacketClass returned kind)
    (ofPacketClass (taken.map Prod.fst) kind) (items kind)
  /-- When it is taken. -/
  times : taken.map Prod.snd = (List.range returns.asked).map clock
  /-- What is handed on, and what is ready. -/
  order : reordered taken = { returns.reorder with ready := handed ++ returns.reorder.ready }

variable {clock : Nat → Nat} {returned handed : List PacketBuf}
  {taken : List (PacketBuf × Nat)} {items : PacketClass → List PacketBuf}
  {returns : Returns queues notifies}

/-- One packet more, if it is of the class. -/
theorem ofPacketClass_concat (packets : List PacketBuf) (packet : PacketBuf) (kind : PacketClass) :
    ofPacketClass (packets ++ [packet]) kind =
      ofPacketClass packets kind ++ if packetClass packet.asSlice = kind then [packet] else [] := by
  unfold ofPacketClass
  rw [List.filter_append, List.filter_singleton]
  by_cases same : packetClass packet.asSlice = kind
  · rw [decide_eq_true same, if_pos same]
    rfl
  · rw [decide_eq_false same, if_neg same]
    rfl

/-- A packet is returned. -/
theorem Account.returnPacket (account : Account contents capacity clock returned taken handed items
      returns) (lawful : queues.Lawful contents capacity) (packet : PacketBuf) :
    ∃ items, Account contents capacity clock (returned ++ [packet]) taken handed items
      (returns.returnPacket packet) := by
  generalize kind : packetClass packet.asSlice = chosen
  have forced := (forceSend_refines lawful (account.holds chosen) packet).2
  refine ⟨Function.update items chosen (Fifo.forcePush (returnRoom chosen) (items chosen) packet).2,
    ?_, fun other => ?_, account.times, account.order⟩
  · unfold Returns.returnPacket
    dsimp only
    rw [kind]
    exact account.holds.update forced
  · rw [ofPacketClass_concat, kind]
    by_cases same : other = chosen
    · subst same
      rw [if_pos rfl, Function.update_self]
      exact (account.keeps other).forcePush (returnRoom_pos other) packet
    · rw [if_neg (Ne.symm same), List.append_nil, Function.update_of_ne same]
      exact account.keeps other

/-- A packet that waits is of the class of its queue. -/
theorem Account.classOf (account : Account contents capacity clock returned taken handed items
      returns) {kind : PacketClass} {packet : PacketBuf} (waits : packet ∈ items kind) :
    packetClass packet.asSlice = kind := by
  have among := (account.keeps kind).last.subset waits
  simpa using (List.mem_filter.mp among).2

/-- A packet is taken from a queue and put in order. -/
theorem Account.take (account : Account contents capacity clock returned taken handed items returns)
    {kind : PacketClass} {packet : PacketBuf} {rest : List PacketBuf}
    (front : items kind = packet :: rest) {after : PacketClass → PacketQueue queues notifies}
    (holds : Holds returnRoom contents capacity after (Function.update items kind rest)) :
    Account contents capacity clock returned (taken ++ [(packet, clock returns.asked)]) handed
      (Function.update items kind rest)
      { queue := after
        reorder := returns.reorder.push packet (clock returns.asked)
        asked := returns.asked + 1 } where
  holds := holds
  keeps := fun other => by
    have waits : packet ∈ items kind := by
      rw [front]
      exact List.mem_cons_self
    have chosen := account.classOf waits
    have keeps := account.keeps other
    rw [List.map_append, List.map_singleton, ofPacketClass_concat, chosen]
    by_cases same : other = kind
    · subst same
      have popped := keeps.pop
      rw [front] at popped
      rw [if_pos rfl, Function.update_self]
      exact popped
    · rw [if_neg (Ne.symm same), List.append_nil, Function.update_of_ne same]
      exact keeps
  times := by
    rw [List.map_append, List.map_singleton, account.times, List.range_succ, List.map_append,
      List.map_singleton]
  order := by
    unfold reordered
    rw [List.foldl_append, List.foldl_cons, List.foldl_nil]
    show (reordered taken).push packet _ = _
    rw [account.order, push_ready]

/-- What is ready is handed on. -/
theorem Account.hand (account : Account contents capacity clock returned taken handed items returns)
    {packet : PacketBuf} {ready : List PacketBuf}
    (front : returns.reorder.ready = packet :: ready) :
    Account contents capacity clock returned taken (handed ++ [packet]) items
      { returns with reorder := { returns.reorder with ready } } where
  holds := account.holds
  keeps := account.keeps
  times := account.times
  order := by
    rw [account.order, front, List.append_assoc]
    rfl

/-- The number of packets in the queues. -/
theorem queued_eq (lawful : queues.Lawful contents capacity)
    (holds : Holds returnRoom contents capacity returns.queue items) :
    returns.queued = (items .small).length + (items .medium).length + (items .bulk).length := by
  have length (kind : PacketClass) :
      queues.len (returns.queue kind).queue = (items kind).length := by
    have same : items kind = (contents (returns.queue kind).queue).map QueuedPacket.packet :=
      (holds kind).items
    rw [lawful.len, same, List.length_map]
  unfold Returns.queued
  rw [length, length, length]

/-- Nothing is found only if there is nothing. -/
structure Idle (items : PacketClass → List PacketBuf) (returns : Returns queues notifies) :
    Prop where
  /-- The queues are empty. -/
  empty : ∀ kind, items kind = []
  /-- Nothing is ready. -/
  ready : returns.reorder.ready = []

/-- What the loop finds. -/
theorem Account.orderedLoop (lawful : queues.Lawful contents capacity) (turns : Nat)
    (account : Account contents capacity clock returned taken handed items returns)
    (enough : (items .small).length + (items .medium).length + (items .bulk).length < turns) :
    ∃ more items, Account contents capacity clock returned (taken ++ more)
        (handed ++ (returns.orderedLoop clock turns).1.toList) items
        (returns.orderedLoop clock turns).2 ∧
      ((returns.orderedLoop clock turns).1 = none →
        Idle items (returns.orderedLoop clock turns).2) := by
  induction turns generalizing taken items returns with
  | zero => omega
  | succ turns ih =>
    rw [Returns.orderedLoop]
    cases front : returns.reorder.ready with
    | cons packet ready =>
      refine ⟨[], items, ?_, fun none => by cases none⟩
      rw [List.append_nil]
      exact account.hand front
    | nil =>
      dsimp only
      unfold nextReturnPacket
      rcases recvFirst_spec lawful account.holds [.small, .medium, .bulk] with
        ⟨after, none, holds, empty⟩ | ⟨kind, -, packet, rest, after, head, some, holds⟩
      · rw [none]
        refine ⟨[], items, ?_, fun _ => ⟨fun kind => empty kind ?_, front⟩⟩
        · rw [List.append_nil, Option.toList_none, List.append_nil]
          exact { account with holds := holds }
        · cases kind <;> decide
      · rw [some]
        have fewer : (Function.update items kind rest .small).length +
            (Function.update items kind rest .medium).length +
              (Function.update items kind rest .bulk).length < turns := by
          have shorter : (items kind).length = rest.length + 1 := by rw [head, List.length_cons]
          cases kind <;> simp only [Function.update_self, Function.update_of_ne, ne_eq,
            reduceCtorEq, not_false_eq_true] <;> omega
        obtain ⟨more, later, done, idle⟩ := ih (account.take head holds) fewer
        refine ⟨(packet, clock returns.asked) :: more, later, ?_, idle⟩
        rw [List.append_cons]
        exact done

/-- The next packet is handed on, if there is anything in a queue or ready. -/
theorem Account.nextOrdered (lawful : queues.Lawful contents capacity)
    (account : Account contents capacity clock returned taken handed items returns) :
    ∃ more items, Account contents capacity clock returned (taken ++ more)
        (handed ++ (returns.nextOrdered clock).1.toList) items (returns.nextOrdered clock).2 ∧
      ((returns.nextOrdered clock).1 = none → Idle items (returns.nextOrdered clock).2) := by
  unfold Returns.nextOrdered
  exact account.orderedLoop lawful _ (by rw [queued_eq lawful account.holds]; omega)

end Account

end Focsq.Dispatcher
