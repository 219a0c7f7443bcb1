import Focsq.Verif.RoundTrip
import Focsq.Verif.WriterSends

/-!
# Batches keep the order of the queue

When the writer of a session has flushed its queue, every packet has been given to the wire once, in
the order of the queue and with consecutive sequence numbers, and all that comes in addition is one
copy of a packet that is to be sent twice, right after it. It flushes the queue whenever the packets
fit their buffers and nothing outside fails.
-/

namespace Focsq.Session

open Effects Obfs Packet SelectiveFec Turn UdpBatch

variable {cipher : ObfsCipher} {config : ObfsConfig} {outside : Nat → Input config} {fair : Prop}
  {writer : TransportWriter}

/-- A packet that is not empty and has room for what obfuscation and encoding add to it. -/
structure Fits (config : ObfsConfig) (packet : PacketBuf) : Prop where
  /-- There is something to send. -/
  nonempty : packet.asSlice ≠ []
  /-- Room for both headers. -/
  front : 28 ≤ packet.start
  /-- Room for the longest padding, a tag, and the padding of the channel. -/
  back : packet.stop + max config.paddingMax 1 + 19 ≤ packetCapacity

/-- Whatever is drawn, the tail is no longer than that. -/
theorem tailLength_le (draws : Draws config) :
    tailLength config draws ≤ max config.paddingMax 1 + 16 := by
  have drawn := draws.inRange
  unfold tailLength
  split <;> omega

/-- `out` is what obfuscation makes of a packet with the counters of `state`. -/
def WrappedAs (cipher : ObfsCipher) (config : ObfsConfig) (state : ObfsState)
    (packet out : PacketBuf) : Prop :=
  ∃ (elapsed : Duration) (draws : Draws config),
    wireOf cipher config (stamp config state elapsed) draws packet.asSlice = some out.asSlice

/-- What there is after a packet is prepared. -/
structure Prepares (cipher : ObfsCipher) (config : ObfsConfig) (fair : Prop)
    (writer after : TransportWriter) (packet out : PacketBuf) (duplicate : Bool) : Prop where
  /-- The packet is obfuscated. -/
  wrapped : WrappedAs cipher config writer.writeState packet out
  /-- Only some packets are sent twice. -/
  chosen : duplicate = true → shouldDuplicate packet.asSlice = true
  /-- It has still room for the channel. -/
  room : fair → Encodable out
  /-- The counters have gone on, and nothing is sent. -/
  sends : Sends { writer with writeState := writer.writeState.next.2.2 } after []

/-- The decision changes the budget only. -/
theorem decideDuplicate_meets (packet : PacketBuf) (now : Nat) :
    Meets fair (decideDuplicate packet now) writer fun duplicate after =>
      (duplicate = true → shouldDuplicate packet.asSlice = true) ∧ Sends writer after [] := by
  unfold decideDuplicate
  split
  · rename_i chosen
    refine meets_get_bind (meets_modify_bind (meets_pure ⟨fun _ => chosen, ?_⟩))
    exact ⟨(List.append_nil _).symm, rfl, rfl, rfl, rfl⟩
  · refine meets_pure ⟨fun never => ?_, .refl writer⟩
    cases never

/-- A packet is obfuscated with the next sequence number. -/
theorem preparePacket_meets (lawful : cipher.Lawful) (packet : PacketBuf)
    (fits : fair → Fits config packet) :
    Meets fair (preparePacket cipher outside packet) writer fun prepared after =>
      Prepares cipher config fair writer after packet prepared.1 prepared.2 := by
  refine ask_meets.bind fun input asked ⟨is, sends⟩ => ?_
  refine (decideDuplicate_meets packet input.now).bind fun duplicate decided ⟨chosen, quiet⟩ => ?_
  have through := sends.trans quiet
  refine meets_get_bind ?_
  cases wrapped : cipher.wrap packet config decided.writeState input.elapsed input.draws with
  | mk result writeState =>
    refine meets_modify_bind (of_bind (fun out done => ?_) fun all => ?_)
    · subst done
      obtain ⟨counters, start, stop, wire⟩ := wrap_ok cipher lawful packet out config _ _ _ _
        wrapped
      rw [through.writeState] at counters wire
      have tail := tailLength_le input.draws
      have room : fair → Encodable out := by
        intro all
        obtain ⟨_, front, back⟩ := fits all
        exact ⟨by omega, by omega⟩
      refine meets_pure ⟨⟨input.elapsed, input.draws, wire⟩, chosen, room, ?_⟩
      exact ⟨through.wire, through.outbound, counters, through.pendingData, through.mmsgData⟩
    · obtain ⟨nonempty, front, back⟩ := fits all
      have tail := tailLength_le input.draws
      have room : Roomy packet config input.draws := ⟨by omega, by omega⟩
      obtain ⟨out, succeeds, _⟩ := wrap_succeeds cipher lawful packet config decided.writeState
        input.elapsed input.draws nonempty room
      rw [wrapped] at succeeds
      exact ⟨out, succeeds⟩

/-- A prepared packet joins the batch or ends it, and nothing overtakes. -/
theorem sendPrepared_meets (obliging : fair → Obliging outside) (packet : PacketBuf)
    (duplicate : Bool) (room : fair → Encodable packet)
    (rooms : fair → ∀ packet ∈ writer.mmsgData, Encodable packet) :
    Meets fair (sendPrepared outside packet duplicate) writer fun _ after =>
      ∃ gone shipments,
        plain writer.mmsgData ++ [(packet, duplicate)] = gone ++ plain after.mmsgData ∧
          Sent gone shipments ∧ (fair → ∀ packet ∈ after.mmsgData, Encodable packet) ∧
          Sends { writer with mmsgData := after.mmsgData } after
            (shipments.flatMap Shipment.datagrams) := by
  unfold sendPrepared
  cases duplicate with
  | true =>
    refine (flushMmsgData_meets obliging rooms).bind fun _ flushed ⟨earlier, once, sends⟩ => ?_
    refine (sendWithDuplicate_meets obliging packet room true).mono
      fun _ after ⟨shipment, carries, copied, later⟩ => ?_
    have empty : after.mmsgData = [] := later.mmsgData.trans sends.mmsgData
    rw [empty]
    refine ⟨plain writer.mmsgData ++ [(packet, true)], earlier ++ [shipment],
      (List.append_nil _).symm, ?_, ?_, ?_⟩
    · exact List.rel_append once (.cons ⟨carries, copied⟩ .nil)
    · intro _ other member
      cases member
    · rw [List.flatMap_append, List.flatMap_singleton]
      exact sends.trans later
  | false =>
    have both : plain (writer.mmsgData ++ [packet]) = plain writer.mmsgData ++ [(packet, false)] :=
      List.map_append
    have rooms' : fair → ∀ other ∈ writer.mmsgData ++ [packet], Encodable other := by
      intro all other member
      rcases List.mem_append.mp member with old | new
      · exact rooms all other old
      · rw [List.mem_singleton.mp new]
        exact room all
    refine meets_modify_bind (meets_get_bind ?_)
    split
    · refine (flushMmsgData_meets obliging rooms').mono fun _ after ⟨shipments, once, sends⟩ => ?_
      have empty : after.mmsgData = [] := sends.mmsgData
      rw [empty]
      rw [both] at once
      refine ⟨_, shipments, (List.append_nil _).symm, once, ?_, sends⟩
      intro _ other member
      cases member
    · exact meets_pure ⟨[], [], both.symm, .nil, rooms', .refl _⟩

/-- The packets of a queue are sent with the sequence numbers that follow, one shipment for each. -/
inductive Ships (cipher : ObfsCipher) (config : ObfsConfig) :
    ObfsState → List PacketBuf → List Shipment → Prop where
  /-- The queue is empty. -/
  | nil (state : ObfsState) : Ships cipher config state [] []
  /-- The first packet, and the others with the next counters. -/
  | cons {state : ObfsState} {packet out : PacketBuf} {packets : List PacketBuf}
      {shipment : Shipment} {shipments : List Shipment}
      (wrapped : WrappedAs cipher config state packet out) (carries : shipment.Carries out)
      (chosen : shipment.copied = true → shouldDuplicate packet.asSlice = true)
      (rest : Ships cipher config state.next.2.2 packets shipments) :
    Ships cipher config state (packet :: packets) (shipment :: shipments)

/-- The queue and the batch are empty, and the shipments were sent. -/
structure Flushed (before after : TransportWriter) (shipments : List Shipment) : Prop where
  /-- They come after all others. -/
  wire : after.wire = before.wire ++ shipments.flatMap Shipment.datagrams
  /-- The queue is empty. -/
  pendingData : after.pendingData = []
  /-- The batch is empty. -/
  mmsgData : after.mmsgData = []

/-- The loop, and the flush after it, send the batch and then the queue. -/
theorem flushLoop_meets (lawful : cipher.Lawful) (obliging : fair → Obliging outside)
    (packets : List PacketBuf) (queued : writer.pendingData = packets)
    (fits : fair → ∀ packet ∈ packets, Fits config packet)
    (rooms : fair → ∀ packet ∈ writer.mmsgData, Encodable packet) :
    Meets fair (flushLoop cipher outside packets >>= fun _ => flushMmsgData outside) writer
      fun _ after => ∃ earlier shipments, Sent (plain writer.mmsgData) earlier ∧
        Ships cipher config writer.writeState packets shipments ∧
        Flushed writer after (earlier ++ shipments) := by
  induction packets generalizing writer with
  | nil =>
    rw [flushLoop, pure_bind]
    refine (flushMmsgData_meets obliging rooms).mono fun _ after ⟨earlier, once, sends⟩ => ?_
    refine ⟨earlier, [], once, .nil _, ?_⟩
    rw [List.append_nil]
    exact ⟨sends.wire, sends.pendingData.trans queued, sends.mmsgData⟩
  | cons packet rest ih =>
    rw [flushLoop]
    simp only [bind_assoc]
    refine meets_modify_bind ((preparePacket_meets lawful packet fun all =>
      fits all packet List.mem_cons_self).bind fun prepared ready prepares => ?_)
    obtain ⟨out, duplicate⟩ := prepared
    obtain ⟨wrapped, chosen, room, sends⟩ := prepares
    have batch : ready.mmsgData = writer.mmsgData := sends.mmsgData
    rw [← batch] at rooms
    refine (sendPrepared_meets obliging out duplicate room rooms).bind
      fun _ turned ⟨gone, shipments, split, sent, rooms', later⟩ => ?_
    have queued' : turned.pendingData = rest := later.pendingData.trans sends.pendingData
    have counters : turned.writeState = writer.writeState.next.2.2 :=
      later.writeState.trans sends.writeState
    refine (ih queued' (fun all other member => fits all other (List.mem_cons_of_mem _ member))
      rooms').mono fun _ after ⟨earlier, others, first, ships, flushed⟩ => ?_
    have whole : Sent (plain ready.mmsgData ++ [(out, duplicate)]) (shipments ++ earlier) := by
      rw [split]
      exact List.rel_append sent first
    obtain ⟨front, shipment, is, before, carries, copied⟩ := whole.concat
    rw [batch] at before
    refine ⟨front, shipment :: others, before,
      .cons wrapped carries (fun twice => chosen (copied twice)) (counters ▸ ships), ?_,
      flushed.pendingData, flushed.mmsgData⟩
    have order : front ++ shipment :: others = shipments ++ (earlier ++ others) := by
      rw [← List.append_assoc, is, List.append_assoc, List.singleton_append]
    have turnedWire : turned.wire = ready.wire ++ shipments.flatMap Shipment.datagrams := later.wire
    have readyWire : ready.wire = writer.wire ++ [] := sends.wire
    rw [flushed.wire, turnedWire, readyWire, order]
    simp only [List.flatMap_append, List.append_nil, List.append_assoc]

/-- The RTP sequence number in a message of a channel. -/
def rtpSequenceOf (datagram : Datagram) : UInt16 :=
  UInt16.ofNat (Bytes.fromBe (Bytes.slice datagram 6 8))

/-- An obfuscated packet has the number of the counters. -/
theorem rtpSequenceOf_wrapped {state : ObfsState} {packet out : PacketBuf} {shipment : Shipment}
    (wrapped : WrappedAs cipher config state packet out) (carries : shipment.Carries out) :
    rtpSequenceOf shipment.datagram = rtpSequence state state.count := by
  obtain ⟨elapsed, draws, wire⟩ := wrapped
  obtain ⟨channel, _, datagram⟩ := carries
  have number := wireOf_sequence cipher config _ draws packet.asSlice out.asSlice wire
  have long : 4 ≤ out.asSlice.length := by
    have length := congrArg List.length number
    rw [Bytes.slice, List.length_drop, List.length_take, Bytes.length_be] at length
    omega
  have behind := Bytes.slice_append_right
    (Bytes.be 2 channel.toNat ++ Bytes.be 2 (UInt16.ofNat out.asSlice.length).toNat)
    (out.asSlice ++ channelPadding out.asSlice) 2 4
  rw [List.length_append, Bytes.length_be, Bytes.length_be, List.append_assoc] at behind
  have place : Bytes.slice shipment.datagram 6 8 = Bytes.slice out.asSlice 2 4 := by
    rw [datagram, channelWire]
    exact behind.trans (Bytes.slice_append_left _ _ 2 4 long)
  rw [rtpSequenceOf, place, number, Bytes.uint16_be]
  rfl

/-- The sequence numbers are consecutive, in the order of the wire. -/
theorem Ships.numbers {state : ObfsState} {packets : List PacketBuf} {shipments : List Shipment}
    (ships : Ships cipher config state packets shipments) (index : Nat) {shipment : Shipment}
    (there : shipments[index]? = some shipment) :
    rtpSequenceOf shipment.datagram = rtpSequence state (state.count + UInt64.ofNat index) := by
  induction ships generalizing index with
  | nil state => cases there
  | @cons state packet out packets first shipments wrapped carries chosen rest ih =>
    cases index with
    | zero =>
      rw [List.getElem?_cons_zero, Option.some.injEq] at there
      subst there
      rw [rtpSequenceOf_wrapped wrapped carries]
      exact congrArg _ (UInt64.add_zero _).symm
    | succ index =>
      rw [List.getElem?_cons_succ] at there
      have next : state.next.2.2.count + UInt64.ofNat index =
          state.count + UInt64.ofNat (index + 1) := by
        have one : state.next.2.2.count = state.count + 1 := rfl
        rw [one, UInt64.ofNat_add, UInt64.add_assoc, UInt64.add_comm 1]
        rfl
      rw [ih index there, next]
      rfl

/-- Flushing sends the whole queue in its order. -/
theorem flushQueuedData_meets (lawful : cipher.Lawful) (obliging : fair → Obliging outside)
    (fits : fair → ∀ packet ∈ writer.pendingData, Fits config packet)
    (ended : writer.mmsgData = []) :
    Meets fair (flushQueuedData cipher outside) writer fun _ after =>
      ∃ shipments, Ships cipher config writer.writeState writer.pendingData shipments ∧
        Flushed writer after shipments := by
  refine meets_get_bind ?_
  split
  · rename_i packet alone
    rw [alone] at fits ⊢
    refine meets_modify_bind ((preparePacket_meets lawful packet fun all =>
      fits all packet List.mem_cons_self).bind fun prepared ready prepares => ?_)
    obtain ⟨wrapped, chosen, room, sends⟩ := prepares
    refine (sendWithDuplicate_meets obliging prepared.1 room prepared.2).mono
      fun _ after ⟨shipment, carries, copied, later⟩ => ?_
    refine ⟨[shipment], .cons wrapped carries (fun twice => chosen (copied twice)) (.nil _), ?_,
      ?_, ?_⟩
    · rw [List.flatMap_singleton]
      exact (sends.trans later).wire
    · exact later.pendingData.trans sends.pendingData
    · exact (later.mmsgData.trans sends.mmsgData).trans ended
  · have rooms : fair → ∀ packet ∈ writer.mmsgData, Encodable packet := by
      intro _ packet member
      rw [ended] at member
      cases member
    refine (flushLoop_meets lawful obliging writer.pendingData rfl fits rooms).mono
      fun _ after ⟨earlier, shipments, nothing, ships, flushed⟩ => ?_
    rw [ended] at nothing
    cases nothing
    exact ⟨shipments, ships, flushed⟩

/-- Between two turns of its loop, a writer has nothing to send. -/
structure TransportWriter.Idle (writer : TransportWriter) : Prop where
  /-- The queue is empty. -/
  pendingData : writer.pendingData = []
  /-- The batch is empty. -/
  mmsgData : writer.mmsgData = []

section Commands

variable (cipher outside)

theorem ask_keeps : Keeps TransportWriter.Idle (ask outside) :=
  keeps_get.bind fun _ =>
    (keeps_modify fun _ idle => ⟨idle.pendingData, idle.mmsgData⟩).bind fun _ => keeps_pure _

theorem openChannel_keeps : Keeps TransportWriter.Idle (openChannel outside) := by
  refine (ask_keeps outside).bind fun input => ?_
  split
  · exact keeps_throw _
  · split
    · exact keeps_throw _
    · exact keeps_pure _

theorem writeData_keeps (packet : PacketBuf) :
    Keeps TransportWriter.Idle (writeData outside packet) := by
  refine (ask_keeps outside).bind fun input =>
    (keeps_modify fun _ idle => ⟨idle.pendingData, idle.mmsgData⟩).bind fun _ =>
      keeps_get.bind fun writer => ?_
  split
  · exact keeps_throw _
  · split
    · exact keeps_modify fun _ idle => ⟨idle.pendingData, idle.mmsgData⟩
    · exact keeps_throw _

theorem sendWithDuplicate_keeps (packet : PacketBuf) (duplicate : Bool) :
    Keeps TransportWriter.Idle (sendWithDuplicate outside packet duplicate) := by
  refine (openChannel_keeps outside).bind fun channel => (keeps_fallible _).bind fun out =>
    keeps_get.bind fun writer => ?_
  split
  · exact (ask_keeps outside).bind fun input => (keeps_fallible _).bind fun _ =>
      keeps_modify fun _ idle => ⟨idle.pendingData, idle.mmsgData⟩
  · exact writeData_keeps outside out

theorem preparePacket_keeps (packet : PacketBuf) :
    Keeps TransportWriter.Idle (preparePacket cipher outside packet) := by
  have decides (now : Nat) : Keeps TransportWriter.Idle (decideDuplicate packet now) := by
    unfold decideDuplicate
    split
    · exact keeps_get.bind fun _ =>
        (keeps_modify fun _ idle => ⟨idle.pendingData, idle.mmsgData⟩).bind fun _ => keeps_pure _
    · exact keeps_pure _
  exact (ask_keeps outside).bind fun input => (decides input.now).bind fun duplicate =>
    keeps_get.bind fun writer =>
      (keeps_modify fun _ idle => ⟨idle.pendingData, idle.mmsgData⟩).bind fun _ =>
        (keeps_fallible _).bind fun _ => keeps_pure _

/-- A command does not touch the queue and the batch, whether it fails or not. -/
theorem sendBytes_keeps (acquired : Option PacketBuf) (data : List UInt8) :
    Keeps TransportWriter.Idle (sendBytes cipher outside acquired data) := by
  unfold sendBytes
  split
  · exact keeps_throw _
  · split
    · exact keeps_throw _
    · refine (keeps_fallible _).bind fun _ => (keeps_fallible _).bind fun packet => ?_
      exact (preparePacket_keeps cipher outside packet).bind fun prepared =>
        sendWithDuplicate_keeps outside prepared.1 prepared.2

end Commands

/-- Packets of a batch join the queue. -/
theorem batchLoop_meets (batch : StripedScheduler.PacketClass) (sent : Nat)
    (arrivals : List Arrival) :
    Meets fair (batchLoop batch sent arrivals) writer fun _ after =>
      after.mmsgData = writer.mmsgData := by
  induction arrivals generalizing sent writer with
  | nil => exact meets_pure rfl
  | cons arrival arrivals ih =>
    rw [batchLoop]
    split
    · split
      · exact meets_pure rfl
      · refine meets_modify_bind ((ih (sent + 1)).mono fun _ after same => ?_)
        exact same
    · exact meets_pure rfl

/-- A turn of the loop that does not fail leaves nothing to send. -/
theorem writerTurn_idle (lawful : cipher.Lawful) (turn : WriterTurn) (idle : writer.Idle) :
    Meets False (writerTurn cipher outside turn) writer fun _ after => after.Idle := by
  cases turn with
  | command acquired data =>
    refine ⟨fun _ after ended => ?_, False.elim⟩
    have kept := sendBytes_keeps cipher outside acquired data writer idle
    rw [writerTurn, handleWriterCommand, from_tryCatch] at ended
    cases ran : (sendBytes cipher outside acquired data).from writer with
    | mk outcome between =>
      rw [ran] at ended kept
      cases outcome with
      | ok result =>
        cases ended
        exact kept
      | error halt =>
        cases halt with
        | failed reason =>
          cases ended
          exact kept
        | pending => cases ended
  | batch batch first arrivals =>
    have sent : Meets False (sendWriterBatch cipher outside batch first arrivals) writer
        fun _ after => after.Idle := by
      refine meets_modify_bind ((batchLoop_meets batch 1 arrivals).bind fun sent queued same => ?_)
      have ended : queued.mmsgData = [] := same.trans idle.mmsgData
      refine (flushQueuedData_meets lawful False.elim False.elim ended).bind
        fun _ after ⟨_, _, flushed⟩ => ?_
      exact meets_pure ⟨flushed.pendingData, flushed.mmsgData⟩
    exact sent.bind fun _ after later => meets_pure later

/-- A writer whose loop has not failed has nothing to send between two turns. -/
theorem writerLoop_idle (lawful : cipher.Lawful) {state : ObfsState} {now : Nat}
    {outbound : TurnOutbound} {turns : List WriterTurn}
    (reached : (writerLoop cipher outside turns).from (.new state now outbound) =
      (.ok (), writer)) : writer.Idle := by
  have loop : Meets False (writerLoop cipher outside turns) (.new state now outbound)
      fun _ after => after.Idle :=
    meets_forM (fun _ (after : TransportWriter) => after.Idle) turns
      (fun _ turn _ before _ idle => writerTurn_idle lawful turn idle) ⟨rfl, rfl⟩
  exact loop.sound () writer reached

/-- Queueing packets does nothing else. -/
theorem queueData_queues (packets : List PacketBuf) (writer : TransportWriter) :
    (packets.forM queueData).from writer =
      (.ok (), { writer with pendingData := writer.pendingData ++ packets }) := by
  induction packets generalizing writer with
  | nil =>
    rw [List.append_nil]
    rfl
  | cons packet rest ih =>
    change (queueData packet >>= fun _ => rest.forM queueData).from writer = _
    rw [from_bind]
    have first : (queueData packet).from writer =
        (.ok (), { writer with pendingData := writer.pendingData ++ [packet] }) := rfl
    rw [first]
    dsimp only
    rw [ih]
    simp only [List.append_assoc, List.singleton_append]

/-- Whatever the writer has done before, whichever packets are in its queue, and whatever happens
outside: when a flush ends without a failure, it has put every packet on the wire once, in the order
of the queue and with consecutive sequence numbers, with at most a copy right after a packet that is
to be sent twice, and the queue and the batch are empty. It does end so when the packets fit and
nothing fails outside. -/
theorem flush_in_order (lawful : cipher.Lawful) (outside : Nat → Input config) (state : ObfsState)
    (now : Nat) (outbound : TurnOutbound) (turns : List WriterTurn) (writer : TransportWriter)
    (reached : (writerLoop cipher outside turns).from (.new state now outbound) = (.ok (), writer))
    (packets : List PacketBuf) :
    let queued := ((packets.forM queueData).from writer).2
    (∀ after, (flushQueuedData cipher outside).from queued = (.ok (), after) →
      after.pendingData = [] ∧ after.mmsgData = [] ∧
        ∃ shipments, Ships cipher config writer.writeState packets shipments ∧
          after.wire = writer.wire ++ shipments.flatMap Shipment.datagrams ∧
          ∀ index shipment, shipments[index]? = some shipment →
            rtpSequenceOf shipment.datagram =
              rtpSequence writer.writeState (writer.writeState.count + UInt64.ofNat index)) ∧
      (Obliging outside → (∀ packet ∈ packets, Fits config packet) →
        ∃ after, (flushQueuedData cipher outside).from queued = (.ok (), after)) := by
  intro queued
  have idle := writerLoop_idle lawful reached
  have same : queued = { writer with pendingData := packets } := by
    have queues := queueData_queues packets writer
    rw [idle.pendingData, List.nil_append] at queues
    exact congrArg Prod.snd queues
  have pending : queued.pendingData = packets := by rw [same]
  have batch : queued.mmsgData = [] := by
    rw [same]
    exact idle.mmsgData
  have counters : queued.writeState = writer.writeState := by rw [same]
  have wire : queued.wire = writer.wire := by
    rw [same]
    rfl
  have flush : Meets (Obliging outside ∧ ∀ packet ∈ packets, Fits config packet)
      (flushQueuedData cipher outside) queued fun _ after =>
        ∃ shipments, Ships cipher config queued.writeState queued.pendingData shipments ∧
          Flushed queued after shipments :=
    flushQueuedData_meets lawful And.left (fun all => pending ▸ all.2) batch
  rw [pending, counters] at flush
  constructor
  · intro after ended
    obtain ⟨shipments, ships, flushed⟩ := flush.sound () after ended
    exact ⟨flushed.pendingData, flushed.mmsgData, shipments, ships, wire ▸ flushed.wire,
      fun index shipment there => ships.numbers index there⟩
  · intro obliging fits
    obtain ⟨result, after, ended⟩ := flush.total ⟨obliging, fits⟩
    exact ⟨after, ended⟩

/-- A socket that takes whole batches, and a stream whose task writes all it has. -/
def steady : Input (.new .video 0x10203040) where
  now := 0
  elapsed := .zero
  draws := .least _
  refusal := none
  channel := 0x4000
  send := .ok ()
  copied := true
  attempts := fun datagrams => [⟨.ok (), true, .ok datagrams.length, fun _ => .error .wouldBlock⟩]
  turns := fun data => List.replicate data.length .data
  dataClosed := false

/-- A control message between two packets that are no IP packets. -/
def steadyPackets : List PacketBuf :=
  [.holding [1] packetHeadroom (by decide), getconfPacket, .holding [2] packetHeadroom (by decide)]

/-- Nothing fails there. -/
theorem obliging_steady : Obliging fun _ => steady where
  opened _ := rfl
  bound _ := ⟨by decide, by decide⟩
  sent _ := rfl
  batched := by
    intro _ datagrams short
    exact sendConnected_once short rfl rfl rfl
  streaming _ := rfl
  roomy := by
    intro _ writer
    have drained (count : Nat) (writer : TurnStreamWriter) (few : writer.data.length ≤ count) :
        ((List.replicate count StreamTurn.data).foldl TurnStreamWriter.turn writer).data = [] := by
      induction count generalizing writer with
      | zero => exact List.length_eq_zero_iff.mp (Nat.le_zero.mp few)
      | succ count ih =>
        rw [List.replicate_succ, List.foldl_cons]
        refine ih _ ?_
        cases queue : writer.data with
        | nil => simp [TurnStreamWriter.turn, queue]
        | cons packet data =>
          rw [queue, List.length_cons] at few
          simp only [TurnStreamWriter.turn, queue]
          omega
    have none := drained writer.data.length writer (Nat.le_refl _)
    change ((List.replicate writer.data.length StreamTurn.data).foldl TurnStreamWriter.turn
      writer).data.length < dataQueueCapacity
    rw [none]
    decide

/-- The three packets fit. -/
theorem steadyPackets_fit : ∀ packet ∈ steadyPackets, Fits (.new .video 0x10203040) packet := by
  intro packet member
  simp only [steadyPackets, List.mem_cons, List.not_mem_nil, or_false] at member
  rcases member with rfl | rfl | rfl
  · exact ⟨by decide +kernel, by decide, by decide⟩
  · exact ⟨by decide +kernel, by decide, by decide⟩
  · exact ⟨by decide +kernel, by decide, by decide⟩

/-- All three are sent, the control message twice. -/
theorem steadyPackets_flushed :
    let queued := ((steadyPackets.forM queueData).from (.new getconfState 0 .udp)).2
    ∃ after, (flushQueuedData (recorded []) fun _ => steady).from queued = (.ok (), after) ∧
      after.wire.map rtpSequenceOf = [0x7788, 0x7789, 0x7789, 0x778a] ∧
      ∃ shipments, Ships (recorded []) (.new .video 0x10203040) getconfState steadyPackets
          shipments ∧ after.wire = shipments.flatMap Shipment.datagrams := by
  have lawful : (recorded []).Lawful := recorded_lawful [] (by decide) (by decide)
  obtain ⟨sound, total⟩ := flush_in_order lawful (fun _ => steady) getconfState 0 .udp [] _ rfl
    steadyPackets
  obtain ⟨after, ended⟩ := total obliging_steady steadyPackets_fit
  obtain ⟨_, _, shipments, ships, wire, _⟩ := sound after ended
  refine ⟨after, ended, ?_, shipments, ships, wire⟩
  have evaluated : ((flushQueuedData (recorded []) fun _ => steady).from
      ((steadyPackets.forM queueData).from (.new getconfState 0 .udp)).2).2.wire.map
        rtpSequenceOf = [0x7788, 0x7789, 0x7789, 0x778a] := by
    decide +kernel
  rw [ended] at evaluated
  exact evaluated

end Focsq.Session
