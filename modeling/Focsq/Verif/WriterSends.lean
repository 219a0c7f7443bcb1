import Focsq.Backend.TransportWriter
import Focsq.Verif.ChannelData
import Focsq.Verif.UdpBatch

/-!
# What the allocation of a writer sends

A socket and a stream are alike in that what they take comes after all they have taken before. A
packet that is given to the allocation, and a batch of them, come to the wire as messages of its
channel in their order; only a single packet on a socket is followed by a copy.
-/

namespace Focsq.Session

open Effects Obfs Packet SelectiveFec Turn UdpBatch

/-- The packet of a piece of the stream. -/
def TurnStreamOutbound.packet? : TurnStreamOutbound → Option PacketBuf
  | .control _ => none
  | .data packet => some packet

/-- All packets that were given to a stream, in the order in which its task writes them. -/
def TurnStreamWriter.packets (writer : TurnStreamWriter) : List PacketBuf :=
  writer.written.filterMap TurnStreamOutbound.packet? ++ writer.data

/-- The task of a stream writes the packets in their order. -/
theorem TurnStreamWriter.turns_packets (writer : TurnStreamWriter) (turns : List StreamTurn) :
    (turns.foldl TurnStreamWriter.turn writer).packets = writer.packets := by
  induction turns generalizing writer with
  | nil => rfl
  | cons turn turns ih =>
    rw [List.foldl_cons, ih]
    cases turn with
    | control wire =>
      simp [TurnStreamWriter.turn, TurnStreamWriter.packets, TurnStreamOutbound.packet?]
    | data =>
      cases queue : writer.data with
      | nil => simp [TurnStreamWriter.turn, queue]
      | cons packet data =>
        simp [TurnStreamWriter.turn, TurnStreamWriter.packets, TurnStreamOutbound.packet?, queue]

/-- What the allocation has given to the wire. -/
def TransportWriter.wire (writer : TransportWriter) : List Datagram :=
  match writer.outbound with
  | .udp => writer.socket
  | .stream => writer.stream.packets.map PacketBuf.asSlice

/-- A part of the writer that only sends. -/
structure Sends (before after : TransportWriter) (datagrams : List Datagram) : Prop where
  /-- The datagrams come after all others. -/
  wire : after.wire = before.wire ++ datagrams
  /-- The transport stays the same. -/
  outbound : after.outbound = before.outbound
  /-- The counters stay as they are. -/
  writeState : after.writeState = before.writeState
  /-- So do the packets to be sent. -/
  pendingData : after.pendingData = before.pendingData
  /-- So does the batch. -/
  mmsgData : after.mmsgData = before.mmsgData

/-- One after the other. -/
theorem Sends.trans {before between after : TransportWriter} {some more : List Datagram}
    (first : Sends before between some) (second : Sends between after more) :
    Sends before after (some ++ more) where
  wire := by rw [second.wire, first.wire, List.append_assoc]
  outbound := second.outbound.trans first.outbound
  writeState := second.writeState.trans first.writeState
  pendingData := second.pendingData.trans first.pendingData
  mmsgData := second.mmsgData.trans first.mmsgData

/-- Nothing is sent. -/
theorem Sends.refl (writer : TransportWriter) : Sends writer writer [] where
  wire := (List.append_nil _).symm
  outbound := rfl
  writeState := rfl
  pendingData := rfl
  mmsgData := rfl

/-- The batch does not matter. -/
theorem Sends.withBatch {before after : TransportWriter} {datagrams : List Datagram}
    (sends : Sends before after datagrams) (mmsgData : List PacketBuf) :
    Sends { before with mmsgData } { after with mmsgData } datagrams where
  wire := sends.wire
  outbound := sends.outbound
  writeState := sends.writeState
  pendingData := sends.pendingData
  mmsgData := rfl

/-- What the socket takes is on the wire. -/
theorem Sends.socket {before asked : TransportWriter} (sends : Sends before asked [])
    (udp : before.outbound = .udp) (datagrams : List Datagram) :
    Sends before { asked with socket := asked.socket ++ datagrams } datagrams := by
  have through : asked.outbound = .udp := sends.outbound.trans udp
  have same := sends.wire
  rw [TransportWriter.wire, through, TransportWriter.wire, udp, List.append_nil] at same
  dsimp only at same
  refine ⟨?_, sends.outbound, sends.writeState, sends.pendingData, sends.mmsgData⟩
  rw [TransportWriter.wire, TransportWriter.wire, udp]
  dsimp only
  rw [through, ← same]

/-- Nothing fails outside, and what has to happen there does. -/
structure Obliging {config : ObfsConfig} (outside : Nat → Input config) : Prop where
  /-- The allocation is open. -/
  opened : ∀ time, (outside time).refusal = none
  /-- It has a channel. -/
  bound : ∀ time, IsChannel (outside time).channel
  /-- The socket sends single datagrams. -/
  sent : ∀ time, (outside time).send = .ok ()
  /-- It sends batches. -/
  batched : ∀ time datagrams, datagrams.length ≤ maxDatagrams →
    (sendConnected ((outside time).attempts datagrams) datagrams).1 = .ok ()
  /-- The task of the stream has not ended. -/
  streaming : ∀ time, (outside time).dataClosed = false
  /-- It makes room in its queue. -/
  roomy : ∀ time (writer : TurnStreamWriter),
    (((outside time).turns writer.data).foldl TurnStreamWriter.turn writer).data.length <
      dataQueueCapacity

variable {cipher : ObfsCipher} {config : ObfsConfig} {outside : Nat → Input config} {fair : Prop}
  {writer : TransportWriter}

/-- A question to the outside. -/
theorem ask_meets :
    Meets fair (ask outside) writer fun input after =>
      input = outside writer.asked ∧ Sends writer after [] := by
  refine meets_get_bind (meets_modify_bind (meets_pure ⟨rfl, ?_⟩))
  exact ⟨(List.append_nil _).symm, rfl, rfl, rfl, rfl⟩

/-- What is sent is the datagram, and a copy right after it at most. -/
structure Shipment where
  /-- The datagram. -/
  datagram : Datagram
  /-- Whether a copy follows. -/
  copied : Bool
  deriving DecidableEq

/-- The datagrams of a shipment. -/
def Shipment.datagrams (shipment : Shipment) : List Datagram :=
  shipment.datagram :: if shipment.copied then [shipment.datagram] else []

/-- An obfuscated packet as data of a channel. -/
def Shipment.Carries (shipment : Shipment) (packet : PacketBuf) : Prop :=
  ∃ channel, IsChannel channel ∧ shipment.datagram = channelWire channel packet.asSlice

/-- The allocation is open and has a channel, or nothing is sent. -/
theorem openChannel_meets (obliging : fair → Obliging outside) :
    Meets fair (openChannel outside) writer fun channel after =>
      (fair → IsChannel channel) ∧ Sends writer after [] := by
  refine ask_meets.bind fun input after ⟨is, sends⟩ => ?_
  subst is
  cases refused : (outside writer.asked).refusal with
  | some reason =>
    refine meets_throw fun all => ?_
    have never := (obliging all).opened writer.asked
    rw [refused] at never
    cases never
  | none =>
    dsimp only
    split
    · rename_i none
      refine meets_throw fun all => ?_
      have bound := (obliging all).bound writer.asked
      rw [none] at bound
      exact absurd bound.1 (by decide)
    · exact meets_pure ⟨fun all => (obliging all).bound writer.asked, sends⟩

/-- A part that succeeds when all is fair comes before the rest. -/
theorem of_bind {α β : Type} {result : Except Failure α} {next : α → Sending β}
    {post : β → TransportWriter → Prop}
    (rest : ∀ value, result = .ok value → Meets fair (next value) writer post)
    (total : fair → ∃ value, result = .ok value) :
    Meets fair (Sending.of result >>= next) writer post := by
  refine meets_fallible_bind (fun value mapped => ?_) fun all => ?_
  · cases result with
    | ok found => exact rest value (congrArg _ (Except.ok.inj mapped))
    | error failure => cases mapped
  · obtain ⟨value, same⟩ := total all
    rw [same]
    exact ⟨value, rfl⟩

/-- An answer of the system that is right when all is fair. -/
theorem context_meets {result : Except (Halt IoError) Unit} {message : String}
    {post : Unit → TransportWriter → Prop} (holds : result = .ok () → post () writer)
    (total : fair → result = .ok ()) :
    Meets fair (Sending.context result message) writer post := by
  refine meets_fallible (fun value mapped => ?_) fun all => ?_
  · cases result with
    | ok found => exact holds rfl
    | error halt => cases mapped
  · rw [total all]
    exact ⟨(), rfl⟩

/-- The socket sends a datagram, and a copy of it if asked to. -/
theorem sendDatagram_meets (obliging : fair → Obliging outside) (udp : writer.outbound = .udp)
    (datagram : Datagram) (duplicate : Bool) :
    Meets fair (sendDatagram outside datagram duplicate) writer fun _ after =>
      ∃ copied, (copied = true → duplicate = true) ∧
        Sends writer after (Shipment.datagrams ⟨datagram, copied⟩) := by
  refine ask_meets.bind fun input asked ⟨is, sends⟩ => ?_
  subst is
  have sent : Meets fair (Sending.context (outside writer.asked).send "TURN UDP send") asked
      fun _ ready => Sends writer ready [] :=
    context_meets (fun _ => sends) fun all => (obliging all).sent writer.asked
  refine sent.bind fun _ ready sends => ?_
  refine meets_modify ⟨duplicate && (outside writer.asked).copied, ?_, ?_⟩
  · intro copied
    exact (Bool.and_eq_true _ _ ▸ copied).1
  · exact sends.socket udp _

/-- The stream takes a packet when it has room for it. -/
theorem writeData_meets (obliging : fair → Obliging outside) (streams : writer.outbound = .stream)
    (packet : PacketBuf) :
    Meets fair (writeData outside packet) writer fun _ after =>
      Sends writer after [packet.asSlice] := by
  refine ask_meets.bind fun input asked ⟨is, sends⟩ => ?_
  subst is
  refine meets_modify_bind (meets_get_bind ?_)
  dsimp only
  split
  · rename_i closed
    refine meets_throw fun all => ?_
    rw [(obliging all).streaming writer.asked] at closed
    cases closed
  · split
    · refine meets_modify ⟨?_, sends.outbound, sends.writeState, sends.pendingData,
        sends.mmsgData⟩
      have through : asked.outbound = .stream := sends.outbound.trans streams
      have same := sends.wire
      have turned := asked.stream.turns_packets ((outside writer.asked).turns asked.stream.data)
      rw [TransportWriter.wire, through, TransportWriter.wire, streams, List.append_nil] at same
      rw [TransportWriter.wire, TransportWriter.wire, streams]
      dsimp only
      rw [through]
      dsimp only at same ⊢
      rw [← same, ← turned, TurnStreamWriter.packets, TurnStreamWriter.packets,
        ← List.append_assoc, List.map_append]
      rfl
    · rename_i full
      exact meets_throw fun all => full ((obliging all).roomy writer.asked asked.stream)

/-- Either transport takes a packet; only a socket sends a copy. -/
theorem sendWithDuplicate_meets (obliging : fair → Obliging outside) (packet : PacketBuf)
    (room : fair → Encodable packet) (duplicate : Bool) :
    Meets fair (sendWithDuplicate outside packet duplicate) writer fun _ after =>
      ∃ shipment : Shipment, shipment.Carries packet ∧
        (shipment.copied = true → duplicate = true) ∧ Sends writer after shipment.datagrams := by
  refine (openChannel_meets obliging).bind fun channel opened ⟨bound, sends⟩ => ?_
  refine of_bind (fun out encoded => ?_) fun all => encodeChannelData_total (bound all) (room all)
  obtain ⟨valid, bytes⟩ := encodeChannelData_ok encoded
  refine meets_get_bind ?_
  cases through : opened.outbound with
  | udp =>
    refine (sendDatagram_meets obliging through out.asSlice duplicate).mono ?_
    rintro _ after ⟨copied, asked, later⟩
    exact ⟨⟨out.asSlice, copied⟩, ⟨channel, valid, bytes⟩, asked, sends.trans later⟩
  | stream =>
    refine (writeData_meets obliging through out).mono ?_
    intro _ after later
    refine ⟨⟨out.asSlice, false⟩, ⟨channel, valid, bytes⟩, ?_, sends.trans later⟩
    intro never
    cases never

/-- The socket sends a chunk of a batch. -/
theorem sendChunk_meets (obliging : fair → Obliging outside) (udp : writer.outbound = .udp)
    (datagrams : List Datagram) (short : datagrams.length ≤ maxDatagrams) :
    Meets fair (sendChunk outside datagrams) writer fun _ after =>
      Sends writer after datagrams := by
  refine ask_meets.bind fun input asked ⟨is, sends⟩ => ?_
  subst is
  have serves := fun all => (obliging all).batched writer.asked datagrams short
  cases batch : sendConnected ((outside writer.asked).attempts datagrams) datagrams with
  | mk result wire =>
    rw [batch] at serves
    refine meets_modify_bind (context_meets (fun sent => ?_) serves)
    have whole : wire = datagrams := by
      have fully : (sendConnected ((outside writer.asked).attempts datagrams) datagrams).1 =
          .ok () := by
        rw [batch]
        exact sent
      have same := sendConnected_sends fully
      rwa [batch] at same
    rw [whole]
    exact sends.socket udp datagrams

/-- The socket sends all chunks. -/
theorem sendChunks_meets (obliging : fair → Obliging outside) (udp : writer.outbound = .udp)
    (datagrams : List Datagram) :
    Meets fair ((Vec.chunks maxDatagrams datagrams).forM (sendChunk outside)) writer
      fun _ after => Sends writer after datagrams := by
  have loop : Meets fair ((Vec.chunks maxDatagrams datagrams).forM (sendChunk outside)) writer
      fun _ after => Sends writer after (Vec.chunks maxDatagrams datagrams).flatten := by
    refine meets_forM (fun done after => Sends writer after done.flatten) _ ?_ ?_
    · intro done chunk rest before whole sends
      have member : chunk ∈ Vec.chunks maxDatagrams datagrams := by
        rw [whole]
        exact List.mem_append_right _ List.mem_cons_self
      refine (sendChunk_meets obliging (sends.outbound.trans udp) chunk
        (Vec.length_of_mem_chunks member)).mono fun _ after later => ?_
      rw [List.flatten_append, List.flatten_singleton]
      exact sends.trans later
    · exact .refl writer
  rwa [Vec.flatten_chunks maxDatagrams (by decide) datagrams] at loop

/-- A stream takes one packet after the other. -/
theorem writeAll_meets (obliging : fair → Obliging outside) (streams : writer.outbound = .stream)
    (packets : List PacketBuf) :
    Meets fair (packets.forM (writeData outside)) writer fun _ after =>
      Sends writer after (packets.map PacketBuf.asSlice) := by
  refine meets_forM (fun done after => Sends writer after (done.map PacketBuf.asSlice)) _ ?_ ?_
  · intro done packet rest before whole sends
    refine (writeData_meets obliging (sends.outbound.trans streams) packet).mono
      fun _ after later => ?_
    rw [List.map_append]
    exact sends.trans later
  · exact .refl writer

/-- Encoded packets are sent in their order, in chunks or one by one. -/
theorem sendEncoded_meets (obliging : fair → Obliging outside) (packets : List PacketBuf) :
    Meets fair (sendEncoded outside packets) writer fun _ after =>
      ∃ mmsgData, Sends { writer with mmsgData } after (packets.map PacketBuf.asSlice) := by
  refine meets_modify_bind ?_
  generalize encoded : ({ writer with mmsgData := packets } : TransportWriter) = before
  refine meets_get_bind ?_
  cases through : before.outbound with
  | udp =>
    refine (sendChunks_meets obliging through _).mono fun _ after sends => ⟨packets, ?_⟩
    rw [encoded]
    exact sends
  | stream =>
    refine meets_modify_bind ((writeAll_meets obliging ?_ packets).mono
      fun _ after sends => ⟨[], ?_⟩)
    · exact through
    · rw [← encoded] at sends
      exact sends

/-- Obfuscated packets are sent, one shipment for each; only some may be sent twice. -/
def Sent (batch : List (PacketBuf × Bool)) (shipments : List Shipment) : Prop :=
  List.Forall₂ (fun entry shipment => shipment.Carries entry.1 ∧
    (shipment.copied = true → entry.2 = true)) batch shipments

/-- Packets of a batch are sent once. -/
def plain (packets : List PacketBuf) : List (PacketBuf × Bool) :=
  packets.map fun packet => (packet, false)

/-- The last packet of a batch has the last shipment. -/
theorem Sent.concat {batch : List (PacketBuf × Bool)} {entry : PacketBuf × Bool}
    {shipments : List Shipment} (sent : Sent (batch ++ [entry]) shipments) :
    ∃ front shipment, shipments = front ++ [shipment] ∧ Sent batch front ∧
      shipment.Carries entry.1 ∧ (shipment.copied = true → entry.2 = true) := by
  induction batch generalizing shipments with
  | nil =>
    cases sent with
    | cons last none =>
      cases none
      exact ⟨[], _, rfl, .nil, last⟩
  | cons first rest ih =>
    cases sent with
    | @cons _ shipment _ others one more =>
      obtain ⟨front, last, is, sent, holds⟩ := ih more
      exact ⟨shipment :: front, last, by rw [is]; rfl, .cons one sent, holds⟩

/-- Messages of a channel are shipments, one for each packet. -/
theorem sent_encoded {channel : UInt16} {packets encoded : List PacketBuf}
    (each : List.Forall₂ (fun packet out => encodeChannelData packet channel = .ok out)
      packets encoded) :
    ∃ shipments, Sent (plain packets) shipments ∧
      shipments.flatMap Shipment.datagrams = encoded.map PacketBuf.asSlice := by
  induction each with
  | nil => exact ⟨[], .nil, rfl⟩
  | @cons packet out packets encoded first rest ih =>
    obtain ⟨shipments, once, wire⟩ := ih
    obtain ⟨valid, bytes⟩ := encodeChannelData_ok first
    refine ⟨⟨out.asSlice, false⟩ :: shipments, .cons ⟨⟨channel, valid, bytes⟩, id⟩ once, ?_⟩
    rw [List.flatMap_cons, wire, List.map_cons]
    rfl

/-- The batch is sent in its order. -/
theorem sendDataBatch_meets (obliging : fair → Obliging outside)
    (room : fair → ∀ packet ∈ writer.mmsgData, Encodable packet) :
    Meets fair (sendDataBatch outside) writer fun _ after =>
      ∃ shipments mmsgData, Sent (plain writer.mmsgData) shipments ∧
        Sends { writer with mmsgData } after (shipments.flatMap Shipment.datagrams) := by
  refine meets_get_bind ?_
  split
  · rename_i empty
    have none := List.isEmpty_iff.mp empty
    refine meets_pure ⟨[], [], ?_, ?_⟩
    · rw [none]
      exact .nil
    · exact ⟨(List.append_nil _).symm, rfl, rfl, rfl, none⟩
  · refine (openChannel_meets obliging).bind fun channel opened ⟨bound, sends⟩ => ?_
    refine of_bind (fun _ _ => ?_) fun all => mapM_total fun packet member =>
      channelDataPadding_total (bound all) (room all packet member)
    refine of_bind (fun encoded mapped => ?_) fun all => mapM_total fun packet member =>
      encodeChannelData_total (bound all) (room all packet member)
    obtain ⟨shipments, once, wire⟩ := sent_encoded (forall₂_of_mapM mapped)
    refine (sendEncoded_meets obliging encoded).mono fun _ after ⟨mmsgData, later⟩ => ?_
    refine ⟨shipments, mmsgData, once, ?_⟩
    rw [wire]
    exact (sends.withBatch mmsgData).trans later

/-- The batch is sent in its order, and empty then. -/
theorem flushMmsgData_meets (obliging : fair → Obliging outside)
    (room : fair → ∀ packet ∈ writer.mmsgData, Encodable packet) :
    Meets fair (flushMmsgData outside) writer fun _ after =>
      ∃ shipments, Sent (plain writer.mmsgData) shipments ∧
        Sends { writer with mmsgData := [] } after (shipments.flatMap Shipment.datagrams) := by
  refine meets_get_bind ?_
  split
  · rename_i empty
    have none := List.isEmpty_iff.mp empty
    refine meets_pure ⟨[], ?_, ?_⟩
    · rw [none]
      exact .nil
    · exact ⟨(List.append_nil _).symm, rfl, rfl, rfl, none⟩
  · refine (sendDataBatch_meets obliging room).bind fun _ after holds => ?_
    obtain ⟨shipments, mmsgData, once, sends⟩ := holds
    exact meets_modify ⟨shipments, once, sends.withBatch []⟩

end Focsq.Session
