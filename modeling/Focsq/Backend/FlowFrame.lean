import Mathlib.Data.Nat.Bits
import Focsq.Backend.FlowReassembler
import Focsq.Backend.Packet

/-!
# Frames of striped flows

Before a TCP packet is sent over one of the TURN paths, `FlowSequencer` of `shared/flow_frame.rs`
gives it a place in its flow, and a 24-byte frame header with that place is prepended. Other
packets travel without a frame, and `payload` on the other side takes both apart.
-/

namespace Focsq.FlowFrame

/-- `FRAME_LEN` — length of a frame header. -/
def frameLen : Nat := 24

/-- `FRAME_MAGIC` — the letters `CQF1`. -/
def frameMagic : List UInt8 := [0x43, 0x51, 0x46, 0x31]

/-- What `FrameHeader::encode` writes over the 24 bytes it is given. -/
def FrameHeader.encode (header : FrameHeader) : List UInt8 :=
  frameMagic ++ Bytes.be 8 header.senderId.toNat ++ Bytes.be 8 header.flowId.toNat ++
    Bytes.be 4 header.sequence.toNat

/-- `FrameHeader::decode` — the header of a frame and what it frames. -/
def FrameHeader.decode (packet : List UInt8) : Option (FrameHeader × List UInt8) :=
  if packet.length < frameLen || Bytes.slice packet 0 4 != frameMagic then none
  else
    some
      ({ senderId := UInt64.ofNat (Bytes.fromBe (Bytes.slice packet 4 12))
         flowId := UInt64.ofNat (Bytes.fromBe (Bytes.slice packet 12 20))
         sequence := UInt32.ofNat (Bytes.fromBe (Bytes.slice packet 20 24)) },
        packet.drop frameLen)

/-- `payload` — what a frame frames, or the packet itself when it is not framed. -/
def payload (packet : List UInt8) : List UInt8 :=
  match FrameHeader.decode packet with
  | some (_, payload) => payload
  | none => packet

/-- `hash_bytes` — FNV-1a over some bytes. -/
def hashBytes (hash : UInt64) (bytes : List UInt8) : UInt64 :=
  bytes.foldl (fun hash byte => (hash ^^^ byte.toUInt64) * 0x1000000001b3) hash

/-- `mix64` — the finaliser of SplitMix64. -/
def mix64 (value : UInt64) : UInt64 :=
  let value := value ^^^ (value >>> 30)
  let value := value * 0xbf58476d1ce4e5b9
  let value := value ^^^ (value >>> 27)
  let value := value * 0x94d049bb133111eb
  value ^^^ (value >>> 31)

/-- The first part of `tcp_flow_id`: length of the IP header, protocol and addresses. -/
def ipFields (packet : List UInt8) : Option (Nat × UInt8 × List UInt8 × List UInt8) :=
  match packet.head? with
  | none => none
  | some first =>
    if first >>> 4 = 4 then
      if packet.length < 20 then none
      else
        let headerLen := (first &&& 0x0f).toNat * 4
        if headerLen < 20 || decide (packet.length < headerLen + 20) then none
        else
          some (headerLen, packet[9]?.getD 0, Bytes.slice packet 12 16, Bytes.slice packet 16 20)
    else if first >>> 4 = 6 then
      if packet.length < 60 then none
      else some (40, packet[6]?.getD 0, Bytes.slice packet 8 24, Bytes.slice packet 24 40)
    else none

/-- `tcp_flow_id` — hash of the addresses and ports of a TCP packet that carries data, or opens
or closes its connection. -/
def tcpFlowId (packet : List UInt8) : Option UInt64 :=
  match ipFields packet with
  | none => none
  | some (headerLen, protocol, source, destination) =>
    if protocol != 6 then none
    else
      let tcp := packet.drop headerLen
      let dataOffset := (tcp[12]?.getD 0 >>> 4).toNat * 4
      if dataOffset < 20 || decide (tcp.length < dataOffset) then none
      else
        let flags := tcp[13]?.getD 0
        if tcp.length == dataOffset && flags &&& 0x03 == 0 then none
        else
          let hash := hashBytes 0xcbf29ce484222325 [protocol]
          let hash := hashBytes hash source
          let hash := hashBytes hash destination
          some (mix64 (hashBytes hash (tcp.take 4)))

/-- `FlowSequencer` — the sending side: the next place in each of its flows. -/
structure FlowSequencer where
  /-- Incarnation of the sender. -/
  senderId : UInt64
  /-- Next sequence number of each flow. -/
  sequences : AList (fun _ : UInt64 => UInt32)

/-- `FlowSequencer::with_sender_id` — no flow has been seen. -/
def FlowSequencer.withSenderId (senderId : UInt64) : FlowSequencer := ⟨max senderId 1, ∅⟩

/-- The first part of `next`: a full table is cleared for a new flow, under a new sender. -/
def FlowSequencer.makeRoom (sequencer : FlowSequencer) (flowId : UInt64) : FlowSequencer :=
  if sequencer.sequences.entries.length = maxTrackedFlows ∧ flowId ∉ sequencer.sequences then
    ⟨max (mix64 (sequencer.senderId + 0x9e3779b97f4a7c15)) 1, ∅⟩
  else sequencer

/-- `FlowSequencer::next` — the frame header of a packet, if it is to be framed. -/
def FlowSequencer.next (sequencer : FlowSequencer) (packet : List UInt8) :
    FlowSequencer × Option FrameHeader :=
  match tcpFlowId packet with
  | none => (sequencer, none)
  | some flowId =>
    let sequencer := sequencer.makeRoom flowId
    let sequence := (sequencer.sequences.lookup flowId).getD 0
    ({ sequencer with sequences := sequencer.sequences.insert flowId (sequence + 1) },
      some { senderId := sequencer.senderId, flowId, sequence })

end Focsq.FlowFrame
