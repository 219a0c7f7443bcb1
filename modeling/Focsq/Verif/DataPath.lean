import Focsq.Verif.ChannelData
import Focsq.Verif.FlowFrame
import Focsq.Verif.RoundTrip

/-!
# The data path

An IP packet from the tunnel device is framed, wrapped and encoded for a TURN channel, all in the
buffer it was read to. The headroom and the capacity of the buffer are what the three layers need
for packets of up to 2167 bytes, and the peer takes the layers off one by one.
-/

namespace Focsq.DataPath

open Packet FlowFrame Obfs Turn

/-- The longest IP packet. -/
def packetMax : Nat := 2167

/-- The longest tail that wrapping adds. -/
theorem tailLength_le (mode : ObfsMode) (ssrc : UInt32) (draws : Draws (.new mode ssrc)) :
    tailLength (.new mode ssrc) draws ≤ 70 := by
  have bound := draws.inRange
  cases mode with
  | audio =>
    have most : max (ObfsConfig.new .audio ssrc).paddingMax 1 = 24 := rfl
    rw [tailLength, if_neg (by intro never; cases never)]
    omega
  | video =>
    have most : max (ObfsConfig.new .video ssrc).paddingMax 1 = 60 := rfl
    have video : (ObfsConfig.new .video ssrc).mode = .video := rfl
    rw [tailLength, if_pos video]
    omega

/-- Every IP packet of up to 2167 bytes goes out through the three layers, and the peer gets
exactly it back, wherever it receives the message to. -/
theorem transparent (cipher : ObfsCipher) (lawful : cipher.Lawful) (mode : ObfsMode)
    (ssrc : UInt32) (sequences : FlowSequencer) (state : ObfsState) (elapsed : Duration)
    (draws : Draws (ObfsConfig.new mode ssrc)) (channel : UInt16)
    (valid : 0x4000 ≤ channel ∧ channel ≤ 0x7fff) (packet : PacketBuf)
    (placed : packet.start = packetHeadroom) (short : packet.len ≤ packetMax)
    (ip : Session.isIpPacket packet.asSlice = true) :
    ∃ later framed wrapped sent,
      Dispatcher.frameOutboundPacket sequences packet = .ok (true, later, framed) ∧
      (cipher.wrap framed (.new mode ssrc) state elapsed draws).1 = .ok wrapped ∧
      encodeChannelData wrapped channel = .ok sent ∧
      ∀ received : PacketBuf, received.asSlice = sent.asSlice →
        ∃ data opened sequence, decodeChannelData received = .ok (some (channel, data)) ∧
          isRtpPacket data.asSlice = true ∧
          cipher.unwrap data mode = .ok (opened, sequence) ∧
          payload opened.asSlice = packet.asSlice := by
  have range := packet.stop_eq
  have tail := tailLength_le mode ssrc draws
  unfold packetMax at short
  unfold packetHeadroom at placed
  obtain ⟨later, framed, framing, start₀, stop₀, nonempty, inner⟩ :=
    frameOutboundPacket_payload sequences packet (by rw [placed]; decide) ip
  unfold frameLen at start₀
  have room : Roomy framed (.new mode ssrc) draws := by
    refine ⟨by omega, ?_⟩
    unfold packetCapacity
    omega
  obtain ⟨wrapped, wrapping, start₁, stop₁, said⟩ := wrap_succeeds cipher lawful framed _ state
    elapsed draws nonempty room
  have length := wrapped.stop_eq
  have bound := wrapped.inside
  obtain ⟨sent, encoding, wire⟩ := encodeChannelData_eq wrapped channel valid (by omega) (by
    unfold packetCapacity
    omega)
  refine ⟨later, framed, wrapped, sent, framing, wrapping, encoding, ?_⟩
  intro received same
  obtain ⟨data, decoding, bytes⟩ := decodeChannelData_wire received channel valid wrapped.asSlice
    (by
      rw [wrapped.length_asSlice]
      unfold packetCapacity at bound
      omega)
    (same.trans wire)
  rw [← bytes] at said
  obtain ⟨rtp, opened, unwrapping, _, _, back⟩ := unwrap_wire cipher lawful _
    (standard_new mode ssrc) _ draws framed.asSlice nonempty data said
  have modes : (ObfsConfig.new mode ssrc).mode = mode := by cases mode <;> rfl
  rw [modes] at unwrapping
  exact ⟨data, opened, _, decoding, rtp, unwrapping, by rw [back, inner]⟩

/-- A TCP packet with one byte of data. -/
def tcpBytes : List UInt8 :=
    Bytes.be 36 0x4500000000000000000600000a0000020101010103e801bb000000000000000050180000 ++
      Bytes.be 5 0x0000000000

/-- The packet as it is read from the tunnel device. -/
def tcpPacket : PacketBuf :=
  .holding tcpBytes packetHeadroom (by decide)

/-- Its frame, the first of its flow, sealed under the key and the stream of the wire fixture. -/
def tcpSealing : Sealing where
  nonce := Bytes.be 12 0x102030407788000011223344
  aad := Bytes.be 24 0xb06f77881122334410203040bede0002325566775199aa00
  plaintext :=
    Bytes.be 36 0x435146310000000000000007b6bead3f0b31460e00000000450000000000000000060000 ++
      Bytes.be 29 0x0a0000020101010103e801bb0000000000000000501800000000000000
  ciphertext :=
    Bytes.be 36 0x9a3e934e62b9d20f76a59dd0367a351cdf7d1799a9fd6354033e8cbf0aa42f10bd214cf4 ++
      Bytes.be 29 0x5d5446ecaf5664087f273e18b2792bdb26e750fa18f712fee7799dfc36
  tag := Bytes.be 16 0xe7f71099d325e55a3d6d9063b5c8115b
  cipherLength := by decide
  tagLength := Bytes.length_be _ _

/-- The packet goes through the channel 0x4000 and back. -/
theorem tcpPacket_transparent :
    ∃ later framed wrapped sent data opened sequence,
      Dispatcher.frameOutboundPacket (.withSenderId 7) tcpPacket = .ok (true, later, framed) ∧
      ((recorded [tcpSealing]).wrap framed (.new .audio 0x10203040) getconfState .zero
        (.least _)).1 = .ok wrapped ∧
      encodeChannelData wrapped 0x4000 = .ok sent ∧
      decodeChannelData sent = .ok (some (0x4000, data)) ∧ isRtpPacket data.asSlice = true ∧
      (recorded [tcpSealing]).unwrap data .audio = .ok (opened, sequence) ∧
      payload opened.asSlice = tcpPacket.asSlice := by
  have lawful : (recorded [tcpSealing]).Lawful :=
    recorded_lawful _ (by decide +kernel) (by decide +kernel)
  have short : tcpPacket.len ≤ packetMax := by decide +kernel
  have ip : Session.isIpPacket tcpPacket.asSlice = true := by decide +kernel
  obtain ⟨later, framed, wrapped, sent, framing, wrapping, encoding, back⟩ := transparent _ lawful
    .audio 0x10203040 (.withSenderId 7) getconfState .zero (.least _) 0x4000 (by decide)
    tcpPacket rfl short ip
  obtain ⟨data, opened, sequence, decoding, rtp, unwrapping, same⟩ := back sent rfl
  exact ⟨later, framed, wrapped, sent, data, opened, sequence, framing, wrapping, encoding,
    decoding, rtp, unwrapping, same⟩

/-- The recorded sealing is the one that wrapping the frame uses. -/
example : ((FlowSequencer.withSenderId 7).next tcpBytes).2.map (fun header =>
    header.encode ++ tcpBytes) = some tcpSealing.plaintext := by decide +kernel

end Focsq.DataPath
