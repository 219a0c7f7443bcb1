import Focsq.Verif.Obfs

/-!
# What wrapping puts on the wire

`wrap` succeeds when the buffer has room on both sides of the payload, and then the packet is the
header, the encrypted payload, and the tag and the padding in the order of the mode. Unwrapping
these bytes gives the payload back.
-/

namespace Focsq.Obfs

open Packet

/-- The header has 24 bytes. -/
@[simp]
theorem length_header (config : ObfsConfig) (stamp : Stamp) (marker : Fin 5) :
    (header config stamp marker).length = 24 := by
  simp [header, extensions]

/-- The padding with its length in the last byte. -/
def paddingBytes {config : ObfsConfig} (draws : Draws config) : List UInt8 :=
  draws.padding ++ [UInt8.ofNat (draws.paddingRandom + 1)]

/-- The part of a video packet that its tag covers. -/
def signedVideo (cipher : ObfsCipher) (config : ObfsConfig) (stamp : Stamp) (draws : Draws config)
    (payload : List UInt8) : List UInt8 :=
  header config stamp draws.marker ++
    (cipher.applyKeystream (srtpIv config.ssrc stamp.sequence stamp.timestamp) payload ++
      paddingBytes draws)

/-- A video packet on the wire. -/
def videoWire (cipher : ObfsCipher) (config : ObfsConfig) (stamp : Stamp) (draws : Draws config)
    (payload : List UInt8) : List UInt8 :=
  signedVideo cipher config stamp draws payload ++
    (cipher.hmac (signedVideo cipher config stamp draws payload)).take 10

/-- An audio packet on the wire. -/
def audioWire (config : ObfsConfig) (stamp : Stamp) (draws : Draws config)
    (ciphertext tag : List UInt8) : List UInt8 :=
  header config stamp draws.marker ++ (ciphertext ++ (tag ++ paddingBytes draws))

/-- The padding is as long as it says. -/
theorem length_paddingBytes {config : ObfsConfig} (draws : Draws config) :
    (paddingBytes draws).length = draws.paddingRandom + 1 := by
  rw [paddingBytes, List.length_append, draws.filled, List.length_singleton]

/-- With room behind the payload, the tail of a video packet is encrypted, padded and signed. -/
theorem sealVideo_eq (cipher : ObfsCipher) (packet : PacketBuf) (config : ObfsConfig)
    (stamp : Stamp) (draws : Draws config) (payload : List UInt8)
    (bytes : packet.asSlice = header config stamp draws.marker ++ payload)
    (fits : packet.stop + (draws.paddingRandom + 1 + 10) ≤ packetCapacity) :
    ∃ out, sealVideo cipher packet config stamp draws (packet.start + 24)
        (packet.start + 24 + payload.length) = .ok out ∧
      out.start = packet.start ∧ out.stop = packet.stop + (draws.paddingRandom + 1 + 10) ∧
      out.asSlice = videoWire cipher config stamp draws payload := by
  have ks := cipher.keystream_length (srtpIv config.ssrc stamp.sequence stamp.timestamp) payload
  have tagLength := cipher.hmac_length (signedVideo cipher config stamp draws payload)
  obtain ⟨extended, grown, start₀, stop₀, back, room, bytes₀⟩ := packet.extendTail_eq _ fits
  obtain ⟨pad, last, tag, rfl, padLength, lastLength, spare⟩ := Bytes.exists_segments back
    draws.paddingRandom 1 10 room
  rw [bytes, List.append_assoc] at bytes₀
  have read := extended.read_segment _ _ _ bytes₀
  obtain ⟨first, write₁, start₁, stop₁, bytes₁⟩ := extended.write_segment _ _ _
    (cipher.applyKeystream (srtpIv config.ssrc stamp.sequence stamp.timestamp) payload) bytes₀ ks
  rw [← List.append_assoc] at bytes₁
  obtain ⟨second, write₂, start₂, stop₂, bytes₂⟩ := first.write_segment _ _ _ draws.padding bytes₁
    (draws.filled.trans padLength.symm)
  rw [← List.append_assoc] at bytes₂
  obtain ⟨third, write₃, start₃, stop₃, bytes₃⟩ := second.write_segment _ _ _
    [UInt8.ofNat (draws.paddingRandom + 1)] bytes₂ lastLength.symm
  have signed : third.asSlice = signedVideo cipher config stamp draws payload ++ tag := by
    rw [bytes₃, signedVideo, paddingBytes]
    simp only [List.append_assoc]
  have signedLength : (signedVideo cipher config stamp draws payload).length =
      24 + payload.length + (draws.paddingRandom + 1) := by
    rw [signedVideo, List.length_append, List.length_append, ks, length_paddingBytes,
      length_header, Nat.add_assoc]
  have readSigned := third.read_segment [] (signedVideo cipher config stamp draws payload) tag
    signed
  have withEnd : third.asSlice =
      signedVideo cipher config stamp draws payload ++ (tag ++ []) := by
    rw [signed, List.append_nil]
  obtain ⟨out, write₄, start₄, stop₄, bytes₄⟩ := third.write_segment _ _ _
    ((cipher.hmac (signedVideo cipher config stamp draws payload)).take 10) withEnd (by
      rw [List.length_take, tagLength, spare]
      rfl)
  simp only [List.length_append, length_header, ks, draws.filled, start₀, start₁, start₂,
    ← Nat.add_assoc] at read write₁ write₂ write₃
  simp only [List.length_nil, Nat.zero_add, Nat.add_zero, signedLength, start₀, start₁, start₂,
    start₃, ← Nat.add_assoc] at readSigned write₄
  refine ⟨out, ?_, by rw [start₄, start₃, start₂, start₁, start₀],
    by rw [stop₄, stop₃, stop₂, stop₁, stop₀], by rw [bytes₄, List.append_nil, videoWire]⟩
  simp only [sealVideo, bind, Except.bind, grown, read, write₁, write₂, ← Nat.add_assoc,
    Nat.add_sub_cancel, write₃, start₀, start₁, start₂, start₃, readSigned, write₄]

/-- With room behind the payload, the tail of an audio packet is sealed and padded. -/
theorem sealAudio_eq (cipher : ObfsCipher) (packet : PacketBuf) (config : ObfsConfig)
    (stamp : Stamp) (draws : Draws config) (payload ciphertext tag : List UInt8)
    (bytes : packet.asSlice = header config stamp draws.marker ++ payload)
    (fits : packet.stop + (16 + (draws.paddingRandom + 1)) ≤ packetCapacity)
    (sealed : cipher.sealInPlace (nonce config.ssrc stamp.sequence stamp.timestamp)
      (header config stamp draws.marker) payload = some (ciphertext, tag)) :
    ∃ out, sealAudio cipher packet config stamp draws (packet.start + 24)
        (packet.start + 24 + payload.length) = .ok out ∧
      out.start = packet.start ∧ out.stop = packet.stop + (16 + (draws.paddingRandom + 1)) ∧
      out.asSlice = audioWire config stamp draws ciphertext tag := by
  obtain ⟨cipherLength, tagLength⟩ := cipher.seal_length _ _ _ _ _ sealed
  obtain ⟨extended, grown, start₀, stop₀, back, room, bytes₀⟩ := packet.extendTail_eq _ fits
  obtain ⟨spare, pad, last, rfl, spareLength, padLength, lastLength⟩ :=
    Bytes.exists_segments back 16 draws.paddingRandom 1 (by omega)
  rw [bytes, List.append_assoc] at bytes₀
  have readAad := extended.read_segment [] (header config stamp draws.marker) _ bytes₀
  have read := extended.read_segment _ _ _ bytes₀
  obtain ⟨first, write₁, start₁, stop₁, bytes₁⟩ := extended.write_segment _ _ _ ciphertext bytes₀
    cipherLength
  rw [← List.append_assoc] at bytes₁
  obtain ⟨second, write₂, start₂, stop₂, bytes₂⟩ := first.write_segment _ _ _ tag bytes₁
    (tagLength.trans spareLength.symm)
  rw [← List.append_assoc] at bytes₂
  obtain ⟨third, write₃, start₃, stop₃, bytes₃⟩ := second.write_segment _ _ _ draws.padding
    bytes₂ (draws.filled.trans padLength.symm)
  rw [← List.append_nil last, ← List.append_assoc] at bytes₃
  obtain ⟨out, write₄, start₄, stop₄, bytes₄⟩ := third.write_segment _ _ _
    [UInt8.ofNat (draws.paddingRandom + 1)] bytes₃ lastLength.symm
  simp only [List.length_append, length_header, cipherLength, tagLength, draws.filled, start₀,
    start₁, start₂, start₃, ← Nat.add_assoc] at read write₁ write₂ write₃ write₄
  simp only [List.length_nil, Nat.zero_add, Nat.add_zero, length_header, start₀] at readAad
  refine ⟨out, ?_, by rw [start₄, start₃, start₂, start₁, start₀],
    by rw [stop₄, stop₃, stop₂, stop₁, stop₀], ?_⟩
  · simp only [sealAudio, bind, Except.bind, grown]
    simp only [start₀, readAad, read, sealed, write₁, write₂, write₃, ← Nat.add_assoc,
      Nat.add_sub_cancel, write₄]
  · rw [bytes₄, audioWire, paddingBytes]
    simp only [List.append_assoc, List.append_nil]

/-- The length of the tail that `wrap` adds to a packet. -/
def tailLength (config : ObfsConfig) (draws : Draws config) : Nat :=
  if config.mode = .video then draws.paddingRandom + 1 + 10 else draws.paddingRandom + 1 + 16

/-- The buffer has room for the header and the tail. -/
def Roomy (packet : PacketBuf) (config : ObfsConfig) (draws : Draws config) : Prop :=
  24 ≤ packet.start ∧ packet.stop + tailLength config draws ≤ packetCapacity

/-- The bytes on the wire in either mode; sealing may refuse. -/
def wireOf (cipher : ObfsCipher) (config : ObfsConfig) (stamp : Stamp) (draws : Draws config)
    (payload : List UInt8) : Option (List UInt8) :=
  if config.mode = .video then some (videoWire cipher config stamp draws payload)
  else
    (cipher.sealInPlace (nonce config.ssrc stamp.sequence stamp.timestamp)
      (header config stamp draws.marker) payload).map fun sealed =>
        audioWire config stamp draws sealed.1 sealed.2

/-- A packet with room is wrapped into the bytes of its mode. -/
theorem wrapPacket_eq (cipher : ObfsCipher) (packet : PacketBuf) (config : ObfsConfig)
    (stamp : Stamp) (draws : Draws config) (room : Roomy packet config draws)
    (wire : List UInt8) (said : wireOf cipher config stamp draws packet.asSlice = some wire) :
    ∃ out, wrapPacket cipher packet config stamp draws = .ok out ∧
      out.start = packet.start - 24 ∧ out.stop = packet.stop + tailLength config draws ∧
      out.asSlice = wire := by
  obtain ⟨front, back⟩ := room
  obtain ⟨moved, prepended, start₀, stop₀, spare, spareLength, bytes₀⟩ :=
    packet.prepend_eq 24 front
  obtain ⟨headed, write₁, start₁, stop₁, bytes₁⟩ := moved.write_segment [] spare packet.asSlice
    (header config stamp draws.marker) bytes₀ (by rw [length_header, spareLength])
  rw [List.nil_append] at bytes₁
  rw [List.length_nil, Nat.add_zero] at write₁
  have payloadEnd : packet.len = packet.asSlice.length := packet.length_asSlice.symm
  have enough : ¬(packet.start < 24 ∨
      packetCapacity < packet.stop + tailLength config draws) := by omega
  have stop : headed.stop = packet.stop := stop₁.trans stop₀
  have start : headed.start = packet.start - 24 := start₁.trans start₀
  unfold tailLength at enough back ⊢
  unfold wireOf at said
  simp only [wrapPacket, bind, Except.bind, if_neg enough, prepended, write₁, payloadEnd]
  by_cases video : config.mode = .video
  · simp only [if_pos video, Option.some.injEq] at said back ⊢
    obtain ⟨out, result, outStart, outStop, bytes⟩ := sealVideo_eq cipher headed config stamp draws
      packet.asSlice bytes₁ (by omega)
    exact ⟨out, result, by omega, by omega, bytes.trans said⟩
  · simp only [if_neg video, Option.map_eq_some_iff] at said back ⊢
    obtain ⟨sealed, result, rfl⟩ := said
    obtain ⟨out, result, outStart, outStop, bytes⟩ := sealAudio_eq cipher headed config stamp draws
      packet.asSlice sealed.1 sealed.2 bytes₁ (by omega) result
    exact ⟨out, result, by omega, by omega, bytes⟩

/-- Wrapping succeeds only with room. -/
theorem wrapPacket_roomy (cipher : ObfsCipher) (packet out : PacketBuf) (config : ObfsConfig)
    (stamp : Stamp) (draws : Draws config)
    (wrapped : wrapPacket cipher packet config stamp draws = .ok out) :
    Roomy packet config draws := by
  by_contra tight
  have refused : packet.start < 24 ∨
      packetCapacity < packet.stop + tailLength config draws := by
    unfold Roomy at tight
    omega
  unfold tailLength at refused
  simp only [wrapPacket, bind, Except.bind, if_pos refused, throw, throwThe,
    MonadExceptOf.throw] at wrapped
  cases wrapped

/-- A configuration whose payload type is that of its mode, and whose padding fits a byte. -/
structure ObfsConfig.Standard (config : ObfsConfig) : Prop where
  /-- The payload type of the mode. -/
  typed : config.payloadType = if config.mode = .video then 96 else 111
  /-- The padding and its length byte. -/
  padded : config.paddingMax ≤ 255

/-- The configurations of a session are standard. -/
theorem standard_new (mode : ObfsMode) (ssrc : UInt32) : (ObfsConfig.new mode ssrc).Standard := by
  cases mode with
  | audio => exact ⟨rfl, Nat.le_of_ble_eq_true rfl⟩
  | video => exact ⟨rfl, Nat.le_of_ble_eq_true rfl⟩

/-- The parts of the header one after the other. -/
theorem header_append (config : ObfsConfig) (stamp : Stamp) (marker : Fin 5)
    (rest : List UInt8) :
    header config stamp marker ++ rest = [0xb0, markedType config marker] ++
      (Bytes.be 2 stamp.sequence.toNat ++ (Bytes.be 4 stamp.timestamp.toNat ++
        (Bytes.be 4 config.ssrc.toNat ++ (Bytes.be 2 0xbede ++ (Bytes.be 2 2 ++
          (extensions stamp ++ rest)))))) := by
  simp only [header, List.append_assoc]
  rfl

/-- The header is read as it was written. -/
theorem headerOf_header (config : ObfsConfig) (stamp : Stamp) (marker : Fin 5)
    (rest : List UInt8) :
    headerOf (header config stamp marker ++ rest) =
      { headerLen := 24
        payloadType := markedType config marker &&& 0x7f
        sequence := stamp.sequence
        timestamp := stamp.timestamp
        ssrc := config.ssrc } := by
  have sequence := Bytes.slice_segment [0xb0, markedType config marker]
    (Bytes.be 2 stamp.sequence.toNat) (Bytes.be 4 stamp.timestamp.toNat ++
      (Bytes.be 4 config.ssrc.toNat ++ (Bytes.be 2 0xbede ++ (Bytes.be 2 2 ++
        (extensions stamp ++ rest)))))
  have timestamp := Bytes.slice_segment
    ([0xb0, markedType config marker] ++ Bytes.be 2 stamp.sequence.toNat)
    (Bytes.be 4 stamp.timestamp.toNat) (Bytes.be 4 config.ssrc.toNat ++ (Bytes.be 2 0xbede ++
      (Bytes.be 2 2 ++ (extensions stamp ++ rest))))
  have ssrc := Bytes.slice_segment
    ([0xb0, markedType config marker] ++ Bytes.be 2 stamp.sequence.toNat ++
      Bytes.be 4 stamp.timestamp.toNat)
    (Bytes.be 4 config.ssrc.toNat) (Bytes.be 2 0xbede ++ (Bytes.be 2 2 ++
      (extensions stamp ++ rest)))
  have words := Bytes.slice_segment
    ([0xb0, markedType config marker] ++ Bytes.be 2 stamp.sequence.toNat ++
      Bytes.be 4 stamp.timestamp.toNat ++ Bytes.be 4 config.ssrc.toNat ++ Bytes.be 2 0xbede)
    (Bytes.be 2 2) (extensions stamp ++ rest)
  simp only [List.append_assoc, List.length_append, Bytes.length_be, List.length_cons,
    List.length_nil, Nat.zero_add, Nat.reduceAdd] at sequence timestamp ssrc words
  simp only [headerOf, headerLenOf, header_append, sequence, timestamp, ssrc, words,
    Bytes.uint16_be, Bytes.uint32_be, RtpHeader.mk.injEq, and_true]
  have extended : ((0xb0 : UInt8) &&& 0x10 != 0) = true := by decide
  exact ⟨if_pos extended, rfl⟩

/-- The marker does not change the payload type. -/
theorem markedType_and (config : ObfsConfig) (standard : config.Standard) (marker : Fin 5) :
    markedType config marker &&& 0x7f = if config.mode = .video then 96 else 111 := by
  unfold markedType
  rw [standard.typed]
  split <;> split <;> rfl

/-- A wrapped packet has a complete header. -/
theorem headed_header (config : ObfsConfig) (standard : config.Standard) (stamp : Stamp)
    (marker : Fin 5) (rest : List UInt8) :
    Headed (header config stamp marker ++ rest) := by
  have length : (header config stamp marker ++ rest).length = 24 + rest.length := by
    rw [List.length_append, length_header]
  have front : (header config stamp marker ++ rest)[0]? = some 0xb0 := by
    rw [header_append]
    rfl
  have second : (header config stamp marker ++ rest)[1]? =
      some (markedType config marker) := by
    rw [header_append]
    rfl
  have whole : headerLenOf (header config stamp marker ++ rest) = 24 :=
    congrArg RtpHeader.headerLen (headerOf_header config stamp marker rest)
  refine ⟨?_, fun _ => by omega, by omega⟩
  simp only [isRtpPacket, front, second, length, Option.getD_some,
    markedType_and config standard, Bool.and_eq_true, decide_eq_true_eq]
  refine ⟨⟨by omega, rfl⟩, ?_⟩
  split <;> rfl

/-- The padding that a byte counts is stripped, whatever follows it. -/
theorem unpadded_padding {config : ObfsConfig} (standard : config.Standard)
    (draws : Draws config) (body rest : List UInt8) (headerLen : Nat) (label : String)
    (marked : body[0]? = some 0xb0) (order : headerLen ≤ body.length) :
    unpadded (body ++ (paddingBytes draws ++ rest)) headerLen
      (body.length + (draws.paddingRandom + 1)) label = .ok body.length := by
  have bound := draws.inRange
  have padded := standard.padded
  have front : (body ++ (paddingBytes draws ++ rest))[0]?.getD 0 = 0xb0 := by
    rw [List.getElem?_append_left (List.getElem?_eq_some_iff.mp marked).1, marked]
    rfl
  have last : (body ++ (paddingBytes draws ++ rest))[body.length + draws.paddingRandom]? =
      some (UInt8.ofNat (draws.paddingRandom + 1)) := by
    rw [List.getElem?_append_right (Nat.le_add_right _ _), Nat.add_sub_cancel_left, paddingBytes,
      List.append_assoc, List.getElem?_append_right (Nat.le_of_eq draws.filled), draws.filled,
      Nat.sub_self]
    rfl
  have value : (UInt8.ofNat (draws.paddingRandom + 1)).toNat = draws.paddingRandom + 1 := by
    rw [UInt8.toNat_ofNat']
    apply Nat.mod_eq_of_lt
    omega
  have place : body.length + (draws.paddingRandom + 1) - 1 =
      body.length + draws.paddingRandom := by omega
  have extended : ((0xb0 : UInt8) &&& 0x20 != 0) = true := by decide
  rw [unpadded, front, if_pos extended, place, last, Option.getD_some, value]
  rw [if_neg, Nat.add_sub_cancel]
  simp only [Bool.or_eq_true, beq_iff_eq, decide_eq_true_eq]
  omega

/-- The header comes first in what follows it. -/
theorem header_first (config : ObfsConfig) (stamp : Stamp) (marker : Fin 5)
    (rest : List UInt8) : (header config stamp marker ++ rest)[0]? = some 0xb0 := by
  rw [header_append]
  rfl

/-- A video packet opens to its payload. -/
theorem videoPayload_wire (cipher : ObfsCipher) (lawful : cipher.Lawful) (config : ObfsConfig)
    (standard : config.Standard) (stamp : Stamp) (draws : Draws config) (payload : List UInt8)
    (head : RtpHeader) (headerLen : head.headerLen = 24) (ssrc : head.ssrc = config.ssrc)
    (sequence : head.sequence = stamp.sequence) (timestamp : head.timestamp = stamp.timestamp) :
    videoPayload cipher (videoWire cipher config stamp draws payload) head =
      .ok (24 + payload.length, payload) := by
  have ks := cipher.keystream_length (srtpIv config.ssrc stamp.sequence stamp.timestamp) payload
  have full := cipher.hmac_length (signedVideo cipher config stamp draws payload)
  have tagLength : ((cipher.hmac (signedVideo cipher config stamp draws payload)).take 10).length =
      10 := by
    rw [List.length_take, full]
    rfl
  have bodyLength : (header config stamp draws.marker ++ cipher.applyKeystream
      (srtpIv config.ssrc stamp.sequence stamp.timestamp) payload).length =
        24 + payload.length := by
    rw [List.length_append, length_header, ks]
  have signedLength : (signedVideo cipher config stamp draws payload).length =
      24 + payload.length + (draws.paddingRandom + 1) := by
    rw [signedVideo, ← List.append_assoc, List.length_append, bodyLength, length_paddingBytes]
  have stripped := unpadded_padding standard draws _
    ((cipher.hmac (signedVideo cipher config stamp draws payload)).take 10) 24 "obfs srtp"
    (header_first config stamp draws.marker (cipher.applyKeystream
      (srtpIv config.ssrc stamp.sequence stamp.timestamp) payload)) (by omega)
  have encrypted := Bytes.slice_segment (header config stamp draws.marker)
    (cipher.applyKeystream (srtpIv config.ssrc stamp.sequence stamp.timestamp) payload)
    (paddingBytes draws ++ (cipher.hmac (signedVideo cipher config stamp draws payload)).take 10)
  have wire : videoWire cipher config stamp draws payload = header config stamp draws.marker ++
      (cipher.applyKeystream (srtpIv config.ssrc stamp.sequence stamp.timestamp) payload ++
        (paddingBytes draws ++
          (cipher.hmac (signedVideo cipher config stamp draws payload)).take 10)) := by
    rw [videoWire]
    nth_rewrite 1 [signedVideo]
    simp only [List.append_assoc]
  have wireLength : (videoWire cipher config stamp draws payload).length =
      24 + payload.length + (draws.paddingRandom + 1) + 10 := by
    rw [videoWire, List.length_append, signedLength, tagLength]
  have signed : Bytes.slice (videoWire cipher config stamp draws payload) 0
      (24 + payload.length + (draws.paddingRandom + 1)) =
        signedVideo cipher config stamp draws payload := by
    rw [← signedLength, videoWire, Bytes.slice_append_left _ _ _ _ (Nat.le_refl _),
      Bytes.slice_all]
  have tag : Bytes.slice (videoWire cipher config stamp draws payload)
      (24 + payload.length + (draws.paddingRandom + 1))
      (24 + payload.length + (draws.paddingRandom + 1) + 10) =
        (cipher.hmac (signedVideo cipher config stamp draws payload)).take 10 := by
    have segment := Bytes.slice_segment (signedVideo cipher config stamp draws payload)
      ((cipher.hmac (signedVideo cipher config stamp draws payload)).take 10) []
    rw [List.append_nil, tagLength, signedLength] at segment
    exact segment
  have genuine : verifyTruncatedLeft (cipher.hmac (signedVideo cipher config stamp draws payload))
      ((cipher.hmac (signedVideo cipher config stamp draws payload)).take 10) = true := by
    have some : ((cipher.hmac (signedVideo cipher config stamp draws payload)).take 10).isEmpty =
        false := by
      rw [List.isEmpty_eq_false_iff, ← List.length_pos_iff]
      omega
    rw [verifyTruncatedLeft, some, tagLength, full]
    simp
  rw [bodyLength, List.append_assoc, ← wire] at stripped
  rw [length_header, ks, ← wire] at encrypted
  rw [videoPayload, wireLength, headerLen, ssrc, sequence, timestamp]
  rw [if_neg (by omega), Nat.add_sub_cancel, signed, tag, genuine, if_neg (by decide), stripped,
    Except.map, encrypted, lawful.keystream_involution]

/-- An audio packet opens to its payload. -/
theorem audioPayload_wire (cipher : ObfsCipher) (lawful : cipher.Lawful) (config : ObfsConfig)
    (standard : config.Standard) (stamp : Stamp) (draws : Draws config)
    (payload ciphertext tag : List UInt8) (nonempty : payload ≠ [])
    (sealed : cipher.sealInPlace (nonce config.ssrc stamp.sequence stamp.timestamp)
      (header config stamp draws.marker) payload = some (ciphertext, tag))
    (head : RtpHeader) (headerLen : head.headerLen = 24) (ssrc : head.ssrc = config.ssrc)
    (payloadType : head.payloadType = 111) (sequence : head.sequence = stamp.sequence)
    (timestamp : head.timestamp = stamp.timestamp) :
    audioPayload cipher (audioWire config stamp draws ciphertext tag) head =
      .ok (24 + payload.length, payload) := by
  obtain ⟨cipherLength, tagLength⟩ := cipher.seal_length _ _ _ _ _ sealed
  have positive := List.length_pos_iff.mpr nonempty
  have bodyLength : (header config stamp draws.marker ++ (ciphertext ++ tag)).length =
      24 + payload.length + 16 := by
    rw [List.length_append, List.length_append, length_header, cipherLength, tagLength,
      Nat.add_assoc]
  have stripped := unpadded_padding standard draws _ [] 24 "obfs"
    (header_first config stamp draws.marker (ciphertext ++ tag)) (by omega)
  have wire : audioWire config stamp draws ciphertext tag =
      header config stamp draws.marker ++ (ciphertext ++ tag) ++ (paddingBytes draws ++ []) := by
    simp only [audioWire, List.append_assoc, List.append_nil]
  have wireLength : (audioWire config stamp draws ciphertext tag).length =
      24 + payload.length + 16 + (draws.paddingRandom + 1) := by
    rw [wire, List.append_nil, List.length_append, bodyLength, length_paddingBytes]
  have aad : Bytes.slice (audioWire config stamp draws ciphertext tag) 0 24 =
      header config stamp draws.marker :=
    Bytes.slice_segment [] (header config stamp draws.marker) _
  have encrypted : Bytes.slice (audioWire config stamp draws ciphertext tag) 24
      (24 + payload.length) = ciphertext := by
    have segment := Bytes.slice_segment (header config stamp draws.marker) ciphertext
      (tag ++ paddingBytes draws)
    rw [length_header, cipherLength] at segment
    exact segment
  have authentic : Bytes.slice (audioWire config stamp draws ciphertext tag)
      (24 + payload.length) (24 + payload.length + 16) = tag := by
    have segment := Bytes.slice_segment (header config stamp draws.marker ++ ciphertext) tag
      (paddingBytes draws)
    rw [List.length_append, length_header, cipherLength, tagLength, List.append_assoc] at segment
    exact segment
  rw [bodyLength, ← wire] at stripped
  rw [audioPayload, payloadType, headerLen, ssrc, sequence, timestamp, wireLength, stripped,
    if_neg (by decide), Except.bind, if_neg (by omega), Nat.add_sub_cancel, aad, authentic,
    encrypted, lawful.open_seal _ _ _ _ _ sealed]

/-- The header that unwrapping reads from a wrapped packet. -/
def writtenHeader (config : ObfsConfig) (stamp : Stamp) : RtpHeader where
  headerLen := 24
  payloadType := if config.mode = .video then 96 else 111
  sequence := stamp.sequence
  timestamp := stamp.timestamp
  ssrc := config.ssrc

/-- What follows a written header is opened with it. -/
theorem payloadOf_header (cipher : ObfsCipher) (config : ObfsConfig)
    (standard : config.Standard) (stamp : Stamp) (marker : Fin 5) (wire rest : List UInt8)
    (written : wire = header config stamp marker ++ rest) :
    isRtpPacket wire = true ∧ payloadOf cipher wire config.mode =
      (if config.mode = .video then videoPayload cipher wire (writtenHeader config stamp)
        else audioPayload cipher wire (writtenHeader config stamp)).map
          fun payload => (writtenHeader config stamp, payload) := by
  have headed := headed_header config standard stamp marker rest
  have head := headerOf_header config stamp marker rest
  rw [markedType_and config standard] at head
  rw [← written] at headed head
  refine ⟨headed.rtp, ?_⟩
  cases parseHeader_cases wire with
  | inl parsed =>
    rw [payloadOf, parsed.2, head]
    rfl
  | inr never => exact absurd headed never.1

/-- A wrapped packet says what was wrapped. -/
theorem payloadOf_wire (cipher : ObfsCipher) (lawful : cipher.Lawful) (config : ObfsConfig)
    (standard : config.Standard) (stamp : Stamp) (draws : Draws config)
    (payload wire : List UInt8) (nonempty : payload ≠ [])
    (said : wireOf cipher config stamp draws payload = some wire) :
    isRtpPacket wire = true ∧ payloadOf cipher wire config.mode =
      .ok (writtenHeader config stamp, 24 + payload.length, payload) := by
  unfold wireOf at said
  by_cases video : config.mode = .video
  · rw [if_pos video, Option.some.injEq] at said
    have written : wire = header config stamp draws.marker ++ (cipher.applyKeystream
        (srtpIv config.ssrc stamp.sequence stamp.timestamp) payload ++ paddingBytes draws ++
          (cipher.hmac (signedVideo cipher config stamp draws payload)).take 10) := by
      rw [← said, videoWire]
      nth_rewrite 1 [signedVideo]
      rw [List.append_assoc]
    obtain ⟨rtp, opened⟩ := payloadOf_header cipher config standard stamp _ wire _ written
    refine ⟨rtp, ?_⟩
    rw [opened, if_pos video, ← said, videoPayload_wire cipher lawful config standard stamp draws
      payload _ rfl rfl rfl rfl]
    rfl
  · rw [if_neg video, Option.map_eq_some_iff] at said
    obtain ⟨sealed, result, written⟩ := said
    obtain ⟨rtp, opened⟩ := payloadOf_header cipher config standard stamp _ wire _ written.symm
    refine ⟨rtp, ?_⟩
    rw [opened, if_neg video, ← written, audioPayload_wire cipher lawful config standard stamp
      draws payload _ _ nonempty result _ rfl rfl (if_neg video) rfl rfl]
    rfl

/-- Sealing a payload that fits the buffer gives a packet. -/
theorem wireOf_isSome (cipher : ObfsCipher) (lawful : cipher.Lawful) (config : ObfsConfig)
    (stamp : Stamp) (draws : Draws config) (payload : List UInt8)
    (fits : payload.length ≤ packetCapacity) :
    ∃ wire, wireOf cipher config stamp draws payload = some wire := by
  rw [← Option.isSome_iff_exists, wireOf]
  split
  · rfl
  · rw [Option.isSome_map]
    exact lawful.seal_total _ _ _ fits

end Focsq.Obfs
