import Focsq.Backend.Obfs
import Focsq.Verif.Packet

/-!
# Unwrapping as a function of the bytes

`unwrap` reads and writes a buffer at absolute positions. What it decides depends on the bytes of
the packet only: `payloadOf` says where the payload ends in them and what it decrypts to, and
`unwrap_opens` that the buffer then holds it. None of the checks of the language can fail.
-/

namespace Focsq.Obfs

open Packet

/-- The end of the payload without its padding, counted from the front of the packet. -/
def unpadded (wire : List UInt8) (headerLen stop : Nat) (label : String) : Except Failure Nat :=
  if wire[0]?.getD 0 &&& 0x20 != 0 then
    let padding := (wire[stop - 1]?.getD 0).toNat
    if padding == 0 || decide (stop - headerLen < padding) then
      .error (.bail (label ++ ": invalid padding length " ++ toString padding))
    else .ok (stop - padding)
  else .ok stop

/-- Where the payload of a video packet ends, and what it decrypts to. -/
def videoPayload (cipher : ObfsCipher) (wire : List UInt8) (head : RtpHeader) :
    Except Failure (Nat × List UInt8) :=
  let tagStart := wire.length - 10
  if wire.length < head.headerLen + 10 then
    .error (.bail "obfs srtp: missing authentication tag")
  else if !verifyTruncatedLeft (cipher.hmac (Bytes.slice wire 0 tagStart))
      (Bytes.slice wire tagStart wire.length) then
    .error (.bail "obfs srtp: authentication failed")
  else
    (unpadded wire head.headerLen tagStart "obfs srtp").map fun stop =>
      (stop, cipher.applyKeystream (srtpIv head.ssrc head.sequence head.timestamp)
        (Bytes.slice wire head.headerLen stop))

/-- Where the payload of an audio packet ends, and what it decrypts to. -/
def audioPayload (cipher : ObfsCipher) (wire : List UInt8) (head : RtpHeader) :
    Except Failure (Nat × List UInt8) :=
  if head.payloadType != 111 then .error (.bail "obfs audio: expected payload type 111")
  else
    (unpadded wire head.headerLen wire.length "obfs").bind fun stop =>
      if stop ≤ head.headerLen + 16 then
        .error (.bail "obfs: empty encrypted payload or missing tag")
      else
        match cipher.openInPlace (nonce head.ssrc head.sequence head.timestamp)
            (Bytes.slice wire 0 head.headerLen) (Bytes.slice wire (stop - 16) stop)
            (Bytes.slice wire head.headerLen (stop - 16)) with
        | none => .error (.bail "obfs: auth (ChaCha20-Poly1305)")
        | some plaintext => .ok (stop - 16, plaintext)

/-- What a packet says: its header, where its payload ends and what that is. -/
def payloadOf (cipher : ObfsCipher) (wire : List UInt8) (mode : ObfsMode) :
    Except Failure (RtpHeader × Nat × List UInt8) :=
  (parseHeader wire).bind fun head =>
    (if mode = .video then videoPayload cipher wire head else audioPayload cipher wire head).map
      fun payload => (head, payload)

/-- A result of `unwrap` on a packet is what its bytes say: the same failure, or the payload in
place. -/
def Opens (packet : PacketBuf) (head : RtpHeader) (result : Except Failure (PacketBuf × UInt16)) :
    Except Failure (Nat × List UInt8) → Prop
  | .error failure => result = .error failure
  | .ok (stop, plaintext) => ∃ out, result = .ok (out, head.sequence) ∧
      out.start = packet.start + head.headerLen ∧ out.stop = packet.start + stop ∧
      out.asSlice = plaintext

/-- The padding is stripped as the bytes say. -/
theorem stripPadding_eq (packet : PacketBuf) (headerLen stop : Nat) (label : String)
    (order : headerLen ≤ stop) (positive : 0 < stop) (inside : stop ≤ packet.len) :
    stripPadding packet headerLen (packet.start + stop) label =
      (unpadded packet.asSlice headerLen stop label).map (fun stop => packet.start + stop) := by
  have front := packet.byteAt_storage 0 (by omega)
  have last := packet.byteAt_storage (stop - 1) (by omega)
  have place : packet.start + stop - 1 = packet.start + (stop - 1) := by omega
  simp only [stripPadding, unpadded, bind, Except.bind, pure, Except.pure, throw, throwThe,
    MonadExceptOf.throw]
  rw [Nat.add_zero] at front
  rw [front]
  dsimp only
  split
  · rw [checkedSub_eq _ _ (by omega), place]
    dsimp only
    rw [last, checkedSub_eq _ _ (Nat.le_add_right _ _), Nat.add_sub_cancel_left]
    dsimp only
    rw [checkedSub_eq _ _ order]
    dsimp only
    split
    · rfl
    · rename_i padded
      simp only [Bool.or_eq_true, beq_iff_eq, decide_eq_true_eq, not_or, Nat.not_lt] at padded
      rw [checkedSub_eq _ _ (by omega), Except.map, Nat.add_sub_assoc (by omega)]
  · rfl

/-- The payload ends between the header and the end it is stripped from. -/
theorem unpadded_bounds (wire : List UInt8) (headerLen stop payloadEnd : Nat) (label : String)
    (order : headerLen ≤ stop) (stripped : unpadded wire headerLen stop label = .ok payloadEnd) :
    headerLen ≤ payloadEnd ∧ payloadEnd ≤ stop := by
  unfold unpadded at stripped
  split at stripped
  · dsimp only at stripped
    split at stripped
    · cases stripped
    · rename_i padded
      simp only [Bool.or_eq_true, beq_iff_eq, decide_eq_true_eq, not_or, Nat.not_lt] at padded
      cases stripped
      omega
  · cases stripped
    exact ⟨order, Nat.le_refl _⟩

/-- Decrypted data is put in place of the encrypted data. -/
theorem place_eq (packet : PacketBuf) (first last : Nat) (plaintext : List UInt8)
    (order : first ≤ last) (inside : last ≤ packet.len)
    (same : plaintext.length = last - first) :
    ∃ middle out, packet.write (packet.start + first) plaintext = .ok middle ∧
      middle.setRange (packet.start + first) (packet.start + last) = .ok out ∧
      out.start = packet.start + first ∧ out.stop = packet.start + last ∧
      out.asSlice = plaintext := by
  obtain ⟨middle, written, start, stop, bytes⟩ := packet.write_eq first plaintext (by omega)
  have len : middle.len = packet.len := by
    unfold PacketBuf.len
    rw [start, stop]
  obtain ⟨out, ranged, outStart, outStop, outBytes⟩ := middle.setRange_eq first last order
    (by omega)
  rw [start] at ranged outStart outStop
  refine ⟨middle, out, written, ranged, outStart, outStop, ?_⟩
  have reach : first ≤ packet.asSlice.length := by
    rw [packet.length_asSlice]
    omega
  have width : last = first + plaintext.length := by omega
  rw [outBytes, bytes, width, Bytes.slice_splice_self _ _ _ reach]

/-- Video packets are opened as their bytes say. -/
theorem openVideo_opens (cipher : ObfsCipher) (packet : PacketBuf) (head : RtpHeader)
    (positive : 0 < head.headerLen) :
    Opens packet head (openVideo cipher packet head)
      (videoPayload cipher packet.asSlice head) := by
  have length := packet.length_asSlice
  have range := packet.stop_eq
  simp only [openVideo, videoPayload, length, bind, Except.bind, pure, Except.pure, throw,
    throwThe, MonadExceptOf.throw]
  split
  · rfl
  rename_i long
  have tagStart : packet.start + packet.len - 10 = packet.start + (packet.len - 10) := by omega
  have signed := packet.read_eq 0 (packet.len - 10) (Nat.zero_le _) (by omega)
  rw [Nat.add_zero] at signed
  rw [range, checkedSub_eq _ _ (by omega), tagStart]
  dsimp only
  rw [signed, packet.read_eq _ _ (by omega) (Nat.le_refl _)]
  dsimp only
  split
  · rfl
  rw [stripPadding_eq packet head.headerLen (packet.len - 10) _ (by omega) (by omega) (by omega)]
  cases stripped : unpadded packet.asSlice head.headerLen (packet.len - 10) "obfs srtp" with
  | error failure => rfl
  | ok stop =>
    have bounds := unpadded_bounds _ _ _ _ _ (by omega) stripped
    simp only [Except.map]
    rw [packet.read_eq _ _ bounds.1 (by omega)]
    obtain ⟨middle, out, written, ranged, start, stop, bytes⟩ := place_eq packet head.headerLen
      stop (cipher.applyKeystream (srtpIv head.ssrc head.sequence head.timestamp)
        (Bytes.slice packet.asSlice head.headerLen stop)) bounds.1 (by omega)
      (by rw [cipher.keystream_length, Bytes.length_slice _ _ _ (by omega)])
    simp only [written, ranged]
    exact ⟨out, rfl, start, stop, bytes⟩

/-- Audio packets are opened as their bytes say. -/
theorem openAudio_opens (cipher : ObfsCipher) (packet : PacketBuf) (head : RtpHeader)
    (positive : 0 < head.headerLen) (order : head.headerLen ≤ packet.len) :
    Opens packet head (openAudio cipher packet head)
      (audioPayload cipher packet.asSlice head) := by
  have length := packet.length_asSlice
  have range := packet.stop_eq
  simp only [openAudio, audioPayload, length, bind, Except.bind, pure, Except.pure, throw,
    throwThe, MonadExceptOf.throw]
  split
  · rfl
  rw [range, stripPadding_eq _ _ _ _ order (by omega) (Nat.le_refl _)]
  cases stripped : unpadded packet.asSlice head.headerLen packet.len "obfs" with
  | error failure => rfl
  | ok stop =>
    have bounds := unpadded_bounds _ _ _ _ _ order stripped
    simp only [Except.map]
    by_cases short : stop ≤ head.headerLen + 16
    · rw [if_pos (by omega), if_pos short]
      rfl
    rw [if_neg (by omega), if_neg short, checkedSub_eq _ _ (by omega),
      Nat.add_sub_assoc (by omega)]
    have aad := packet.read_eq 0 head.headerLen (Nat.zero_le _) order
    rw [Nat.add_zero] at aad
    dsimp only
    rw [packet.read_eq _ _ (by omega) bounds.2, aad,
      packet.read_eq _ _ (by omega) (by omega)]
    dsimp only
    cases opened : cipher.openInPlace (nonce head.ssrc head.sequence head.timestamp)
        (Bytes.slice packet.asSlice 0 head.headerLen)
        (Bytes.slice packet.asSlice (stop - 16) stop)
        (Bytes.slice packet.asSlice head.headerLen (stop - 16)) with
    | none => rfl
    | some plaintext =>
      have same := cipher.open_length _ _ _ _ _ opened
      rw [Bytes.length_slice _ _ _ (by omega)] at same
      obtain ⟨middle, out, written, ranged, start, stop, bytes⟩ := place_eq packet head.headerLen
        (stop - 16) plaintext (by omega) (by omega) same
      simp only [written, ranged]
      exact ⟨out, rfl, start, stop, bytes⟩

/-- Length of the header of a packet, with its extension. -/
def headerLenOf (wire : List UInt8) : Nat :=
  if wire[0]?.getD 0 &&& 0x10 != 0 then 12 + (4 + Bytes.fromBe (Bytes.slice wire 14 16) * 4)
  else 12

/-- The header of a packet. -/
def headerOf (wire : List UInt8) : RtpHeader where
  headerLen := headerLenOf wire
  payloadType := wire[1]?.getD 0 &&& 0x7f
  sequence := UInt16.ofNat (Bytes.fromBe (Bytes.slice wire 2 4))
  timestamp := UInt32.ofNat (Bytes.fromBe (Bytes.slice wire 4 8))
  ssrc := UInt32.ofNat (Bytes.fromBe (Bytes.slice wire 8 12))

/-- A packet has a complete header of one of the imitated streams. -/
structure Headed (wire : List UInt8) : Prop where
  /-- It looks like one of the streams. -/
  rtp : isRtpPacket wire = true
  /-- The length of its extension is there. -/
  extended : wire[0]?.getD 0 &&& 0x10 ≠ 0 → 16 ≤ wire.length
  /-- The whole header is there. -/
  complete : headerLenOf wire ≤ wire.length

/-- A header has at least the fixed part. -/
theorem headerLenOf_ge (wire : List UInt8) : 12 ≤ headerLenOf wire := by
  unfold headerLenOf
  split <;> omega

/-- The header is read from packets that have one; other packets fail with a message. -/
theorem parseHeader_cases (wire : List UInt8) :
    (Headed wire ∧ parseHeader wire = .ok (headerOf wire)) ∨
      (¬Headed wire ∧ ∃ message, parseHeader wire = .error (.bail message)) := by
  simp only [parseHeader, bind, Except.bind, pure, Except.pure, throw, throwThe,
    MonadExceptOf.throw]
  by_cases short : wire.length < 13
  · rw [if_pos short]
    refine Or.inr ⟨fun headed => ?_, _, rfl⟩
    have rtp := headed.rtp
    simp only [isRtpPacket, Bool.and_eq_true, decide_eq_true_eq] at rtp
    omega
  rw [if_neg short, byteAt_eq _ _ (by omega), byteAt_eq _ _ (by omega),
    sliceAt_eq _ _ _ (by omega) (by omega), sliceAt_eq _ _ _ (by omega) (by omega),
    sliceAt_eq _ _ _ (by omega) (by omega)]
  dsimp only
  by_cases version : (wire[0]?.getD 0 >>> 6 != 2) = true
  · rw [if_pos version]
    refine Or.inr ⟨fun headed => ?_, _, rfl⟩
    have rtp := headed.rtp
    simp only [isRtpPacket, Bool.and_eq_true, beq_iff_eq] at rtp
    exact absurd rtp.1.2 (bne_iff_ne.mp version)
  rw [if_neg version]
  by_cases unknown : (!knownPayloadType (wire[1]?.getD 0 &&& 0x7f)) = true
  · rw [if_pos unknown]
    refine Or.inr ⟨fun headed => ?_, _, rfl⟩
    have rtp := headed.rtp
    simp only [isRtpPacket, Bool.and_eq_true] at rtp
    rw [rtp.2] at unknown
    cases unknown
  rw [if_neg unknown]
  have rtp : isRtpPacket wire = true := by
    simp only [bne_iff_ne, ne_eq, not_not] at version
    simp only [Bool.not_eq_true', Bool.not_eq_false] at unknown
    simp only [isRtpPacket, version, unknown, beq_self_eq_true, Bool.and_true, decide_eq_true_eq]
    omega
  have headerLen : headerLenOf wire =
      if (wire[0]?.getD 0 &&& 0x10 != 0) = true then
        12 + (4 + Bytes.fromBe (Bytes.slice wire 14 16) * 4)
      else 12 := rfl
  by_cases extended : (wire[0]?.getD 0 &&& 0x10 != 0) = true
  · rw [if_pos extended]
    rw [if_pos extended] at headerLen
    by_cases cut : wire.length < 16
    · rw [if_pos cut]
      refine Or.inr ⟨fun headed => ?_, _, rfl⟩
      exact absurd (headed.extended (bne_iff_ne.mp extended)) (by omega)
    rw [if_neg cut, sliceAt_eq _ _ _ (by omega) (by omega)]
    dsimp only
    rw [← headerLen]
    by_cases beyond : wire.length < headerLenOf wire
    · rw [if_pos beyond]
      exact Or.inr ⟨fun headed => absurd headed.complete (by omega), _, rfl⟩
    · rw [if_neg beyond]
      exact Or.inl ⟨⟨rtp, fun _ => by omega, by omega⟩, rfl⟩
  · rw [if_neg extended] at headerLen
    rw [if_neg extended, if_neg (by omega)]
    refine Or.inl ⟨⟨rtp, fun set => absurd (bne_iff_ne.mpr set) extended, by omega⟩, ?_⟩
    rw [headerOf, headerLen]

/-- `unwrap` does to a packet what its bytes say, wherever it lies in the buffer. -/
theorem unwrap_opens (cipher : ObfsCipher) (packet : PacketBuf) (mode : ObfsMode) :
    match payloadOf cipher packet.asSlice mode with
    | .error failure => cipher.unwrap packet mode = .error failure
    | .ok (head, payload) => Opens packet head (cipher.unwrap packet mode) (.ok payload) := by
  simp only [payloadOf, ObfsCipher.unwrap, bind, Except.bind]
  rcases parseHeader_cases packet.asSlice with ⟨headed, parsed⟩ | ⟨_, message, parsed⟩
  · have complete := headed.complete
    have fixed := headerLenOf_ge packet.asSlice
    rw [packet.length_asSlice] at complete
    rw [parsed]
    dsimp only
    have opened : Opens packet (headerOf packet.asSlice)
        (if mode = .video then openVideo cipher packet (headerOf packet.asSlice)
          else openAudio cipher packet (headerOf packet.asSlice))
        (if mode = .video then videoPayload cipher packet.asSlice (headerOf packet.asSlice)
          else audioPayload cipher packet.asSlice (headerOf packet.asSlice)) := by
      have positive : 0 < (headerOf packet.asSlice).headerLen := by
        show 0 < headerLenOf packet.asSlice
        omega
      split
      · exact openVideo_opens cipher packet _ positive
      · exact openAudio_opens cipher packet _ positive complete
    revert opened
    generalize (if mode = .video then videoPayload cipher packet.asSlice
      (headerOf packet.asSlice) else audioPayload cipher packet.asSlice
        (headerOf packet.asSlice)) = payload
    cases payload with
    | error failure => exact id
    | ok payload => exact id
  · rw [parsed]

/-- A function ends with a message or with a result that meets a condition: no check of the language
fails in it. -/
def Ends {α : Type} (good : α → Prop) : Except Failure α → Prop
  | .error failure => ∃ message, failure = .bail message
  | .ok result => good result

/-- Stripping the padding ends between the header and the end it is stripped from. -/
theorem unpadded_ends (wire : List UInt8) (headerLen stop : Nat) (label : String)
    (order : headerLen ≤ stop) :
    Ends (fun payloadEnd => headerLen ≤ payloadEnd ∧ payloadEnd ≤ stop)
      (unpadded wire headerLen stop label) := by
  cases result : unpadded wire headerLen stop label with
  | ok payloadEnd => exact unpadded_bounds wire headerLen stop payloadEnd label order result
  | error failure =>
    unfold unpadded at result
    split at result
    · dsimp only at result
      split at result
      · exact ⟨_, (Except.error.inj result).symm⟩
      · cases result
    · cases result

/-- The payload of a video packet lies behind the header and before the tag. -/
theorem videoPayload_ends (cipher : ObfsCipher) (wire : List UInt8) (head : RtpHeader) :
    Ends (fun payload => head.headerLen ≤ payload.1 ∧ payload.1 ≤ wire.length)
      (videoPayload cipher wire head) := by
  unfold videoPayload
  dsimp only
  split
  · exact ⟨_, rfl⟩
  · split
    · exact ⟨_, rfl⟩
    · have ends := unpadded_ends wire head.headerLen (wire.length - 10) "obfs srtp" (by omega)
      cases stripped : unpadded wire head.headerLen (wire.length - 10) "obfs srtp" with
      | error failure =>
        rw [stripped] at ends
        exact ends
      | ok stop =>
        rw [stripped] at ends
        have within : head.headerLen ≤ stop ∧ stop ≤ wire.length - 10 := ends
        exact ⟨within.1, within.2.trans (Nat.sub_le _ _)⟩

/-- The payload of an audio packet lies behind the header and is not empty. -/
theorem audioPayload_ends (cipher : ObfsCipher) (wire : List UInt8) (head : RtpHeader)
    (order : head.headerLen ≤ wire.length) :
    Ends (fun payload => head.headerLen < payload.1 ∧ payload.1 ≤ wire.length)
      (audioPayload cipher wire head) := by
  unfold audioPayload
  split
  · exact ⟨_, rfl⟩
  · have ends := unpadded_ends wire head.headerLen wire.length "obfs" order
    cases stripped : unpadded wire head.headerLen wire.length "obfs" with
    | error failure =>
      rw [stripped] at ends
      exact ends
    | ok stop =>
      rw [stripped] at ends
      have within : head.headerLen ≤ stop ∧ stop ≤ wire.length := ends
      dsimp only [Except.bind]
      by_cases short : stop ≤ head.headerLen + 16
      · rw [if_pos short]
        exact ⟨_, rfl⟩
      · rw [if_neg short]
        cases cipher.openInPlace (nonce head.ssrc head.sequence head.timestamp)
            (Bytes.slice wire 0 head.headerLen) (Bytes.slice wire (stop - 16) stop)
            (Bytes.slice wire head.headerLen (stop - 16)) with
        | none => exact ⟨_, rfl⟩
        | some plaintext =>
          show head.headerLen < stop - 16 ∧ stop - 16 ≤ wire.length
          omega

/-- What the bytes of a packet say is a message or a payload within them. -/
theorem payloadOf_ends (cipher : ObfsCipher) (wire : List UInt8) (mode : ObfsMode) :
    Ends (fun payload => payload.1.headerLen ≤ payload.2.1 ∧ payload.2.1 ≤ wire.length ∧
        (mode = .audio → payload.1.headerLen < payload.2.1))
      (payloadOf cipher wire mode) := by
  rcases parseHeader_cases wire with ⟨headed, parsed⟩ | ⟨_, message, parsed⟩
  · have complete : (headerOf wire).headerLen ≤ wire.length := headed.complete
    rw [payloadOf, parsed]
    generalize headerOf wire = head at complete
    cases mode with
    | video =>
      have ends := videoPayload_ends cipher wire head
      change Ends _ ((videoPayload cipher wire head).map fun payload => (head, payload))
      cases said : videoPayload cipher wire head with
      | error failure =>
        rw [said] at ends
        exact ends
      | ok payload =>
        rw [said] at ends
        exact ⟨ends.1, ends.2, fun audio => by cases audio⟩
    | audio =>
      have ends := audioPayload_ends cipher wire head complete
      change Ends _ ((audioPayload cipher wire head).map fun payload => (head, payload))
      cases said : audioPayload cipher wire head with
      | error failure =>
        rw [said] at ends
        exact ends
      | ok payload =>
        rw [said] at ends
        exact ⟨Nat.le_of_lt ends.1, ends.2, fun _ => ends.1⟩
  · rw [payloadOf, parsed]
    exact ⟨message, rfl⟩

/-- Whatever the packet and the primitives are, no check of the language fails in `unwrap`, and what
it makes of the packet lies within the packet and is not empty for audio. -/
theorem unwrap_total (cipher : ObfsCipher) (packet : PacketBuf) (mode : ObfsMode) :
    cipher.unwrap packet mode ≠ .error .panic ∧
      ∀ out sequence, cipher.unwrap packet mode = .ok (out, sequence) →
        packet.start ≤ out.start ∧ out.start ≤ out.stop ∧ out.stop ≤ packet.stop ∧
          (mode = .audio → out.start < out.stop) := by
  have length := packet.length_asSlice
  have range := packet.stop_eq
  have opens := unwrap_opens cipher packet mode
  have ends := payloadOf_ends cipher packet.asSlice mode
  cases said : payloadOf cipher packet.asSlice mode with
  | error failure =>
    rw [said] at opens ends
    obtain ⟨message, rfl⟩ := ends
    rw [show cipher.unwrap packet mode = .error (.bail message) from opens]
    exact ⟨by simp, by simp⟩
  | ok payload =>
    obtain ⟨head, stop, plaintext⟩ := payload
    rw [said] at opens ends
    obtain ⟨out, result, first, last, _⟩ := opens
    obtain ⟨after, before, audio⟩ := ends
    dsimp only at after before audio
    rw [result]
    refine ⟨by simp, ?_⟩
    rintro _ _ same
    rw [Except.ok.injEq, Prod.mk.injEq] at same
    obtain ⟨rfl, rfl⟩ := same
    refine ⟨by omega, by omega, by omega, fun mode => ?_⟩
    have positive := audio mode
    omega

/-- A keystream of zeros, for concrete runs: every text stays as it is. -/
def zeroKeystream (_ data : List UInt8) : List UInt8 := data

/-- It works in place. -/
theorem length_zeroKeystream (iv data : List UInt8) :
    (zeroKeystream iv data).length = data.length := rfl

/-- A tag of zeros, for concrete runs. -/
def zeroTag (size : Nat) (_ : List UInt8) : List UInt8 := List.replicate size 0

/-- It has its size. -/
theorem length_zeroTag (size : Nat) (data : List UInt8) : (zeroTag size data).length = size :=
  List.length_replicate

/-- Primitives that let every packet pass as it is. -/
def passingCipher : ObfsCipher where
  applyKeystream := zeroKeystream
  keystream_length := length_zeroKeystream
  hmac := zeroTag 20
  hmac_length := length_zeroTag 20
  sealInPlace _ _ plaintext := some (plaintext, zeroTag 16 plaintext)
  seal_length := by
    intro _ _ plaintext _ _ sealed
    cases sealed
    exact ⟨rfl, length_zeroTag 16 plaintext⟩
  openInPlace _ _ _ ciphertext := some ciphertext
  open_length := by
    intro _ _ _ _ _ opened
    rw [Option.some.inj opened]

/-- One byte of payload before its tag, at the end of the buffer. -/
def lastBytePacket : PacketBuf :=
  .holding ([0x80, 111] ++ List.replicate 27 0) 2275 (by decide)

/-- It is unwrapped to a range that is not empty. -/
theorem lastBytePacket_unwraps :
    ∃ out sequence, passingCipher.unwrap lastBytePacket .audio = .ok (out, sequence) ∧
      out.start < out.stop ∧ out.stop ≤ lastBytePacket.stop := by
  cases result : passingCipher.unwrap lastBytePacket .audio with
  | error failure =>
    have opens : (passingCipher.unwrap lastBytePacket .audio).isOk = true := by decide +kernel
    rw [result] at opens
    cases opens
  | ok payload =>
    obtain ⟨out, sequence⟩ := payload
    have within := (unwrap_total passingCipher lastBytePacket .audio).2 out sequence result
    exact ⟨out, sequence, rfl, within.2.2.2 rfl, within.2.2.1⟩

end Focsq.Obfs
