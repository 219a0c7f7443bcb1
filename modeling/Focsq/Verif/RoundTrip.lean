import Focsq.Verif.Wrap

/-!
# Unwrapping undoes wrapping

Wrapping succeeds on every packet that is not empty and has room around it, and a packet with the
bytes it leaves, wherever it was received to, unwraps to the payload and the sequence number that
were wrapped.
-/

namespace Focsq.Obfs

open Packet

/-- A packet with room is wrapped; its range grows by the header and the tail. -/
theorem wrap_succeeds (cipher : ObfsCipher) (lawful : cipher.Lawful) (packet : PacketBuf)
    (config : ObfsConfig) (state : ObfsState) (elapsed : Duration) (draws : Draws config)
    (nonempty : packet.asSlice ≠ []) (room : Roomy packet config draws) :
    ∃ out, (cipher.wrap packet config state elapsed draws).1 = .ok out ∧
      out.start = packet.start - 24 ∧ out.stop = packet.stop + tailLength config draws ∧
      wireOf cipher config (stamp config state elapsed) draws packet.asSlice =
        some out.asSlice := by
  have fits : packet.asSlice.length ≤ packetCapacity := by
    have range := packet.stop_eq
    have bound := packet.inside
    rw [packet.length_asSlice]
    omega
  obtain ⟨wire, said⟩ := wireOf_isSome cipher lawful config (stamp config state elapsed) draws
    packet.asSlice fits
  obtain ⟨out, wrapped, start, stop, bytes⟩ := wrapPacket_eq cipher packet config
    (stamp config state elapsed) draws room wire said
  have some : packet.isEmpty = false := by
    cases empty : packet.isEmpty with
    | false => rfl
    | true =>
      have length := packet.length_asSlice
      rw [PacketBuf.isEmpty, beq_iff_eq] at empty
      rw [PacketBuf.len, empty, Nat.sub_self] at length
      exact absurd (List.length_eq_zero_iff.mp length) nonempty
  refine ⟨out, ?_, start, stop, by rw [said, bytes]⟩
  rw [ObfsCipher.wrap, some, if_neg (by decide)]
  exact wrapped

/-- Only packets that are not empty and have room are wrapped. -/
theorem wrapped_nonempty (cipher : ObfsCipher) (packet out : PacketBuf) (config : ObfsConfig)
    (state : ObfsState) (elapsed : Duration) (draws : Draws config)
    (wrapped : (cipher.wrap packet config state elapsed draws).1 = .ok out) :
    packet.asSlice ≠ [] ∧ Roomy packet config draws := by
  rw [ObfsCipher.wrap] at wrapped
  split at wrapped
  · cases wrapped
  · rename_i some
    refine ⟨?_, wrapPacket_roomy _ _ _ _ _ _ wrapped⟩
    intro empty
    apply some
    have length := packet.length_asSlice
    have order := packet.ordered
    rw [empty, PacketBuf.len, List.length_nil] at length
    rw [PacketBuf.isEmpty, beq_iff_eq]
    omega

/-- What is known of a packet that was wrapped, and of the counters then. -/
theorem wrap_ok (cipher : ObfsCipher) (lawful : cipher.Lawful) (packet out : PacketBuf)
    (config : ObfsConfig) (state after : ObfsState) (elapsed : Duration) (draws : Draws config)
    (wrapped : cipher.wrap packet config state elapsed draws = (.ok out, after)) :
    after = state.next.2.2 ∧ out.start = packet.start - 24 ∧
      out.stop = packet.stop + tailLength config draws ∧
      wireOf cipher config (stamp config state elapsed) draws packet.asSlice =
        some out.asSlice := by
  have result := congrArg Prod.fst wrapped
  obtain ⟨nonempty, room⟩ := wrapped_nonempty cipher packet out config state elapsed draws result
  obtain ⟨other, again, start, stop, wire⟩ := wrap_succeeds cipher lawful packet config state
    elapsed draws nonempty room
  rw [result] at again
  cases again
  refine ⟨?_, start, stop, wire⟩
  rw [ObfsCipher.wrap] at wrapped
  split at wrapped
  · cases wrapped
  · exact (congrArg Prod.snd wrapped).symm

/-- The bytes of a wrapped packet unwrap to its payload, wherever they were received to. -/
theorem unwrap_wire (cipher : ObfsCipher) (lawful : cipher.Lawful) (config : ObfsConfig)
    (standard : config.Standard) (stamp : Stamp) (draws : Draws config) (payload : List UInt8)
    (nonempty : payload ≠ []) (received : PacketBuf)
    (said : wireOf cipher config stamp draws payload = some received.asSlice) :
    isRtpPacket received.asSlice = true ∧
      ∃ opened, cipher.unwrap received config.mode = .ok (opened, stamp.sequence) ∧
        opened.start = received.start + 24 ∧
        opened.stop = received.start + (24 + payload.length) ∧ opened.asSlice = payload := by
  obtain ⟨rtp, means⟩ := payloadOf_wire cipher lawful config standard stamp draws payload
    received.asSlice nonempty said
  have opens := unwrap_opens cipher received config.mode
  rw [means] at opens
  exact ⟨rtp, opens⟩

/-- The sequence number is in the third and fourth byte of the wire. -/
theorem wireOf_sequence (cipher : ObfsCipher) (config : ObfsConfig) (stamp : Stamp)
    (draws : Draws config) (payload wire : List UInt8)
    (said : wireOf cipher config stamp draws payload = some wire) :
    Bytes.slice wire 2 4 = Bytes.be 2 stamp.sequence.toNat := by
  have written : ∃ rest, wire = header config stamp draws.marker ++ rest := by
    unfold wireOf at said
    split at said
    · cases said
      exact ⟨_, by rw [videoWire, signedVideo, List.append_assoc]⟩
    · obtain ⟨sealed, _, rfl⟩ := Option.map_eq_some_iff.mp said
      exact ⟨_, rfl⟩
  obtain ⟨rest, rfl⟩ := written
  rw [header_append]
  exact Bytes.slice_segment [0xb0, markedType config draws.marker]
    (Bytes.be 2 stamp.sequence.toNat) _

/-- Whatever `wrap` makes of a packet unwraps to it, with the sequence number in its header. -/
theorem wrapped_unwraps (cipher : ObfsCipher) (lawful : cipher.Lawful) (mode : ObfsMode)
    (ssrc : UInt32) (packet out received : PacketBuf) (state : ObfsState) (elapsed : Duration)
    (draws : Draws (ObfsConfig.new mode ssrc))
    (wrapped : (cipher.wrap packet (.new mode ssrc) state elapsed draws).1 = .ok out)
    (same : received.asSlice = out.asSlice) :
    isRtpPacket received.asSlice = true ∧
      ∃ opened sequence, cipher.unwrap received mode = .ok (opened, sequence) ∧
        Bytes.slice out.asSlice 2 4 = Bytes.be 2 sequence.toNat ∧
        sequence = rtpSequence state state.count ∧ opened.asSlice = packet.asSlice ∧
        opened.start = received.start + 24 ∧ opened.len = packet.len := by
  obtain ⟨nonempty, room⟩ := wrapped_nonempty cipher packet out _ state elapsed draws wrapped
  obtain ⟨out', again, _, _, said⟩ := wrap_succeeds cipher lawful packet _ state elapsed draws
    nonempty room
  rw [wrapped] at again
  cases again
  have sequence := wireOf_sequence cipher _ _ draws packet.asSlice out.asSlice said
  rw [← same] at said
  obtain ⟨rtp, opened, unwrapped, start, _, bytes⟩ := unwrap_wire cipher lawful _
    (standard_new mode ssrc) _ draws packet.asSlice nonempty received said
  have modes : (ObfsConfig.new mode ssrc).mode = mode := by cases mode <;> rfl
  rw [modes] at unwrapped
  refine ⟨rtp, opened, _, unwrapped, sequence, rfl, bytes, start, ?_⟩
  rw [← opened.length_asSlice, bytes, packet.length_asSlice]

/-- One sealing under a key. -/
structure Sealing where
  /-- The nonce. -/
  nonce : List UInt8
  /-- The associated data. -/
  aad : List UInt8
  /-- What was sealed. -/
  plaintext : List UInt8
  /-- What it was sealed to. -/
  ciphertext : List UInt8
  /-- The tag over it. -/
  tag : List UInt8
  /-- Sealing works in place. -/
  cipherLength : ciphertext.length = plaintext.length
  /-- Tags have 16 bytes. -/
  tagLength : tag.length = 16
  deriving DecidableEq

/-- Whether a sealing is of this plaintext. -/
def Sealing.seals (sealing : Sealing) (nonce aad plaintext : List UInt8) : Bool :=
  sealing.nonce == nonce && sealing.aad == aad && sealing.plaintext == plaintext

/-- Whether a sealing is to this ciphertext. -/
def Sealing.opens (sealing : Sealing) (nonce aad tag ciphertext : List UInt8) : Bool :=
  sealing.nonce == nonce && sealing.aad == aad && sealing.tag == tag &&
    sealing.ciphertext == ciphertext

/-- The primitives under a key of which some sealings are known. Elsewhere the plaintext is left
as it is, under a tag of zeros. -/
def recorded (sealings : List Sealing) : ObfsCipher where
  applyKeystream := zeroKeystream
  keystream_length := length_zeroKeystream
  hmac := fun _ => List.replicate 20 0
  hmac_length := fun _ => List.length_replicate
  sealInPlace := fun nonce aad plaintext =>
    match sealings.find? (·.seals nonce aad plaintext) with
    | some sealing => some (sealing.ciphertext, sealing.tag)
    | none => some (plaintext, List.replicate 16 0)
  seal_length := by
    intro nonce aad plaintext ciphertext tag sealed
    split at sealed
    · rename_i sealing found
      have found := List.find?_some found
      simp only [Sealing.seals, Bool.and_eq_true, beq_iff_eq] at found
      cases sealed
      rw [← found.2]
      exact ⟨sealing.cipherLength, sealing.tagLength⟩
    · cases sealed
      exact ⟨rfl, List.length_replicate⟩
  openInPlace := fun nonce aad tag ciphertext =>
    match sealings.find? (·.opens nonce aad tag ciphertext) with
    | some sealing => some sealing.plaintext
    | none => some ciphertext
  open_length := by
    intro nonce aad tag ciphertext plaintext opened
    split at opened
    · rename_i sealing found
      have found := List.find?_some found
      simp only [Sealing.opens, Bool.and_eq_true, beq_iff_eq] at found
      cases opened
      rw [← found.2]
      exact sealing.cipherLength.symm
    · cases opened
      rfl

/-- Known sealings with different tags are opened. -/
theorem recorded_lawful (sealings : List Sealing)
    (apart : ∀ first ∈ sealings, ∀ second ∈ sealings, first.tag = second.tag → first = second)
    (genuine : ∀ sealing ∈ sealings, sealing.tag ≠ List.replicate 16 0) :
    (recorded sealings).Lawful where
  keystream_involution := fun _ _ => rfl
  seal_total := by
    intro nonce aad plaintext _
    dsimp only [recorded]
    split <;> rfl
  open_seal := by
    intro nonce aad plaintext ciphertext tag sealed
    dsimp only [recorded] at sealed ⊢
    split at sealed
    · rename_i sealing found
      have known := List.mem_of_find?_eq_some found
      have found := List.find?_some found
      simp only [Sealing.seals, Bool.and_eq_true, beq_iff_eq] at found
      obtain ⟨⟨rfl, rfl⟩, rfl⟩ := found
      cases sealed
      split
      · rename_i other opened
        have member := List.mem_of_find?_eq_some opened
        have opened := List.find?_some opened
        simp only [Sealing.opens, Bool.and_eq_true, beq_iff_eq] at opened
        rw [apart other member sealing known opened.1.2]
      · rename_i missed
        have opened := List.find?_eq_none.mp missed sealing known
        simp [Sealing.opens] at opened
    · cases sealed
      split
      · rename_i other opened
        have member := List.mem_of_find?_eq_some opened
        have opened := List.find?_some opened
        simp only [Sealing.opens, Bool.and_eq_true, beq_iff_eq] at opened
        exact absurd opened.1.2 (genuine other member)
      · rfl

/-- The request for a configuration, sealed as in the wire fixture of client and server. -/
def getconfSealing : Sealing where
  nonce := Bytes.be 12 0x102030407788000011223344
  aad := Bytes.be 24 0xb06f77881122334410203040bede0002325566775199aa00
  plaintext :=
    Bytes.be 36 0x474554434f4e463a34363030307c776972652d6465766963657c776972652d7061737377 ++
      Bytes.be 33 0x6f72647c377c776972652d73616c747c317c32377c43535154542d574952452d32
  ciphertext :=
    Bytes.be 36 0x9e2a813c2df794354293ade7b0b8ef4aa6297cf3cc8b0a372342fbd678c10260dc543f83 ++
      Bytes.be 33 0x38262292992b12600eaa12d0d3155fa7179b62cd34ac41afb32db0ab7f6dced9e1
  tag := Bytes.be 16 0xbb0620daa26d1743f2c25af6bd9ade99
  cipherLength := by decide
  tagLength := Bytes.length_be _ _

/-- The stream of the fixture. -/
def getconfState : ObfsState where
  count := 0
  initialTimestamp := 0x11223344
  initialAbsSendTime := 0x00556677
  initialSequence := 0x7788
  transportSequence := 0x99aa

/-- The packet of the fixture, as it is read in. -/
def getconfPacket : PacketBuf :=
  .holding getconfSealing.plaintext packetHeadroom (by decide)

/-- The fixture, `CLIENT_GETCONF_AUDIO_FIXTURE`, as a packet that was read in. -/
def getconfReceived : PacketBuf :=
  .holding
    (Bytes.be 36 0xb06f77881122334410203040bede0002325566775199aa009e2a813c2df794354293ade7 ++
      Bytes.be 36 0xb0b8ef4aa6297cf3cc8b0a372342fbd678c10260dc543f8338262292992b12600eaa12d0 ++
      Bytes.be 36 0xd3155fa7179b62cd34ac41afb32db0ab7f6dced9e1bb0620daa26d1743f2c25af6bd9ade ++
      Bytes.be 2 0x9901)
    packetHeadroom (by decide)

/-- `Duration::from_secs` — a time of whole seconds. -/
def Duration.fromSecs (secs : UInt64) : Duration := ⟨secs, 0, by decide⟩

/-- No time has passed. -/
def Duration.zero : Duration := .fromSecs 0

/-- The least random padding, and no marker. -/
def Draws.least (config : ObfsConfig) : Draws config where
  paddingRandom := 0
  inRange := by omega
  marker := Fin.last 4
  padding := []
  filled := rfl

/-- The fixture is what `wrap` makes of the request, and it unwraps to it. -/
theorem getconf_unwraps :
    isRtpPacket getconfReceived.asSlice = true ∧
      ∃ opened, (recorded [getconfSealing]).unwrap getconfReceived .audio = .ok (opened, 0x7788) ∧
        opened.asSlice = getconfSealing.plaintext := by
  have lawful : (recorded [getconfSealing]).Lawful :=
    recorded_lawful _ (by decide +kernel) (by decide +kernel)
  have nonempty : getconfPacket.asSlice ≠ [] := by decide +kernel
  have room : Roomy getconfPacket (.new .audio 0x10203040) (.least _) := by
    refine ⟨by decide, ?_⟩
    decide +kernel
  obtain ⟨out, wrapped, _, _, said⟩ := wrap_succeeds _ lawful getconfPacket _ getconfState .zero _
    nonempty room
  have wire : wireOf (recorded [getconfSealing]) (.new .audio 0x10203040)
      (stamp (.new .audio 0x10203040) getconfState .zero) (.least _) getconfPacket.asSlice =
        some getconfReceived.asSlice := by decide +kernel
  have same : getconfReceived.asSlice = out.asSlice := Option.some.inj (wire.symm.trans said)
  obtain ⟨rtp, opened, sequence, unwrapped, _, is, bytes, _⟩ := wrapped_unwraps _ lawful .audio
    0x10203040 getconfPacket out getconfReceived getconfState .zero _ wrapped same
  rw [is] at unwrapped
  refine ⟨rtp, opened, unwrapped, ?_⟩
  rw [bytes]
  exact PacketBuf.asSlice_holding _ _ _

end Focsq.Obfs
