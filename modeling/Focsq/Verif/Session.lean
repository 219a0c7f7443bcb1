import Focsq.Backend.Session
import Focsq.Verif.Obfs
import Focsq.Verif.ReplayRun

/-!
# Replays within a session

Whether a packet authenticates depends on its bytes, and they fix its sequence number. The replay
window never accepts an extended counter twice. A packet presented again has the counter it was
accepted under as long as the highest counter is less than half a turn beyond it; later on its
sequence number extends to another counter.
-/

namespace Focsq.Session

open Packet Obfs

/-- The sequence number of a packet that opens under the key. -/
def verdict (cipher : ObfsCipher) (mode : ObfsMode) (wire : List UInt8) : Option UInt16 :=
  if isRtpPacket wire then
    match payloadOf cipher wire mode with
    | .error _ => none
    | .ok (head, _) => some head.sequence
  else none

/-- What happens to a packet depends on the verdict on its bytes. -/
theorem authenticateInbound_eq (cipher : ObfsCipher) (config : ObfsConfig)
    (replay : ReplayProtection) (packet : PacketBuf) :
    match verdict cipher config.mode packet.asSlice with
    | none => authenticateInbound cipher config replay packet = (replay, none)
    | some sequence =>
      (authenticateInbound cipher config replay packet).1 = ⟨(replay.rtp.acceptRtp sequence).1⟩ ∧
        (authenticateInbound cipher config replay packet).2.isSome =
          (replay.rtp.acceptRtp sequence).2 := by
  have opens := unwrap_opens cipher packet config.mode
  unfold verdict authenticateInbound
  by_cases rtp : isRtpPacket packet.asSlice = true
  · simp only [rtp, ↓reduceIte]
    cases said : payloadOf cipher packet.asSlice config.mode with
    | error failure =>
      rw [said] at opens
      dsimp only at opens ⊢
      rw [opens]
    | ok payload =>
      obtain ⟨head, payload⟩ := payload
      rw [said] at opens
      obtain ⟨out, unwrapped, _⟩ := opens
      dsimp only
      rw [unwrapped]
      refine ⟨rfl, ?_⟩
      dsimp only
      cases (replay.rtp.acceptRtp head.sequence).2 <;> rfl
  · simp [rtp]

/-- The sequence number of a verdict is the one in the header. -/
theorem verdict_sequence (cipher : ObfsCipher) (mode : ObfsMode) (wire : List UInt8)
    (sequence : UInt16) (said : verdict cipher mode wire = some sequence) :
    sequence = (headerOf wire).sequence := by
  unfold verdict at said
  split at said
  · unfold payloadOf at said
    rcases parseHeader_cases wire with ⟨_, parsed⟩ | ⟨_, message, parsed⟩
    · simp only [parsed, Except.bind] at said
      split at said
      · cases said
      · rename_i opened
        unfold Except.map at opened
        split at opened
        · cases opened
        · cases opened
          cases said
          rfl
    · simp only [parsed, Except.bind] at said
      cases said
  · cases said

/-- The counter under which a packet is offered to the replay window. -/
def offeredCounter (replay : ReplayProtection) (packet : PacketBuf) : UInt64 :=
  extendRtp replay.rtp.highest (headerOf packet.asSlice).sequence

/-- A session's replay window and the set of counters it has accepted. -/
structure Tracks (replay : ReplayProtection) (model : SlidingWindow.Window) : Prop where
  /-- The window keeps what is needed of the set. -/
  refines : replay.rtp.Refines model
  /-- The set has no repetitions, and its maximum is known. -/
  sound : model.Sound

/-- One packet: the set grows, and it grows by the packet's counter if the packet is accepted. -/
theorem Tracks.step {replay : ReplayProtection} {model : SlidingWindow.Window}
    (tracks : Tracks replay model) (cipher : ObfsCipher) (config : ObfsConfig)
    (packet : PacketBuf) :
    ∃ next, Tracks (authenticateInbound cipher config replay packet).1 next ∧
      model.accepted ⊆ next.accepted ∧
      ((authenticateInbound cipher config replay packet).2.isSome = true →
        (offeredCounter replay packet).toNat ∉ model.accepted ∧
          (offeredCounter replay packet).toNat ∈ next.accepted) := by
  have result := authenticateInbound_eq cipher config replay packet
  cases said : verdict cipher config.mode packet.asSlice with
  | none =>
    rw [said] at result
    rw [result]
    exact ⟨model, tracks, List.Subset.refl _, by simp⟩
  | some sequence =>
    rw [said] at result
    dsimp only at result
    obtain ⟨moved, answer⟩ := result
    obtain ⟨same, next⟩ := tracks.refines.accept tracks.sound
      (extendRtp replay.rtp.highest sequence)
    rw [moved, answer, offeredCounter, ← verdict_sequence _ _ _ _ said, ReplayWindow.acceptRtp,
      same]
    refine ⟨_, ⟨next, tracks.sound.accept _ _⟩, ?_, ?_⟩
    · unfold SlidingWindow.Window.accept
      split
      · exact List.subset_cons_self _ _
      · exact List.Subset.refl _
    · unfold SlidingWindow.Window.accept
      split
      · rename_i taken
        intro _
        exact ⟨tracks.sound.not_mem_of_takes _ _ taken, List.mem_cons_self⟩
      · intro never
        cases never

/-- A run of packets: the set only grows. -/
theorem Tracks.run {replay : ReplayProtection} {model : SlidingWindow.Window}
    (tracks : Tracks replay model) (cipher : ObfsCipher) (config : ObfsConfig)
    (packets : List PacketBuf) :
    ∃ next, Tracks (Mealy.final (authenticateInbound cipher config) replay packets) next ∧
      model.accepted ⊆ next.accepted := by
  induction packets generalizing replay model with
  | nil => exact ⟨model, tracks, List.Subset.refl _⟩
  | cons packet rest ih =>
    obtain ⟨middle, tracked, grown, _⟩ := tracks.step cipher config packet
    obtain ⟨next, final, more⟩ := ih tracked
    exact ⟨next, final, List.Subset.trans grown more⟩

/-- In every run two packets are accepted under different counters, and the same bytes are
accepted again only once the highest counter is half a turn beyond the first acceptance. -/
theorem accepted_apart (cipher : ObfsCipher) (config : ObfsConfig)
    (before middle : List PacketBuf) (first second : PacketBuf)
    (accepted : (authenticateInbound cipher config
      (Mealy.final (authenticateInbound cipher config) .default before) first).2.isSome = true)
    (again : (authenticateInbound cipher config
      (Mealy.final (authenticateInbound cipher config) .default
        (before ++ first :: middle)) second).2.isSome = true) :
    let earlier := Mealy.final (authenticateInbound cipher config) .default before
    let later := Mealy.final (authenticateInbound cipher config) .default
      (before ++ first :: middle)
    offeredCounter earlier first ≠ offeredCounter later second ∧
      (first.asSlice = second.asSlice → ∃ highest, later.rtp.highest = some highest ∧
        (offeredCounter earlier first).toNat + 2 ^ 15 ≤ highest.toNat) := by
  intro earlier later
  have start : Tracks ReplayProtection.default .empty :=
    ⟨refines_default, SlidingWindow.sound_empty⟩
  obtain ⟨model, tracks, _⟩ := start.run cipher config before
  obtain ⟨once, tracked, _, entered⟩ := tracks.step cipher config first
  obtain ⟨twice, final, grown⟩ := tracked.run cipher config middle
  have split : later = Mealy.final (authenticateInbound cipher config)
      (authenticateInbound cipher config earlier first).1 middle :=
    Mealy.final_append _ _ _
  rw [← split] at final
  have kept := grown (entered accepted).2
  obtain ⟨_, _, _, fresh⟩ := final.step cipher config second
  have apart : offeredCounter earlier first ≠ offeredCounter later second := by
    intro same
    rw [same] at kept
    exact (fresh again).1 kept
  refine ⟨apart, fun same => ?_⟩
  obtain ⟨top, is, bound⟩ := final.sound.bounded _ kept
  obtain ⟨highest, held, value⟩ := Option.map_eq_some_iff.mp (final.refines.highest.trans is)
  refine ⟨highest, held, ?_⟩
  by_contra near
  apply apart
  have small := (headerOf second.asSlice).sequence.toNat_lt
  have width := highest.toNat_lt
  rw [← UInt64.toNat_inj]
  rw [← value] at bound
  simp only [offeredCounter, held, same, extendRtp_toNat] at bound near ⊢
  cases begun : earlier.rtp.highest with
  | none =>
    rw [begun] at bound near
    simp only [extendRtp, UInt16.toNat_toUInt64] at bound near ⊢
    exact (extension_near _ _ _ width (Nat.mod_eq_of_lt small) (by omega) (by omega)
      (by omega)).symm
  | some before =>
    rw [begun] at bound near
    rw [extendRtp_toNat] at bound near ⊢
    exact (extension_again _ _ _ small before.toNat_lt width bound (by omega)).symm

/-- A video packet without payload: a plain header and its tag. -/
def heldWire (high low : UInt8) (tag : List UInt8) : List UInt8 :=
  [0x80, 96, high, low, 1, 2, 3, 4, 10, 11, 12, 13] ++ tag

/-- HMAC-SHA1 under the key `[0x52; 16]` of the headers of packets 0, 30000 and 60000. -/
def heldTag (data : List UInt8) : List UInt8 :=
  if data = heldWire 0 0 [] then
    [187, 247, 10, 81, 153, 5, 247, 143, 212, 142, 222, 195, 126, 7, 116, 31, 124, 48, 144, 208]
  else if data = heldWire 117 48 [] then
    [73, 171, 147, 126, 111, 188, 103, 5, 49, 217, 162, 208, 1, 149, 232, 119, 41, 41, 196, 41]
  else if data = heldWire 234 96 [] then
    [108, 145, 116, 21, 179, 178, 201, 41, 120, 174, 181, 144, 200, 41, 25, 85, 44, 66, 169, 230]
  else List.replicate 20 0

/-- The primitives under that key, as far as the three packets without payload need them. -/
def heldCipher : ObfsCipher where
  applyKeystream := zeroKeystream
  keystream_length := length_zeroKeystream
  hmac := heldTag
  hmac_length := by
    intro data
    unfold heldTag
    split
    · rfl
    · split
      · rfl
      · split <;> rfl
  sealInPlace := fun _ _ _ => none
  seal_length := by simp
  openInPlace := fun _ _ _ _ => none
  open_length := by simp

/-- The packet with a sequence number, as it arrives. -/
def heldPacket (high low : UInt8) : PacketBuf :=
  .holding (heldWire high low ((heldTag (heldWire high low [])).take 10)) 64 (by
    have bound := List.length_take_le 10 (heldTag (heldWire high low []))
    simp only [heldWire, List.length_append, List.length_cons, List.length_nil] at bound ⊢
    unfold packetCapacity
    omega)

/-- Packet 0 is accepted, and after packets 30000 and 60000 its bytes are accepted again, at half
a turn and more. -/
theorem heldPacket_apart :
    let later := Mealy.final (authenticateInbound heldCipher (.new .video 1)) .default
      [heldPacket 0 0, heldPacket 117 48, heldPacket 234 96]
    offeredCounter .default (heldPacket 0 0) ≠ offeredCounter later (heldPacket 0 0) ∧
      ∃ highest, later.rtp.highest = some highest ∧
        (offeredCounter .default (heldPacket 0 0)).toNat + 2 ^ 15 ≤ highest.toNat := by
  have apart := accepted_apart heldCipher (.new .video 1) []
    [heldPacket 117 48, heldPacket 234 96] (heldPacket 0 0) (heldPacket 0 0) (by decide +kernel)
    (by decide +kernel)
  obtain ⟨different, late⟩ := apart
  obtain ⟨highest, held, bound⟩ := late rfl
  rw [List.nil_append] at held
  exact ⟨different, highest, held, bound⟩

/-- An adversary who holds packet 0 back until 60000 more have been sent replays it. -/
theorem heldPacket_replayed :
    ¬∀ (cipher : ObfsCipher) (config : ObfsConfig) (before middle : List PacketBuf)
      (first second : PacketBuf), first.asSlice = second.asSlice →
        ¬((authenticateInbound cipher config (Mealy.final (authenticateInbound cipher config)
              .default before) first).2.isSome = true ∧
          (authenticateInbound cipher config (Mealy.final (authenticateInbound cipher config)
              .default (before ++ first :: middle)) second).2.isSome = true) := by
  intro once
  apply once heldCipher (.new .video 1) [] [heldPacket 117 48, heldPacket 234 96]
    (heldPacket 0 0) (heldPacket 0 0) rfl
  constructor
  · decide +kernel
  · decide +kernel

end Focsq.Session
