import Focsq.Backend.ChannelBatch
import Focsq.Verif.ChannelFrames
import Focsq.Verif.WriterSends

/-!
# A batch is encoded as a whole or not at all

What the first loop looks at decides whether a packet can be encoded, and encoding one packet does
not touch the others. So the second loop never fails, and until it begins nothing is written.
-/

namespace Focsq.Turn

open Effects Packet

section InPlace

/-- Encoding in place leaves the encoded packet, or the packet as it was. -/
theorem from_encodeInPlace (channel : UInt16) (packet : PacketBuf) :
    (encodeInPlace channel).from packet =
      match encodeChannelData packet channel with
      | .ok out => (.ok (), out)
      | .error failure => (.error failure, packet) := by
  unfold encodeInPlace
  rw [from_get_bind, from_fallible_bind]
  cases accepted : channelDataPadding packet channel with
  | error failure =>
    unfold encodeChannelData
    rw [accepted]
    rfl
  | ok padding =>
    obtain ⟨valid, front, back⟩ := channelDataPadding_ok accepted
    obtain ⟨out, encoded, _⟩ := encodeChannelData_eq packet channel valid front back
    rw [encoded]
    unfold encodeChannelData at encoded
    rw [accepted] at encoded
    dsimp only [bind, Except.bind] at encoded
    dsimp only
    rw [from_update_bind]
    cases grown : packet.extendTail padding with
    | error failure =>
      rw [grown] at encoded
      cases encoded
    | ok extended =>
      rw [grown] at encoded
      dsimp only at encoded ⊢
      rw [from_update_bind]
      cases filled : extended.write packet.stop (List.replicate padding 0) with
      | error failure =>
        rw [filled] at encoded
        cases encoded
      | ok padded =>
        rw [filled] at encoded
        dsimp only at encoded ⊢
        rw [from_update_bind]
        cases moved : padded.prepend 4 with
        | error failure =>
          rw [moved] at encoded
          cases encoded
        | ok front =>
          rw [moved] at encoded
          dsimp only at encoded ⊢
          rw [from_update, encoded]

end InPlace

section Batch

/-- A loop that drops its results fails as one that keeps them. -/
theorem forM_discard {ε α β : Type} (step : α → Except ε β) (items : List α) :
    (items.forM fun item => do let _ ← step item) = (items.mapM step).map fun _ => () := by
  induction items with
  | nil => rfl
  | cons item rest ih =>
    rw [List.forM, List.mapM_cons]
    cases step item with
    | error reason => rfl
    | ok result =>
      dsimp only [bind, Except.bind, pure, Except.pure] at ih ⊢
      rw [ih]
      cases rest.mapM step with
      | error reason => rfl
      | ok others => rfl

variable {channel : UInt16}

/-- A packet that can be encoded is encoded. -/
theorem encodeChannelData_valid {packet : PacketBuf} {padding : Nat}
    (accepted : channelDataPadding packet channel = .ok padding) :
    ∃ out, encodeChannelData packet channel = .ok out := by
  obtain ⟨valid, front, back⟩ := channelDataPadding_ok accepted
  obtain ⟨out, encoded, _⟩ := encodeChannelData_eq packet channel valid front back
  exact ⟨out, encoded⟩

/-- If the first loop does not fail, all packets are encoded. -/
theorem mapM_encode {packets : List PacketBuf}
    (validated : validateBatch channel packets = .ok ()) :
    ∃ outs, packets.mapM (encodeChannelData · channel) = .ok outs := by
  unfold validateBatch at validated
  rw [forM_discard] at validated
  cases mapped : packets.mapM (channelDataPadding · channel) with
  | error failure =>
    rw [mapped] at validated
    cases validated
  | ok paddings =>
    apply mapM_total
    have each := forall₂_of_mapM mapped
    clear mapped validated
    induction each with
    | nil =>
      intro packet member
      cases member
    | cons accepted _ ih =>
      intro packet member
      rcases List.mem_cons.mp member with here | later
      · rw [here]
        exact encodeChannelData_valid accepted
      · exact ih packet later

/-- The second loop leaves the encoded packets. -/
theorem iterMut_encode {packets outs : List PacketBuf}
    (encoded : packets.mapM (encodeChannelData · channel) = .ok outs) :
    (iterMut (encodeInPlace channel)).from packets = (.ok (), outs) := by
  apply from_iterMut
  refine (forall₂_of_mapM encoded).imp fun packet out same => ?_
  rw [from_encodeInPlace, same]

/-- Where it stops, nothing is written. -/
theorem encodeBatch_error {refusal : Option String} {packets after : List PacketBuf}
    {failure : Failure}
    (failed : (encodeBatch refusal channel).from packets = (.error failure, after)) :
    after = packets := by
  unfold encodeBatch at failed
  rw [from_get_bind] at failed
  split at failed
  · cases failed
  · cases refusal with
    | some reason =>
      cases failed
      rfl
    | none =>
      dsimp only at failed
      split at failed
      · cases failed
        rfl
      · rw [from_fallible_bind] at failed
        cases validated : validateBatch channel packets with
        | error failure =>
          rw [validated] at failed
          cases failed
          rfl
        | ok =>
          obtain ⟨outs, encoded⟩ := mapM_encode validated
          rw [validated] at failed
          dsimp only at failed
          rw [iterMut_encode encoded] at failed
          cases failed

/-- A batch is encoded as a whole or not at all: whatever it fails for, no packet is touched, and it
fails if one of the packets cannot be encoded; if all can, each becomes a message of its own. -/
theorem encodeBatch_whole (channel : UInt16) (packets : List PacketBuf) :
    (∀ refusal failure after,
        (encodeBatch refusal channel).from packets = (.error failure, after) → after = packets) ∧
      (∀ failure, validateBatch channel packets = .error failure → ∀ refusal, ∃ reason,
        (encodeBatch refusal channel).from packets = (.error reason, packets)) ∧
      (validateBatch channel packets = .ok () → ∃ outs,
        (encodeBatch none channel).from packets = (.ok (), outs) ∧
          List.Forall₂ (fun packet out => (encodeInPlace channel).from packet = (.ok (), out) ∧
            FrameOf channel packet out) packets outs) := by
  refine ⟨fun refusal failure after => encodeBatch_error, ?_, ?_⟩
  · intro failure invalid refusal
    have some : packets.isEmpty = false := by
      cases packets with
      | nil => cases invalid
      | cons packet rest => rfl
    unfold encodeBatch
    rw [from_get_bind, some, if_neg Bool.false_ne_true]
    cases refusal with
    | some reason => exact ⟨_, rfl⟩
    | none =>
      dsimp only
      split
      · exact ⟨_, rfl⟩
      · rw [from_fallible_bind, invalid]
        exact ⟨_, rfl⟩
  · intro validated
    obtain ⟨outs, encoded⟩ := mapM_encode validated
    refine ⟨outs, ?_, ?_⟩
    · unfold encodeBatch
      rw [from_get_bind]
      cases packets with
      | nil =>
        cases encoded
        rfl
      | cons packet rest =>
        have bound : ¬channel = 0 := by
          intro zero
          subst zero
          cases validated
        dsimp only [List.isEmpty_cons]
        rw [if_neg Bool.false_ne_true, if_neg bound, from_fallible_bind, validated]
        exact iterMut_encode encoded
    · refine (forall₂_of_mapM encoded).imp fun packet out same => ⟨?_, encodeChannelData_frame same⟩
      rw [from_encodeInPlace, same]

end Batch

end Focsq.Turn

namespace Focsq.Session

open Effects Turn

variable {config : Obfs.ObfsConfig} (outside : Nat → Input config)

/-- An allocation that is open tells its channel. -/
theorem from_openChannel (writer : TransportWriter) :
    (openChannel outside).from writer =
      match (outside writer.asked).refusal with
      | some reason =>
        (.error (.failed (.bail reason)), { writer with asked := writer.asked + 1 })
      | none =>
        (if (outside writer.asked).channel = 0 then
            .error (.failed (.bail "TURN ChannelBind обязателен"))
          else .ok (outside writer.asked).channel,
          { writer with asked := writer.asked + 1 }) := by
  have asked : (ask outside).from writer =
      (.ok (outside writer.asked), { writer with asked := writer.asked + 1 }) := rfl
  unfold openChannel
  rw [from_bind, asked]
  dsimp only
  cases (outside writer.asked).refusal with
  | some reason => rfl
  | none =>
    dsimp only
    split <;> rfl

/-- What the writer of a session does with its batch: the batch is encoded in place, and then
sent. -/
theorem sendDataBatch_from (writer : TransportWriter) (some : writer.mmsgData.isEmpty = false) :
    (sendDataBatch outside).from writer =
      match (encodeBatch (outside writer.asked).refusal (outside writer.asked).channel).from
        writer.mmsgData with
      | (.ok (), packets) =>
        (sendEncoded outside packets).from { writer with asked := writer.asked + 1 }
      | (.error failure, packets) =>
        (.error (.failed failure),
          { writer with asked := writer.asked + 1, mmsgData := packets }) := by
  generalize input : outside writer.asked = answer
  unfold sendDataBatch encodeBatch
  rw [from_get_bind, from_get_bind, some, if_neg Bool.false_ne_true, if_neg Bool.false_ne_true,
    from_bind, from_openChannel, input]
  cases answer.refusal with
  | some reason => rfl
  | none =>
    dsimp only
    by_cases unbound : answer.channel = 0
    · rw [if_pos unbound, if_pos unbound]
      rfl
    · rw [if_neg unbound, if_neg unbound]
      dsimp only
      unfold Sending.of
      rw [from_fallible_bind, from_fallible_bind]
      cases validated : validateBatch answer.channel writer.mmsgData with
      | error failure =>
        have same := validated
        unfold validateBatch at same
        rw [forM_discard] at same
        cases mapped : writer.mmsgData.mapM (channelDataPadding · answer.channel) with
        | error reason =>
          rw [mapped] at same
          cases same
          rfl
        | ok paddings =>
          rw [mapped] at same
          cases same
      | ok =>
        have same := validated
        unfold validateBatch at same
        rw [forM_discard] at same
        obtain ⟨outs, encoded⟩ := mapM_encode validated
        cases mapped : writer.mmsgData.mapM (channelDataPadding · answer.channel) with
        | error reason =>
          rw [mapped] at same
          cases same
        | ok paddings =>
          dsimp only [Except.mapError]
          rw [from_fallible_bind, encoded, iterMut_encode encoded]

end Focsq.Session
