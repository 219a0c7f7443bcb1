import Mathlib.Data.List.ReduceOption
import Focsq.Lib.Mealy
import Focsq.Verif.RoundTrip

/-!
# Nonces of a session

The nonce of a packet consists of the stream, 16 bits of a packet counter and 32 bits of a clock.
Two packets with the same timestamp, less than 2³² ticks apart, were wrapped in one tick, and
within a tick the counter does not come around as long as fewer than 65536 packets are numbered
in it.
-/

namespace Focsq.Obfs

open Packet

/-- Elapsed time in nanoseconds. -/
def Duration.toNanos (elapsed : Duration) : Nat :=
  elapsed.secs.toNat * 1000000000 + elapsed.nanos.toNat

/-- Ticks of a clock in an elapsed time, as a number without bound. -/
def Duration.ticks (elapsed : Duration) (clockRate : UInt32) : Nat :=
  elapsed.toNanos * clockRate.toNat / 1000000000

/-- The ticks of `duration_ticks` are counted modulo 2³². -/
theorem durationTicks_toNat (elapsed : Duration) (clockRate : UInt32) :
    (durationTicks elapsed clockRate).toNat = elapsed.ticks clockRate % 2 ^ 32 := by
  have valid := elapsed.valid
  have rate := clockRate.toNat_lt
  have small : elapsed.nanos.toNat * clockRate.toNat < 2 ^ 64 := by
    calc elapsed.nanos.toNat * clockRate.toNat ≤ 1000000000 * 2 ^ 32 :=
          Nat.mul_le_mul (Nat.le_of_lt valid) (Nat.le_of_lt rate)
      _ < 2 ^ 64 := by decide
  have split : elapsed.ticks clockRate = elapsed.secs.toNat * clockRate.toNat +
      elapsed.nanos.toNat * clockRate.toNat / 1000000000 := by
    rw [Duration.ticks, Duration.toNanos, Nat.add_mul, Nat.mul_right_comm,
      Nat.add_comm, Nat.add_mul_div_right _ _ (by decide), Nat.add_comm]
  have unit : (1000000000 : UInt64).toNat = 1000000000 := rfl
  rw [split, durationTicks, UInt64.toNat_toUInt32, UInt64.toNat_add, UInt64.toNat_mul,
    UInt64.toNat_div, UInt64.toNat_mul, UInt32.toNat_toUInt64, UInt32.toNat_toUInt64,
    Nat.mod_eq_of_lt small, unit]
  omega

/-- Later times have no fewer ticks. -/
theorem Duration.ticks_mono {first second : Duration} (order : first.toNanos ≤ second.toNanos)
    (clockRate : UInt32) : first.ticks clockRate ≤ second.ticks clockRate :=
  Nat.div_le_div_right (Nat.mul_le_mul_right _ order)

/-- Two packets of a stream are encrypted under different nonces and initialisation vectors. -/
def Apart (ssrc : UInt32) (first second : Stamp) : Prop :=
  nonce ssrc first.sequence first.timestamp ≠ nonce ssrc second.sequence second.timestamp ∧
    srtpIv ssrc first.sequence first.timestamp ≠ srtpIv ssrc second.sequence second.timestamp

/-- Nonces show the sequence number and the timestamp. -/
theorem nonce_inj (ssrc : UInt32) (first second : UInt16) (earlier later : UInt32) :
    nonce ssrc first earlier = nonce ssrc second later ↔ first = second ∧ earlier = later := by
  constructor
  · intro same
    simp only [nonce, List.append_assoc] at same
    have rest := List.append_cancel_left same
    have parts := List.append_inj rest (by rw [Bytes.length_be, Bytes.length_be])
    have sequence := congrArg Bytes.fromBe parts.1
    have timestamp := congrArg Bytes.fromBe (List.append_cancel_left parts.2)
    have firstFits : first.toNat < 256 ^ 2 := first.toNat_lt
    have secondFits : second.toNat < 256 ^ 2 := second.toNat_lt
    have earlierFits : earlier.toNat < 256 ^ 4 := earlier.toNat_lt
    have laterFits : later.toNat < 256 ^ 4 := later.toNat_lt
    rw [Bytes.fromBe_be, Bytes.fromBe_be, Nat.mod_eq_of_lt firstFits,
      Nat.mod_eq_of_lt secondFits] at sequence
    rw [Bytes.fromBe_be, Bytes.fromBe_be, Nat.mod_eq_of_lt earlierFits,
      Nat.mod_eq_of_lt laterFits] at timestamp
    exact ⟨UInt16.toNat_inj.mp sequence, UInt32.toNat_inj.mp timestamp⟩
  · intro same
    rw [same.1, same.2]

/-- Packets are apart when their sequence numbers or their timestamps differ. -/
theorem apart_iff (ssrc : UInt32) (first second : Stamp) :
    Apart ssrc first second ↔
      ¬(first.sequence = second.sequence ∧ first.timestamp = second.timestamp) := by
  have padded : ∀ sequence timestamp, srtpIv ssrc sequence timestamp =
      nonce ssrc sequence timestamp ++ [0, 0, 0, 0] := fun _ _ => rfl
  rw [Apart, padded, padded, ne_eq, ne_eq, List.append_cancel_right_eq, and_self, nonce_inj]

/-- One call of `wrap`: the packet, the time and what is drawn. -/
structure WrapCall (config : ObfsConfig) where
  /-- The packet to wrap. -/
  packet : PacketBuf
  /-- Time since the start of the stream. -/
  elapsed : Duration
  /-- The random draws. -/
  draws : Draws config

section Session

variable (cipher : ObfsCipher) {config : ObfsConfig}

/-- Number of the tick of the timestamp's clock in which a call is made. -/
def WrapCall.tick (call : WrapCall config) : Nat :=
  call.elapsed.ticks (rtpClockRate config.payloadType)

/-- One call in a session: if it succeeds, its tick and what it put on the packet. -/
def wrapCall (state : ObfsState) (call : WrapCall config) : ObfsState × Option (Nat × Stamp) :=
  match cipher.wrap call.packet config state call.elapsed call.draws with
  | (.ok _, later) => (later, some (call.tick, stamp config state call.elapsed))
  | (.error _, later) => (later, none)

/-- What the successful calls of a session put on their packets, with their ticks. -/
def used (state : ObfsState) (calls : List (WrapCall config)) : List (Nat × Stamp) :=
  (Mealy.outputs (wrapCall cipher) state calls).reduceOption

/-- Ticks of the calls on packets that are not empty. -/
def attempts (calls : List (WrapCall config)) : List Nat :=
  (calls.filter (fun call => !call.packet.isEmpty)).map WrapCall.tick

/-- The clock does not go back. -/
def Forward (calls : List (WrapCall config)) : Prop :=
  calls.Pairwise (fun first second => first.elapsed.toNanos ≤ second.elapsed.toNanos)

/-- A call numbers the packet on unless it is empty. -/
theorem wrapCall_state (state : ObfsState) (call : WrapCall config) :
    (wrapCall cipher state call).1 = if call.packet.isEmpty then state else state.next.2.2 := by
  unfold wrapCall ObfsCipher.wrap
  by_cases empty : call.packet.isEmpty = true
  · rw [if_pos empty, if_pos empty]
  · rw [if_neg empty, if_neg empty]
    cases wrapPacket cipher call.packet config (stamp config state call.elapsed) call.draws <;> rfl

/-- What a successful call answers, and that its packet was not empty. -/
theorem wrapCall_some (state : ObfsState) (call : WrapCall config) (entry : Nat × Stamp)
    (wrapped : (wrapCall cipher state call).2 = some entry) :
    call.packet.isEmpty = false ∧ entry = (call.tick, stamp config state call.elapsed) := by
  unfold wrapCall ObfsCipher.wrap at wrapped
  by_cases empty : call.packet.isEmpty = true
  · rw [if_pos empty] at wrapped
    cases wrapped
  · rw [if_neg empty] at wrapped
    refine ⟨Bool.eq_false_of_not_eq_true empty, ?_⟩
    cases result : wrapPacket cipher call.packet config (stamp config state call.elapsed)
        call.draws with
    | error failure =>
      rw [result] at wrapped
      cases wrapped
    | ok out =>
      rw [result] at wrapped
      exact (Option.some.inj wrapped).symm

/-- Numbering one packet on moves its sequence number on. -/
theorem rtpSequence_next (state : ObfsState) :
    rtpSequence state.next.2.2 state.next.2.2.count = rtpSequence state state.count + 1 := by
  show state.initialSequence + (state.count + 1).toUInt16 =
    state.initialSequence + state.count.toUInt16 + 1
  rw [UInt64.toUInt16_add, UInt16.add_assoc]
  rfl

/-- After a run the sequence number is ahead by the number of packets, and the offset of the
timestamp is the same. -/
theorem final_wrapCall (state : ObfsState) (calls : List (WrapCall config)) :
    let later := Mealy.final (wrapCall cipher) state calls
    rtpSequence later later.count =
        rtpSequence state state.count + UInt16.ofNat (attempts calls).length ∧
      later.initialTimestamp = state.initialTimestamp := by
  induction calls generalizing state with
  | nil => exact ⟨(UInt16.add_zero _).symm, rfl⟩
  | cons call rest ih =>
    have here := wrapCall_state cipher state call
    obtain ⟨sequence, timestamp⟩ := ih (wrapCall cipher state call).1
    refine ⟨sequence.trans ?_, timestamp.trans ?_⟩
    · rw [here]
      unfold attempts
      cases empty : call.packet.isEmpty with
      | true => rw [List.filter_cons_of_neg (by simp [empty]), if_pos rfl]
      | false =>
        rw [List.filter_cons_of_pos (by simp [empty]), if_neg (by decide), rtpSequence_next,
          List.map_cons, List.length_cons, UInt16.ofNat_add, UInt16.add_assoc,
          UInt16.add_comm 1]
        rfl
    · rw [here]
      split <;> rfl

/-- The attempts of two runs. -/
theorem attempts_append (first second : List (WrapCall config)) :
    attempts (first ++ second) = attempts first ++ attempts second := by
  rw [attempts, List.filter_append, List.map_append]
  rfl

/-- An attempt comes first in its run. -/
theorem attempts_cons (call : WrapCall config) (rest : List (WrapCall config))
    (nonempty : call.packet.isEmpty = false) :
    attempts (call :: rest) = call.tick :: attempts rest := by
  rw [attempts, List.filter_cons_of_pos (by simp [nonempty]), List.map_cons]
  rfl

/-- Equal attempts. -/
theorem attempts_replicate (call : WrapCall config) (count : Nat)
    (nonempty : call.packet.isEmpty = false) :
    attempts (List.replicate count call) = List.replicate count call.tick := by
  rw [attempts, List.filter_replicate, if_pos (by simp [nonempty]), List.map_replicate]

/-- A successful call of a session is one of its calls, in the state the calls before it lead
to. -/
theorem exists_of_mem_used (state : ObfsState) (calls : List (WrapCall config))
    (entry : Nat × Stamp) (member : entry ∈ used cipher state calls) :
    ∃ middle call after, calls = middle ++ call :: after ∧ call.packet.isEmpty = false ∧
      entry = (call.tick,
        stamp config (Mealy.final (wrapCall cipher) state middle) call.elapsed) := by
  induction calls generalizing state with
  | nil => cases member
  | cons call rest ih =>
    unfold used at member
    rw [Mealy.outputs] at member
    cases wrapped : (wrapCall cipher state call).2 with
    | none =>
      rw [wrapped, List.reduceOption_cons_of_none] at member
      obtain ⟨middle, later, after, rfl, numbered, is⟩ := ih _ member
      exact ⟨call :: middle, later, after, rfl, numbered, is⟩
    | some first =>
      rw [wrapped, List.reduceOption_cons_of_some] at member
      cases List.mem_cons.mp member with
      | inl same =>
        obtain ⟨numbered, is⟩ := wrapCall_some cipher state call first wrapped
        exact ⟨[], call, rest, rfl, numbered, same.trans is⟩
      | inr later =>
        obtain ⟨middle, call', after, rfl, numbered, is⟩ := ih _ later
        exact ⟨call :: middle, call', after, rfl, numbered, is⟩

/-- Between two calls of one tick every call is of that tick. -/
theorem Forward.between {first second : WrapCall config} {middle after : List (WrapCall config)}
    (forward : Forward (first :: (middle ++ second :: after))) (same : first.tick = second.tick) :
    ∀ call ∈ first :: (middle ++ [second]), call.tick = first.tick := by
  obtain ⟨least, rest⟩ := List.pairwise_cons.mp forward
  obtain ⟨_, _, order⟩ := List.pairwise_append.mp rest
  intro call member
  have low : ∀ call ∈ middle ++ second :: after, first.tick ≤ call.tick :=
    fun call member => Duration.ticks_mono (least call member) _
  cases List.mem_cons.mp member with
  | inl here => rw [here]
  | inr later =>
    cases List.mem_append.mp later with
    | inl inside =>
      have high : call.tick ≤ second.tick :=
        Duration.ticks_mono (order call inside second List.mem_cons_self) _
      have bottom := low call (List.mem_append_left _ inside)
      omega
    | inr last => rw [List.mem_singleton.mp last, same]

/-- Of two successful calls whose ticks are less than 2³² apart, the second one uses another nonce
and another initialisation vector. -/
theorem apart_of_sparse (state : ObfsState) (first second : WrapCall config)
    (middle after : List (WrapCall config)) (firstNumbered : first.packet.isEmpty = false)
    (secondNumbered : second.packet.isEmpty = false)
    (forward : Forward (first :: (middle ++ second :: after)))
    (sparse : (attempts (first :: (middle ++ second :: after))).count first.tick < 65536)
    (near : second.tick < first.tick + 2 ^ 32) :
    Apart config.ssrc (stamp config state first.elapsed)
      (stamp config (Mealy.final (wrapCall cipher) state (first :: middle)) second.elapsed) := by
  rw [apart_iff]
  intro ⟨sameSequence, sameTimestamp⟩
  obtain ⟨sequence, timestamp⟩ := final_wrapCall cipher state (first :: middle)
  have order : first.tick ≤ second.tick := by
    apply Duration.ticks_mono
    exact (List.pairwise_cons.mp forward).1 _
      (List.mem_append_right _ List.mem_cons_self)
  -- the timestamps agree modulo 2³², so the two calls are made in one tick
  have ticks : first.tick = second.tick := by
    simp only [stamp, timestamp] at sameTimestamp
    have low := congrArg UInt32.toNat ((UInt32.add_right_inj _).mp sameTimestamp)
    rw [durationTicks_toNat, durationTicks_toNat] at low
    change first.tick % 2 ^ 32 = second.tick % 2 ^ 32 at low
    omega
  -- every call from the first to the second one is made in it, so the counter has moved on by
  -- less than a turn
  have inside := forward.between ticks
  have all : (attempts (first :: (middle ++ [second]))).count first.tick =
      (attempts (first :: (middle ++ [second]))).length := by
    apply List.count_eq_length.mpr
    intro tick member
    obtain ⟨call, kept, rfl⟩ := List.mem_map.mp member
    exact (inside call (List.mem_filter.mp kept).1).symm
  have last : attempts [second] = [second.tick] := attempts_cons second [] secondNumbered
  have whole : first :: (middle ++ second :: after) = (first :: (middle ++ [second])) ++ after := by
    rw [List.cons_append, List.append_assoc, List.singleton_append]
  have length : (attempts (first :: (middle ++ [second]))).length =
      (attempts (first :: middle)).length + 1 := by
    rw [← List.cons_append, attempts_append, last, List.length_append, List.length_singleton]
  have some : 0 < (attempts (first :: middle)).length := by
    rw [attempts_cons first middle firstNumbered]
    exact Nat.succ_pos _
  rw [whole, attempts_append, List.count_append, all, length] at sparse
  have turned : UInt16.ofNat (attempts (first :: middle)).length = 0 := by
    have moved : rtpSequence state state.count =
        rtpSequence state state.count + UInt16.ofNat (attempts (first :: middle)).length :=
      sameSequence.trans sequence
    have still : rtpSequence state state.count + 0 =
        rtpSequence state state.count + UInt16.ofNat (attempts (first :: middle)).length :=
      (UInt16.add_zero _).trans moved
    exact ((UInt16.add_right_inj _).mp still).symm
  have value := congrArg UInt16.toNat turned
  rw [UInt16.toNat_ofNat'] at value
  change (attempts (first :: middle)).length % 2 ^ 16 = 0 at value
  omega

/-- In a session whose clock does not go back, with fewer than 65536 attempts in each tick, no two
successful calls less than 2³² ticks apart use the same nonce or initialisation vector. -/
theorem used_apart (state : ObfsState) (calls : List (WrapCall config)) (forward : Forward calls)
    (sparse : ∀ tick, (attempts calls).count tick < 65536) :
    (used cipher state calls).Pairwise (fun first second =>
      second.1 < first.1 + 2 ^ 32 → Apart config.ssrc first.2 second.2) := by
  induction calls generalizing state with
  | nil => exact List.Pairwise.nil
  | cons call rest ih =>
    have later := ih (wrapCall cipher state call).1 (List.pairwise_cons.mp forward).2 (by
      intro tick
      have whole := sparse tick
      rw [← List.singleton_append, attempts_append, List.count_append] at whole
      omega)
    unfold used at later ⊢
    rw [Mealy.outputs]
    cases wrapped : (wrapCall cipher state call).2 with
    | none => exact later
    | some entry =>
      rw [List.reduceOption_cons_of_some, List.pairwise_cons]
      refine ⟨?_, later⟩
      obtain ⟨numbered, rfl⟩ := wrapCall_some cipher state call entry wrapped
      intro other member near
      obtain ⟨middle, second, after, rfl, secondNumbered, rfl⟩ :=
        exists_of_mem_used cipher _ rest other member
      exact apart_of_sparse cipher state call second middle after numbered secondNumbered forward
        (sparse call.tick) near

end Session

/-- The request of the wire fixture sealed once more, as the next packet of its stream. -/
def repeatedSealing : Sealing where
  nonce := Bytes.be 12 0x102030407789000011223344
  aad := Bytes.be 24 0xb06f77891122334410203040bede0002325566775199ab00
  plaintext := getconfSealing.plaintext
  ciphertext :=
    Bytes.be 36 0xd657f6f318549a3f041ba8c237cb969965d58de4d25348a0a9d183e5d6acbba0861d1f17 ++
      Bytes.be 33 0x9598cf3dd9b2af4ac9cbbbcbb37cceaea775e899b06fb6a3698d1f15182e469f5d
  tag := Bytes.be 16 0x457b330398cbb9cb92f340d7b66b9334
  cipherLength := by decide
  tagLength := Bytes.length_be _ _

/-- The call that sends the request. -/
def getconfCall : WrapCall (.new .audio 0x10203040) where
  packet := getconfPacket
  elapsed := .zero
  draws := .least _

/-- The request is sent twice in one tick, under two nonces. -/
theorem getconf_apart :
    ∃ first second, used (recorded [getconfSealing, repeatedSealing]) getconfState
        [getconfCall, getconfCall] = [first, second] ∧ Apart 0x10203040 first.2 second.2 := by
  have run : used (recorded [getconfSealing, repeatedSealing]) getconfState
      [getconfCall, getconfCall] =
        [(0, stamp (.new .audio 0x10203040) getconfState .zero),
          (0, stamp (.new .audio 0x10203040) getconfState.next.2.2 .zero)] := by decide +kernel
  have forward : Forward [getconfCall, getconfCall] := by
    unfold Forward
    exact List.pairwise_pair.mpr (Nat.le_refl _)
  have sparse : ∀ tick, (attempts [getconfCall, getconfCall]).count tick < 65536 := by
    intro tick
    have most : (attempts [getconfCall, getconfCall]).count tick ≤ 2 := List.count_le_length
    exact Nat.lt_of_le_of_lt most (by decide)
  have apart := used_apart (recorded [getconfSealing, repeatedSealing]) getconfState
    [getconfCall, getconfCall] forward sparse
  rw [run] at apart
  refine ⟨_, _, run, ?_⟩
  exact List.pairwise_pair.mp apart (by decide)

section Turn

variable (cipher : ObfsCipher) {config : ObfsConfig}

/-- The successful calls of two runs. -/
theorem used_append (state : ObfsState) (first second : List (WrapCall config)) :
    used cipher state (first ++ second) =
      used cipher state first ++
        used cipher (Mealy.final (wrapCall cipher) state first) second := by
  rw [used, Mealy.outputs_append, List.reduceOption_append]
  rfl

/-- A run of one successful call. -/
theorem used_single (state : ObfsState) (call : WrapCall config) (entry : Nat × Stamp)
    (wrapped : (wrapCall cipher state call).2 = some entry) :
    used cipher state [call] = [entry] := by
  rw [used, Mealy.outputs, wrapped, List.reduceOption_cons_of_some]
  rfl

/-- Two calls of equal timestamps with a whole turn of the counter between them use the same nonce
and the same initialisation vector. -/
theorem used_turn (state : ObfsState) (first second : WrapCall config)
    (middle : List (WrapCall config))
    (firstWraps : ∀ state, (wrapCall cipher state first).2 =
      some (first.tick, stamp config state first.elapsed))
    (secondWraps : ∀ state, (wrapCall cipher state second).2 =
      some (second.tick, stamp config state second.elapsed))
    (turn : (attempts (first :: middle)).length = 65536)
    (ticks : first.tick % 2 ^ 32 = second.tick % 2 ^ 32) :
    ∃ earlier later, ¬Apart config.ssrc earlier later ∧
      used cipher state (first :: (middle ++ [second])) = (first.tick, earlier) ::
        (used cipher (wrapCall cipher state first).1 middle ++ [(second.tick, later)]) := by
  obtain ⟨sequence, timestamp⟩ := final_wrapCall cipher state (first :: middle)
  refine ⟨stamp config state first.elapsed,
    stamp config (Mealy.final (wrapCall cipher) state (first :: middle)) second.elapsed, ?_, ?_⟩
  · rw [apart_iff, not_not]
    constructor
    · rw [turn] at sequence
      exact (UInt16.add_zero _).symm.trans sequence.symm
    · simp only [stamp, timestamp]
      apply (UInt32.add_right_inj _).mpr
      rw [← UInt32.toNat_inj, durationTicks_toNat, durationTicks_toNat]
      exact ticks
  · rw [← List.singleton_append, used_append, used_append,
      used_single cipher _ _ _ (firstWraps state),
      used_single cipher _ _ _ (secondWraps _)]
    rfl

/-- A run of calls with the same answer. -/
theorem used_replicate (state : ObfsState) (call : WrapCall config) (count : Nat)
    (fails : ∀ state, (wrapCall cipher state call).2 = none) :
    used cipher state (List.replicate count call) = [] := by
  induction count generalizing state with
  | zero => rfl
  | succ count ih =>
    have rest := ih (wrapCall cipher state call).1
    unfold used at rest ⊢
    rw [List.replicate_succ, Mealy.outputs, fails, List.reduceOption_cons_of_none, rest]

/-- A video packet with room is wrapped in every state. -/
theorem wrapCall_video (video : config.mode = .video) (call : WrapCall config)
    (nonempty : call.packet.isEmpty = false) (room : Roomy call.packet config call.draws)
    (state : ObfsState) :
    (wrapCall cipher state call).2 = some (call.tick, stamp config state call.elapsed) := by
  have said : wireOf cipher config (stamp config state call.elapsed) call.draws
      call.packet.asSlice = some (videoWire cipher config (stamp config state call.elapsed)
        call.draws call.packet.asSlice) := if_pos video
  obtain ⟨out, wrapped, _⟩ := wrapPacket_eq cipher call.packet config
    (stamp config state call.elapsed) call.draws room _ said
  rw [wrapCall, ObfsCipher.wrap, nonempty, if_neg (by decide), wrapped]

/-- A packet without room is refused in every state. -/
theorem wrapCall_refused (call : WrapCall config) (nonempty : call.packet.isEmpty = false)
    (tight : ¬Roomy call.packet config call.draws) (state : ObfsState) :
    (wrapCall cipher state call).2 = none := by
  rw [wrapCall, ObfsCipher.wrap, nonempty, if_neg (by decide)]
  cases result : wrapPacket cipher call.packet config (stamp config state call.elapsed)
      call.draws with
  | error failure => rfl
  | ok out => exact absurd (wrapPacket_roomy _ _ _ _ _ _ result) tight

/-- A call, equal calls, and another call, in the order of time. -/
theorem forward_run (first call last : WrapCall config) (count : Nat)
    (start : first.elapsed.toNanos ≤ call.elapsed.toNanos)
    (stop : call.elapsed.toNanos ≤ last.elapsed.toNanos) :
    Forward (first :: (List.replicate count call ++ [last])) := by
  unfold Forward
  rw [List.pairwise_cons, List.pairwise_append]
  refine ⟨?_, ?_, List.pairwise_singleton _ _, ?_⟩
  · intro other member
    cases List.mem_append.mp member with
    | inl inside => rw [List.eq_of_mem_replicate inside]; exact start
    | inr end' => rw [List.mem_singleton.mp end']; exact Nat.le_trans start stop
  · exact List.pairwise_replicate.mpr (Or.inr (Nat.le_refl _))
  · intro other inside other' end'
    rw [List.eq_of_mem_replicate inside, List.mem_singleton.mp end']
    exact stop

end Turn

/-- A call with one byte of video data, at some place in the buffer and some time. -/
def videoCall (place : Nat) (fits : place + 1 ≤ packetCapacity) (elapsed : Duration) :
    WrapCall (.new .video 1) where
  packet := .holding [0] place fits
  elapsed := elapsed
  draws := .least _

/-- A call with headroom, which succeeds in every state. -/
def roomyCall (elapsed : Duration) : WrapCall (.new .video 1) :=
  videoCall packetHeadroom (by decide) elapsed

/-- With headroom every call succeeds. -/
theorem roomyCall_succeeds (elapsed : Duration) (state : ObfsState) :
    (wrapCall (recorded []) state (roomyCall elapsed)).2 =
      some ((roomyCall elapsed).tick, stamp (.new .video 1) state (roomyCall elapsed).elapsed) := by
  apply wrapCall_video
  · rfl
  · rfl
  · show 24 ≤ 64 ∧ 65 + 11 ≤ 2304
    decide

/-- A call without headroom, which fails in every state. -/
def tightCall : WrapCall (.new .video 1) := videoCall 0 (by decide) .zero

/-- Without headroom every call fails. -/
theorem tightCall_fails (state : ObfsState) :
    (wrapCall (recorded []) state tightCall).2 = none := by
  apply wrapCall_refused
  · rfl
  · intro room
    have front : 24 ≤ 0 := room.1
    omega

/-- The first second of a session. -/
def oneSecond : Duration := .fromSecs 1

/-- When the timestamp has come round at 90 kHz, after a good thirteen hours. -/
def fullTurn : Duration := ⟨47721, 858844445, by decide⟩

/-- The state of a stream that starts at zero. -/
def zeroState : ObfsState := ⟨0, 0, 0, 0, 0⟩

/-- A list of ticks has fewer than 65536 entries of each tick. -/
def Sparse (ticks : List Nat) : Prop := ∀ tick, ticks.count tick < 65536

/-- The timestamp comes round after 2³² ticks, and a refused packet takes a number all the same: in
sessions with these the same nonce is used twice. -/
theorem nonces_come_round :
    (¬∀ (cipher : ObfsCipher) (config : ObfsConfig) (state : ObfsState)
      (calls : List (WrapCall config)), Forward calls →
        Sparse ((used cipher state calls).map Prod.fst) →
          (used cipher state calls).Pairwise (fun first second =>
            Apart config.ssrc first.2 second.2)) ∧
    (¬∀ (cipher : ObfsCipher) (config : ObfsConfig) (state : ObfsState)
      (calls : List (WrapCall config)), Forward calls → Sparse (attempts calls) →
          (used cipher state calls).Pairwise (fun first second =>
            Apart config.ssrc first.2 second.2)) ∧
    ¬∀ (cipher : ObfsCipher) (config : ObfsConfig) (state : ObfsState)
      (calls : List (WrapCall config)), Forward calls →
        Sparse ((used cipher state calls).map Prod.fst) →
          (used cipher state calls).Pairwise (fun first second =>
            second.1 < first.1 + 2 ^ 32 → Apart config.ssrc first.2 second.2) := by
  have refused : ¬∀ (cipher : ObfsCipher) (config : ObfsConfig) (state : ObfsState)
      (calls : List (WrapCall config)), Forward calls →
        Sparse ((used cipher state calls).map Prod.fst) →
          (used cipher state calls).Pairwise (fun first second =>
            second.1 < first.1 + 2 ^ 32 → Apart config.ssrc first.2 second.2) := by
    intro never
    have turn : (attempts (roomyCall .zero :: List.replicate 65535 tightCall)).length = 65536 := by
      rw [attempts_cons _ _ rfl, attempts_replicate _ _ rfl, List.length_cons,
        List.length_replicate]
    obtain ⟨earlier, later, same, run⟩ := used_turn (recorded []) zeroState (roomyCall .zero)
      (roomyCall .zero) (List.replicate 65535 tightCall) (roomyCall_succeeds .zero)
      (roomyCall_succeeds .zero) turn rfl
    rw [used_replicate _ _ _ _ tightCall_fails, List.nil_append] at run
    have apart := never (recorded []) _ zeroState _
      (forward_run (roomyCall .zero) tightCall (roomyCall .zero) 65535 (by decide) (by decide))
    rw [run] at apart
    have two : Sparse (List.map Prod.fst
        [((roomyCall .zero).tick, earlier), ((roomyCall .zero).tick, later)]) := by
      intro tick
      have most : [(roomyCall .zero).tick, (roomyCall .zero).tick].count tick ≤ 2 :=
        List.count_le_length
      exact Nat.lt_of_le_of_lt most (by decide)
    have pair := (List.pairwise_cons.mp (apart two)).1 _ (List.mem_singleton.mpr rfl)
    exact same (pair (Nat.lt_add_of_pos_right (by decide)))
  refine ⟨?_, ?_, refused⟩
  · intro never
    apply refused
    intro cipher config state calls forward sparse
    apply List.Pairwise.imp _ (never cipher config state calls forward sparse)
    intro first second apart _
    exact apart
  · intro never
    have turn : (attempts (roomyCall .zero ::
        List.replicate 65535 (roomyCall oneSecond))).length = 65536 := by
      rw [attempts_cons _ _ rfl, attempts_replicate _ _ rfl, List.length_cons,
        List.length_replicate]
    obtain ⟨earlier, later, same, run⟩ := used_turn (recorded []) zeroState (roomyCall .zero)
      (roomyCall fullTurn) (List.replicate 65535 (roomyCall oneSecond))
      (roomyCall_succeeds .zero) (roomyCall_succeeds fullTurn) turn (by decide)
    have sparse : Sparse (attempts (roomyCall .zero ::
        (List.replicate 65535 (roomyCall oneSecond) ++ [roomyCall fullTurn]))) := by
      intro tick
      have zero : (roomyCall .zero).tick = 0 := by decide
      have one : (roomyCall oneSecond).tick = 90000 := by decide
      have turned : (roomyCall fullTurn).tick = 4294967296 := by decide
      rw [attempts_cons _ _ rfl, attempts_append, attempts_replicate _ _ rfl,
        attempts_cons _ _ rfl, zero, one, turned, List.count_cons, List.count_append,
        List.count_replicate, List.count_cons]
      simp only [beq_iff_eq, attempts, List.filter_nil, List.map_nil, List.count_nil]
      split <;> split <;> split <;> omega
    have apart := never (recorded []) _ zeroState _ (forward_run (roomyCall .zero)
      (roomyCall oneSecond) (roomyCall fullTurn) 65535 (by decide) (by decide)) sparse
    rw [run] at apart
    generalize used (recorded []) (wrapCall (recorded []) zeroState (roomyCall .zero)).1
      (List.replicate 65535 (roomyCall oneSecond)) = between at apart
    have last : ((roomyCall fullTurn).tick, later) ∈
        between ++ [((roomyCall fullTurn).tick, later)] := by simp
    have pair := (List.pairwise_cons.mp apart).1 _ last
    exact same pair

end Focsq.Obfs
