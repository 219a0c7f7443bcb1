import Focsq.Backend.TurnStream
import Focsq.Lib.Mealy
import Focsq.Verif.Packet

/-!
# Frames of a TURN stream are read as they were sent

The buffer and the reads to come always hold the frames that have not been taken yet, one behind
the other. A buffer that does not hold all of the first one is too short to fill up, so another
read is made; a buffer that does gives it away whole.
-/

namespace Focsq.Turn

open Packet

/-- The length in the header of a frame. -/
def declaredLength (bytes : List UInt8) : Nat := Bytes.fromBe (Bytes.slice bytes 2 4)

/-- A STUN message with a length that a reader takes. -/
structure ControlFormed (bytes : List UInt8) : Prop where
  /-- The type is that of a STUN message. -/
  kind : bytes[0]?.getD 0 &&& 0xc0 = 0
  /-- The header tells the length. -/
  whole : bytes.length = 20 + declaredLength bytes
  /-- Attributes are aligned. -/
  aligned : declaredLength bytes % 4 = 0
  /-- The magic cookie is in its place. -/
  cookie : Bytes.slice bytes 4 8 = [0x21, 0x12, 0xa4, 0x42]
  /-- It is not too long. -/
  bounded : bytes.length ≤ 4096

/-- A ChannelData message with its padding, with a length that a reader takes. -/
structure ChannelFormed (bytes : List UInt8) : Prop where
  /-- The type is that of a channel. -/
  kind : bytes[0]?.getD 0 &&& 0xc0 = 0x40
  /-- The header tells the length of the data. -/
  whole : bytes.length =
    4 + declaredLength bytes + (4 - declaredLength bytes % 4) % 4
  /-- It is not too long. -/
  bounded : bytes.length ≤ 2240

/-- A frame that is sent. -/
inductive WireFrame where
  /-- A STUN message. -/
  | control (bytes : List UInt8) (formed : ControlFormed bytes)
  /-- A ChannelData message. -/
  | channelData (bytes : List UInt8) (formed : ChannelFormed bytes)

/-- The bytes of a frame. -/
def WireFrame.bytes : WireFrame → List UInt8
  | .control bytes _ => bytes
  | .channelData bytes _ => bytes

/-- A frame as its receiver sees it. -/
inductive Delivery where
  /-- A STUN message. -/
  | control (bytes : List UInt8)
  /-- A ChannelData message. -/
  | data (bytes : List UInt8)
  /-- A ChannelData message was dropped. -/
  | dropped
  deriving DecidableEq

/-- What is seen of a frame that was read. -/
def TurnStreamFrame.delivery : TurnStreamFrame → Delivery
  | .control frame => .control frame
  | .data packet => .data packet.asSlice
  | .dataDropped => .dropped

/-- What should be seen of a frame that was sent, if there is a packet for it or not. -/
def WireFrame.delivery : WireFrame → Option PacketBuf → Delivery
  | .control bytes _, _ => .control bytes
  | .channelData bytes _, some _ => .data bytes
  | .channelData _ _, none => .dropped

section Frame

variable {buffer later frame rest : List UInt8}

/-- A buffer and a frame at its front have the same bytes as far as both reach. -/
theorem slice_front (whole : buffer ++ later = frame ++ rest) (start stop : Nat)
    (inBuffer : stop ≤ buffer.length) (inFrame : stop ≤ frame.length) :
    Bytes.slice buffer start stop = Bytes.slice frame start stop := by
  rw [← Bytes.slice_append_left buffer later start stop inBuffer, whole,
    Bytes.slice_append_left frame rest start stop inFrame]

/-- Their first bytes are the same. -/
theorem first_front (whole : buffer ++ later = frame ++ rest) (inBuffer : 0 < buffer.length)
    (inFrame : 0 < frame.length) : buffer[0]? = frame[0]? := by
  rw [← List.getElem?_append_left inBuffer, whole, List.getElem?_append_left inFrame]

/-- The header of a STUN message is recognised once there are eight bytes. -/
theorem frameStart_control (formed : ControlFormed frame)
    (whole : buffer ++ later = frame ++ rest) :
    frameStart buffer =
      .ok (if buffer.length < 8 then none else some (.control frame.length)) := by
  have size := formed.whole
  unfold frameStart
  by_cases short : buffer.length < 4
  · rw [if_pos short, if_pos (by omega)]
  · have first := first_front whole (by omega) (by omega)
    have length := slice_front whole 2 4 (by omega) (by omega)
    have declared : Bytes.fromBe (Bytes.slice frame 2 4) = declaredLength frame := rfl
    have fits : ¬maxControlFrameBytes < 20 + declaredLength frame := by
      rw [← size]
      exact Nat.not_lt.mpr formed.bounded
    rw [if_neg short]
    dsimp only
    rw [first, length, declared, if_pos formed.kind, if_neg (not_not.mpr formed.aligned),
      if_neg fits]
    by_cases few : buffer.length < 8
    · rw [if_pos few, if_pos few]
    · have cookie := slice_front whole 4 8 (by omega) (by omega)
      rw [if_neg few, if_neg few, cookie, if_neg (not_not.mpr formed.cookie), size]

/-- The header of a ChannelData message is recognised once there are four bytes. -/
theorem frameStart_channelData (formed : ChannelFormed frame)
    (whole : buffer ++ later = frame ++ rest) :
    frameStart buffer =
      .ok (if buffer.length < 4 then none
        else some (.channelData (4 + declaredLength frame)
          ((4 - declaredLength frame % 4) % 4))) := by
  have size := formed.whole
  unfold frameStart
  by_cases short : buffer.length < 4
  · rw [if_pos short, if_pos short]
  · have first := first_front whole (by omega) (by omega)
    have length := slice_front whole 2 4 (by omega) (by omega)
    have declared : Bytes.fromBe (Bytes.slice frame 2 4) = declaredLength frame := rfl
    have other : ¬(frame[0]?.getD 0 &&& 0xc0 = 0) := by
      rw [formed.kind]
      decide
    have fits : ¬maxDataFrameBytes <
        4 + declaredLength frame + (4 - declaredLength frame % 4) % 4 := by
      rw [← size]
      exact Nat.not_lt.mpr formed.bounded
    rw [if_neg short, if_neg short]
    dsimp only
    rw [first, length, declared, if_neg other, if_neg (not_not.mpr formed.kind), if_neg fits]

end Frame

/-- A packet takes up what is read, if it is not too long. -/
theorem setReadLen_eq (packet : PacketBuf) (len : Nat)
    (fits : packetHeadroom + len ≤ packetCapacity) :
    ∃ out, packet.setReadLen len = .ok out ∧ out.len = len :=
  ⟨_, dif_pos fits, Nat.add_sub_cancel_left _ _⟩

/-- A packet is overwritten with as many bytes. -/
theorem copyFromSlice_eq (packet : PacketBuf) (data : List UInt8)
    (same : packet.len = data.length) :
    ∃ out, copyFromSlice packet data = .ok out ∧ out.asSlice = data := by
  obtain ⟨out, written, _, _, bytes⟩ := packet.write_eq 0 data (by rw [same, Nat.zero_add])
  refine ⟨out, (if_pos same).trans written, ?_⟩
  have all := Bytes.splice_append_left packet.asSlice [] data
    (same.symm.trans packet.length_asSlice.symm)
  rw [List.append_nil, List.append_nil] at all
  exact bytes.trans all

/-- A packet of the pool takes up a message. -/
theorem copyChannelData_eq (wire : List UInt8) (formed : ChannelFormed wire)
    (acquired : Option PacketBuf) :
    ∃ frame, copyChannelData wire acquired = .ok frame ∧
      frame.delivery = (WireFrame.channelData wire formed).delivery acquired := by
  cases acquired with
  | none => exact ⟨.dataDropped, rfl, rfl⟩
  | some packet =>
    have fits : packetHeadroom + wire.length ≤ packetCapacity :=
      Nat.add_le_add_left formed.bounded 64
    obtain ⟨sized, read, len⟩ := setReadLen_eq packet wire.length fits
    obtain ⟨out, copied, bytes⟩ := copyFromSlice_eq sized wire len
    refine ⟨.data out, ?_, congrArg Delivery.data bytes⟩
    dsimp only [copyChannelData, bind, Except.bind]
    rw [read]
    dsimp only
    rw [copied]
    rfl

/-- A buffer that does not hold all of the first frame waits for more. -/
theorem decodeFrame_short (frame : WireFrame) {buffer later rest : List UInt8}
    (acquired : Option PacketBuf) (whole : buffer ++ later = frame.bytes ++ rest)
    (short : buffer.length < frame.bytes.length) :
    decodeFrame buffer acquired = (.ok none, buffer) := by
  unfold decodeFrame
  cases frame with
  | control bytes formed =>
    rw [frameStart_control formed whole]
    by_cases few : buffer.length < 8
    · rw [if_pos few]
    · rw [if_neg few]
      exact if_pos short
  | channelData bytes formed =>
    rw [frameStart_channelData formed whole]
    by_cases few : buffer.length < 4
    · rw [if_pos few]
    · rw [if_neg few]
      refine if_pos ?_
      rw [← formed.whole]
      exact short

/-- A buffer that holds all of the first frame gives it away. -/
theorem decodeFrame_whole (frame : WireFrame) {buffer later rest : List UInt8}
    (acquired : Option PacketBuf) (whole : buffer ++ later = frame.bytes ++ rest)
    (long : frame.bytes.length ≤ buffer.length) :
    ∃ out, decodeFrame buffer acquired = (.ok (some out), buffer.drop frame.bytes.length) ∧
      out.delivery = frame.delivery acquired := by
  have taken : buffer.take frame.bytes.length = frame.bytes := by
    rw [← List.take_append_of_le_length long, whole, List.take_left]
  unfold decodeFrame
  cases frame with
  | control bytes formed =>
    have size := formed.whole
    change bytes.length ≤ buffer.length at long
    rw [frameStart_control formed whole, if_neg (by omega)]
    exact ⟨.control (buffer.take bytes.length), if_neg (Nat.not_lt.mpr long),
      congrArg Delivery.control taken⟩
  | channelData bytes formed =>
    have size := formed.whole
    change bytes.length ≤ buffer.length at long
    change buffer.take bytes.length = bytes at taken
    obtain ⟨out, copied, delivered⟩ := copyChannelData_eq bytes formed acquired
    rw [frameStart_channelData formed whole, if_neg (by omega)]
    dsimp only
    rw [← size, if_neg (Nat.not_lt.mpr long), taken, copied]
    exact ⟨out, rfl, delivered⟩

/-- No frame is longer than the buffer. -/
theorem WireFrame.length_le (frame : WireFrame) : frame.bytes.length ≤ streamReadBufferBytes := by
  cases frame with
  | control bytes formed => exact formed.bounded
  | channelData bytes formed => exact Nat.le_trans formed.bounded (by decide)

/-- A frame that the buffer holds all of is read without another read. -/
theorem readLoop_whole (frame : WireFrame) (acquired : Option PacketBuf)
    (buffer rest : List UInt8) (reads : List (List UInt8))
    (whole : buffer ++ reads.flatten = frame.bytes ++ rest)
    (long : frame.bytes.length ≤ buffer.length) :
    ∃ out kept, readLoop acquired buffer (reads.map .ok) = (⟨kept, reads.map .ok⟩, .ok out) ∧
      out.delivery = frame.delivery acquired ∧ kept ++ reads.flatten = rest := by
  obtain ⟨out, decoded, delivered⟩ := decodeFrame_whole frame acquired whole long
  refine ⟨out, buffer.drop frame.bytes.length, ?_, delivered, ?_⟩
  · rw [readLoop, decoded]
  · rw [← List.drop_append_of_le_length long, whole, List.drop_left]

/-- The first frame is read, however it was cut, and what follows it is left. -/
theorem readLoop_frame (frame : WireFrame) (acquired : Option PacketBuf)
    (buffer rest : List UInt8) (reads : List (List UInt8)) (filled : ∀ bytes ∈ reads, bytes ≠ [])
    (whole : buffer ++ reads.flatten = frame.bytes ++ rest) :
    ∃ out kept later,
      readLoop acquired buffer (reads.map .ok) = (⟨kept, later.map .ok⟩, .ok out) ∧
      out.delivery = frame.delivery acquired ∧ kept ++ later.flatten = rest ∧ later <:+ reads := by
  induction reads generalizing buffer with
  | nil =>
    have long : frame.bytes.length ≤ buffer.length := by
      have lengths := congrArg List.length whole
      rw [List.flatten_nil, List.append_nil, List.length_append] at lengths
      omega
    obtain ⟨out, kept, read, delivered, left⟩ :=
      readLoop_whole frame acquired buffer rest [] whole long
    exact ⟨out, kept, [], read, delivered, left, List.suffix_rfl⟩
  | cons bytes reads ih =>
    by_cases long : frame.bytes.length ≤ buffer.length
    · obtain ⟨out, kept, read, delivered, left⟩ :=
        readLoop_whole frame acquired buffer rest (bytes :: reads) whole long
      exact ⟨out, kept, bytes :: reads, read, delivered, left, List.suffix_rfl⟩
    · have short := Nat.not_le.mp long
      have room : ¬streamReadBufferBytes ≤ buffer.length :=
        Nat.not_le.mpr (Nat.lt_of_lt_of_le short frame.length_le)
      have more : readLoop acquired buffer ((bytes :: reads).map .ok) =
          readLoop acquired (buffer ++ bytes) (reads.map .ok) := by
        rw [readLoop, decodeFrame_short frame acquired whole short]
        dsimp only
        rw [if_neg room]
        cases bytes with
        | nil => exact absurd rfl (filled [] List.mem_cons_self)
        | cons byte bytes => rfl
      obtain ⟨out, kept, later, read, delivered, left, suffix⟩ := ih (buffer ++ bytes)
        (fun other member => filled other (List.mem_cons_of_mem _ member))
        (by rw [List.append_assoc]; exact whole)
      exact ⟨out, kept, later, more.trans read, delivered, left,
        suffix.trans (List.suffix_cons bytes reads)⟩

/-- Frames are read one by one, with whatever is in the buffer already. -/
theorem readFrame_run (frames : List WireFrame) (pool : List (Option PacketBuf))
    (each : pool.length = frames.length) (buffer : List UInt8) (reads : List (List UInt8))
    (filled : ∀ bytes ∈ reads, bytes ≠ [])
    (whole : buffer ++ reads.flatten = (frames.map WireFrame.bytes).flatten) :
    (Mealy.outputs TurnStreamReader.readFrame ⟨buffer, reads.map .ok⟩ pool).map
        (Except.map TurnStreamFrame.delivery) =
      List.zipWith (fun frame acquired => .ok (frame.delivery acquired)) frames pool ∧
    Mealy.final TurnStreamReader.readFrame ⟨buffer, reads.map .ok⟩ pool = ⟨[], []⟩ := by
  induction frames generalizing pool buffer reads with
  | nil =>
    obtain rfl := List.length_eq_zero_iff.mp each
    obtain ⟨rfl, none⟩ := List.append_eq_nil_iff.mp whole
    cases reads with
    | nil => exact ⟨rfl, rfl⟩
    | cons bytes reads =>
      have empty := List.flatten_eq_nil_iff.mp none bytes List.mem_cons_self
      exact absurd empty (filled bytes List.mem_cons_self)
  | cons frame frames ih =>
    cases pool with
    | nil => cases each
    | cons acquired pool =>
      obtain ⟨out, kept, later, read, delivered, left, suffix⟩ :=
        readLoop_frame frame acquired buffer (frames.map WireFrame.bytes).flatten reads filled whole
      have step : TurnStreamReader.readFrame ⟨buffer, reads.map .ok⟩ acquired =
          (⟨kept, later.map .ok⟩, .ok out) := read
      obtain ⟨outputs, final⟩ := ih pool (Nat.succ.inj each) kept later
        (fun bytes member => filled bytes (suffix.subset member)) left
      rw [Mealy.outputs, Mealy.final, step]
      constructor
      · rw [List.map_cons, outputs, List.zipWith_cons_cons]
        exact congrArg (· :: _) (congrArg Except.ok delivered)
      · exact final

/-- However the stream was cut, every frame that was sent is read, complete, in order and once,
except that a ChannelData message is dropped when there is no packet for it; then everything has
been read. -/
theorem readFrame_exact (frames : List WireFrame) (reads : List (List UInt8))
    (filled : ∀ bytes ∈ reads, bytes ≠ [])
    (cut : reads.flatten = (frames.map WireFrame.bytes).flatten)
    (pool : List (Option PacketBuf)) (each : pool.length = frames.length) :
    (Mealy.outputs TurnStreamReader.readFrame ⟨[], reads.map .ok⟩ pool).map
        (Except.map TurnStreamFrame.delivery) =
      List.zipWith (fun frame acquired => .ok (frame.delivery acquired)) frames pool ∧
    Mealy.final TurnStreamReader.readFrame ⟨[], reads.map .ok⟩ pool = ⟨[], []⟩ :=
  readFrame_run frames pool each [] reads filled cut

/-- A STUN message without attributes. -/
def bareControl : List UInt8 := Bytes.be 20 0x010100002112a442000000000000000000000000

/-- It is well formed. -/
theorem bareControl_formed : ControlFormed bareControl :=
  ⟨by decide, by decide, by decide, by decide, by decide⟩

/-- A ChannelData message with three bytes of data. -/
def paddedData : List UInt8 := Bytes.be 8 0x40000003a1b2c300

/-- It is well formed. -/
theorem paddedData_formed : ChannelFormed paddedData := ⟨by decide, by decide, by decide⟩

/-- A ChannelData message, a STUN message and the same data again, cut within both headers and the
padding, when the pool has a packet for the second data only. -/
theorem paddedData_exact :
    (Mealy.outputs TurnStreamReader.readFrame
      ⟨[], [paddedData.take 3, paddedData.drop 3 ++ bareControl.take 7,
        bareControl.drop 7 ++ paddedData.take 7, [0]].map .ok⟩
      [none, none, some (.holding [] packetHeadroom (by decide))]).map
        (Except.map TurnStreamFrame.delivery) =
      [.ok .dropped, .ok (.control bareControl), .ok (.data paddedData)] :=
  (readFrame_exact
    [.channelData paddedData paddedData_formed, .control bareControl bareControl_formed,
      .channelData paddedData paddedData_formed] _ (by decide) (by decide)
    [none, none, some (.holding [] packetHeadroom (by decide))] rfl).1

end Focsq.Turn
