import Focsq.Backend.Packet

/-!
# Obfuscation as RTP

`obfs.rs` disguises a payload as an RTP packet: a 24-byte header with an extension, the encrypted
payload, an authentication tag and padding. Audio packets are sealed with ChaCha20-Poly1305 and
padded after the tag; video packets are encrypted with AES-CTR, padded, and then authenticated
with a truncated HMAC.

The primitives of the cryptographic crates are a parameter, `ObfsCipher`, and `Lawful` lists what
the code relies on. What a call draws from the random generator and reads from the clock are
arguments of the call.
-/

namespace Focsq.Obfs

open Packet

/-- `ObfsMode` — which kind of RTP stream is imitated. -/
inductive ObfsMode where
  /-- ChaCha20-Poly1305, payload type 111. -/
  | audio
  /-- AES-CTR with HMAC-SHA1, payload type 96. -/
  | video
  deriving DecidableEq, Repr

/-- `ObfsConfig` — constants of one stream. -/
structure ObfsConfig where
  /-- Exclusive bound of the random padding. -/
  paddingMax : Nat
  /-- Synchronisation source. -/
  ssrc : UInt32
  /-- RTP payload type. -/
  payloadType : UInt8
  /-- Kind of the stream. -/
  mode : ObfsMode
  deriving DecidableEq, Repr

/-- `ObfsConfig::new` — the random synchronisation source is an argument. -/
def ObfsConfig.new (mode : ObfsMode) (ssrc : UInt32) : ObfsConfig :=
  match mode with
  | .audio => { paddingMax := 24, ssrc, payloadType := 111, mode }
  | .video => { paddingMax := 60, ssrc, payloadType := 96, mode }

/-- `ObfsState` — counters of one stream; its clock and generator are arguments of the calls. -/
structure ObfsState where
  /-- Packets numbered so far. -/
  count : UInt64
  /-- Random offset of the timestamp. -/
  initialTimestamp : UInt32
  /-- Offset of the absolute send time. -/
  initialAbsSendTime : UInt32
  /-- Random offset of the sequence number. -/
  initialSequence : UInt16
  /-- Next transport sequence number. -/
  transportSequence : UInt16
  deriving DecidableEq, Repr

/-- `ObfsState::next` — number one packet. -/
def ObfsState.next (state : ObfsState) : UInt64 × UInt16 × ObfsState :=
  (state.count, state.transportSequence,
    { state with
      count := state.count + 1
      transportSequence := state.transportSequence + 1 })

/-- `Duration` — elapsed time of the monotonic clock. -/
structure Duration where
  /-- Whole seconds. -/
  secs : UInt64
  /-- Nanoseconds below a second. -/
  nanos : UInt32
  /-- The nanoseconds do not make up a second. -/
  valid : nanos.toNat < 1000000000
  deriving DecidableEq

/-- What one call of `wrap` draws from the random generator. -/
structure Draws (config : ObfsConfig) where
  /-- `random_range(0..padding_max)`, or zero when the range is empty. -/
  paddingRandom : Nat
  /-- The draw is in its range. -/
  inRange : paddingRandom < max config.paddingMax 1
  /-- `random_range(0..5)`, for the marker. -/
  marker : Fin 5
  /-- `fill_bytes` for the padding. -/
  padding : List UInt8
  /-- It fills the random padding. -/
  filled : padding.length = paddingRandom

/-- `ObfsCipher` — the primitives under one key. The in-place ones cannot change a length, and tags
are arrays of a fixed size. -/
structure ObfsCipher where
  /-- `apply_keystream` of AES-128-CTR from an initialisation vector. -/
  applyKeystream : List UInt8 → List UInt8 → List UInt8
  /-- It works in place. -/
  keystream_length : ∀ iv data, (applyKeystream iv data).length = data.length
  /-- HMAC-SHA1. -/
  hmac : List UInt8 → List UInt8
  /-- Its tags have 20 bytes. -/
  hmac_length : ∀ data, (hmac data).length = 20
  /-- ChaCha20-Poly1305: nonce, associated data and plaintext to ciphertext and tag. -/
  sealInPlace : List UInt8 → List UInt8 → List UInt8 → Option (List UInt8 × List UInt8)
  /-- It works in place and its tags have 16 bytes. -/
  seal_length : ∀ nonce aad plaintext ciphertext tag,
    sealInPlace nonce aad plaintext = some (ciphertext, tag) →
      ciphertext.length = plaintext.length ∧ tag.length = 16
  /-- ChaCha20-Poly1305: nonce, associated data, tag and ciphertext to plaintext. -/
  openInPlace : List UInt8 → List UInt8 → List UInt8 → List UInt8 → Option (List UInt8)
  /-- It works in place. -/
  open_length : ∀ nonce aad tag ciphertext plaintext,
    openInPlace nonce aad tag ciphertext = some plaintext → plaintext.length = ciphertext.length

/-- What the code relies on in the primitives. -/
structure ObfsCipher.Lawful (cipher : ObfsCipher) : Prop where
  /-- A stream cipher undoes itself. -/
  keystream_involution : ∀ iv data, cipher.applyKeystream iv (cipher.applyKeystream iv data) = data
  /-- Sealing fails for overlong plaintexts only. -/
  seal_total : ∀ nonce aad plaintext, plaintext.length ≤ packetCapacity →
    (cipher.sealInPlace nonce aad plaintext).isSome
  /-- Opening inverts sealing. -/
  open_seal : ∀ nonce aad plaintext ciphertext tag,
    cipher.sealInPlace nonce aad plaintext = some (ciphertext, tag) →
      cipher.openInPlace nonce aad tag ciphertext = some plaintext

/-- `verify_truncated_left` — the tag is a non-empty left part of the computed one. -/
def verifyTruncatedLeft (computed tag : List UInt8) : Bool :=
  !tag.isEmpty && decide (tag.length ≤ computed.length) && computed.take tag.length == tag

/-- `rtp_clock_rate` — ticks per second of a payload type. -/
def rtpClockRate (payloadType : UInt8) : UInt32 := if payloadType == 96 then 90000 else 48000

/-- `duration_ticks` — ticks of a clock in an elapsed time. -/
def durationTicks (elapsed : Duration) (clockRate : UInt32) : UInt32 :=
  (elapsed.secs * clockRate.toUInt64 +
    elapsed.nanos.toUInt64 * clockRate.toUInt64 / 1000000000).toUInt32

/-- `initial_sequence` — the RTP sequence number of a packet. -/
def rtpSequence (state : ObfsState) (count : UInt64) : UInt16 :=
  state.initialSequence + count.toUInt16

/-- `nonce` — nonce of ChaCha20-Poly1305. -/
def nonce (ssrc : UInt32) (sequence : UInt16) (timestamp : UInt32) : List UInt8 :=
  Bytes.be 4 ssrc.toNat ++ Bytes.be 2 sequence.toNat ++ [0, 0] ++ Bytes.be 4 timestamp.toNat

/-- `srtp_iv` — initialisation vector of AES-CTR. -/
def srtpIv (ssrc : UInt32) (sequence : UInt16) (timestamp : UInt32) : List UInt8 :=
  Bytes.be 4 ssrc.toNat ++ Bytes.be 2 sequence.toNat ++ [0, 0] ++ Bytes.be 4 timestamp.toNat ++
    [0, 0, 0, 0]

/-- Whether the payload type, without the marker, is one of the imitated ones. -/
def knownPayloadType (payloadType : UInt8) : Bool :=
  payloadType == 111 || payloadType == 96 || payloadType == 6

/-- `is_rtp_packet` — whether bytes look like one of the imitated streams. -/
def isRtpPacket (wire : List UInt8) : Bool :=
  decide (13 ≤ wire.length) && (wire[0]?.getD 0 >>> 6 == 2) &&
    knownPayloadType (wire[1]?.getD 0 &&& 0x7f)

/-- What `wrap` writes into the header of one packet. -/
structure Stamp where
  /-- RTP sequence number. -/
  sequence : UInt16
  /-- RTP timestamp. -/
  timestamp : UInt32
  /-- Absolute send time, 24 bits. -/
  absoluteSendTime : UInt32
  /-- Transport sequence number. -/
  transportSequence : UInt16
  deriving DecidableEq, Repr

/-- The numbers and times `wrap` puts on a packet. -/
def stamp (config : ObfsConfig) (state : ObfsState) (elapsed : Duration) : Stamp where
  sequence := rtpSequence state state.count
  timestamp := state.initialTimestamp +
    durationTicks elapsed (rtpClockRate config.payloadType)
  absoluteSendTime := (state.initialAbsSendTime + durationTicks elapsed 262144) &&& 0x00ffffff
  transportSequence := state.transportSequence

/-- The second byte of the header: the payload type, with a marker on some video packets. -/
def markedType (config : ObfsConfig) (marker : Fin 5) : UInt8 :=
  if config.payloadType == 96 && marker == 0 then (config.payloadType &&& 0x7f) ||| 0x80
  else config.payloadType &&& 0x7f

/-- The two header extensions: absolute send time and transport sequence number. -/
def extensions (stamp : Stamp) : List UInt8 :=
  [(0x32 : UInt8), (stamp.absoluteSendTime >>> 16).toUInt8, (stamp.absoluteSendTime >>> 8).toUInt8,
    stamp.absoluteSendTime.toUInt8, 0x51] ++ Bytes.be 2 stamp.transportSequence.toNat ++ [0]

/-- The 24-byte header `wrap` writes. -/
def header (config : ObfsConfig) (stamp : Stamp) (marker : Fin 5) : List UInt8 :=
  [0xb0 ||| 0x20, markedType config marker] ++ Bytes.be 2 stamp.sequence.toNat ++
    Bytes.be 4 stamp.timestamp.toNat ++ Bytes.be 4 config.ssrc.toNat ++
    Bytes.be 2 0xbede ++ Bytes.be 2 2 ++ extensions stamp

/-- The tail of `wrap` for video: encrypt, pad, authenticate. -/
def sealVideo (cipher : ObfsCipher) (packet : PacketBuf) (config : ObfsConfig) (stamp : Stamp)
    (draws : Draws config) (payloadStart payloadEnd : Nat) : Except Failure PacketBuf := do
  let paddingTotal := draws.paddingRandom + 1
  let packet ← packet.extendTail (paddingTotal + 10)
  let payload ← packet.read payloadStart payloadEnd
  let packet ← packet.write payloadStart
    (cipher.applyKeystream (srtpIv config.ssrc stamp.sequence stamp.timestamp) payload)
  let packet ← packet.write payloadEnd draws.padding
  let packet ← packet.write (payloadEnd + paddingTotal - 1) [UInt8.ofNat paddingTotal]
  let tagStart := payloadEnd + paddingTotal
  let signed ← packet.read packet.start tagStart
  packet.write tagStart ((cipher.hmac signed).take 10)

/-- The tail of `wrap` for audio: seal, add the tag, pad. -/
def sealAudio (cipher : ObfsCipher) (packet : PacketBuf) (config : ObfsConfig) (stamp : Stamp)
    (draws : Draws config) (payloadStart payloadEnd : Nat) : Except Failure PacketBuf := do
  let paddingTotal := draws.paddingRandom + 1
  let packet ← packet.extendTail (16 + paddingTotal)
  let aad ← packet.read packet.start payloadStart
  let payload ← packet.read payloadStart payloadEnd
  match cipher.sealInPlace (nonce config.ssrc stamp.sequence stamp.timestamp) aad payload with
  | none => throw (.bail "obfs: chacha encrypt")
  | some (ciphertext, tag) =>
    let packet ← packet.write payloadStart ciphertext
    let packet ← packet.write payloadEnd tag
    let paddingStart := payloadEnd + 16
    let packet ← packet.write paddingStart draws.padding
    packet.write (paddingStart + paddingTotal - 1) [UInt8.ofNat paddingTotal]

/-- The part of `wrap` that changes the packet. -/
def wrapPacket (cipher : ObfsCipher) (packet : PacketBuf) (config : ObfsConfig) (stamp : Stamp)
    (draws : Draws config) : Except Failure PacketBuf := do
  let payloadLen := packet.len
  let paddingTotal := draws.paddingRandom + 1
  let tail := if config.mode = .video then paddingTotal + 10 else paddingTotal + 16
  if packet.start < 24 ∨ packetCapacity < packet.stop + tail then
    throw (.bail "obfs: packet exceeds buffer capacity")
  let packet ← packet.prepend 24
  let packet ← packet.write packet.start (header config stamp draws.marker)
  let payloadStart := packet.start + 24
  let payloadEnd := payloadStart + payloadLen
  if config.mode = .video then sealVideo cipher packet config stamp draws payloadStart payloadEnd
  else sealAudio cipher packet config stamp draws payloadStart payloadEnd

/-- `ObfsCipher::wrap` — the state is numbered on for every packet that is not empty. -/
def ObfsCipher.wrap (cipher : ObfsCipher) (packet : PacketBuf) (config : ObfsConfig)
    (state : ObfsState) (elapsed : Duration) (draws : Draws config) :
    Except Failure PacketBuf × ObfsState :=
  if packet.isEmpty then (.error (.bail "obfs: empty payload"), state)
  else
    (wrapPacket cipher packet config (stamp config state elapsed) draws, state.next.2.2)

/-- The end of the payload without the padding that the last byte before `payloadEnd` counts. -/
def stripPadding (packet : PacketBuf) (headerLen payloadEnd : Nat) (label : String) :
    Except Failure Nat := do
  if (← byteAt packet.storage packet.start) &&& 0x20 != 0 then
    let last ← checkedSub payloadEnd 1
    let padding := (← byteAt packet.storage last).toNat
    let body ← checkedSub payloadEnd packet.start
    let room ← checkedSub body headerLen
    if padding == 0 || decide (room < padding) then
      throw (.bail (label ++ ": invalid padding length " ++ toString padding))
    checkedSub payloadEnd padding
  else return payloadEnd

/-- What `unwrap` reads from the front of a packet. -/
structure RtpHeader where
  /-- Length of the header with its extension. -/
  headerLen : Nat
  /-- Payload type without the marker. -/
  payloadType : UInt8
  /-- RTP sequence number. -/
  sequence : UInt16
  /-- RTP timestamp. -/
  timestamp : UInt32
  /-- Synchronisation source. -/
  ssrc : UInt32
  deriving DecidableEq, Repr

/-- The first part of `unwrap`: the header of the packet. -/
def parseHeader (wire : List UInt8) : Except Failure RtpHeader := do
  if wire.length < 13 then throw (.bail "obfs: not RTP v2")
  let first ← byteAt wire 0
  if first >>> 6 != 2 then throw (.bail "obfs: not RTP v2")
  let payloadType := (← byteAt wire 1) &&& 0x7f
  if !knownPayloadType payloadType then
    throw (.bail ("obfs: unsupported payload type " ++ toString payloadType))
  let sequence := UInt16.ofNat (Bytes.fromBe (← sliceAt wire 2 4))
  let timestamp := UInt32.ofNat (Bytes.fromBe (← sliceAt wire 4 8))
  let ssrc := UInt32.ofNat (Bytes.fromBe (← sliceAt wire 8 12))
  let headerLen ←
    if first &&& 0x10 != 0 then
      if wire.length < 16 then
        throw (.bail "obfs: packet too short for extension header")
      else do
        let words := Bytes.fromBe (← sliceAt wire 14 16)
        pure (12 + (4 + words * 4))
    else pure 12
  if wire.length < headerLen then
    throw (.bail "obfs: packet too short for calculated RTP header")
  return { headerLen, payloadType, sequence, timestamp, ssrc }

/-- The end of `unwrap` for video. -/
def openVideo (cipher : ObfsCipher) (packet : PacketBuf) (head : RtpHeader) :
    Except Failure (PacketBuf × UInt16) := do
  if packet.len < head.headerLen + 10 then
    throw (.bail "obfs srtp: missing authentication tag")
  let tagStart ← checkedSub packet.stop 10
  let signed ← packet.read packet.start tagStart
  let tag ← packet.read tagStart packet.stop
  if !verifyTruncatedLeft (cipher.hmac signed) tag then
    throw (.bail "obfs srtp: authentication failed")
  let payloadEnd ← stripPadding packet head.headerLen tagStart "obfs srtp"
  let payloadStart := packet.start + head.headerLen
  let payload ← packet.read payloadStart payloadEnd
  let packet ← packet.write payloadStart
    (cipher.applyKeystream (srtpIv head.ssrc head.sequence head.timestamp) payload)
  let packet ← packet.setRange payloadStart payloadEnd
  return (packet, head.sequence)

/-- The end of `unwrap` for audio. -/
def openAudio (cipher : ObfsCipher) (packet : PacketBuf) (head : RtpHeader) :
    Except Failure (PacketBuf × UInt16) := do
  if head.payloadType != 111 then throw (.bail "obfs audio: expected payload type 111")
  let payloadEnd ← stripPadding packet head.headerLen packet.stop "obfs"
  let payloadStart := packet.start + head.headerLen
  if payloadEnd ≤ payloadStart + 16 then
    throw (.bail "obfs: empty encrypted payload or missing tag")
  let tagStart ← checkedSub payloadEnd 16
  let tag ← packet.read tagStart payloadEnd
  let aad ← packet.read packet.start payloadStart
  let ciphertext ← packet.read payloadStart tagStart
  match cipher.openInPlace (nonce head.ssrc head.sequence head.timestamp) aad tag ciphertext with
  | none => throw (.bail "obfs: auth (ChaCha20-Poly1305)")
  | some plaintext =>
    let packet ← packet.write payloadStart plaintext
    let packet ← packet.setRange payloadStart tagStart
    return (packet, head.sequence)

/-- `ObfsCipher::unwrap` — the packet becomes its payload; the result is its sequence number. -/
def ObfsCipher.unwrap (cipher : ObfsCipher) (packet : PacketBuf) (mode : ObfsMode) :
    Except Failure (PacketBuf × UInt16) := do
  let head ← parseHeader packet.asSlice
  if mode = .video then openVideo cipher packet head
  else openAudio cipher packet head

end Focsq.Obfs
