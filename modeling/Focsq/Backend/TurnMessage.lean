import Focsq.Backend.StunCodec

/-!
# TURN messages

The parts of `turn_core.rs` that build requests and read responses: attributes, addresses
combined with the magic cookie, the key of the long-term credentials and MESSAGE-INTEGRITY.

The digests of the cryptographic crates are a parameter, `Digests`.
-/

namespace Focsq.Turn

open Stun

/-- `RESULT_BUFFER_TOO_SMALL`. -/
def resultBufferTooSmall : Int := -2
/-- `RESULT_INVALID_ARGUMENT`. -/
def resultInvalidArgument : Int := -3
/-- `RESULT_CLOSED`. -/
def resultClosed : Int := -4
/-- `RESULT_NOT_CONTROL`. -/
def resultNotControl : Int := -5
/-- `RESULT_TIMEOUT`. -/
def resultTimeout : Int := -6
/-- `RESULT_AUTHENTICATION`. -/
def resultAuthentication : Int := -7
/-- `RESULT_PROTOCOL`. -/
def resultProtocol : Int := -8

/-- `ATTR_USERNAME`. -/
def attrUsername : UInt16 := 0x0006
/-- `ATTR_MESSAGE_INTEGRITY`. -/
def attrMessageIntegrity : UInt16 := 0x0008
/-- `ATTR_ERROR_CODE`. -/
def attrErrorCode : UInt16 := 0x0009
/-- `ATTR_CHANNEL_NUMBER`. -/
def attrChannelNumber : UInt16 := 0x000c
/-- `ATTR_LIFETIME`. -/
def attrLifetime : UInt16 := 0x000d
/-- `ATTR_XOR_PEER_ADDRESS`. -/
def attrXorPeerAddress : UInt16 := 0x0012
/-- `ATTR_REALM`. -/
def attrRealm : UInt16 := 0x0014
/-- `ATTR_NONCE`. -/
def attrNonce : UInt16 := 0x0015
/-- `ATTR_XOR_RELAYED_ADDRESS`. -/
def attrXorRelayedAddress : UInt16 := 0x0016
/-- `ATTR_REQUESTED_ADDRESS_FAMILY`. -/
def attrRequestedAddressFamily : UInt16 := 0x0017
/-- `ATTR_REQUESTED_TRANSPORT`. -/
def attrRequestedTransport : UInt16 := 0x0019

/-- The digests of the cryptographic crates. -/
structure Digests where
  /-- MD5. -/
  md5 : List UInt8 → Bytes.Octets 16
  /-- HMAC-SHA1: key and data. -/
  hmac : Bytes.Octets 16 → List UInt8 → Bytes.Octets 20
  /-- `crc32fast::hash`. -/
  crc32 : List UInt8 → UInt32

/-- `IpAddr` — an address of either family. -/
inductive IpAddr where
  /-- IPv4. -/
  | v4 (octets : Bytes.Octets 4)
  /-- IPv6. -/
  | v6 (octets : Bytes.Octets 16)
  deriving DecidableEq

/-- `SocketAddr` — an address and a port; an IPv6 address has flow information and a scope. -/
inductive SocketAddr where
  /-- IPv4. -/
  | v4 (octets : Bytes.Octets 4) (port : UInt16)
  /-- IPv6. -/
  | v6 (octets : Bytes.Octets 16) (port : UInt16) (flowinfo scopeId : UInt32)
  deriving DecidableEq

/-- `SocketAddr::new` — without flow information and scope. -/
def SocketAddr.new (ip : IpAddr) (port : UInt16) : SocketAddr :=
  match ip with
  | .v4 octets => .v4 octets port
  | .v6 octets => .v6 octets port 0 0

/-- `ip`. -/
def SocketAddr.ip : SocketAddr → IpAddr
  | .v4 octets _ => .v4 octets
  | .v6 octets _ _ _ => .v6 octets

/-- `port`. -/
def SocketAddr.port : SocketAddr → UInt16
  | .v4 _ port => port
  | .v6 _ port _ _ => port

/-- `is_ipv4` — family of an address. -/
def SocketAddr.isIpv4 : SocketAddr → Bool
  | .v4 _ _ => true
  | .v6 _ _ _ _ => false

/-- `encode_xor_address` — an address combined with the cookie and the transaction. -/
def encodeXorAddress (address : SocketAddr) (transaction : Bytes.Octets 12) : List UInt8 :=
  [(0 : UInt8), if address.isIpv4 then 1 else 2] ++
    Bytes.be 2 (address.port ^^^ (magicCookie >>> 16).toUInt16).toNat ++
    match address.ip with
    | .v4 octets => Bytes.be 4 (UInt32.ofNat (Bytes.fromBe octets.val) ^^^ magicCookie).toNat
    | .v6 octets =>
      List.zipWith (· ^^^ ·) octets.val (Bytes.be 4 magicCookie.toNat ++ transaction.val)

/-- `decode_xor_address`. -/
def decodeXorAddress (value : List UInt8) (transaction : Bytes.Octets 12) :
    Except Failure SocketAddr :=
  if value.length < 4 || value[0]?.getD 0 != 0 then
    .error (.bail "TURN XOR address is malformed")
  else
    let port := u16At value 2 ^^^ (magicCookie >>> 16).toUInt16
    if value[1]?.getD 0 = 1 ∧ value.length = 8 then
      let encoded := UInt32.ofNat (Bytes.fromBe (Bytes.slice value 4 8))
      .ok (.new (.v4 (.ofList (Bytes.be 4 (encoded ^^^ magicCookie).toNat))) port)
    else if value[1]?.getD 0 = 2 ∧ value.length = 20 then
      let mask := Bytes.be 4 magicCookie.toNat ++ transaction.val
      .ok (.new (.v6 (.ofList (List.zipWith (· ^^^ ·) (Bytes.slice value 4 20) mask))) port)
    else .error (.bail "TURN XOR address family is invalid")

/-- `MessageBuilder` — a request under construction. -/
structure MessageBuilder where
  /-- What has been written. -/
  bytes : List UInt8
  /-- Transaction identifier. -/
  transaction : Bytes.Octets 12

/-- `set_message_length` — write the length of the attributes and of what is still to come. -/
def setMessageLength (bytes : List UInt8) (trailing : Nat) : Except Failure (List UInt8) := do
  let written ← checkedSub bytes.length 20
  if 65535 < written + trailing then throw (.bail "STUN message too large for u16 length")
  return Bytes.splice bytes 2 (Bytes.be 2 (written + trailing))

/-- `MessageBuilder::with_transaction` — the header, without a length. -/
def MessageBuilder.withTransaction (kind : UInt16) (transaction : Bytes.Octets 12) :
    MessageBuilder where
  bytes := Bytes.be 2 kind.toNat ++ Bytes.be 2 0 ++ Bytes.be 4 magicCookie.toNat ++ transaction.val
  transaction := transaction

/-- `MessageBuilder::attribute` — write an attribute and its padding. -/
def MessageBuilder.attribute (builder : MessageBuilder) (kind : UInt16) (value : List UInt8) :
    MessageBuilder :=
  let bytes := builder.bytes ++ Bytes.be 2 kind.toNat ++
    Bytes.be 2 (UInt16.ofNat value.length).toNat ++ value
  { builder with bytes := bytes ++ List.replicate ((4 - bytes.length % 4) % 4) 0 }

/-- `MessageBuilder::xor_address` — write an address attribute. -/
def MessageBuilder.xorAddress (builder : MessageBuilder) (kind : UInt16) (address : SocketAddr) :
    MessageBuilder :=
  builder.attribute kind (encodeXorAddress address builder.transaction)

/-- `MessageBuilder::finish` — write the fingerprint. -/
def MessageBuilder.finish (digests : Digests) (builder : MessageBuilder) :
    Except Failure (List UInt8) := do
  let bytes ← setMessageLength builder.bytes 8
  let fingerprint := digests.crc32 bytes ^^^ fingerprintXor
  return ({ builder with bytes }.attribute attrFingerprint (Bytes.be 4 fingerprint.toNat)).bytes

/-- `MessageBuilder::finish_authenticated` — write the integrity and the fingerprint. -/
def MessageBuilder.finishAuthenticated (digests : Digests) (builder : MessageBuilder)
    (key : Bytes.Octets 16) : Except Failure (List UInt8) := do
  let bytes ← setMessageLength builder.bytes 24
  let integrity := digests.hmac key bytes
  ({ builder with bytes }.attribute attrMessageIntegrity integrity.val).finish digests

/-- `verify_integrity` — whether the first MESSAGE-INTEGRITY of a message is that of the bytes
before it, with the length as if it came last. -/
def verifyIntegrity (digests : Digests) (packet : List UInt8) (message : Message)
    (key : Option (Bytes.Octets 16)) : Bool :=
  match key, message.attribute attrMessageIntegrity with
  | some key, some integrity =>
    if integrity.value.length != 20 || integrity.headerStart < 20 then false
    else
      let signed := packet.take integrity.headerStart
      let signedLength := integrity.headerStart + 24 - 20
      if 65535 < signedLength then false
      else
        let signed := Bytes.splice signed 2 (Bytes.be 2 signedLength)
        (digests.hmac key signed).val == integrity.value
  | _, _ => false

/-- `error_code` — the code of ERROR-CODE, if it is one. -/
def errorCode (message : Message) : Option UInt16 :=
  match message.attribute attrErrorCode with
  | none => none
  | some entry =>
    let value := entry.value
    if value.length < 4 || (6 : UInt8) < value[2]?.getD 0 || (99 : UInt8) < value[3]?.getD 0 then
      none
    else some ((value[2]?.getD 0).toUInt16 * 100 + (value[3]?.getD 0).toUInt16)

/-- `response_requires_integrity` — some errors are answered before there is a key. -/
def responseRequiresIntegrity (message : Message) : Bool :=
  match message.class with
  | .success => true
  | .error => !([some 400, some 401, some 420, some 438].contains (errorCode message))
  | _ => false

/-- `is_fingerprinted_allocation_mismatch` — error 437 with a right fingerprint. -/
def isFingerprintedAllocationMismatch (digests : Digests) (message : Message) : Bool :=
  message.class == .error && errorCode message == some 437 &&
    message.fingerprintValid digests.crc32 == some true

/-- `attribute_u32` — an attribute of four bytes as a number. -/
def attributeU32 (message : Message) (kind : UInt16) : Option UInt32 :=
  match message.attribute kind with
  | none => none
  | some entry =>
    if entry.value.length = 4 then some (UInt32.ofNat (Bytes.fromBe entry.value)) else none

/-- `native_status_text` — a status in words. -/
def nativeStatusText (status : Int) : String :=
  let text :=
    if status = 0 then "success"
    else if status = -1 then "empty"
    else if status = resultBufferTooSmall then "buffer too small"
    else if status = resultInvalidArgument then "invalid argument"
    else if status = resultClosed then "closed"
    else if status = resultNotControl then "not a TURN control response"
    else if status = resultTimeout then "request timeout"
    else if status = resultAuthentication then "response authentication failed"
    else if status = resultProtocol then "TURN protocol error"
    else ""
  if text = "" then "TURN status " ++ toString status
  else text ++ " (" ++ toString status ++ ")"

end Focsq.Turn
