import Focsq.Backend.TurnCore
import Focsq.Verif.Packet
import Focsq.Verif.StunEncoding
import Focsq.Verif.TurnIntegrity

/-!
# Requests can be read

A message under construction is a header in front of encoded fields. The builder writes the length
field twice, each time for attributes that are still to come, and the fingerprint of a request is
that of the bytes the reader takes it of.
-/

namespace Focsq.Turn

open Stun

/-- The header of a message. -/
def messageHeader (kind : UInt16) (length : Nat) (transaction : Bytes.Octets 12) : List UInt8 :=
  Bytes.be 2 kind.toNat ++ (Bytes.be 2 length ++ (Bytes.be 4 magicCookie.toNat ++ transaction.val))

/-- A message: header and fields. -/
def framed (kind : UInt16) (length : Nat) (transaction : Bytes.Octets 12) (fields : List Field) :
    List UInt8 :=
  messageHeader kind length transaction ++ encodeFields fields

/-- The header takes 20 bytes. -/
theorem length_messageHeader (kind : UInt16) (length : Nat) (transaction : Bytes.Octets 12) :
    (messageHeader kind length transaction).length = headerSize := by
  simp only [messageHeader, List.length_append, Bytes.length_be, transaction.property, headerSize]

/-- Length of a message. -/
theorem length_framed (kind : UInt16) (length : Nat) (transaction : Bytes.Octets 12)
    (fields : List Field) :
    (framed kind length transaction fields).length = 20 + (encodeFields fields).length := by
  rw [framed, List.length_append, length_messageHeader, headerSize]

/-- More fields follow the ones before. -/
theorem framed_append (kind : UInt16) (length : Nat) (transaction : Bytes.Octets 12)
    (first second : List Field) :
    framed kind length transaction (first ++ second) =
      framed kind length transaction first ++ encodeFields second := by
  simp only [framed, encodeFields_append, List.append_assoc]

/-- The length field can be written again. -/
theorem splice_framed (kind : UInt16) (length other : Nat) (transaction : Bytes.Octets 12)
    (fields : List Field) :
    Bytes.splice (framed kind length transaction fields) 2 (Bytes.be 2 other) =
      framed kind other transaction fields := by
  have written := Bytes.splice_segment (Bytes.be 2 kind.toNat) (Bytes.be 2 length)
    (Bytes.be 4 magicCookie.toNat ++ (transaction.val ++ encodeFields fields)) (Bytes.be 2 other)
    (by rw [Bytes.length_be, Bytes.length_be])
  rw [Bytes.length_be] at written
  simpa only [framed, messageHeader, List.append_assoc] using written

/-- The fields of a message are cut off. -/
theorem take_framed (kind : UInt16) (length : Nat) (transaction : Bytes.Octets 12)
    (first second : List Field) :
    (framed kind length transaction (first ++ second)).take (20 + (encodeFields first).length) =
      framed kind length transaction first := by
  rw [framed_append]
  exact List.take_left' (length_framed kind length transaction first)

/-- Digits beyond the width are not written. -/
theorem be_two_mod (value : Nat) : Bytes.be 2 (value % 65536) = Bytes.be 2 value := by
  have high : UInt8.ofNat (value % 65536 / 256) = UInt8.ofNat (value / 256) := by
    rw [← UInt8.toNat_inj, UInt8.toNat_ofNat', UInt8.toNat_ofNat']
    omega
  have low : UInt8.ofNat (value % 65536) = UInt8.ofNat value := by
    rw [← UInt8.toNat_inj, UInt8.toNat_ofNat', UInt8.toNat_ofNat']
    omega
  simp only [Bytes.be, high, low]

/-- The builder has written these fields. -/
structure MessageBuilder.Wrote (builder : MessageBuilder) (kind : UInt16) (length : Nat)
    (transaction : Bytes.Octets 12) (fields : List Field) : Prop where
  /-- Behind the header. -/
  bytes : builder.bytes = framed kind length transaction fields
  /-- For this transaction. -/
  transaction : builder.transaction = transaction

/-- A new message has no fields. -/
theorem withTransaction_wrote (kind : UInt16) (transaction : Bytes.Octets 12) :
    (MessageBuilder.withTransaction kind transaction).Wrote kind 0 transaction [] where
  bytes := by
    show Bytes.be 2 kind.toNat ++ Bytes.be 2 0 ++ Bytes.be 4 magicCookie.toNat ++
      transaction.val = _
    simp only [framed, messageHeader, encodeFields, List.flatMap_nil, List.append_nil,
      List.append_assoc]
  transaction := rfl

section Wrote

variable {builder : MessageBuilder} {kind : UInt16} {length : Nat}
  {transaction : Bytes.Octets 12} {fields : List Field}

/-- One attribute is one field more. -/
theorem MessageBuilder.Wrote.attribute (wrote : builder.Wrote kind length transaction fields)
    (type : UInt16) (value : List UInt8) :
    (builder.attribute type value).Wrote kind length transaction (fields ++ [(type, value)]) where
  bytes := by
    have whole := length_framed kind length transaction fields
    have aligned := length_encodeFields_mod fields
    have size : (UInt16.ofNat value.length).toNat = value.length % 65536 := UInt16.toNat_ofNat'
    have padding : (4 - (framed kind length transaction fields ++ Bytes.be 2 type.toNat ++
        Bytes.be 2 value.length ++ value).length % 4) % 4 = padded value.length - value.length := by
      simp only [List.length_append, Bytes.length_be, whole]
      unfold padded
      omega
    unfold MessageBuilder.attribute
    dsimp only
    rw [wrote.bytes, size, be_two_mod, padding, framed_append]
    simp only [encodeFields, encodeField, List.flatMap_cons, List.flatMap_nil, List.append_nil,
      List.append_assoc]
  transaction := wrote.transaction

/-- An address is one field more. -/
theorem MessageBuilder.Wrote.xorAddress (wrote : builder.Wrote kind length transaction fields)
    (type : UInt16) (address : SocketAddr) :
    (builder.xorAddress type address).Wrote kind length transaction
      (fields ++ [(type, encodeXorAddress address transaction)]) := by
  unfold MessageBuilder.xorAddress
  rw [wrote.transaction]
  exact wrote.attribute type _

/-- Writing the length fails when it does not fit its field. -/
theorem MessageBuilder.Wrote.setMessageLength
    (wrote : builder.Wrote kind length transaction fields) (trailing : Nat) :
    setMessageLength builder.bytes trailing =
      if 65535 < (encodeFields fields).length + trailing then
        .error (.bail "STUN message too large for u16 length")
      else .ok (framed kind ((encodeFields fields).length + trailing) transaction fields) := by
  have whole := length_framed kind length transaction fields
  unfold Turn.setMessageLength
  rw [wrote.bytes, checkedSub_eq _ _ (by omega), whole, Nat.add_sub_cancel_left]
  simp only [bind, Except.bind, pure, Except.pure, throw, throwThe, MonadExceptOf.throw,
    splice_framed]

end Wrote

/-- FINGERPRINT behind some fields. -/
def fingerprintField (digests : Digests) (kind : UInt16) (transaction : Bytes.Octets 12)
    (fields : List Field) : Field :=
  (attrFingerprint, Bytes.be 4 (digests.crc32 (framed kind ((encodeFields fields).length + 8)
    transaction fields) ^^^ fingerprintXor).toNat)

/-- MESSAGE-INTEGRITY behind some fields. -/
def integrityField (digests : Digests) (key : Bytes.Octets 16) (kind : UInt16)
    (transaction : Bytes.Octets 12) (fields : List Field) : Field :=
  (attrMessageIntegrity, (digests.hmac key (framed kind ((encodeFields fields).length + 24)
    transaction fields)).val)

/-- The attributes that `build_request` puts before MESSAGE-INTEGRITY and FINGERPRINT. -/
def Inner.requestFields (inner : Inner) (operation : Operation) (transaction : Bytes.Octets 12)
    (authenticated : Bool) : List Field :=
  (match operation with
  | .allocate =>
    [(attrRequestedTransport, [17, 0, 0, 0]),
      (attrRequestedAddressFamily, [if inner.peer.isIpv4 then 1 else 2, 0, 0, 0]),
      (attrLifetime, Bytes.be 4 600)]
  | .refresh => [(attrLifetime, Bytes.be 4 600)]
  | .deallocate => [(attrLifetime, Bytes.be 4 0)]
  | .permission => [(attrXorPeerAddress, encodeXorAddress inner.peer transaction)]
  | .channel =>
    [(attrChannelNumber, [0x40, 0, 0, 0]),
      (attrXorPeerAddress, encodeXorAddress inner.peer transaction)]) ++
  if authenticated then
    [(attrUsername, inner.username), (attrRealm, inner.realm.getD []),
      (attrNonce, inner.nonce.getD [])]
  else []

/-- The fields with MESSAGE-INTEGRITY, if there is a key. -/
def signedFields (digests : Digests) (key : Option (Bytes.Octets 16)) (kind : UInt16)
    (transaction : Bytes.Octets 12) (fields : List Field) : List Field :=
  match key with
  | none => fields
  | some key => fields ++ [integrityField digests key kind transaction fields]

/-- The fields with FINGERPRINT. -/
def closedFields (digests : Digests) (kind : UInt16) (transaction : Bytes.Octets 12)
    (fields : List Field) : List Field :=
  fields ++ [fingerprintField digests kind transaction fields]

/-- MESSAGE-INTEGRITY takes 24 bytes. -/
theorem length_signed (digests : Digests) (kind : UInt16) (transaction : Bytes.Octets 12)
    (fields : List Field) (key : Bytes.Octets 16) :
    (encodeFields (fields ++ [integrityField digests key kind transaction fields])).length =
      (encodeFields fields).length + 24 := by
  rw [encodeFields_append, List.length_append, length_encodeFields_cons]
  show _ + (4 + padded ((digests.hmac key _).val.length) + 0) = _
  rw [(digests.hmac key _).property]
  rfl

/-- FINGERPRINT takes 8 bytes. -/
theorem length_closed (digests : Digests) (kind : UInt16) (transaction : Bytes.Octets 12)
    (fields : List Field) :
    (encodeFields (closedFields digests kind transaction fields)).length =
    (encodeFields fields).length + 8 := by
  rw [closedFields, encodeFields_append, List.length_append, length_encodeFields_cons]
  show _ + (4 + padded ((Bytes.be 4 _).length) + 0) = _
  rw [Bytes.length_be]
  rfl

section Finish

variable (digests : Digests) {builder : MessageBuilder} {kind : UInt16} {length : Nat}
  {transaction : Bytes.Octets 12} {fields : List Field}

/-- A finished message has a fingerprint and its own length. -/
theorem MessageBuilder.Wrote.finish (wrote : builder.Wrote kind length transaction fields) :
    builder.finish digests =
      if 65535 < (encodeFields fields).length + 8 then
        .error (.bail "STUN message too large for u16 length")
      else .ok (framed kind ((encodeFields fields).length + 8) transaction
        (closedFields digests kind transaction fields)) := by
  unfold MessageBuilder.finish
  rw [wrote.setMessageLength]
  by_cases long : 65535 < (encodeFields fields).length + 8
  · rw [if_pos long, if_pos long]
    rfl
  · rw [if_neg long, if_neg long]
    have measured : MessageBuilder.Wrote { builder with
        bytes := framed kind ((encodeFields fields).length + 8) transaction fields } kind
        ((encodeFields fields).length + 8) transaction fields := ⟨rfl, wrote.transaction⟩
    exact congrArg Except.ok (measured.attribute attrFingerprint _).bytes

/-- A finished message with MESSAGE-INTEGRITY. -/
theorem MessageBuilder.Wrote.finishAuthenticated
    (wrote : builder.Wrote kind length transaction fields) (key : Bytes.Octets 16) :
    builder.finishAuthenticated digests key =
      if 65535 < (encodeFields fields).length + 32 then
        .error (.bail "STUN message too large for u16 length")
      else .ok (framed kind ((encodeFields fields).length + 32) transaction
        (closedFields digests kind transaction
          (signedFields digests (some key) kind transaction fields))) := by
  unfold MessageBuilder.finishAuthenticated
  rw [wrote.setMessageLength]
  have size := length_signed digests kind transaction fields key
  by_cases long : 65535 < (encodeFields fields).length + 24
  · rw [if_pos long, if_pos (by omega)]
    rfl
  · rw [if_neg long]
    have measured : MessageBuilder.Wrote { builder with
        bytes := framed kind ((encodeFields fields).length + 24) transaction fields } kind
        ((encodeFields fields).length + 24) transaction fields := ⟨rfl, wrote.transaction⟩
    have finished := (measured.attribute attrMessageIntegrity
      (digests.hmac key (framed kind ((encodeFields fields).length + 24) transaction
        fields)).val).finish digests
    change (encodeFields (fields ++ [(attrMessageIntegrity, _)])).length = _ at size
    rw [size] at finished
    exact finished

end Finish

/-- What `build_request` makes of the fields of a request. -/
theorem buildRequest_eq (digests : Digests) (inner : Inner) (operation : Operation)
    (transaction : Bytes.Octets 12) (authenticated : Bool) (key : Bytes.Octets 16)
    (keyed : authenticated = true → inner.key = some key) :
    inner.buildRequest digests operation transaction authenticated =
      (let kind := operation.method.toUInt16
       let fields := inner.requestFields operation transaction authenticated
       let closed := closedFields digests kind transaction (signedFields digests
         (if authenticated then some key else none) kind transaction fields)
       if 65535 < (encodeFields closed).length then
         .error (.bail "STUN message too large for u16 length")
       else .ok (framed kind (encodeFields closed).length transaction closed)) := by
  have begun : (inner.requestAttributes operation
      (.withTransaction operation.method.toUInt16 transaction)).Wrote operation.method.toUInt16 0
      transaction (inner.requestFields operation transaction false) := by
    have start := withTransaction_wrote operation.method.toUInt16 transaction
    cases operation with
    | allocate => exact ((start.attribute _ _).attribute _ _).attribute _ _
    | refresh => exact start.attribute _ _
    | deallocate => exact start.attribute _ _
    | permission => exact start.xorAddress _ _
    | channel => exact (start.attribute _ _).xorAddress _ _
  unfold Inner.buildRequest
  dsimp only
  rw [length_closed]
  cases authenticated with
  | false =>
    exact begun.finish digests
  | true =>
    rw [if_pos rfl, keyed rfl, if_pos rfl]
    have named := ((begun.attribute attrUsername inner.username).attribute attrRealm
      (inner.realm.getD [])).attribute attrNonce (inner.nonce.getD [])
    have all : (inner.requestFields operation transaction false ++
        [(attrUsername, inner.username)] ++ [(attrRealm, inner.realm.getD [])] ++
        [(attrNonce, inner.nonce.getD [])]) =
          inner.requestFields operation transaction true := by
      simp only [Inner.requestFields, Bool.false_eq_true, ↓reduceIte, List.append_nil,
        List.append_assoc, List.singleton_append]
      rfl
    rw [all] at named
    have size := length_signed digests operation.method.toUInt16 transaction
      (inner.requestFields operation transaction true) key
    rw [signedFields, size]
    exact named.finishAuthenticated digests key

/-- A message as it is decoded. -/
def messageOf (kind : UInt16) (transaction : Bytes.Octets 12) (fields : List Field) : Message where
  raw := framed kind (encodeFields fields).length transaction fields
  kind := kind
  transaction := transaction
  stop := 20 + (encodeFields fields).length

/-- The parts of a header are read where they were written. -/
theorem header_read (kind : UInt16) (length : Nat) (transaction : Bytes.Octets 12)
    (rest : List UInt8) (small : length < 65536) :
    u16At (messageHeader kind length transaction ++ rest) 0 = kind ∧
      (u16At (messageHeader kind length transaction ++ rest) 2).toNat = length ∧
      Bytes.slice (messageHeader kind length transaction ++ rest) 4 8 =
        Bytes.be 4 magicCookie.toNat ∧
      Bytes.slice (messageHeader kind length transaction ++ rest) 8 20 = transaction.val := by
  have cookie := Bytes.slice_segment (Bytes.be 2 kind.toNat ++ Bytes.be 2 length)
    (Bytes.be 4 magicCookie.toNat) (transaction.val ++ rest)
  have last := Bytes.slice_segment
    (Bytes.be 2 kind.toNat ++ (Bytes.be 2 length ++ Bytes.be 4 magicCookie.toNat))
    transaction.val rest
  have second := u16At_segment (Bytes.be 2 kind.toNat)
    (Bytes.be 4 magicCookie.toNat ++ (transaction.val ++ rest)) length small
  simp only [List.length_append, Bytes.length_be, transaction.property, List.append_assoc,
    Nat.reduceAdd] at cookie last second
  simp only [messageHeader, List.append_assoc]
  refine ⟨?_, second, cookie, last⟩
  rw [← UInt16.toNat_inj]
  exact u16At_segment [] _ kind.toNat kind.toNat_lt

/-- Messages whose length fits its field are decoded. -/
theorem decode_framed (kind : UInt16) (transaction : Bytes.Octets 12) (fields : List Field)
    (leading : kind &&& 0xc000 = 0) (nonzero : kind ≠ 0)
    (readable : ∀ field ∈ fields, Readable field)
    (fits : (encodeFields fields).length ≤ 65535) :
    Message.decode (framed kind (encodeFields fields).length transaction fields) =
      .ok (messageOf kind transaction fields) := by
  have whole := length_framed kind (encodeFields fields).length transaction fields
  have aligned := length_encodeFields_mod fields
  obtain ⟨kindAt, lengthAt, cookieAt, transactionAt⟩ :=
    header_read kind (encodeFields fields).length transaction (encodeFields fields) (by omega)
  have checked := checkAttributes_encoded (messageHeader kind (encodeFields fields).length
    transaction) fields readable (framed kind (encodeFields fields).length transaction
      fields).length
  rw [length_messageHeader] at checked
  change u16At (framed kind _ transaction fields) 0 = kind at kindAt
  change (u16At (framed kind _ transaction fields) 2).toNat = _ at lengthAt
  change Bytes.slice (framed kind _ transaction fields) 4 8 = _ at cookieAt
  change Bytes.slice (framed kind _ transaction fields) 8 20 = _ at transactionAt
  change checkAttributes (framed kind _ transaction fields) _ _ _ = _ at checked
  have same : (Bytes.Octets.ofList transaction.val : Bytes.Octets 12) = transaction :=
    Subtype.ext (Bytes.Octets.ofList_val _ transaction.property)
  unfold Message.decode
  simp only [bind, Except.bind, pure, Except.pure, throw, throwThe, MonadExceptOf.throw,
    kindAt, lengthAt, cookieAt, transactionAt]
  rw [if_neg (by rw [whole, headerSize]; omega), if_neg (by simpa using leading),
    if_neg (by simpa using nonzero), if_neg (by simp), if_neg (by simpa using aligned),
    if_neg (by simpa [headerSize] using whole)]
  change checkAttributes _ (framed kind _ transaction fields).length _ _ = _ at checked
  rw [whole] at checked ⊢
  rw [headerSize] at checked ⊢
  rw [checked, same]
  rfl

/-- The attributes of a message are its fields. -/
theorem attributes_messageOf (kind : UInt16) (transaction : Bytes.Octets 12) (fields : List Field)
    (readable : ∀ field ∈ fields, Readable field) :
    (messageOf kind transaction fields).attributes = placed headerSize fields := by
  have whole := length_framed kind (encodeFields fields).length transaction fields
  have read := attributesFrom_encoded (messageHeader kind (encodeFields fields).length transaction)
    fields readable (framed kind (encodeFields fields).length transaction fields).length (by omega)
  rw [length_messageHeader] at read
  change attributesFrom (framed kind _ transaction fields) (framed kind _ transaction
    fields).length _ _ = _ at read
  rw [whole] at read
  show attributesFrom (framed kind _ transaction fields) (20 + (encodeFields fields).length)
    (framed kind _ transaction fields).length headerSize = _
  rw [whole]
  exact read

/-- The first field of a type is the attribute that is looked up. -/
theorem attribute_messageOf (kind : UInt16) (transaction : Bytes.Octets 12)
    (before after : List Field) (type : UInt16) (value : List UInt8)
    (readable : ∀ field ∈ before ++ (type, value) :: after, Readable field)
    (others : ∀ field ∈ before, field.1 ≠ type) :
    (messageOf kind transaction (before ++ (type, value) :: after)).attribute type =
      some { kind := type
             value
             headerStart := headerSize + (encodeFields before).length
             valueRange := (headerSize + (encodeFields before).length + 4,
               headerSize + (encodeFields before).length + 4 + value.length) } := by
  unfold Message.attribute
  rw [attributes_messageOf _ _ _ readable]
  exact find_placed headerSize before after type value others

/-- Fields of other types than those that close a message. -/
def Open (field : Field) : Prop :=
  field.1 ≠ 0x8020 ∧ field.1 ≠ attrMessageIntegrity ∧ field.1 ≠ attrFingerprint

/-- The types of the attributes of a request. -/
def requestKinds (operation : Operation) (authenticated : Bool) : List UInt16 :=
  (match operation with
  | .allocate => [attrRequestedTransport, attrRequestedAddressFamily, attrLifetime]
  | .refresh => [attrLifetime]
  | .deallocate => [attrLifetime]
  | .permission => [attrXorPeerAddress]
  | .channel => [attrChannelNumber, attrXorPeerAddress]) ++
  if authenticated then [attrUsername, attrRealm, attrNonce] else []

/-- The fields of a request have these types. -/
theorem requestFields_kinds (inner : Inner) (operation : Operation)
    (transaction : Bytes.Octets 12) (authenticated : Bool) :
    (inner.requestFields operation transaction authenticated).map Prod.fst =
      requestKinds operation authenticated := by
  cases operation <;> cases authenticated <;> rfl

/-- The fields of a request do not close it. -/
theorem requestFields_open (inner : Inner) (operation : Operation) (transaction : Bytes.Octets 12)
    (authenticated : Bool) (field : Field)
    (member : field ∈ inner.requestFields operation transaction authenticated) : Open field := by
  have kinds : (requestKinds operation authenticated).all (fun kind =>
      kind != 0x8020 && kind != attrMessageIntegrity && kind != attrFingerprint) = true := by
    cases operation <;> cases authenticated <;> rfl
  rw [← requestFields_kinds inner operation transaction authenticated, List.all_eq_true] at kinds
  have kind := kinds field.1 (List.mem_map_of_mem member)
  simp only [Bool.and_eq_true, bne_iff_ne] at kind
  exact ⟨kind.1.1, kind.1.2, kind.2⟩

section Closed

variable (digests : Digests) (kind : UInt16) (transaction : Bytes.Octets 12)
  (fields : List Field) (plain : ∀ field ∈ fields, Open field) (key : Option (Bytes.Octets 16))

include plain

/-- Fields with MESSAGE-INTEGRITY have no fingerprint yet. -/
theorem signedFields_kind (field : Field)
    (member : field ∈ signedFields digests key kind transaction fields) :
    field.1 ≠ 0x8020 ∧ field.1 ≠ attrFingerprint := by
  cases key with
  | none => exact ⟨(plain field member).1, (plain field member).2.2⟩
  | some key =>
    cases List.mem_append.mp member with
    | inl inside => exact ⟨(plain field inside).1, (plain field inside).2.2⟩
    | inr last =>
      rw [List.mem_singleton.mp last]
      show attrMessageIntegrity ≠ 0x8020 ∧ attrMessageIntegrity ≠ attrFingerprint
      decide

/-- The fields of a message that fits can be read back. -/
theorem closedFields_readable (fits : (encodeFields (closedFields digests kind transaction
      (signedFields digests key kind transaction fields))).length ≤ 65535) (field : Field)
    (member : field ∈ closedFields digests kind transaction
      (signedFields digests key kind transaction fields)) : Readable field := by
  have short := length_le_encodeFields member
  refine ⟨by omega, ?_⟩
  cases List.mem_append.mp member with
  | inl inside => exact (signedFields_kind digests kind transaction fields plain key field inside).1
  | inr last =>
    rw [List.mem_singleton.mp last]
    show attrFingerprint ≠ 0x8020
    decide

/-- The fingerprint of a message is valid. -/
theorem fingerprintValid_closed (fits : (encodeFields (closedFields digests kind transaction
      (signedFields digests key kind transaction fields))).length ≤ 65535) :
    (messageOf kind transaction (closedFields digests kind transaction
      (signedFields digests key kind transaction fields))).fingerprintValid digests.crc32 =
        some true := by
  have readable := closedFields_readable digests kind transaction fields plain key fits
  have others := fun field member =>
    (signedFields_kind digests kind transaction fields plain key field member).2
  generalize signedFields digests key kind transaction fields = signed at *
  have found := attribute_messageOf kind transaction signed [] attrFingerprint _ readable others
  have size := length_closed digests kind transaction signed
  have cut := take_framed kind (encodeFields (closedFields digests kind transaction signed)).length
    transaction signed [fingerprintField digests kind transaction signed]
  change (messageOf kind transaction (closedFields digests kind transaction signed)).attribute
    attrFingerprint = _ at found
  change List.take _ (framed kind _ transaction (closedFields digests kind transaction signed)) = _
    at cut
  unfold Message.fingerprintValid
  rw [found]
  dsimp only
  rw [Bytes.length_be, if_neg, Bytes.uint32_be]
  · show some (digests.crc32 (framed kind _ transaction signed) ^^^ fingerprintXor ==
      digests.crc32 (List.take (20 + (encodeFields signed).length) (framed kind _ transaction
        (closedFields digests kind transaction signed))) ^^^ fingerprintXor) = some true
    rw [cut, size, beq_self_eq_true]
  · show ¬(4 != 4 || 20 + (encodeFields signed).length + 8 !=
      20 + (encodeFields (closedFields digests kind transaction signed)).length) = true
    rw [size, ← Nat.add_assoc]
    simp

/-- The integrity of a message is verified under its key, whatever follows it. -/
theorem verifyIntegrity_field (key : Bytes.Octets 16) (after whole : List Field)
    (shape : whole = fields ++ integrityField digests key kind transaction fields :: after)
    (readable : ∀ field ∈ whole, Readable field) (fits : (encodeFields whole).length ≤ 65535) :
    verifyIntegrity digests (framed kind (encodeFields whole).length transaction whole)
      (messageOf kind transaction whole) (some key) = true := by
  have size := length_signed digests kind transaction fields key
  have longer : (encodeFields (fields ++ [integrityField digests key kind transaction
      fields])).length ≤ (encodeFields whole).length := by
    have behind : encodeFields whole = encodeFields (fields ++ [integrityField digests key kind
        transaction fields]) ++ encodeFields after := by
      rw [shape, ← encodeFields_append, List.append_assoc, List.singleton_append]
    rw [behind, List.length_append]
    exact Nat.le_add_right _ _
  have cut : (framed kind (encodeFields whole).length transaction whole).take
      (20 + (encodeFields fields).length) =
        framed kind (encodeFields whole).length transaction fields := by
    have front := take_framed kind (encodeFields whole).length transaction fields
      (integrityField digests key kind transaction fields :: after)
    rwa [← shape] at front
  have found : (messageOf kind transaction whole).attribute attrMessageIntegrity = some
      { kind := attrMessageIntegrity
        value := (integrityField digests key kind transaction fields).2
        headerStart := headerSize + (encodeFields fields).length
        valueRange := (headerSize + (encodeFields fields).length + 4,
          headerSize + (encodeFields fields).length + 4 +
            (integrityField digests key kind transaction fields).2.length) } := by
    rw [shape] at readable ⊢
    exact attribute_messageOf kind transaction fields after attrMessageIntegrity _ readable
      (fun field member => (plain field member).2.1)
  have tag : (integrityField digests key kind transaction fields).2.length = 20 :=
    (digests.hmac key _).property
  unfold verifyIntegrity
  rw [found]
  dsimp only
  rw [tag, headerSize, if_neg (by simp), if_neg (by omega), cut, splice_framed, beq_iff_eq]
  have signed : 20 + (encodeFields fields).length + 24 - 20 =
      (encodeFields fields).length + 24 := by
    omega
  rw [signed]
  rfl

end Closed

/-- Combining with a mask twice gives the bytes back. -/
theorem zipWith_xor_twice (bytes mask : List UInt8) (same : bytes.length ≤ mask.length) :
    List.zipWith (· ^^^ ·) (List.zipWith (· ^^^ ·) bytes mask) mask = bytes := by
  induction bytes generalizing mask with
  | nil => rfl
  | cons byte bytes ih =>
    cases mask with
    | nil => exact absurd same (Nat.not_succ_le_zero _)
    | cons first mask =>
      rw [List.zipWith_cons_cons, List.zipWith_cons_cons, ih mask (Nat.le_of_succ_le_succ same),
        UInt8.xor_assoc, UInt8.xor_self, UInt8.xor_zero]

/-- The head of a combined address is read where it was written. -/
theorem xorAddress_head (family : UInt8) (port : UInt16) (rest : List UInt8) :
    u16At ([(0 : UInt8), family] ++ Bytes.be 2 port.toNat ++ rest) 2 = port := by
  rw [← UInt16.toNat_inj, List.append_assoc]
  exact u16At_segment [(0 : UInt8), family] rest port.toNat port.toNat_lt

/-- The body of a combined address is read where it was written. -/
theorem xorAddress_body (family : UInt8) (port : UInt16) (rest : List UInt8) (size : Nat)
    (same : rest.length = size) :
    Bytes.slice ([(0 : UInt8), family] ++ Bytes.be 2 port.toNat ++ rest) 4 (4 + size) = rest := by
  have read := Bytes.slice_segment ([(0 : UInt8), family] ++ Bytes.be 2 port.toNat) rest []
  rw [List.append_nil, List.length_append, Bytes.length_be, same] at read
  exact read

section Decode

variable (port : UInt16) (rest : List UInt8) (transaction : Bytes.Octets 12)

/-- Four bytes are an address of the fourth version. -/
theorem decodeXorAddress_v4 (four : rest.length = 4) :
    decodeXorAddress ([(0 : UInt8), 1] ++ Bytes.be 2 port.toNat ++ rest) transaction =
      .ok (.new (.v4 (.ofList
          (Bytes.be 4 (UInt32.ofNat (Bytes.fromBe rest) ^^^ magicCookie).toNat)))
        (port ^^^ (magicCookie >>> 16).toUInt16)) := by
  have whole : ([(0 : UInt8), 1] ++ Bytes.be 2 port.toNat ++ rest).length = 8 := by
    rw [List.length_append, List.length_append, Bytes.length_be, four]
    rfl
  have body := xorAddress_body 1 port rest 4 four
  unfold decodeXorAddress
  rw [xorAddress_head, body, whole, if_neg (by simp)]
  dsimp only
  rw [if_pos ⟨rfl, rfl⟩]

/-- Sixteen bytes are an address of the sixth version. -/
theorem decodeXorAddress_v6 (sixteen : rest.length = 16) :
    decodeXorAddress ([(0 : UInt8), 2] ++ Bytes.be 2 port.toNat ++ rest) transaction =
      .ok (.new (.v6 (.ofList (List.zipWith (· ^^^ ·) rest
          (Bytes.be 4 magicCookie.toNat ++ transaction.val))))
        (port ^^^ (magicCookie >>> 16).toUInt16)) := by
  have whole : ([(0 : UInt8), 2] ++ Bytes.be 2 port.toNat ++ rest).length = 20 := by
    rw [List.length_append, List.length_append, Bytes.length_be, sixteen]
    rfl
  have body := xorAddress_body 2 port rest 16 sixteen
  unfold decodeXorAddress
  rw [xorAddress_head, body, whole, if_neg (by simp)]
  dsimp only
  rw [if_neg (by simp), if_pos ⟨rfl, rfl⟩]

end Decode

/-- An address that was combined with the cookie is read back, without flow information and
scope. -/
theorem decode_encodeXorAddress (address : SocketAddr) (transaction : Bytes.Octets 12) :
    decodeXorAddress (encodeXorAddress address transaction) transaction =
      .ok (.new address.ip address.port) := by
  have twice : ∀ port : UInt16, port ^^^ (magicCookie >>> 16).toUInt16 ^^^
      (magicCookie >>> 16).toUInt16 = port := by
    intro port
    rw [UInt16.xor_assoc, UInt16.xor_self, UInt16.xor_zero]
  cases address with
  | v4 octets port =>
    have small := Bytes.fromBe_lt octets.val
    have back := Bytes.be_fromBe octets.val
    rw [octets.property] at small back
    have number : (UInt32.ofNat (Bytes.fromBe octets.val)).toNat = Bytes.fromBe octets.val := by
      rw [UInt32.toNat_ofNat']
      omega
    have same : (.ofList octets.val : Bytes.Octets 4) = octets :=
      Subtype.ext (Bytes.Octets.ofList_val _ octets.property)
    have read := decodeXorAddress_v4 (port ^^^ (magicCookie >>> 16).toUInt16)
      (Bytes.be 4 (UInt32.ofNat (Bytes.fromBe octets.val) ^^^ magicCookie).toNat) transaction
      (Bytes.length_be _ _)
    rw [Bytes.uint32_be, UInt32.xor_assoc, UInt32.xor_self, UInt32.xor_zero, number, back, same,
      twice] at read
    exact read
  | v6 octets port flowinfo scope =>
    have covered :
        octets.val.length = (Bytes.be 4 magicCookie.toNat ++ transaction.val).length := by
      rw [List.length_append, Bytes.length_be, octets.property, transaction.property]
    have combined : (List.zipWith (· ^^^ ·) octets.val
        (Bytes.be 4 magicCookie.toNat ++ transaction.val)).length = 16 := by
      rw [List.length_zipWith, ← covered, Nat.min_self, octets.property]
    have same : (.ofList octets.val : Bytes.Octets 16) = octets :=
      Subtype.ext (Bytes.Octets.ofList_val _ octets.property)
    have read := decodeXorAddress_v6 (port ^^^ (magicCookie >>> 16).toUInt16) _ transaction combined
    rw [zipWith_xor_twice _ _ (Nat.le_of_eq covered), same, twice] at read
    exact read

/-- Requests have the class and the method of their operation. -/
theorem messageOf_request (operation : Operation) (transaction : Bytes.Octets 12)
    (fields : List Field) :
    (messageOf operation.method.toUInt16 transaction fields).class = .request ∧
      (messageOf operation.method.toUInt16 transaction fields).method.toUInt32 =
        operation.method := by
  unfold Message.class Message.method messageOf
  dsimp only
  cases operation <;> decide

/-- The only address among the fields of a request is that of the peer. -/
theorem requestFields_peer (inner : Inner) (operation : Operation) (transaction : Bytes.Octets 12)
    (authenticated : Bool) : ∀ field ∈ inner.requestFields operation transaction authenticated,
      field.1 = attrXorPeerAddress → field.2 = encodeXorAddress inner.peer transaction := by
  cases operation <;> cases authenticated <;>
    simp [Inner.requestFields, attrRequestedTransport, attrRequestedAddressFamily, attrLifetime,
      attrXorPeerAddress, attrChannelNumber, attrUsername, attrRealm, attrNonce]

/-- The only address in a request is that of the peer. -/
theorem closedFields_peer {digests : Digests} {key : Option (Bytes.Octets 16)} {kind : UInt16}
    (inner : Inner) (operation : Operation) (transaction : Bytes.Octets 12) (authenticated : Bool)
    {field : Field} (member : field ∈ closedFields digests kind transaction (signedFields digests
      key kind transaction (inner.requestFields operation transaction authenticated)))
    (address : field.1 = attrXorPeerAddress) :
    field.2 = encodeXorAddress inner.peer transaction := by
  have fingerprint : attrFingerprint ≠ attrXorPeerAddress := by decide
  have integrity : attrMessageIntegrity ≠ attrXorPeerAddress := by decide
  have inside : field ∈ inner.requestFields operation transaction authenticated := by
    cases List.mem_append.mp member with
    | inr last =>
      rw [List.mem_singleton.mp last] at address
      exact absurd address fingerprint
    | inl signed =>
      cases key with
      | none => exact signed
      | some key =>
        cases List.mem_append.mp signed with
        | inl inside => exact inside
        | inr last =>
          rw [List.mem_singleton.mp last] at address
          exact absurd address integrity
  exact requestFields_peer inner operation transaction authenticated field inside address

/-- Requests that fit are decoded to what was put into them: the operation, the transaction and
the attributes in order, with a valid fingerprint and, under the key, a valid integrity. -/
theorem buildRequest_decodes (digests : Digests) (inner : Inner) (operation : Operation)
    (transaction : Bytes.Octets 12) (authenticated : Bool) (key : Bytes.Octets 16)
    (keyed : authenticated = true → inner.key = some key) :
    let kind := operation.method.toUInt16
    let fields := closedFields digests kind transaction (signedFields digests
      (if authenticated then some key else none) kind transaction
      (inner.requestFields operation transaction authenticated))
    (65535 < (encodeFields fields).length ∧
      inner.buildRequest digests operation transaction authenticated =
        .error (.bail "STUN message too large for u16 length")) ∨
    ∃ packet message,
      inner.buildRequest digests operation transaction authenticated = .ok packet ∧
      Message.decode packet = .ok message ∧
      message.class = .request ∧
      message.method.toUInt32 = operation.method ∧
      message.transaction = transaction ∧
      message.attributes.map (fun entry => (entry.kind, entry.value)) = fields ∧
      message.fingerprintValid digests.crc32 = some true ∧
      (authenticated = true → verifyIntegrity digests packet message (some key) = true) ∧
      ∀ entry ∈ message.attributes, entry.kind = attrXorPeerAddress →
        decodeXorAddress entry.value message.transaction =
          .ok (.new inner.peer.ip inner.peer.port) := by
  intro kind fields
  have built := buildRequest_eq digests inner operation transaction authenticated key keyed
  have plain := requestFields_open inner operation transaction authenticated
  by_cases long : 65535 < (encodeFields fields).length
  · left
    constructor
    · exact long
    · rw [built]
      exact if_pos long
  · right
    have fits : (encodeFields fields).length ≤ 65535 := Nat.le_of_not_lt long
    have readable := closedFields_readable digests kind transaction _ plain
      (if authenticated then some key else none) fits
    have leading : operation.method.toUInt16 &&& 0xc000 = 0 := by cases operation <;> decide
    have nonzero : operation.method.toUInt16 ≠ 0 := by cases operation <;> decide
    have attributes := attributes_messageOf kind transaction fields readable
    refine ⟨framed kind (encodeFields fields).length transaction fields,
      messageOf kind transaction fields, ?_, ?_, ?_, ?_, rfl, ?_, ?_, ?_, ?_⟩
    · rw [built]
      exact if_neg long
    · exact decode_framed kind transaction fields leading nonzero readable fits
    · exact (messageOf_request operation transaction fields).1
    · exact (messageOf_request operation transaction fields).2
    · rw [attributes]
      exact placed_fields headerSize fields
    · exact fingerprintValid_closed digests kind transaction _ plain _ fits
    · intro with_key
      subst with_key
      exact verifyIntegrity_field digests kind transaction _ plain key [fingerprintField digests
        kind transaction _] fields (List.append_assoc _ _ _) readable fits
    · intro entry member address
      rw [attributes] at member
      have value : entry.value = encodeXorAddress inner.peer transaction :=
        closedFields_peer inner operation transaction authenticated (mem_placed member) address
      rw [value]
      exact decode_encodeXorAddress inner.peer transaction

/-- The authenticated Allocate request of `user` is read back. -/
theorem authenticatedAllocate_decodes :
    let inner := Mealy.final (Inner.call runDigests) userClient challenged
    ∃ packet message,
      inner.buildRequest runDigests .allocate (.ofList [1]) true = .ok packet ∧
      Message.decode packet = .ok message ∧
      message.attributes.map Attribute.kind =
        [attrRequestedTransport, attrRequestedAddressFamily, attrLifetime, attrUsername, attrRealm,
          attrNonce, attrMessageIntegrity, attrFingerprint] ∧
      verifyIntegrity runDigests packet message (some userKey) = true := by
  intro inner
  have keyed : true = true → inner.key = some userKey := by decide +kernel
  cases buildRequest_decodes runDigests inner .allocate (.ofList [1]) true userKey keyed with
  | inl long =>
    exfalso
    have short := long.1
    revert short
    decide +kernel
  | inr decoded =>
    obtain ⟨packet, message, built, read, _, _, _, attributes, _, verified, _⟩ := decoded
    have kinds := congrArg (List.map Prod.fst) attributes
    rw [List.map_map] at kinds
    exact ⟨packet, message, built, read, kinds, verified rfl⟩

end Focsq.Turn
