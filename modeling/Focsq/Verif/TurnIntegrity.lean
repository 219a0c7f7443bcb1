import Focsq.Lib.Mealy
import Focsq.Backend.NativeCore
import Focsq.Verif.StunPrefix

/-!
# What MESSAGE-INTEGRITY covers

`verify_integrity` checks the bytes before the first MESSAGE-INTEGRITY, but the lookups that follow
take the first attribute of a type wherever it is. So a response is trusted as far as its integrity
covers it when every attribute that its processing looks up comes before MESSAGE-INTEGRITY; an
attribute that is missing there is taken from the bytes behind it.
-/

namespace Focsq.Turn

open Stun

section Integrity

variable (digests : Digests)

/-- A response that `input_stun` accepts by `verify_integrity`, with the request it answers and its
MESSAGE-INTEGRITY. -/
def acceptance (inner : Inner) (packet : List UInt8) : Option (Message × Pending × Attribute) :=
  match Message.decode packet with
  | .error _ => none
  | .ok message =>
    match inner.pending.find? (·.matches message), message.attribute attrMessageIntegrity with
    | some pending, some integrity =>
      if (message.class = .success ∨ message.class = .error) ∧
          message.fingerprintValid digests.crc32 ≠ some false ∧ pending.authenticated = true ∧
          responseRequiresIntegrity message = true ∧
          verifyIntegrity digests packet message inner.key = true then
        some (message, pending, integrity)
      else none
    | _, _ => none

/-- Every attribute that the processing of a response looks up comes before its
MESSAGE-INTEGRITY. -/
def Covered (inner : Inner) (message : Message) (pending : Pending) (integrity : Attribute) :
    Prop :=
  if message.class = .error then Before message attrErrorCode integrity
  else
    match pending.operation with
    | .allocate =>
      Before message attrXorRelayedAddress integrity ∧
        ((inner.relayedAddress message).toOption.isSome → Before message attrLifetime integrity)
    | .refresh => Before message attrLifetime integrity
    | .deallocate => Before message attrLifetime integrity
    | .permission => True
    | .channel => True

instance decidableCovered (inner : Inner) (message : Message) (pending : Pending)
    (integrity : Attribute) : Decidable (Covered inner message pending integrity) := by
  unfold Covered
  cases pending.operation <;> infer_instance

/-- A datagram is an accepted response with attributes inserted behind its MESSAGE-INTEGRITY, the
length field fixed, and its FINGERPRINT left out or replaced. -/
def isInsertion (inner : Inner) (packet altered : List UInt8) : Bool :=
  match acceptance digests inner packet, Message.decode altered with
  | some (message, _, integrity), .ok extended =>
    decide (AgreeTo (integrity.headerStart + 4 + integrity.value.length) packet altered) &&
      decide (((message.attributes.filter (fun entry => entry.kind != attrFingerprint)).map
        (fun entry => (entry.kind, entry.value))).Sublist
          (extended.attributes.map (fun entry => (entry.kind, entry.value))))
  | _, _ => false

/-- What follows the MESSAGE-INTEGRITY of an accepted response makes no difference: an insertion is
processed alike or rejected. -/
def Trusts (inner : Inner) (call : Call) : Prop :=
  ∀ readings packet altered, call = .inputStun readings packet →
    isInsertion digests inner packet altered = true →
      (inner.inputStun digests readings altered).2 = (inner.inputStun digests readings packet).2 ∨
        inner.inputStun digests readings altered = (resultInvalidArgument, inner)

/-- If a call takes in an accepted response, then its integrity covers what is looked up. -/
def isCovered (inner : Inner) (call : Call) : Bool :=
  match call with
  | .inputStun _ packet =>
    match acceptance digests inner packet with
    | some (message, pending, integrity) => decide (Covered inner message pending integrity)
    | none => true
  | _ => true

/-- An accepted response has been checked in every respect. -/
theorem acceptance_some {inner : Inner} {packet : List UInt8} {message : Message}
    {pending : Pending} {integrity : Attribute}
    (accepted : acceptance digests inner packet = some (message, pending, integrity)) :
    Message.decode packet = .ok message ∧
      inner.pending.find? (·.matches message) = some pending ∧
      message.attribute attrMessageIntegrity = some integrity ∧
      (message.class = .success ∨ message.class = .error) ∧
      message.fingerprintValid digests.crc32 ≠ some false ∧ pending.authenticated = true ∧
      responseRequiresIntegrity message = true ∧
      verifyIntegrity digests packet message inner.key = true := by
  unfold acceptance at accepted
  cases decoded : Message.decode packet with
  | error failure =>
    rw [decoded] at accepted
    cases accepted
  | ok decodedMessage =>
    rw [decoded] at accepted
    dsimp only at accepted
    split at accepted
    · rename_i foundPending foundIntegrity found carries
      split at accepted
      · rename_i checks
        cases accepted
        exact ⟨rfl, found, carries, checks⟩
      · cases accepted
    · cases accepted

/-- The signed bytes are the same before a common MESSAGE-INTEGRITY. -/
theorem verifyIntegrity_agree {packet altered : List UInt8} {message extended : Message}
    {integrity : Attribute} (key : Option (Bytes.Octets 16))
    (agree : AgreeTo (integrity.headerStart + 4 + integrity.value.length) packet altered)
    (carries : message.attribute attrMessageIntegrity = some integrity)
    (carriesToo : extended.attribute attrMessageIntegrity = some integrity) :
    verifyIntegrity digests altered extended key =
      verifyIntegrity digests packet message key := by
  have signed : ∀ length : List UInt8, length.length = 2 →
      Bytes.splice (altered.take integrity.headerStart) 2 length =
        Bytes.splice (packet.take integrity.headerStart) 2 length := by
    intro length two
    have front : ∀ bytes : List UInt8, (bytes.take integrity.headerStart).take 2 =
        Bytes.slice bytes 0 (min 2 integrity.headerStart) := by
      intro bytes
      rw [List.take_take, Bytes.slice, List.drop_zero]
    have back : ∀ bytes : List UInt8, (bytes.take integrity.headerStart).drop (2 + 2) =
        Bytes.slice bytes 4 integrity.headerStart := fun _ => rfl
    rw [Bytes.splice, Bytes.splice, two, front, front, back, back]
    rw [Bytes.slice_congr altered packet 0, Bytes.slice_congr altered packet 4]
    · intro position low high
      exact (agree position (by omega) (Or.inr low)).symm
    · intro position low high
      exact (agree position (by omega) (Or.inl (by omega))).symm
  unfold verifyIntegrity
  rw [carries, carriesToo]
  cases key with
  | none => rfl
  | some key =>
    dsimp only
    rw [signed _ (Bytes.length_be _ _)]

/-- Errors that need integrity do not ask for new credentials. -/
theorem requires_kept (message : Message) (error : message.class = .error)
    (needed : responseRequiresIntegrity message = true) :
    ((errorCode message).getD 0 == 401 || (errorCode message).getD 0 == 438) = false := by
  unfold responseRequiresIntegrity at needed
  rw [error] at needed
  cases found : errorCode message with
  | none => rfl
  | some code =>
    rw [found] at needed
    simp only [List.contains_eq_mem, List.mem_cons, Option.some.injEq, List.not_mem_nil,
      or_false, Bool.not_eq_true', decide_eq_false_iff_not, not_or] at needed
    simp only [Option.getD_some, Bool.or_eq_false_iff, beq_eq_false_iff_ne, ne_eq]
    exact ⟨needed.2.1, needed.2.2.2⟩

/-- Other errors do not renew the credentials. -/
theorem renewal_none (inner : Inner) (pending : Pending) (message : Message) (code : UInt16)
    (kept : (code == 401 || code == 438) = false) :
    inner.renewal pending message code = none := by
  unfold Inner.renewal
  rw [kept, Bool.false_and]
  rfl

/-- Two messages with the same kind, transaction and covered attributes are answered alike. -/
theorem answer_covered (inner : Inner) (readings : Readings) (pending : Pending)
    {message extended : Message} {integrity : Attribute}
    (kind : extended.kind = message.kind) (transaction : extended.transaction = message.transaction)
    (same : ∀ kind, Before message kind integrity →
      extended.attribute kind = message.attribute kind)
    (response : message.class = .success ∨ message.class = .error)
    (needed : responseRequiresIntegrity message = true)
    (covered : Covered inner message pending integrity) :
    inner.answer digests readings pending extended =
      inner.answer digests readings pending message := by
  have classes : extended.class = message.class := by
    unfold Message.class
    rw [kind]
  have methods : extended.method = message.method := by
    unfold Message.method
    rw [kind]
  unfold Covered at covered
  unfold Inner.answer
  rw [classes]
  cases response with
  | inr error =>
    rw [if_pos error] at covered
    have codes : errorCode extended = errorCode message := by
      unfold errorCode
      rw [same _ covered]
    have kept := requires_kept message error needed
    have answers : inner.answerError digests readings pending extended =
        inner.answerError digests readings pending message := by
      unfold Inner.answerError
      rw [codes, methods]
      dsimp only
      rw [renewal_none inner pending message _ kept, renewal_none inner pending extended _ kept]
    have refused : ¬(message.class = .success ∧ ¬pending.authenticated = true) := by
      rw [error]
      exact fun granted => by cases granted.1
    rw [answers, if_neg refused, if_neg refused, if_pos error, if_pos error]
  | inl success =>
    have noError : ¬message.class = .error := by
      rw [success]
      decide
    rw [if_neg noError] at covered
    rw [if_neg noError, if_neg noError]
    have answers : inner.completeSuccess digests readings pending.operation extended =
        inner.completeSuccess digests readings pending.operation message := by
      unfold Inner.completeSuccess
      cases operation : pending.operation with
      | permission => rfl
      | channel => rfl
      | refresh =>
        rw [operation] at covered
        unfold attributeU32
        rw [same _ covered]
      | deallocate =>
        rw [operation] at covered
        unfold attributeU32
        rw [same _ covered]
      | allocate =>
        rw [operation] at covered
        have addresses : inner.relayedAddress extended = inner.relayedAddress message := by
          unfold Inner.relayedAddress
          rw [same _ covered.1, transaction]
        dsimp only
        rw [addresses]
        cases relayed : inner.relayedAddress message with
        | error failure => rfl
        | ok relay =>
          have lifetime : Before message attrLifetime integrity := by
            apply covered.2
            rw [relayed]
            rfl
          dsimp only
          unfold attributeU32
          rw [same _ lifetime]
    rw [answers]

/-- Whatever follows the MESSAGE-INTEGRITY of an accepted response whose looked-up attributes it
covers, the response is processed alike or rejected. -/
theorem inputStun_covered (inner : Inner) (readings : Readings) (packet altered : List UInt8)
    (message : Message) (pending : Pending) (integrity : Attribute)
    (accepted : acceptance digests inner packet = some (message, pending, integrity))
    (covered : Covered inner message pending integrity)
    (agree : AgreeTo (integrity.headerStart + 4 + integrity.value.length) packet altered) :
    inner.inputStun digests readings altered = inner.inputStun digests readings packet ∨
      inner.inputStun digests readings altered = (resultInvalidArgument, inner) := by
  obtain ⟨decoded, found, carries, response, undamaged, authenticated, needed, verified⟩ :=
    acceptance_some digests accepted
  cases decodedToo : Message.decode altered with
  | error failure =>
    right
    unfold Inner.inputStun
    rw [decodedToo]
  | ok extended =>
    have low : headerSize ≤ integrity.headerStart + 4 + integrity.value.length := by
      have start := le_headerStart message.raw message.stop message.raw.length headerSize integrity
        (List.mem_of_find?_eq_some carries)
      omega
    obtain ⟨kind, transaction⟩ := agree.same_header low decoded decodedToo
    obtain ⟨before, rest, otherRest, parts, partsToo, none, behind⟩ :=
      agree.shared_attributes decoded decodedToo carries
    have same : ∀ kind, Before message kind integrity →
        extended.attribute kind = message.attribute kind := fun _ early =>
      early.attribute_eq parts partsToo behind
    have carriesToo : extended.attribute attrMessageIntegrity = some integrity := by
      have hit := List.find?_some carries
      have early : before.find? (·.kind == attrMessageIntegrity) = Option.none := by
        apply List.find?_eq_none.mpr
        intro entry member
        rw [none entry member]
        decide
      unfold Message.attribute
      rw [partsToo, List.find?_append, early, Option.none_or]
      exact List.find?_cons_of_pos hit
    have classes : extended.class = message.class := by
      unfold Message.class
      rw [kind]
    have matchers : (fun pending : Pending => pending.matches extended) =
        fun pending => pending.matches message := by
      funext pending
      unfold Pending.matches Message.method
      rw [kind, transaction]
    have verifiedToo := verifyIntegrity_agree digests inner.key agree carries carriesToo
    rw [verified] at verifiedToo
    unfold Inner.inputStun
    rw [decoded, decodedToo]
    dsimp only
    rw [classes, if_neg (not_not.mpr response), if_neg (not_not.mpr response),
      if_neg undamaged]
    by_cases damaged : extended.fingerprintValid digests.crc32 = some false
    · right
      rw [if_pos damaged]
    · left
      rw [if_neg damaged, matchers, found]
      dsimp only
      rw [verified, verifiedToo, Bool.not_true, Bool.and_false, Bool.false_and, Bool.and_false,
        Bool.false_and, transaction]
      exact answer_covered digests _ readings pending kind transaction same response needed covered

/-- In every run that takes in covered responses only, what follows MESSAGE-INTEGRITY makes no
difference in any state the run goes through. -/
theorem trusts_of_covered (start : Inner) (calls : List Call)
    (covered : Mealy.Along (Inner.call digests) (fun inner call => isCovered digests inner call)
      start calls) :
    Mealy.Along (Inner.call digests) (Trusts digests) start calls := by
  apply Mealy.along_of_invariant (fun _ => True) (fun _ _ _ _ => trivial) _ start calls trivial
    covered
  intro inner call _ condition readings packet altered input insertion
  subst input
  unfold isInsertion at insertion
  split at insertion
  · rename_i message pending integrity extended accepted decoded
    unfold isCovered at condition
    dsimp only at condition
    rw [accepted] at condition
    rw [Bool.and_eq_true, decide_eq_true_eq] at insertion
    cases inputStun_covered digests inner readings packet altered message pending integrity
        accepted (of_decide_eq_true condition) insertion.1 with
    | inl same => exact Or.inl (congrArg Prod.snd same)
    | inr rejected => exact Or.inr rejected
  · cases insertion

end Integrity

/-- The key of `user` with `pass` in `realm`. -/
def userKey : Bytes.Octets 16 := .ofList (Bytes.be 16 0x8493fbc53ba582fb4c044c456bdc40eb)

/-- The authenticated Allocate request up to its nonce. -/
def allocateBytes : List UInt8 :=
  Bytes.be 36 0x000300502112a442101112131415161718191a1b00190004110000000017000401000000 ++
    Bytes.be 36 0x000d0004000002580006000475736572001400057265616c6d000000001500056e6f6e63 ++
    Bytes.be 4 0x65000000

/-- The digests of what is built and checked in the runs below. -/
def runDigests : Digests where
  md5 := fun data =>
    if data = Bytes.be 15 0x757365723a7265616c6d3a70617373 then userKey else .ofList []
  hmac := fun key data =>
    if key = userKey ∧ data = allocateBytes then
      .ofList (Bytes.be 20 0xdd228bfa042ee424ae718ee62663daab188c04aa)
    else if key = userKey ∧ data =
        Bytes.be 32 0x010300242112a442101112131415161718191a1b001600080001e2425e12a443 then
      .ofList (Bytes.be 20 0x8adb77d5689a8c390a8ef0484cf1c84eabc95985)
    else if key = userKey ∧ data =
        Bytes.be 36 0x0103002c2112a442101112131415161718191a1b001600080001e2425e12a443000d0004 ++
          Bytes.be 4 0x00000258 then
      .ofList (Bytes.be 20 0x44d8ea6b51f2edfc5a9cea880a2f378fc5a9fdce)
    else .ofList []
  crc32 := fun data =>
    if data =
        Bytes.be 36 0x000300202112a442000102030405060708090a0b00190004110000000017000401000000 ++
          Bytes.be 8 0x000d000400000258 then 0x53e9ee33
    else if data = Bytes.splice allocateBytes 2 [0x00, 0x58] ++
        Bytes.be 24 0x00080014dd228bfa042ee424ae718ee62663daab188c04aa then 0x66188f09
    else 0

/-- A port of 127.0.0.1. -/
def localAddress (port : UInt16) : SocketAddr := .v4 (.ofList [127, 0, 0, 1]) port

/-- The client of `user` with `pass`. -/
def userClient : Inner where
  server := localAddress 3478
  peer := localAddress 9000
  username := Bytes.be 4 0x75736572
  password := Bytes.be 4 0x70617373
  realm := none
  nonce := none
  key := none
  state := .null
  relay := none
  channel := none
  controls := []
  events := []
  pending := []
  allocationRefresh := none
  allocationExpiresAt := none
  maintenanceRefresh := none
  permissionRetry := none
  channelRetry := none
  refreshFailures := 0
  permissionFailures := 0
  channelFailures := 0
  keepalive := none
  shuttingDown := false
  destroyed := false
  profile := .pjnathCompat
  transport := .datagram

/-- Readings of a call at one time. -/
def readingsAt (now : Nat) (transaction : Nat) : Readings where
  now := now
  draw := fun _ => ⟨.ofList (Bytes.be 12 transaction), now⟩

/-- The Allocate request, and the challenge with `realm` and `nonce` that it gets. -/
def challenged : List Call :=
  [.startAllocation (readingsAt 0 0x000102030405060708090a0b),
    .inputStun (readingsAt 0 0x101112131415161718191a1b)
      (Bytes.be 36 0x011300202112a442000102030405060708090a0b0009000400000401001400057265616c ++
        Bytes.be 16 0x6d000000001500056e6f6e6365000000)]

/-- The Allocate response with address and lifetime before MESSAGE-INTEGRITY. -/
def coveredResponse : List UInt8 :=
  Bytes.be 36 0x0103002c2112a442101112131415161718191a1b001600080001e2425e12a443000d0004 ++
    Bytes.be 28 0x000002580008001444d8ea6b51f2edfc5a9cea880a2f378fc5a9fdce

/-- The Allocate response without a lifetime. -/
def bareResponse : List UInt8 :=
  Bytes.be 36 0x010300242112a442101112131415161718191a1b001600080001e2425e12a44300080014 ++
    Bytes.be 20 0x8adb77d5689a8c390a8ef0484cf1c84eabc95985

/-- The same response with a lifetime of one second behind MESSAGE-INTEGRITY. -/
def alteredResponse : List UInt8 :=
  Bytes.be 36 0x0103002c2112a442101112131415161718191a1b001600080001e2425e12a44300080014 ++
    Bytes.be 28 0x8adb77d5689a8c390a8ef0484cf1c84eabc95985000d000400000001

/-- The covered response is accepted, and nothing that follows its MESSAGE-INTEGRITY counts. -/
theorem coveredResponse_trusted :
    (acceptance runDigests (Mealy.final (Inner.call runDigests) userClient challenged)
      coveredResponse).isSome ∧
    Mealy.Along (Inner.call runDigests) (Trusts runDigests) userClient
      (challenged ++ [.inputStun (readingsAt 0 0) coveredResponse]) := by
  constructor
  · decide +kernel
  · apply trusts_of_covered
    decide +kernel

/-- The lifetime behind MESSAGE-INTEGRITY is taken for the lifetime of the allocation. -/
theorem alteredResponse_trusted :
    ¬∀ (digests : Digests) (server : SocketAddr) (username password : List UInt8)
      (peer : SocketAddr) (profile : CsqttTurnProfile) (transport : TurnControlTransport)
      (start : Inner) (calls : List Call),
        Inner.create server username password peer profile transport = .ok start →
          Mealy.Along (Inner.call digests) (Trusts digests) start calls := by
  intro never
  obtain ⟨_, _, trusts, _⟩ := never runDigests userClient.server userClient.username
    userClient.password userClient.peer userClient.profile userClient.transport userClient
    (challenged ++ [.inputStun (readingsAt 0 0) bareResponse]) rfl
  have insertion : isInsertion runDigests
      (Mealy.final (Inner.call runDigests) userClient challenged) bareResponse alteredResponse =
        true := by decide +kernel
  cases trusts (readingsAt 0 0) bareResponse alteredResponse rfl insertion with
  | inl same =>
    have expires := congrArg Inner.allocationExpiresAt same
    revert expires
    decide +kernel
  | inr rejected =>
    have status := congrArg Prod.fst rejected
    revert status
    decide +kernel

end Focsq.Turn
