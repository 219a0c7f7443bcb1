import Focsq.Verif.TurnSteady

/-!
# Control packets and the buffer they are taken out with

A request carries user name, realm and nonce, and the server chooses the last two. So a request fits
the buffer of 1024 bytes exactly when these three leave it room; `pull_control` refuses the others.
-/

namespace Focsq.Turn

open Stun

/-- What user name, realm and nonce take in a request, besides their headers. -/
def Inner.credentials (inner : Inner) : Nat :=
  padded inner.username.length + padded (inner.realm.getD []).length +
    padded (inner.nonce.getD []).length

/-- What a request leaves for user name, realm and nonce: an Allocate request has 24 bytes of its
own, and with an IPv6 peer a ChannelBind request has 32. -/
def Inner.credentialRoom (inner : Inner) : Nat := if inner.peer.isIpv4 then 936 else 928

/-- The operation with the longest request. -/
def Inner.widest (inner : Inner) : Operation := if inner.peer.isIpv4 then .allocate else .channel

/-- Length of a combined address. -/
theorem length_encodeXorAddress (address : SocketAddr) (transaction : Bytes.Octets 12) :
    (encodeXorAddress address transaction).length = if address.isIpv4 then 8 else 20 := by
  unfold encodeXorAddress
  rw [List.length_append, List.length_append, Bytes.length_be]
  cases address with
  | v4 octets port =>
    show 2 + 2 + (Bytes.be 4 _).length = 8
    rw [Bytes.length_be]
  | v6 octets port flowinfo scope =>
    show 2 + 2 + (List.zipWith _ octets.val (Bytes.be 4 _ ++ transaction.val)).length = 20
    rw [List.length_zipWith, List.length_append, octets.property, Bytes.length_be,
      transaction.property]
    rfl

/-- What the attributes of an operation take. -/
def Inner.ownRoom (inner : Inner) : Operation → Nat
  | .allocate => 24
  | .refresh => 8
  | .deallocate => 8
  | .permission => if inner.peer.isIpv4 then 12 else 24
  | .channel => if inner.peer.isIpv4 then 20 else 32

/-- Length of the fields of a request. -/
theorem length_requestFields (inner : Inner) (operation : Operation)
    (transaction : Bytes.Octets 12) (authenticated : Bool) :
    (encodeFields (inner.requestFields operation transaction authenticated)).length =
      inner.ownRoom operation + if authenticated then 12 + inner.credentials else 0 := by
  have address : padded (encodeXorAddress inner.peer transaction).length =
      if inner.peer.isIpv4 then 8 else 20 := by
    rw [length_encodeXorAddress]
    cases inner.peer.isIpv4 <;> rfl
  have own : (encodeFields (inner.requestFields operation transaction false)).length =
      inner.ownRoom operation := by
    cases operation with
    | allocate =>
      show (encodeFields [(attrRequestedTransport, _), (attrRequestedAddressFamily, _),
        (attrLifetime, Bytes.be 4 600)]).length = 24
      rw [length_encodeFields_cons, length_encodeFields_cons, length_encodeFields_cons,
        Bytes.length_be]
      show 4 + padded 4 + (4 + padded 4 + (4 + padded 4 + 0)) = 24
      rfl
    | refresh => rfl
    | deallocate => rfl
    | permission =>
      show (encodeFields [(attrXorPeerAddress, _)]).length = _
      rw [length_encodeFields_cons, address, Inner.ownRoom]
      cases inner.peer.isIpv4 <;> rfl
    | channel =>
      show (encodeFields [(attrChannelNumber, [0x40, 0, 0, 0]), (attrXorPeerAddress, _)]).length = _
      rw [length_encodeFields_cons, length_encodeFields_cons, address, Inner.ownRoom]
      cases inner.peer.isIpv4 <;> rfl
  cases authenticated with
  | false => exact own
  | true =>
    have all : inner.requestFields operation transaction true =
        inner.requestFields operation transaction false ++
          [(attrUsername, inner.username), (attrRealm, inner.realm.getD []),
            (attrNonce, inner.nonce.getD [])] := by
      unfold Inner.requestFields
      rw [if_neg Bool.false_ne_true, List.append_nil]
      rfl
    have nothing : (encodeFields []).length = 0 := rfl
    rw [all, encodeFields_append, List.length_append, own, length_encodeFields_cons,
      length_encodeFields_cons, length_encodeFields_cons, if_pos rfl, Inner.credentials]
    dsimp only
    omega

/-- Length of a request. -/
theorem length_request {digests : Digests} {inner : Inner} {operation : Operation}
    {transaction : Bytes.Octets 12} {authenticated : Bool} {packet : List UInt8}
    (built : inner.buildRequest digests operation transaction authenticated = .ok packet) :
    packet.length = inner.ownRoom operation + 28 +
      if authenticated then 36 + inner.credentials else 0 := by
  have fields := length_requestFields inner operation transaction authenticated
  obtain ⟨key, keyed⟩ : ∃ key, authenticated = true → inner.key = some key := by
    cases known : inner.key with
    | some key => exact ⟨key, fun _ => rfl⟩
    | none =>
      refine ⟨.ofList [], fun signed => ?_⟩
      unfold Inner.buildRequest at built
      rw [signed, known] at built
      cases built
  rw [buildRequest_eq digests inner operation transaction authenticated key keyed] at built
  by_cases long : 65535 < (encodeFields (closedFields digests operation.method.toUInt16 transaction
      (signedFields digests (if authenticated then some key else none) operation.method.toUInt16
        transaction (inner.requestFields operation transaction authenticated)))).length
  · rw [if_pos long] at built
    cases built
  · rw [if_neg long] at built
    cases built
    rw [length_framed, length_closed]
    cases authenticated with
    | false =>
      change (encodeFields (inner.requestFields operation transaction false)).length = _ + 0
        at fields
      show 20 + ((encodeFields (inner.requestFields operation transaction false)).length + 8) =
        _ + 0
      omega
    | true =>
      rw [if_pos rfl] at fields ⊢
      rw [if_pos rfl, signedFields, length_signed]
      omega

/-- All requests fit when the credentials leave them room. -/
theorem roomy_of_credentials (digests : Digests) (inner : Inner)
    (small : inner.credentials ≤ inner.credentialRoom) : inner.Roomy digests := by
  intro operation transaction authenticated packet built
  have length := length_request built
  have own : inner.ownRoom operation + inner.credentialRoom ≤ 960 := by
    unfold Inner.ownRoom Inner.credentialRoom
    cases operation <;> cases inner.peer.isIpv4 <;> decide
  unfold controlMax
  cases authenticated with
  | false =>
    rw [if_neg Bool.false_ne_true] at length
    omega
  | true =>
    rw [if_pos rfl] at length
    omega

/-- The longest request does not fit when the credentials do not leave it room. -/
theorem widest_long {digests : Digests} {inner : Inner} {transaction : Bytes.Octets 12}
    {packet : List UInt8} (large : inner.credentialRoom < inner.credentials)
    (built : inner.buildRequest digests inner.widest transaction true = .ok packet) :
    controlMax < packet.length := by
  have length := length_request built
  have own : inner.ownRoom inner.widest + inner.credentialRoom = 960 := by
    unfold Inner.ownRoom Inner.credentialRoom Inner.widest
    cases inner.peer.isIpv4 <;> rfl
  rw [if_pos rfl] at length
  unfold controlMax
  omega

section Run

variable (digests : Digests) (server : SocketAddr) (username password : List UInt8)
  (peer : SocketAddr) (profile : CsqttTurnProfile) (transport : TurnControlTransport)
  (start : Inner)

/-- As long as the credentials leave room in every state of a run, all queued packets fit the buffer
and `pull_control` does not fail; and where they leave no room, the longest request does not
fit. -/
theorem controls_fit
    (created : Inner.create server username password peer profile transport = .ok start)
    (calls : List Call) :
    let reached := fun begun => Mealy.final (Inner.call digests) start begun
    ((∀ begun, begun <+: calls → (reached begun).credentials ≤ (reached begun).credentialRoom) →
      (∀ control ∈ (reached calls).controls, control.packet.length ≤ controlMax) ∧
        ∃ control, (reached calls).pullControl.1 = .ok control) ∧
    ((reached calls).credentialRoom < (reached calls).credentials →
      ∀ transaction packet,
        (reached calls).buildRequest digests (reached calls).widest transaction true =
          .ok packet → controlMax < packet.length) := by
  intro reached
  constructor
  · intro small
    have steady : Steady digests True profile (reached calls) :=
      (steady_run created calls
        (fun _ begun begins => roomy_of_credentials digests _ (small begun begins))).2
    have fits := steady.queued trivial
    refine ⟨fits, ?_⟩
    cases queued : (reached calls).controls with
    | nil => exact ⟨none, by rw [Inner.pullControl, queued]⟩
    | cons control controls =>
      have short : ¬1024 < control.packet.length :=
        Nat.not_lt.mpr (fits control (queued ▸ List.mem_cons_self))
      exact ⟨some control, by rw [Inner.pullControl, queued]; exact if_neg short⟩
  · exact fun large transaction packet built => widest_long large built

end Run

/-- The client of `user` takes out its requests. -/
theorem userClient_controls :
    (Mealy.final (Inner.call runDigests) userClient challenged).credentials = 20 ∧
    ∃ control, (Mealy.final (Inner.call runDigests) userClient challenged).pullControl.1 =
      .ok control := by
  have small : ∀ begun, begun <+: challenged →
      (Mealy.final (Inner.call runDigests) userClient begun).credentials ≤
        (Mealy.final (Inner.call runDigests) userClient begun).credentialRoom := by
    apply (@Mealy.forall_final_iff _ _ _ (Inner.call runDigests)
      (fun inner => inner.credentials ≤ inner.credentialRoom) userClient challenged).mpr
    constructor
    · decide
    · decide +kernel
  have fits := controls_fit runDigests userClient.server userClient.username userClient.password
    userClient.peer userClient.profile userClient.transport userClient rfl challenged
  exact ⟨by decide +kernel, (fits.1 small).2⟩

/-- The authenticated Allocate request of `user` up to a nonce of 1000 bytes. -/
def longAllocate : List UInt8 :=
  Bytes.be 36 0x000304302112a442101112131415161718191a1b00190004110000000017000401000000 ++
    Bytes.be 32 0x000d0004000002580006000475736572001400057265616c6d000000001503e8 ++
      List.replicate 1000 0x61

/-- The digests of what is built there. -/
def longDigests : Digests :=
  { runDigests with
    hmac := fun key data =>
      if key = userKey ∧ data = longAllocate then
        .ofList (Bytes.be 20 0x3df330f071b99210e2c6a545f357b01808710607)
      else runDigests.hmac key data
    crc32 := fun data =>
      if data = Bytes.splice longAllocate 2 [0x04, 0x38] ++
          Bytes.be 24 0x000800143df330f071b99210e2c6a545f357b01808710607 then 0x4569f419
      else runDigests.crc32 data }

/-- The Allocate request, and a challenge with a nonce of 1000 bytes. -/
def longChallenged : List Call :=
  [.startAllocation (readingsAt 0 0x000102030405060708090a0b),
    .inputStun (readingsAt 0 0x101112131415161718191a1b)
      (Bytes.be 36 0x011304002112a442000102030405060708090a0b0009000400000401001400057265616c ++
        Bytes.be 8 0x6d000000001503e8 ++ List.replicate 1000 0x61)]

/-- A nonce of 1000 bytes makes a request of 1100 bytes, which `pull_control` refuses. -/
theorem longNonce_refused :
    ¬∀ (digests : Digests) (server : SocketAddr) (username password : List UInt8)
      (peer : SocketAddr) (profile : CsqttTurnProfile) (transport : TurnControlTransport)
      (start : Inner) (calls : List Call),
        Inner.create server username password peer profile transport = .ok start →
          (∀ call ∈ calls, call.Delivered) →
            (∀ control ∈ (Mealy.final (Inner.call digests) start calls).controls,
              control.packet.length ≤ controlMax) ∧
            ∃ control,
              (Mealy.final (Inner.call digests) start calls).pullControl.1 = .ok control := by
  intro always
  have delivered : ∀ call ∈ longChallenged, call.Delivered := by decide +kernel
  obtain ⟨_, control, taken⟩ := always longDigests userClient.server userClient.username
    userClient.password userClient.peer userClient.profile userClient.transport userClient
    longChallenged rfl delivered
  have succeeds : (Mealy.final (Inner.call longDigests) userClient
      longChallenged).pullControl.1.toBool = true := by
    rw [taken]
    rfl
  revert succeeds
  decide +kernel

end Focsq.Turn
