import Mathlib.Data.List.Perm.Basic
import Focsq.Lib.Mealy
import Focsq.Verif.TurnMoves
import Focsq.Verif.TurnRequest

/-!
# The invariant of the TURN client

The requests that are open, pending or in hand, are of different kinds, and each belongs to the
state the client is in. The fields of a live allocation are set, and the credentials that its
requests need are known and short enough for a request to be built.
-/

namespace Focsq.Turn

open Stun

/-- Length of the datagrams that the transports deliver. -/
def deliveredMax : Nat := 4096

/-- The open requests: the one in hand and the pending ones. -/
def Stage.requests (stage : Stage) : List (Operation × Bool) :=
  stage.hand.toList ++
    stage.inner.pending.map (fun pending => (pending.operation, pending.authenticated))

/-- The invariant of the moves. That requests can be built is part of it as long as the datagrams
that are put in are limited. -/
structure Sound (limited : Prop) (stage : Stage) : Prop where
  /-- The client was not torn down. -/
  undestroyed : stage.inner.destroyed = false
  /-- No two open requests are for the same. -/
  once : (stage.requests.map Prod.fst).Nodup
  /-- Open requests belong to the state. -/
  phase : ∀ request ∈ stage.requests, request.1.phase = stage.inner.state
  /-- The allocation of a client that is ready. -/
  ready : stage.inner.state = .ready →
    stage.inner.relay.isSome ∧ stage.inner.allocationExpiresAt.isSome ∧
      stage.inner.maintenanceRefresh.isSome ∧ stage.inner.keepalive.isSome
  /-- It is going to be refreshed. -/
  refreshed : limited → stage.inner.state = .ready →
    stage.inner.allocationRefresh.isSome ∨ .refresh ∈ stage.requests.map Prod.fst
  /-- Only a client that is ready has a channel. -/
  channel : stage.inner.channel.isSome → stage.inner.state = .ready
  /-- A client that is shut down is not ready. -/
  closing : stage.inner.shuttingDown = true → stage.inner.state ≠ .ready
  /-- Only a client that is shut down gives its allocation back. -/
  leaving : stage.inner.state = .deallocating → stage.inner.shuttingDown = true
  /-- The credentials are known when they are needed. -/
  known : (∃ request ∈ stage.requests, request.2 = true) ∨ stage.inner.state = .ready ∨
    stage.inner.allocationExpiresAt.isSome → stage.inner.known = true
  /-- The user name is short. -/
  username : stage.inner.username.length ≤ 512
  /-- The realm is short. -/
  realm : limited → ∀ realm ∈ stage.inner.realm, realm.length ≤ deliveredMax
  /-- The nonce is short. -/
  nonce : limited → ∀ nonce ∈ stage.inner.nonce, nonce.length ≤ deliveredMax

/-- Fields with short values are short. -/
theorem length_encodeFields_le (fields : List Field) (limit : Nat)
    (short : ∀ field ∈ fields, field.2.length ≤ limit) :
    (encodeFields fields).length ≤ fields.length * (limit + 7) := by
  induction fields with
  | nil => exact Nat.zero_le _
  | cons field rest ih =>
    have first := short field List.mem_cons_self
    have others := ih (fun field member => short field (List.mem_cons_of_mem _ member))
    have padding : padded field.2.length ≤ field.2.length + 3 := by
      unfold padded
      omega
    rw [length_encodeFields_cons, List.length_cons, Nat.add_mul, Nat.one_mul]
    omega

/-- A combined address is short. -/
theorem length_encodeXorAddress_le (address : SocketAddr) (transaction : Bytes.Octets 12) :
    (encodeXorAddress address transaction).length ≤ 20 := by
  unfold encodeXorAddress
  rw [List.length_append, List.length_append, Bytes.length_be]
  cases address with
  | v4 octets port =>
    show 2 + 2 + (Bytes.be 4 _).length ≤ 20
    rw [Bytes.length_be]
    decide
  | v6 octets port flowinfo scope =>
    show 2 + 2 + (List.zipWith _ octets.val _).length ≤ 20
    rw [List.length_zipWith, octets.property]
    omega

/-- The fields of a request of a client with short credentials are short. -/
theorem requestFields_short (inner : Inner) (operation : Operation)
    (transaction : Bytes.Octets 12) (authenticated : Bool) (limit : Nat) (room : 512 ≤ limit)
    (username : inner.username.length ≤ limit)
    (realm : ∀ realm ∈ inner.realm, realm.length ≤ limit)
    (nonce : ∀ nonce ∈ inner.nonce, nonce.length ≤ limit) (field : Field)
    (member : field ∈ inner.requestFields operation transaction authenticated) :
    field.2.length ≤ limit := by
  have address := length_encodeXorAddress_le inner.peer transaction
  have given : ∀ {value : Option (List UInt8)}, (∀ bytes ∈ value, bytes.length ≤ limit) →
      (value.getD []).length ≤ limit := by
    intro value short
    cases value with
    | none => exact Nat.zero_le _
    | some bytes => exact short bytes rfl
  have shortRealm := given realm
  have shortNonce := given nonce
  cases List.mem_append.mp member with
  | inl own =>
    cases operation <;> simp only [List.mem_cons, List.not_mem_nil, or_false] at own <;>
      rcases own with rfl | rfl | rfl <;>
      simp only [Bytes.length_be, List.length_cons, List.length_nil] <;> omega
  | inr credential =>
    cases authenticated with
    | false => cases credential
    | true =>
      simp only [↓reduceIte, List.mem_cons, List.not_mem_nil, or_false] at credential
      rcases credential with rfl | rfl | rfl
      · exact username
      · exact shortRealm
      · exact shortNonce

/-- A client with short credentials can build its requests. -/
theorem buildRequest_ok (digests : Digests) (inner : Inner) (operation : Operation)
    (transaction : Bytes.Octets 12) (authenticated : Bool)
    (known : authenticated = true → inner.known = true) (username : inner.username.length ≤ 512)
    (realm : ∀ realm ∈ inner.realm, realm.length ≤ deliveredMax)
    (nonce : ∀ nonce ∈ inner.nonce, nonce.length ≤ deliveredMax) :
    ∃ packet, inner.buildRequest digests operation transaction authenticated = .ok packet := by
  obtain ⟨key, keyed⟩ : ∃ key, authenticated = true → inner.key = some key := by
    cases authenticated with
    | false => exact ⟨.ofList [], nofun⟩
    | true =>
      have all := known rfl
      unfold Inner.known at all
      rw [Bool.and_eq_true, Option.isSome_iff_exists] at all
      obtain ⟨key, found⟩ := all.2
      exact ⟨key, fun _ => found⟩
  have short := length_encodeFields_le (inner.requestFields operation transaction authenticated)
    deliveredMax (requestFields_short inner operation transaction authenticated deliveredMax
      (by decide) (Nat.le_trans username (by decide)) realm nonce)
  have few : (inner.requestFields operation transaction authenticated).length ≤ 6 := by
    have kinds := congrArg List.length
      (requestFields_kinds inner operation transaction authenticated)
    rw [List.length_map] at kinds
    rw [kinds]
    cases operation <;> cases authenticated <;> decide
  have bound : (encodeFields (inner.requestFields operation transaction authenticated)).length ≤
      6 * (deliveredMax + 7) :=
    Nat.le_trans short (Nat.mul_le_mul_right _ few)
  rw [buildRequest_eq digests inner operation transaction authenticated key keyed]
  dsimp only
  rw [length_closed, if_neg]
  · exact ⟨_, rfl⟩
  · unfold deliveredMax at bound
    cases authenticated with
    | false =>
      show ¬65535 < (encodeFields (inner.requestFields operation transaction false)).length + 8
      omega
    | true =>
      have size := length_signed digests operation.method.toUInt16 transaction
        (inner.requestFields operation transaction true) key
      rw [if_pos rfl, signedFields, size]
      omega

/-- Only the allocation is asked for while allocating. -/
theorem phase_allocating {operation : Operation} (same : operation.phase = .allocating) :
    operation = .allocate := by
  cases operation with
  | allocate => rfl
  | refresh => cases same
  | deallocate => cases same
  | permission => cases same
  | channel => cases same

/-- Only the end of the allocation is asked for while deallocating. -/
theorem phase_deallocating {operation : Operation} (same : operation.phase = .deallocating) :
    operation = .deallocate := by
  cases operation with
  | allocate => cases same
  | refresh => cases same
  | deallocate => rfl
  | permission => cases same
  | channel => cases same

section Sound

variable {limited : Prop} {hand : Option (Operation × Bool)} {inner : Inner}

/-- Queues do not matter. -/
theorem Sound.queued (sound : Sound limited ⟨hand, inner⟩) (controls : List Control)
    (events : List NativeEvent) : Sound limited ⟨hand, { inner with controls, events }⟩ :=
  ⟨sound.undestroyed, sound.once, sound.phase, sound.ready, sound.refreshed, sound.channel,
    sound.closing, sound.leaving, sound.known, sound.username, sound.realm, sound.nonce⟩

/-- Events do not matter. -/
theorem Sound.pushEvent (sound : Sound limited ⟨hand, inner⟩) (event : NativeEvent) :
    Sound limited ⟨hand, inner.pushEvent event⟩ := by
  rw [pushEvent_eq]
  exact sound.queued inner.controls _

/-- Open requests may change places. -/
theorem Sound.rearranged (sound : Sound limited ⟨hand, inner⟩) (other : Option (Operation × Bool))
    (pending : List Pending)
    (same : (Stage.mk other { inner with pending }).requests.Perm (Stage.mk hand inner).requests) :
    Sound limited ⟨other, { inner with pending }⟩ where
  undestroyed := sound.undestroyed
  once := (same.map Prod.fst).nodup_iff.mpr sound.once
  phase := fun request member => sound.phase request (same.mem_iff.mp member)
  ready := sound.ready
  refreshed := fun limits ready =>
    (sound.refreshed limits ready).imp_right (same.map Prod.fst).mem_iff.mpr
  channel := sound.channel
  closing := sound.closing
  leaving := sound.leaving
  known := fun needed => sound.known (needed.imp_left
    (fun ⟨request, member, authenticated⟩ => ⟨request, same.mem_iff.mp member, authenticated⟩))
  username := sound.username
  realm := sound.realm
  nonce := sound.nonce

/-- The request in hand is done with, if it is not the refresh of an allocation that has no other
one. -/
theorem Sound.finished {request : Operation × Bool} (sound : Sound limited ⟨some request, inner⟩)
    (refreshed : limited → inner.state = .ready → request.1 = .refresh →
      inner.allocationRefresh.isSome) :
    Sound limited ⟨none, inner⟩ where
  undestroyed := sound.undestroyed
  once := (List.nodup_cons.mp sound.once).2
  phase := fun other member => sound.phase other (List.mem_cons_of_mem _ member)
  ready := sound.ready
  refreshed := by
    intro limits ready
    cases sound.refreshed limits ready with
    | inl timer => exact .inl timer
    | inr asked =>
      cases List.mem_cons.mp asked with
      | inl here => exact .inl (refreshed limits ready here.symm)
      | inr pending => exact .inr pending
  channel := sound.channel
  closing := sound.closing
  leaving := sound.leaving
  known := fun needed => sound.known (needed.imp_left
    (fun ⟨other, member, authenticated⟩ => ⟨other, List.mem_cons_of_mem _ member, authenticated⟩))
  username := sound.username
  realm := sound.realm
  nonce := sound.nonce

/-- A request of an operation that is not pending can be taken up. -/
theorem Sound.asked (sound : Sound limited ⟨none, inner⟩) (request : Operation × Bool)
    (missing : inner.hasOperation request.1 = false) (phase : request.1.phase = inner.state)
    (known : request.2 = true → inner.known = true) : Sound limited ⟨some request, inner⟩ where
  undestroyed := sound.undestroyed
  once := by
    apply List.nodup_cons.mpr
    constructor
    · intro member
      have present : inner.hasOperation request.1 = true := by
        obtain ⟨other, among, same⟩ := List.mem_map.mp member
        obtain ⟨pending, member, rfl⟩ := List.mem_map.mp among
        exact List.any_eq_true.mpr ⟨pending, member, beq_iff_eq.mpr same⟩
      rw [missing] at present
      cases present
    · exact sound.once
  phase := by
    intro other member
    cases List.mem_cons.mp member with
    | inl here => exact here ▸ phase
    | inr pending => exact sound.phase other pending
  ready := sound.ready
  refreshed := fun limits ready =>
    (sound.refreshed limits ready).imp_right (List.mem_cons_of_mem _)
  channel := sound.channel
  closing := sound.closing
  leaving := sound.leaving
  known := by
    intro needed
    rcases needed with ⟨other, member, authenticated⟩ | fields
    · cases List.mem_cons.mp member with
      | inl here => exact known (here ▸ authenticated)
      | inr pending => exact sound.known (.inl ⟨other, pending, authenticated⟩)
    · exact sound.known (.inr fields)
  username := sound.username
  realm := sound.realm
  nonce := sound.nonce

/-- The state of a client without open requests changes, if it is not ready then. -/
theorem Sound.emptied (sound : Sound limited ⟨hand, inner⟩) {next : Inner}
    (state : next.state ≠ .ready) (pending : next.pending = []) (channel : next.channel = none)
    (undestroyed : next.destroyed = inner.destroyed)
    (leaving : next.state = .deallocating → next.shuttingDown = true)
    (known : next.allocationExpiresAt.isSome → inner.known = true)
    (username : next.username = inner.username) (realm : next.realm = inner.realm)
    (nonce : next.nonce = inner.nonce) (key : next.key = inner.key) :
    Sound limited ⟨none, next⟩ where
  undestroyed := undestroyed.trans sound.undestroyed
  once := by
    show (List.map Prod.fst (next.pending.map _)).Nodup
    rw [pending]
    exact List.nodup_nil
  phase := by
    intro request member
    change request ∈ next.pending.map _ at member
    rw [pending] at member
    cases member
  ready := fun ready => absurd ready state
  refreshed := fun _ ready => absurd ready state
  channel := by
    intro bound
    change next.channel.isSome = true at bound
    rw [channel] at bound
    cases bound
  closing := fun _ => state
  leaving := leaving
  known := by
    have same : next.known = inner.known := by
      unfold Inner.known
      rw [realm, nonce, key]
    intro needed
    rcases needed with ⟨request, member, _⟩ | ready | live
    · change request ∈ next.pending.map _ at member
      rw [pending] at member
      cases member
    · exact absurd ready state
    · exact same.trans (known live)
  username := by
    show next.username.length ≤ 512
    rw [username]
    exact sound.username
  realm := by
    show limited → ∀ bytes ∈ next.realm, _
    rw [realm]
    exact sound.realm
  nonce := by
    show limited → ∀ bytes ∈ next.nonce, _
    rw [nonce]
    exact sound.nonce

/-- Nothing is pending in a state that has no requests. -/
theorem Sound.nothing (sound : Sound limited ⟨hand, inner⟩)
    (none : ∀ operation : Operation, operation.phase ≠ inner.state) : inner.pending = [] := by
  cases found : inner.pending with
  | nil => rfl
  | cons pending rest =>
    have member : (pending.operation, pending.authenticated) ∈ (Stage.mk hand inner).requests := by
      apply List.mem_append_right
      rw [found]
      exact List.mem_cons_self
    exact absurd (sound.phase _ member) (none pending.operation)

/-- A request whose state it does not share with another one is the only open one. -/
theorem Sound.alone {request : Operation × Bool} (sound : Sound limited ⟨some request, inner⟩)
    (single : ∀ operation : Operation, operation.phase = request.1.phase →
      operation = request.1) : inner.pending = [] := by
  cases found : inner.pending with
  | nil => rfl
  | cons pending rest =>
    exfalso
    have member : (pending.operation, pending.authenticated) ∈
        (Stage.mk (some request) inner).requests := by
      show _ ∈ request :: inner.pending.map _
      rw [found]
      exact List.mem_cons_of_mem _ List.mem_cons_self
    have mine := sound.phase request List.mem_cons_self
    have same := single pending.operation ((sound.phase _ member).trans mine.symm)
    have apart := (List.nodup_cons.mp sound.once).1
    apply apart
    show request.1 ∈ List.map Prod.fst (inner.pending.map _)
    rw [found, ← same]
    exact List.mem_cons_self

/-- Only a client that is ready has a channel. -/
theorem Sound.unbound (sound : Sound limited ⟨hand, inner⟩) (other : inner.state ≠ .ready) :
    inner.channel = none := by
  cases bound : inner.channel with
  | none => rfl
  | some number =>
    refine absurd (sound.channel ?_) other
    show inner.channel.isSome = true
    rw [bound]
    rfl

/-- A request in hand is not pending. -/
theorem Sound.fresh {request : Operation × Bool} (sound : Sound limited ⟨some request, inner⟩) :
    inner.hasOperation request.1 = false := by
  apply Bool.eq_false_of_not_eq_true
  intro present
  obtain ⟨pending, member, same⟩ := List.any_eq_true.mp present
  apply (List.nodup_cons.mp sound.once).1
  rw [← beq_iff_eq.mp same]
  exact List.mem_map_of_mem (List.mem_map_of_mem
    (f := fun pending : Pending => (pending.operation, pending.authenticated)) member)

/-- A request in hand can be sent. -/
theorem Sound.sendable {operation : Operation} {authenticated : Bool} {digests : Digests}
    (sound : Sound limited ⟨some (operation, authenticated), inner⟩) (limits : limited) :
    ¬(inner.hasOperation operation = true ∨ (authenticated = true ∧ inner.known = false) ∨
      ∃ transaction failure,
        inner.buildRequest digests operation transaction authenticated = .error failure) := by
  have known : authenticated = true → inner.known = true := fun needed =>
    sound.known (.inl ⟨_, List.mem_cons_self, needed⟩)
  rintro (present | ⟨needed, unknown⟩ | ⟨transaction, failure, failed⟩)
  · rw [sound.fresh] at present
    cases present
  · rw [known needed] at unknown
    cases unknown
  · obtain ⟨packet, built⟩ := buildRequest_ok digests inner operation transaction authenticated
      known sound.username (sound.realm limits) (sound.nonce limits)
    rw [failed] at built
    cases built

/-- The invariant of a client without an allocation after any event. -/
theorem Sound.setState (sound : Sound limited ⟨hand, inner⟩) (next : Inner) (state : TurnState)
    (other : state ≠ .ready) (pending : next.pending = []) (channel : next.channel = none)
    (undestroyed : next.destroyed = inner.destroyed)
    (leaving : state = .deallocating → next.shuttingDown = true)
    (known : next.allocationExpiresAt.isSome → inner.known = true)
    (username : next.username = inner.username) (realm : next.realm = inner.realm)
    (nonce : next.nonce = inner.nonce) (key : next.key = inner.key) :
    Sound limited ⟨none, next.setState state⟩ := by
  rw [setState_eq]
  exact sound.emptied other pending channel undestroyed leaving known username realm nonce key

/-- Timers and counters may change, if those of a live allocation stay set. -/
theorem Sound.retimed (sound : Sound limited ⟨hand, inner⟩) (next : Inner)
    (same : next = { inner with
      allocationRefresh := next.allocationRefresh
      maintenanceRefresh := next.maintenanceRefresh
      permissionRetry := next.permissionRetry
      channelRetry := next.channelRetry
      refreshFailures := next.refreshFailures
      permissionFailures := next.permissionFailures
      channelFailures := next.channelFailures
      keepalive := next.keepalive })
    (maintenance : inner.maintenanceRefresh.isSome → next.maintenanceRefresh.isSome)
    (keepalive : inner.keepalive.isSome → next.keepalive.isSome)
    (refresh : inner.allocationRefresh.isSome → next.allocationRefresh.isSome ∨
      .refresh ∈ (Stage.mk hand inner).requests.map Prod.fst) : Sound limited ⟨hand, next⟩ := by
  rw [same]
  exact
    { undestroyed := sound.undestroyed
      once := sound.once
      phase := sound.phase
      ready := fun ready =>
        have fields := sound.ready ready
        ⟨fields.1, fields.2.1, maintenance fields.2.2.1, keepalive fields.2.2.2⟩
      refreshed := fun limits ready => (sound.refreshed limits ready).elim refresh .inr
      channel := sound.channel
      closing := sound.closing
      leaving := sound.leaving
      known := sound.known
      username := sound.username
      realm := sound.realm
      nonce := sound.nonce }

/-- The timer of the request in hand is not needed. -/
theorem Sound.cleared {operation : Operation} {authenticated : Bool}
    (sound : Sound limited ⟨some (operation, authenticated), inner⟩) :
    Sound limited ⟨some (operation, authenticated), inner.clearTimer operation⟩ := by
  cases operation with
  | allocate => exact sound
  | deallocate => exact sound
  | refresh => exact sound.retimed _ rfl id id (fun _ => .inr List.mem_cons_self)
  | permission => exact sound.retimed _ rfl id id .inl
  | channel => exact sound.retimed _ rfl id id .inl

/-- New credentials are known. -/
theorem Sound.renewed {operation : Operation} {authenticated : Bool}
    (sound : Sound limited ⟨some (operation, authenticated), inner⟩) (digests : Digests)
    (realm nonce : List UInt8)
    (realmFits : limited → realm.length ≤ deliveredMax ∨ inner.realm = some realm)
    (nonceFits : limited → nonce.length ≤ deliveredMax) :
    Sound limited ⟨some (operation, true), inner.setAuth digests realm nonce⟩ where
  undestroyed := sound.undestroyed
  once := sound.once
  phase := by
    intro request member
    cases List.mem_cons.mp member with
    | inl here =>
      rw [here]
      exact sound.phase (operation, authenticated) List.mem_cons_self
    | inr pending => exact sound.phase request (List.mem_cons_of_mem _ pending)
  ready := sound.ready
  refreshed := sound.refreshed
  channel := sound.channel
  closing := sound.closing
  leaving := sound.leaving
  known := fun _ => rfl
  username := sound.username
  realm := by
    rintro limits bytes ⟨⟩
    exact (realmFits limits).elim id (fun old => sound.realm limits realm old)
  nonce := by
    rintro limits bytes ⟨⟩
    exact nonceFits limits

/-- A failure of the channel is counted. -/
theorem Sound.counted (sound : Sound limited ⟨hand, inner⟩) (now : Nat) :
    Sound limited ⟨hand, (inner.scheduleMaintenanceRetry .channel now).2⟩ := by
  unfold Inner.scheduleMaintenanceRetry
  dsimp only
  split
  · exact sound.retimed _ rfl id id .inl
  · exact sound.retimed _ rfl id id .inl

/-- The request in hand will be repeated. -/
theorem Sound.putOff {operation : Operation} {authenticated : Bool}
    (sound : Sound limited ⟨some (operation, authenticated), inner⟩) (now : Nat)
    (phase : operation.phase = .ready) :
    Sound limited ⟨none, (inner.scheduleMaintenanceRetry operation now).2⟩ := by
  cases operation with
  | allocate => cases phase
  | deallocate => cases phase
  | refresh =>
    have held : Sound limited ⟨some (.refresh, authenticated),
        (inner.scheduleMaintenanceRetry .refresh now).2⟩ :=
      sound.retimed _ rfl id id (fun _ => .inl rfl)
    exact held.finished (fun _ _ _ => rfl)
  | permission =>
    have held : Sound limited ⟨some (.permission, authenticated),
        (inner.scheduleMaintenanceRetry .permission now).2⟩ :=
      sound.retimed _ rfl id id .inl
    exact held.finished (fun _ _ same => by cases same)
  | channel => exact (sound.counted now).finished (fun _ _ same => by cases same)

/-- The allocation is there. -/
theorem Sound.granted (sound : Sound limited ⟨some (.allocate, true), inner⟩) (now : Nat)
    (relay : SocketAddr) (returned : Option UInt32) (wanted : inner.shuttingDown = false) :
    Sound limited ⟨none, (inner.grantedBy now relay returned).setState .ready⟩ := by
  have alone := sound.alone (fun operation same => phase_allocating same)
  rw [setState_eq, Inner.grantedBy, pushEvent_eq]
  exact
    { undestroyed := sound.undestroyed
      once := (List.nodup_cons.mp sound.once).2
      phase := by
        intro request member
        change request ∈ inner.pending.map _ at member
        rw [alone] at member
        cases member
      ready := fun _ => ⟨rfl, rfl, rfl, rfl⟩
      refreshed := fun _ _ => .inl rfl
      channel := fun _ => rfl
      closing := fun closing => absurd (wanted.symm.trans closing) Bool.false_ne_true
      leaving := fun same => by cases same
      known := fun _ => sound.known (.inl ⟨_, List.mem_cons_self, rfl⟩)
      username := sound.username
      realm := sound.realm
      nonce := sound.nonce }

/-- The allocation is there, but is given back. -/
theorem Sound.grantedLate (sound : Sound limited ⟨some (.allocate, true), inner⟩) (now : Nat)
    (relay : SocketAddr) (returned : Option UInt32) (closing : inner.shuttingDown = true) :
    Sound limited ⟨some (.deallocate, true),
      (inner.grantedBy now relay returned).setState .deallocating⟩ := by
  have alone := sound.alone (fun operation same => phase_allocating same)
  have known := sound.known (.inl ⟨_, List.mem_cons_self, rfl⟩)
  have unbound : inner.channel = none := by
    apply sound.unbound
    rw [← sound.phase _ List.mem_cons_self]
    decide
  have emptied :
      Sound limited ⟨none, (inner.grantedBy now relay returned).setState .deallocating⟩ := by
    unfold Inner.grantedBy
    rw [pushEvent_eq]
    exact sound.setState _ _ (by decide) alone unbound rfl (fun _ => closing) (fun _ => known) rfl
      rfl rfl rfl
  apply emptied.asked (.deallocate, true)
  · rw [setState_eq, Inner.grantedBy, pushEvent_eq]
    show inner.pending.any _ = false
    rw [alone]
    rfl
  · rw [setState_eq]
    rfl
  · intro _
    rw [setState_eq, Inner.grantedBy, pushEvent_eq]
    exact known

/-- The allocation has got more time. -/
theorem Sound.extended {authenticated : Bool}
    (sound : Sound limited ⟨some (.refresh, authenticated), inner⟩) (now : Nat)
    (returned : Option UInt32) :
    Sound limited ⟨none, inner.extendAllocation now returned⟩ := by
  have ready : inner.state = .ready := (sound.phase _ List.mem_cons_self).symm
  have held : Sound limited ⟨some (.refresh, authenticated), inner.extendAllocation now returned⟩ :=
    { undestroyed := sound.undestroyed
      once := sound.once
      phase := sound.phase
      ready := fun _ => ⟨(sound.ready ready).1, rfl, (sound.ready ready).2.2⟩
      refreshed := fun _ _ => .inl rfl
      channel := sound.channel
      closing := sound.closing
      leaving := sound.leaving
      known := fun _ => sound.known (.inr (.inl ready))
      username := sound.username
      realm := sound.realm
      nonce := sound.nonce }
  exact held.finished (fun _ _ _ => rfl)

/-- The allocation has been given back. -/
theorem Sound.returned {authenticated : Bool}
    (sound : Sound limited ⟨some (.deallocate, authenticated), inner⟩) :
    Sound limited ⟨some (.deallocate, authenticated), inner.returned⟩ := by
  have leaving : .deallocating = inner.state := sound.phase _ List.mem_cons_self
  have other : inner.state ≠ .ready := by
    rw [← leaving]
    decide
  exact
    { undestroyed := sound.undestroyed
      once := sound.once
      phase := sound.phase
      ready := fun ready => absurd ready other
      refreshed := fun _ ready => absurd ready other
      channel := sound.channel
      closing := sound.closing
      leaving := sound.leaving
      known := fun needed => sound.known (needed.imp_right
        (fun fields => fields.elim .inl nofun))
      username := sound.username
      realm := sound.realm
      nonce := sound.nonce }

/-- Every move keeps the invariant. -/
theorem sound_moves {digests : Digests} {occasion : Occasion} {before after : Stage}
    (move : Moves digests occasion before after)
    (delivered : limited → occasion.size ≤ deliveredMax)
    (sound : Sound limited before) : Sound limited after := by
  cases move with
  | note event => exact sound.pushEvent event
  | send packet =>
    rw [queuePacket_eq]
    exact sound.queued _ _
  | unqueue controls => exact sound.queued controls _
  | @take inner front pending rest among =>
    apply sound.rearranged
    show ((pending.operation, pending.authenticated) :: (front ++ rest).map _).Perm
      (inner.pending.map _)
    rw [among, List.map_append, List.map_append, List.map_cons]
    exact List.perm_middle.symm
  | @again inner front pending next rest among operation authenticated =>
    apply sound.rearranged
    show ((front ++ next :: rest).map _).Perm (inner.pending.map _)
    rw [among, List.map_append, List.map_append, List.map_cons, List.map_cons, operation,
      authenticated]
  | @ask inner operation next cleared phase ready missing =>
    have asked := sound.asked (operation, true) missing (phase.trans ready.symm)
      (fun _ => sound.known (.inr (.inl ready)))
    cases cleared with
    | inl same => exact same ▸ asked
    | inr cleared => exact cleared ▸ asked.cleared
  | @begin inner null =>
    have nothing := sound.nothing (fun operation => by
      show operation.phase ≠ inner.state
      rw [null]
      cases operation <;> decide)
    have other : inner.state ≠ .ready := by
      rw [null]
      decide
    have allocating := sound.setState inner .allocating (by decide) nothing
      (sound.unbound other) rfl (fun same => by cases same)
      (fun live => sound.known (.inr (.inr live))) rfl rfl rfl rfl
    apply allocating.asked (.allocate, false)
    · rw [setState_eq, Inner.hasOperation, nothing]
      rfl
    · rw [setState_eq]
      rfl
    · exact fun same => by cases same
  | @place inner pending =>
    apply sound.rearranged
    show ((inner.pending ++ [pending]).map _).Perm
      ((pending.operation, pending.authenticated) :: inner.pending.map _)
    rw [List.map_append]
    exact List.perm_append_singleton _ _
  | stuck operation authenticated cannot =>
    exact sound.finished (fun limits => absurd cannot (sound.sendable limits))
  | @renew inner operation authenticated realm nonce realmFits nonceFits =>
    exact sound.renewed digests realm nonce
      (fun limits => realmFits.imp_left (Nat.le_trans · (delivered limits)))
      (fun limits => Nat.le_trans nonceFits (delivered limits))
  | @putOff inner operation authenticated phase live retried =>
    exact sound.putOff occasion.now phase
  | @lose hand inner operation held why =>
    apply sound.setState inner.dropAllocation operation.lost _ rfl rfl rfl _
      (fun live => by cases live) rfl rfl rfl rfl
    · cases operation <;> decide
    · cases operation <;> exact fun same => by cases same
  | @exhaust inner authenticated =>
    have counted := sound.counted occasion.now
    have known := counted.known (.inr (.inl (counted.phase _ List.mem_cons_self).symm))
    unfold Inner.destroyAfterChannelRebindExhausted
    rw [pushEvent_eq]
    exact counted.setState _ _ (by decide) rfl rfl rfl
      (fun same => by cases same) (fun _ => known) rfl rfl rfl rfl
  | granted message relay answer success wanted =>
    exact sound.granted occasion.now relay _ wanted
  | grantedLate message relay answer success closing =>
    exact sound.grantedLate occasion.now relay _ closing
  | extended message authenticated => exact sound.extended occasion.now _
  | clear authenticated => exact sound.returned
  | settle authenticated =>
    have alone := sound.alone (fun operation same => phase_deallocating same)
    have leaving : .deallocating = Inner.state _ := sound.phase _ List.mem_cons_self
    apply sound.setState _ .deallocated (by decide) alone _ rfl
      (fun same => by cases same)
      (fun live => sound.known (.inr (.inr live))) rfl rfl rfl rfl
    apply sound.unbound
    rw [← leaving]
    decide
  | @permitted inner authenticated =>
    have reset := sound.retimed { inner with permissionFailures := 0 } rfl id id .inl
    exact reset.finished (fun _ _ same => by cases same)
  | @bound inner authenticated =>
    have ready : inner.state = .ready := (sound.phase _ List.mem_cons_self).symm
    have held : Sound limited ⟨some (.channel, authenticated),
        { inner with channel := some channelNumber, channelFailures := 0 }⟩ :=
      { sound with channel := fun _ => ready }
    exact (held.pushEvent _).finished (fun _ _ same => by cases same)
  | rearm time => exact sound.retimed _ rfl (fun _ => rfl) id .inl
  | rouse time => exact sound.retimed _ rfl id (fun _ => rfl) .inl
  | @leave inner closes held =>
    have known : inner.known = true := sound.known (.inr (held.imp id And.right))
    have emptied :
        Sound limited ⟨none, { inner.quiet with pending := [] }.setState .deallocating⟩ :=
      sound.setState _ _ (by decide) rfl rfl rfl (fun _ => rfl) (fun _ => known) rfl rfl rfl rfl
    apply emptied.asked (.deallocate, true)
    · rw [setState_eq]
      rfl
    · rw [setState_eq]
      rfl
    · intro _
      rw [setState_eq]
      exact known
  | @close inner closes idle other =>
    exact sound.emptied idle rfl rfl rfl (fun _ => rfl)
      (fun live => sound.known (.inr (.inr live))) rfl rfl rfl rfl
  | @closeEarly inner closes early =>
    have other : inner.state ≠ .ready := by
      rw [early]
      decide
    exact
      { sound with
        ready := fun ready => absurd ready other
        refreshed := fun _ ready => absurd ready other
        channel := fun bound => by cases bound
        closing := fun _ => other
        leaving := fun _ => rfl }

end Sound

/-- Any number of moves keep the invariant. -/
theorem sound_moved {digests : Digests} {occasion : Occasion} {before after : Stage}
    (moved : Moved digests occasion before after)
    (delivered : limited → occasion.size ≤ deliveredMax)
    (sound : Sound limited before) : Sound limited after := by
  induction moved with
  | refl => exact sound
  | tail _ move ih => exact sound_moves move delivered ih

/-- The client was torn down. -/
structure Gone (inner : Inner) : Prop where
  /-- It says so. -/
  destroyed : inner.destroyed = true
  /-- Its last state. -/
  state : inner.state = .destroying
  /-- It awaits nothing. -/
  pending : inner.pending = []
  /-- It sends nothing. -/
  controls : inner.controls = []

/-- The invariant of the client. -/
def Valid (limited : Prop) (inner : Inner) : Prop :=
  Sound limited ⟨none, inner⟩ ∨ Gone inner

/-- A datagram that is put in was delivered by a transport. -/
def Call.Delivered : Call → Prop
  | .inputStun _ packet => packet.length ≤ deliveredMax
  | _ => True

/-- Whether a call is delivered can be decided. -/
instance Call.decidableDelivered : (call : Call) → Decidable call.Delivered
  | .inputStun _ packet => Nat.decLe packet.length deliveredMax
  | .startAllocation _ => .isTrue trivial
  | .startChannel _ => .isTrue trivial
  | .startPermission _ => .isTrue trivial
  | .poll _ => .isTrue trivial
  | .pullControl => .isTrue trivial
  | .pullEvent => .isTrue trivial
  | .gracefulShutdown _ => .isTrue trivial
  | .forceDestroy _ => .isTrue trivial

section Run

variable (digests : Digests)

/-- A client that was torn down does not change any more, except that its events are taken. -/
theorem gone_kept (inner : Inner) (call : Call) (gone : Gone inner) (pulls : call ≠ .pullEvent) :
    (inner.call digests call).1 = inner := by
  have closed : ∀ operation, inner.requireOpen operation =
      .error (.bail (operation ++ ": " ++ nativeStatusText resultClosed)) := by
    intro operation
    rw [Inner.requireOpen, gone.destroyed, Bool.true_or, if_pos rfl]
  have unready : ∀ operation, inner.requireReady operation =
      .error (.bail (operation ++ ": " ++ nativeStatusText resultClosed)) := by
    intro operation
    rw [Inner.requireReady, closed]
    rfl
  cases call with
  | startAllocation readings =>
    show (inner.startAllocation digests readings).2 = inner
    rw [Inner.startAllocation, closed]
  | startChannel readings =>
    show (inner.startChannel digests readings).2 = inner
    rw [Inner.startChannel, unready]
  | startPermission readings =>
    show (inner.startPermission digests readings).2 = inner
    rw [Inner.startPermission, unready]
  | inputStun readings packet =>
    show (inner.inputStun digests readings packet).2 = inner
    unfold Inner.inputStun
    rw [gone.pending]
    split
    · rfl
    · split
      · rfl
      · split <;> rfl
  | poll readings =>
    show (inner.poll digests readings).2 = inner
    unfold Inner.poll
    rw [gone.destroyed]
    rfl
  | pullControl =>
    show inner.pullControl.2 = inner
    rw [Inner.pullControl, gone.controls]
  | pullEvent => exact absurd rfl pulls
  | gracefulShutdown readings =>
    show (inner.gracefulShutdown digests readings).2 = inner
    rw [Inner.gracefulShutdown, gone.destroyed, Bool.true_or, if_pos rfl]
  | forceDestroy status =>
    show inner.forceDestroy status = inner
    rw [Inner.forceDestroy, if_pos gone.destroyed]

/-- A client that was torn down stays so. -/
theorem gone_call (inner : Inner) (call : Call) (gone : Gone inner) :
    Gone (inner.call digests call).1 := by
  by_cases pulls : call = .pullEvent
  · subst pulls
    exact ⟨gone.destroyed, gone.state, gone.pending, gone.controls⟩
  · rw [gone_kept digests inner call gone pulls]
    exact gone

/-- A client that was torn down stays so in every run. -/
theorem gone_run (inner : Inner) (calls : List Call) (gone : Gone inner) :
    Gone (Mealy.final (Inner.call digests) inner calls) := by
  induction calls generalizing inner with
  | nil => exact gone
  | cons call rest ih => exact ih _ (gone_call digests inner call gone)

/-- Every call but `force_destroy` keeps a client sound. -/
theorem sound_call {limited : Prop} (inner : Inner) (call : Call)
    (sound : Sound limited ⟨none, inner⟩) (delivered : limited → call.Delivered)
    (kept : ∀ status, call ≠ .forceDestroy status) :
    Sound limited ⟨none, (inner.call digests call).1⟩ := by
  by_cases pulls : call = .pullEvent
  · subst pulls
    exact sound.queued inner.controls _
  · apply sound_moved (moved_call digests inner call pulls kept) _ sound
    intro limits
    cases call with
    | inputStun readings packet => exact delivered limits
    | _ => exact Nat.zero_le _

/-- A sound client that is torn down is gone. -/
theorem gone_forceDestroy {limited : Prop} {inner : Inner} (sound : Sound limited ⟨none, inner⟩)
    (status : Int) :
    Gone (inner.forceDestroy status) := by
  have alive : inner.destroyed = false := sound.undestroyed
  rw [Inner.forceDestroy, alive, if_neg Bool.false_ne_true, pushEvent_eq, setState_eq]
  exact ⟨rfl, rfl, rfl, rfl⟩

/-- Every call keeps the invariant. -/
theorem valid_call {limited : Prop} (inner : Inner) (call : Call) (valid : Valid limited inner)
    (delivered : limited → call.Delivered) : Valid limited (inner.call digests call).1 := by
  cases valid with
  | inr gone => exact .inr (gone_call digests inner call gone)
  | inl sound =>
    by_cases destroys : ∃ status, call = .forceDestroy status
    · obtain ⟨status, rfl⟩ := destroys
      exact .inr (gone_forceDestroy sound status)
    · left
      exact sound_call digests inner call sound delivered
        (fun status same => destroys ⟨status, same⟩)

/-- A new client is sound. -/
theorem sound_create {limited : Prop} {server peer : SocketAddr} {username password : List UInt8}
    {profile : CsqttTurnProfile} {transport : TurnControlTransport} {start : Inner}
    (created : Inner.create server username password peer profile transport = .ok start) :
    Sound limited ⟨none, start⟩ := by
  unfold Inner.create at created
  dsimp only at created
  split at created
  · cases created
  · split at created
    · cases created
    · rename_i fits
      cases created
      exact
        { undestroyed := rfl
          once := List.nodup_nil
          phase := nofun
          ready := nofun
          refreshed := nofun
          channel := nofun
          closing := nofun
          leaving := nofun
          known := by
            rintro (⟨_, member, _⟩ | ready | live)
            · cases member
            · cases ready
            · cases live
          username := by
            simp only [Bool.or_eq_true, decide_eq_true_eq, not_or, Nat.not_lt] at fits
            exact fits.1.1.2
          realm := nofun
          nonce := nofun }

/-- A new client is not shut down. -/
theorem create_wanted {server peer : SocketAddr} {username password : List UInt8}
    {profile : CsqttTurnProfile} {transport : TurnControlTransport} {start : Inner}
    (created : Inner.create server username password peer profile transport = .ok start) :
    start.shuttingDown = false := by
  unfold Inner.create at created
  dsimp only at created
  split at created
  · cases created
  · split at created
    · cases created
    · cases created
      rfl

/-- The invariant holds in every state of every run. -/
theorem valid_run (start : Inner) (calls : List Call) (valid : Valid True start)
    (delivered : ∀ call ∈ calls, call.Delivered) :
    Valid True (Mealy.final (Inner.call digests) start calls) := by
  induction calls generalizing start with
  | nil => exact valid
  | cons call rest ih =>
    apply ih
    · exact valid_call digests start call valid (fun _ => delivered call List.mem_cons_self)
    · exact fun later member => delivered later (List.mem_cons_of_mem _ member)

/-- What a client that makes progress looks like from outside. -/
structure Structural (inner : Inner) : Prop where
  /-- No two pending requests are for the same. -/
  once : (inner.pending.map Pending.operation).Nodup
  /-- The fields of a client that is ready are set. -/
  ready : inner.state = .ready →
    inner.relay.isSome ∧ inner.allocationExpiresAt.isSome ∧ inner.maintenanceRefresh.isSome ∧
      inner.keepalive.isSome ∧
        (inner.allocationRefresh.isSome ∨ inner.hasOperation .refresh = true)
  /-- Only a client that is ready has a channel, until it is torn down. -/
  channel : inner.channel.isSome → inner.destroyed = false → inner.state = .ready
  /-- A client that is shut down is not ready. -/
  shuttingDown : inner.shuttingDown = true → inner.state ≠ .ready

/-- A client with the invariant has the structure. -/
theorem Valid.structural {inner : Inner} (valid : Valid True inner) : Structural inner := by
  cases valid with
  | inl sound =>
    exact
      { once := by
          have once := sound.once
          change (List.map Prod.fst (inner.pending.map _)).Nodup at once
          rw [List.map_map] at once
          exact once
        ready := by
          intro ready
          obtain ⟨relay, expires, maintenance, keepalive⟩ := sound.ready ready
          refine ⟨relay, expires, maintenance, keepalive, ?_⟩
          cases sound.refreshed trivial ready with
          | inl timer => exact .inl timer
          | inr asked =>
            right
            obtain ⟨request, member, kind⟩ := List.mem_map.mp asked
            obtain ⟨pending, among, rfl⟩ := List.mem_map.mp member
            exact List.any_eq_true.mpr ⟨pending, among, beq_iff_eq.mpr kind⟩
        channel := fun bound _ => sound.channel bound
        shuttingDown := sound.closing }
  | inr gone =>
    exact
      { once := by
          rw [gone.pending]
          exact List.nodup_nil
        ready := by
          rw [gone.state]
          exact nofun
        channel := fun _ alive => absurd (gone.destroyed.symm.trans alive) nofun
        shuttingDown := by
          rw [gone.state]
          exact fun _ => nofun }

/-- Every state a client can get into has the structure; and once it was torn down, it stays in
its state, awaits nothing and sends nothing, whatever is called. -/
theorem structural_run (server : SocketAddr) (username password : List UInt8) (peer : SocketAddr)
    (profile : CsqttTurnProfile) (transport : TurnControlTransport) (start : Inner)
    (created : Inner.create server username password peer profile transport = .ok start)
    (calls : List Call) (delivered : ∀ call ∈ calls, call.Delivered) :
    Structural (Mealy.final (Inner.call digests) start calls) ∧
      ((Mealy.final (Inner.call digests) start calls).destroyed = true → ∀ later : List Call,
        let after := Mealy.final (Inner.call digests) start (calls ++ later)
        after.destroyed = true ∧
          after.state = (Mealy.final (Inner.call digests) start calls).state ∧
          after.pending = [] ∧ after.controls = []) := by
  have valid := valid_run digests start calls (.inl (sound_create created)) delivered
  constructor
  · exact valid.structural
  · intro destroyed later
    rw [Mealy.final_append]
    cases valid with
    | inl sound => exact absurd (sound.undestroyed.symm.trans destroyed) nofun
    | inr gone =>
      have after := gone_run digests _ later gone
      exact ⟨after.destroyed, after.state.trans gone.state.symm, after.pending, after.controls⟩

end Run

/-- The client of `user` gets its allocation. -/
def allocatedRun : List Call :=
  challenged ++ [.inputStun (readingsAt 0 0) coveredResponse]

/-- The client of `user` gets ready, is torn down and stays so. -/
theorem userClient_structural :
    (Mealy.final (Inner.call runDigests) userClient allocatedRun).state = .ready ∧
    Structural (Mealy.final (Inner.call runDigests) userClient allocatedRun) ∧
    (Mealy.final (Inner.call runDigests) userClient (allocatedRun ++ [.forceDestroy (-4)] ++
      [.startAllocation (readingsAt 0 0)])).controls = [] := by
  have first : ∀ call ∈ allocatedRun, call.Delivered := by decide +kernel
  have both : ∀ call ∈ allocatedRun ++ [.forceDestroy (-4)], call.Delivered := by decide +kernel
  have ready := structural_run runDigests userClient.server userClient.username
    userClient.password userClient.peer userClient.profile userClient.transport userClient rfl
    allocatedRun first
  have gone := structural_run runDigests userClient.server userClient.username
    userClient.password userClient.peer userClient.profile userClient.transport userClient rfl
    (allocatedRun ++ [.forceDestroy (-4)]) both
  have destroyed : (Mealy.final (Inner.call runDigests) userClient
      (allocatedRun ++ [.forceDestroy (-4)])).destroyed = true := by
    decide +kernel
  have after := gone.2 destroyed [.startAllocation (readingsAt 0 0)]
  exact ⟨by decide +kernel, ready.1, after.2.2.2⟩

end Focsq.Turn
