import Mathlib.Logic.Relation
import Focsq.Backend.NativeCore
import Focsq.Lib.Vec
import Focsq.Verif.StunPrefix

/-!
# What the TURN client can do

A call of the client is a sequence of small moves. At most one request is in hand between them: it
was taken out of the pending ones because it was answered or given up, or it is about to be sent.
`Moves` lists the moves with what each of them requires; the calls are shown to consist of them, so
that an invariant of the moves is an invariant of the client.
-/

namespace Focsq.Turn

open Stun

/-- The client between two moves. -/
structure Stage where
  /-- The request in hand: what it is for, and whether it carries the credentials. -/
  hand : Option (Operation × Bool)
  /-- The state of the client. -/
  inner : Inner

/-- What a call goes by. -/
structure Occasion where
  /-- The time. -/
  now : Nat
  /-- The response that is taken for an answer, with the operation it answers. -/
  answer : Option (Operation × Message)
  /-- Length of the datagram that was put in. -/
  size : Nat
  /-- Whether it is a shutdown. -/
  closes : Bool

/-- State in which a request of an operation can be open. -/
def Operation.phase : Operation → TurnState
  | .allocate => .allocating
  | .refresh => .ready
  | .deallocate => .deallocating
  | .permission => .ready
  | .channel => .ready

/-- Whether the allocation has time left. -/
def Inner.live (inner : Inner) (now : Nat) : Bool :=
  inner.allocationExpiresAt.any (fun deadline => now < deadline)

/-- Realm, nonce and key are known. -/
def Inner.known (inner : Inner) : Bool :=
  inner.realm.isSome && inner.nonce.isSome && inner.key.isSome

/-- State in which the allocation is left by a lost request. -/
def Operation.lost : Operation → TurnState
  | .deallocate => .deallocated
  | _ => .destroying

/-- The state with the fields of an Allocate response set. -/
def Inner.grantedBy (inner : Inner) (now : Nat) (relay : SocketAddr) (returned : Option UInt32) :
    Inner :=
  { inner.extendAllocation now returned with
    relay := some relay
    maintenanceRefresh := some (now + inner.profile.maintenanceRefresh)
    keepalive := some (now + inner.profile.keepaliveInterval) }.pushEvent
      { kind := .relayAddress, address := .fromSocketAddr relay }

/-- The state with the channel bound. -/
def Inner.boundChannel (inner : Inner) : Inner :=
  { inner with channel := some channelNumber, channelFailures := 0 }.pushEvent
    { kind := .channelBound, channel := channelNumber, address := .fromSocketAddr inner.peer }

/-- The state without an allocation. -/
def Inner.returned (inner : Inner) : Inner :=
  { inner with relay := none, allocationRefresh := none, allocationExpiresAt := none }

/-- Why the allocation is lost with a request: it was not there yet, it is being given back, its
time is over, or the response says so. -/
def Inner.Loses (inner : Inner) (occasion : Occasion) (hand : Option (Operation × Bool))
    (operation : Operation) : Prop :=
  (operation = .allocate ∧ (hand.isSome = true ∨ inner.state = .deallocating)) ∨
    (operation = .deallocate ∧ hand.isSome = true) ∨
    ((hand.isSome = true ∨ inner.state = .ready) ∧
      ¬(inner.state = .ready ∧ inner.live occasion.now = true)) ∨
    ∃ message code, occasion.answer = some (operation, message) ∧ message.class = .error ∧
      errorCode message = some code ∧ requiresAllocationRecreate operation code = true

/-- One move of the client. -/
inductive Moves (digests : Digests) (occasion : Occasion) : Stage → Stage → Prop where
  /-- An event that is neither a new state nor a bound channel. -/
  | note {hand inner} (event : NativeEvent) (plain : event.kind ≠ .state)
      (other : event.kind ≠ .channelBound) :
      Moves digests occasion ⟨hand, inner⟩ ⟨hand, inner.pushEvent event⟩
  /-- A packet is queued. -/
  | send {hand inner} (packet : List UInt8) :
      Moves digests occasion ⟨hand, inner⟩ ⟨hand, inner.queuePacket packet⟩
  /-- Queued packets are taken out. -/
  | unqueue {hand inner} (controls : List Control) :
      Moves digests occasion ⟨hand, inner⟩ ⟨hand, { inner with controls }⟩
  /-- A pending request is taken into the hand. -/
  | take {inner} (before : List Pending) (pending : Pending) (after : List Pending)
      (among : inner.pending = before ++ pending :: after) :
      Moves digests occasion ⟨none, inner⟩
        ⟨some (pending.operation, pending.authenticated),
          { inner with pending := before ++ after }⟩
  /-- A pending request is sent again. -/
  | again {inner} (before : List Pending) (pending next : Pending) (after : List Pending)
      (among : inner.pending = before ++ pending :: after)
      (operation : next.operation = pending.operation)
      (authenticated : next.authenticated = pending.authenticated) :
      Moves digests occasion ⟨none, inner⟩
        ⟨none, { inner with pending := before ++ next :: after }⟩
  /-- A request is due. -/
  | ask {inner} (operation : Operation) (next : Inner)
      (cleared : next = inner ∨ next = inner.clearTimer operation)
      (phase : operation.phase = .ready) (ready : inner.state = .ready)
      (missing : inner.hasOperation operation = false) :
      Moves digests occasion ⟨none, inner⟩ ⟨some (operation, true), next⟩
  /-- The allocation is asked for. -/
  | begin {inner} (null : inner.state = .null) :
      Moves digests occasion ⟨none, inner⟩ ⟨some (.allocate, false), inner.setState .allocating⟩
  /-- The request in hand has been sent. -/
  | place {inner} (pending : Pending) :
      Moves digests occasion ⟨some (pending.operation, pending.authenticated), inner⟩
        ⟨none, { inner with pending := inner.pending ++ [pending] }⟩
  /-- The request in hand cannot be sent, or there is one of its kind already. -/
  | stuck {inner} (operation : Operation) (authenticated : Bool)
      (cannot : inner.hasOperation operation = true ∨
        (authenticated = true ∧ inner.known = false) ∨
        ∃ transaction failure,
          inner.buildRequest digests operation transaction authenticated = .error failure) :
      Moves digests occasion ⟨some (operation, authenticated), inner⟩ ⟨none, inner⟩
  /-- The request in hand will carry new credentials. -/
  | renew {inner} (operation : Operation) (authenticated : Bool) (realm nonce : List UInt8)
      (realmFits : realm.length ≤ occasion.size ∨ inner.realm = some realm)
      (nonceFits : nonce.length ≤ occasion.size) :
      Moves digests occasion ⟨some (operation, authenticated), inner⟩
        ⟨some (operation, true), inner.setAuth digests realm nonce⟩
  /-- The request in hand will be repeated later. -/
  | putOff {inner} (operation : Operation) (authenticated : Bool)
      (phase : operation.phase = .ready) (live : inner.live occasion.now = true)
      (retried : (inner.scheduleMaintenanceRetry operation occasion.now).1 = true) :
      Moves digests occasion ⟨some (operation, authenticated), inner⟩
        ⟨none, (inner.scheduleMaintenanceRetry operation occasion.now).2⟩
  /-- The allocation is lost with the request in hand, or without one when it has ended. -/
  | lose {hand inner} (operation : Operation)
      (held : ∀ request ∈ hand, Prod.fst request = operation)
      (why : inner.Loses occasion hand operation) :
      Moves digests occasion ⟨hand, inner⟩ ⟨none, inner.dropAllocation.setState operation.lost⟩
  /-- The channel has failed too often. -/
  | exhaust {inner} (authenticated : Bool) :
      Moves digests occasion ⟨some (.channel, authenticated), inner⟩
        ⟨none, (inner.scheduleMaintenanceRetry .channel
          occasion.now).2.destroyAfterChannelRebindExhausted⟩
  /-- The allocation is there. -/
  | granted {inner} (message : Message) (relay : SocketAddr)
      (answer : occasion.answer = some (.allocate, message)) (success : message.class = .success)
      (wanted : inner.shuttingDown = false) :
      Moves digests occasion ⟨some (.allocate, true), inner⟩
        ⟨none, (inner.grantedBy occasion.now relay
          (attributeU32 message attrLifetime)).setState .ready⟩
  /-- The allocation is there, but is not wanted any more. -/
  | grantedLate {inner} (message : Message) (relay : SocketAddr)
      (answer : occasion.answer = some (.allocate, message)) (success : message.class = .success)
      (closing : inner.shuttingDown = true) :
      Moves digests occasion ⟨some (.allocate, true), inner⟩
        ⟨some (.deallocate, true), (inner.grantedBy occasion.now relay
          (attributeU32 message attrLifetime)).setState .deallocating⟩
  /-- The allocation has got more time. -/
  | extended {inner} (message : Message) (authenticated : Bool)
      (answer : occasion.answer = some (.refresh, message)) (success : message.class = .success) :
      Moves digests occasion ⟨some (.refresh, authenticated), inner⟩
        ⟨none, inner.extendAllocation occasion.now (attributeU32 message attrLifetime)⟩
  /-- The allocation has been given back. -/
  | clear {inner} (authenticated : Bool) :
      Moves digests occasion ⟨some (.deallocate, authenticated), inner⟩
        ⟨some (.deallocate, authenticated), inner.returned⟩
  /-- The end of the allocation is reported. -/
  | settle {inner} (authenticated : Bool) :
      Moves digests occasion ⟨some (.deallocate, authenticated), inner⟩
        ⟨none, inner.setState .deallocated⟩
  /-- The peer is let in. -/
  | permitted {inner} (authenticated : Bool) :
      Moves digests occasion ⟨some (.permission, authenticated), inner⟩
        ⟨none, { inner with permissionFailures := 0 }⟩
  /-- The channel is bound. -/
  | bound {inner} (authenticated : Bool) :
      Moves digests occasion ⟨some (.channel, authenticated), inner⟩ ⟨none, inner.boundChannel⟩
  /-- The next renewal of permission and channel is set. -/
  | rearm {inner} (time : Nat) :
      Moves digests occasion ⟨none, inner⟩ ⟨none, { inner with maintenanceRefresh := some time }⟩
  /-- The next keepalive is set. -/
  | rouse {inner} (time : Nat) :
      Moves digests occasion ⟨none, inner⟩ ⟨none, { inner with keepalive := some time }⟩
  /-- The allocation is to be given back. -/
  | leave {inner} (closes : occasion.closes = true) (held : inner.state = .ready ∨
        (inner.state = .destroying ∧ inner.allocationExpiresAt.isSome = true)) :
      Moves digests occasion ⟨none, inner⟩
        ⟨some (.deallocate, true), { inner.quiet with pending := [] }.setState .deallocating⟩
  /-- Shutting down while there is nothing to give back. -/
  | close {inner} (closes : occasion.closes = true) (idle : inner.state ≠ .ready)
      (other : inner.state ≠ .allocating) :
      Moves digests occasion ⟨none, inner⟩ ⟨none, { inner.quiet with pending := [] }⟩
  /-- Shutting down while the allocation is asked for. -/
  | closeEarly {inner} (closes : occasion.closes = true) (early : inner.state = .allocating) :
      Moves digests occasion ⟨none, inner⟩ ⟨none, inner.quiet⟩

/-- Any number of moves. -/
abbrev Moved (digests : Digests) (occasion : Occasion) : Stage → Stage → Prop :=
  Relation.ReflTransGen (Moves digests occasion)

/-- An event changes nothing else. -/
theorem pushEvent_eq (inner : Inner) (event : NativeEvent) :
    inner.pushEvent event = { inner with events := (inner.pushEvent event).events } := by
  unfold Inner.pushEvent
  split <;> rfl

/-- A packet changes the queues only. -/
theorem queuePacket_eq (inner : Inner) (packet : List UInt8) :
    inner.queuePacket packet =
      { inner with
        controls := (inner.queuePacket packet).controls
        events := (inner.queuePacket packet).events } := by
  unfold Inner.queuePacket
  split
  · rw [pushEvent_eq]
  · rfl

/-- A new state changes nothing else but events. -/
theorem setState_eq (inner : Inner) (state : TurnState) :
    inner.setState state = { inner with state, events := (inner.setState state).events } := by
  unfold Inner.setState
  split
  · rename_i same
    rw [← same]
  · rw [pushEvent_eq]

/-- A retry changes timers and counters only. -/
theorem scheduleMaintenanceRetry_eq (inner : Inner) (operation : Operation) (now : Nat) :
    (inner.scheduleMaintenanceRetry operation now).2 =
      { inner with
        allocationRefresh := (inner.scheduleMaintenanceRetry operation now).2.allocationRefresh
        permissionRetry := (inner.scheduleMaintenanceRetry operation now).2.permissionRetry
        channelRetry := (inner.scheduleMaintenanceRetry operation now).2.channelRetry
        refreshFailures := (inner.scheduleMaintenanceRetry operation now).2.refreshFailures
        permissionFailures := (inner.scheduleMaintenanceRetry operation now).2.permissionFailures
        channelFailures := (inner.scheduleMaintenanceRetry operation now).2.channelFailures } := by
  unfold Inner.scheduleMaintenanceRetry
  cases operation with
  | channel =>
    dsimp only
    split <;> rfl
  | _ => rfl

/-- There is a request of a kind when one is found. -/
theorem hasOperation_iff (inner : Inner) (operation : Operation) :
    inner.hasOperation operation = true ↔
      (inner.pending.find? (fun pending => pending.operation == operation)).isSome := by
  rw [List.find?_isSome, Inner.hasOperation, List.any_eq_true]

/-- New credentials come from the response, except for a realm that is known already. -/
theorem renewal_fits {inner : Inner} {pending : Pending} {message : Message} {code : UInt16}
    {realm nonce : List UInt8} {size : Nat}
    (renewal : inner.renewal pending message code = some (realm, nonce))
    (sizes : ∀ kind entry, message.attribute kind = some entry → entry.value.length ≤ size) :
    (realm.length ≤ size ∨ inner.realm = some realm) ∧ nonce.length ≤ size := by
  unfold Inner.renewal at renewal
  dsimp only at renewal
  split at renewal
  · split at renewal
    · rename_i newRealm newNonce fromRealm fromNonce
      cases renewal
      obtain ⟨entry, carries, rfl⟩ := Option.map_eq_some_iff.mp fromNonce
      refine ⟨?_, sizes _ entry carries⟩
      split at fromRealm
      · rename_i given carries
        cases fromRealm
        exact .inl (sizes _ given carries)
      · split at fromRealm
        · exact .inr fromRealm
        · cases fromRealm
    · cases renewal
  · cases renewal

section Moved

variable {digests : Digests} {occasion : Occasion} {hand : Option (Operation × Bool)}

/-- Completing a request is an event. -/
theorem moved_complete (inner : Inner) (operation : Operation) (status stunCode : Int) :
    Moved digests occasion ⟨hand, inner⟩ ⟨hand, inner.complete operation status stunCode⟩ :=
  .single (.note _ nofun nofun)

/-- Reporting an error response is an event. -/
theorem moved_responseError (inner : Inner) (method : UInt32) (status stunCode : Int) :
    Moved digests occasion ⟨hand, inner⟩ ⟨hand, inner.responseError method status stunCode⟩ :=
  .single (.note _ nofun nofun)

/-- Sending the request in hand. -/
theorem moved_startOperation {inner next : Inner} {draw : Draw} {operation : Operation}
    {authenticated : Bool} {nonceRetries : Nat}
    (started : inner.startOperation digests draw operation authenticated nonceRetries = .ok next) :
    Moved digests occasion ⟨some (operation, authenticated), inner⟩ ⟨none, next⟩ := by
  unfold Inner.startOperation at started
  split at started
  · rename_i pending found
    have same : inner.hasOperation operation = true := by
      rw [hasOperation_iff, found]
      rfl
    have merged : Moved digests occasion ⟨some (operation, authenticated), inner⟩ ⟨none, inner⟩ :=
      .single (.stuck operation authenticated (.inl same))
    split at started
    · cases started
      exact merged.tail (.send pending.packet)
    · cases started
      exact merged
  · split at started
    · cases started
    · cases built : inner.buildRequest digests operation draw.transaction authenticated with
      | error failure =>
        rw [built] at started
        cases started
      | ok packet =>
        rw [built] at started
        cases started
        exact (Relation.ReflTransGen.single (.send packet)).tail (.place
          { operation
            transaction := draw.transaction
            packet
            nextAttempt := draw.started + (inner.queuePacket packet).transactionTimeout
            rto := initialRto
            transmissions := 1
            nonceRetries
            authenticated })

/-- Failing to send the request in hand. -/
theorem moved_notStarted {inner : Inner} {draw : Draw} {operation : Operation}
    {authenticated : Bool} {nonceRetries : Nat} {failure : Failure}
    (failed : inner.startOperation digests draw operation authenticated nonceRetries =
      .error failure) :
    Moved digests occasion ⟨some (operation, authenticated), inner⟩ ⟨none, inner⟩ := by
  apply Relation.ReflTransGen.single
  apply Moves.stuck
  unfold Inner.startOperation at failed
  split at failed
  · split at failed <;> cases failed
  · split at failed
    · rename_i incomplete
      rw [Bool.and_eq_true] at incomplete
      right
      left
      constructor
      · exact incomplete.1
      · cases realm : inner.realm <;> cases nonce : inner.nonce <;> cases key : inner.key <;>
          simp_all [Inner.known]
    · cases built : inner.buildRequest digests operation draw.transaction authenticated with
      | error failure => exact .inr (.inr ⟨draw.transaction, failure, built⟩)
      | ok packet =>
        rw [built] at failed
        cases failed

/-- Sending the request in hand, or failing to. -/
theorem moved_start (inner : Inner) (readings : Readings) (operation : Operation)
    (authenticated : Bool) :
    Moved digests occasion ⟨some (operation, authenticated), inner⟩
      ⟨none, (inner.start digests readings operation authenticated).2⟩ := by
  unfold Inner.start
  split
  · rename_i failure failed
    exact moved_notStarted failed
  · rename_i next started
    exact moved_startOperation started

/-- Asking for an operation that a live allocation needs. -/
theorem moved_startReady (inner : Inner) (readings : Readings) (operation : Operation)
    (phase : operation.phase = .ready) (ready : inner.state = .ready) :
    Moved digests occasion ⟨none, inner⟩
      ⟨none, (inner.start digests readings operation true).2⟩ := by
  cases missing : inner.hasOperation operation with
  | false =>
    exact .head (.ask operation inner (.inl rfl) phase ready missing)
      (moved_start inner readings operation true)
  | true =>
    rw [hasOperation_iff, Option.isSome_iff_exists] at missing
    obtain ⟨pending, found⟩ := missing
    unfold Inner.start Inner.startOperation
    rw [found]
    dsimp only
    by_cases channel : operation = .channel
    · rw [if_pos channel]
      exact .single (.send _)
    · rw [if_neg channel]

/-- The allocation is lost. -/
theorem moved_destroyAllocation (inner : Inner) (operation : Operation) (status stunCode : Int)
    (held : ∀ request ∈ hand, Prod.fst request = operation)
    (why : inner.Loses occasion hand operation) :
    Moved digests occasion ⟨hand, inner⟩
      ⟨none, inner.destroyAllocation operation status stunCode⟩ := by
  have lost : inner.destroyAllocation operation status stunCode =
      (inner.complete operation status stunCode).dropAllocation.setState operation.lost := by
    unfold Inner.destroyAllocation
    cases operation <;> rfl
  rw [lost]
  apply Relation.ReflTransGen.tail (moved_complete inner operation status stunCode)
  apply Moves.lose operation held
  unfold Inner.Loses
  rw [Inner.complete, pushEvent_eq]
  exact why

/-- A request that failed. -/
theorem moved_completeFailure (inner : Inner) (operation : Operation) (status stunCode : Int)
    (held : (∃ authenticated, hand = some (operation, authenticated)) ∨
      (hand = none ∧ operation = .allocate ∧ inner.state = .deallocating)) :
    Moved digests occasion ⟨hand, inner⟩
      ⟨none, inner.completeFailure operation status stunCode occasion.now⟩ := by
  have own : ∀ request ∈ hand, Prod.fst request = operation := by
    intro request member
    cases held with
    | inl some =>
      obtain ⟨authenticated, same⟩ := some
      rw [same] at member
      cases member
      rfl
    | inr none =>
      rw [none.1] at member
      cases member
  unfold Inner.completeFailure
  split
  · rename_i kept
    obtain ⟨maintenance, ready, live⟩ := kept
    have phase : operation.phase = .ready := by
      rcases maintenance with same | same | same <;> rw [same] <;> rfl
    obtain ⟨authenticated, rfl⟩ : ∃ authenticated, hand = some (operation, authenticated) := by
      cases held with
      | inl some => exact some
      | inr none =>
        rw [none.2.1] at phase
        cases phase
    have noted : Moved digests occasion ⟨some (operation, authenticated), inner⟩
        ⟨some (operation, authenticated), inner.complete operation status stunCode⟩ :=
      moved_complete inner operation status stunCode
    have kept : (inner.complete operation status stunCode).live occasion.now = true := by
      rw [Inner.complete, pushEvent_eq]
      exact live
    dsimp only
    cases retried : ((inner.complete operation status stunCode).scheduleMaintenanceRetry operation
        occasion.now).1 with
    | true => exact noted.tail (.putOff operation authenticated phase kept retried)
    | false =>
      have channel : operation = .channel := by
        cases operation with
        | channel => rfl
        | allocate => cases retried
        | deallocate => cases retried
        | refresh => cases retried
        | permission => cases retried
      subst channel
      exact noted.tail (.exhaust authenticated)
  · rename_i given
    apply moved_destroyAllocation inner operation status stunCode own
    cases held with
    | inr none => exact .inl ⟨none.2.1, .inr none.2.2⟩
    | inl some =>
      obtain ⟨authenticated, rfl⟩ := some
      cases operation with
      | allocate => exact .inl ⟨rfl, .inl rfl⟩
      | deallocate => exact .inr (.inl ⟨rfl, rfl⟩)
      | refresh => exact .inr (.inr (.inl ⟨.inl rfl, fun still => given ⟨.inl rfl, still⟩⟩))
      | permission =>
        exact .inr (.inr (.inl ⟨.inl rfl, fun still => given ⟨.inr (.inl rfl), still⟩⟩))
      | channel =>
        exact .inr (.inr (.inl ⟨.inl rfl, fun still => given ⟨.inr (.inr rfl), still⟩⟩))

variable (digests) in
/-- The allocation is there. It is given back at once if it is not wanted any more. -/
theorem moved_allocated (inner : Inner) (draw : Draw) (message : Message) (relay : SocketAddr)
    (answer : occasion.answer = some (.allocate, message)) (success : message.class = .success) :
    Moved digests occasion ⟨some (.allocate, true), inner⟩ ⟨none, (inner.allocated digests draw
        relay (attributeU32 message attrLifetime) occasion.now).2⟩ ∧
      ∀ failure, (inner.allocated digests draw relay (attributeU32 message attrLifetime)
        occasion.now).1 = .error failure →
          (inner.allocated digests draw relay (attributeU32 message attrLifetime)
            occasion.now).2.state = .deallocating := by
  unfold Inner.allocated
  dsimp only
  split
  · rename_i closing
    have late : Moves digests occasion ⟨some (.allocate, true), inner⟩
        ⟨some (.deallocate, true), (inner.grantedBy occasion.now relay
          (attributeU32 message attrLifetime)).setState .deallocating⟩ :=
      .grantedLate message relay answer success (by rwa [pushEvent_eq] at closing)
    split
    · rename_i failure failed
      constructor
      · exact .head late (moved_notStarted failed)
      · intro _ _
        rw [setState_eq]
    · rename_i next started
      exact ⟨.head late (moved_startOperation started), nofun⟩
  · rename_i wanted
    have granted : Moves digests occasion ⟨some (.allocate, true), inner⟩
        ⟨none, (inner.grantedBy occasion.now relay
          (attributeU32 message attrLifetime)).setState .ready⟩ :=
      .granted message relay answer success (by
        rw [pushEvent_eq] at wanted
        exact Bool.eq_false_of_not_eq_true wanted)
    exact ⟨.head granted (moved_complete _ _ _ _), nofun⟩

variable (digests) in
/-- A positive response to the request in hand. When it is found to be malformed, the request is
still in hand, except that an Allocate response may have been refused for want of a request. -/
theorem moved_completeSuccess (inner : Inner) (readings : Readings) (operation : Operation)
    (message : Message) (time : occasion.now = readings.now)
    (answer : occasion.answer = some (operation, message)) (success : message.class = .success) :
    ∃ hand, Moved digests occasion ⟨some (operation, true), inner⟩
        ⟨hand, (inner.completeSuccess digests readings operation message).2⟩ ∧
      match (inner.completeSuccess digests readings operation message).1 with
      | .ok () => hand = none
      | .error _ => hand = some (operation, true) ∨ (hand = none ∧ operation = .allocate ∧
          (inner.completeSuccess digests readings operation message).2.state =
            .deallocating) := by
  cases operation with
  | allocate =>
    unfold Inner.completeSuccess
    dsimp only
    split
    · exact ⟨_, .refl, .inl rfl⟩
    · rename_i relay _
      split
      · exact ⟨_, .refl, .inl rfl⟩
      · have allocated := moved_allocated digests inner (readings.draw .deallocate) message relay
          answer success
        rw [time] at allocated
        refine ⟨none, allocated.1, ?_⟩
        split
        · rfl
        · rename_i failure failed
          exact .inr ⟨rfl, rfl, allocated.2 failure failed⟩
  | refresh =>
    unfold Inner.completeSuccess
    dsimp only
    split
    · exact ⟨_, .refl, .inl rfl⟩
    · have extended : Moves digests occasion ⟨some (.refresh, true), inner⟩
          ⟨none, inner.extendAllocation occasion.now (attributeU32 message attrLifetime)⟩ :=
        .extended message true answer success
      rw [time] at extended
      exact ⟨none, .head extended (moved_complete _ _ _ _), rfl⟩
  | deallocate =>
    unfold Inner.completeSuccess
    dsimp only
    split
    · exact ⟨_, .refl, .inl rfl⟩
    · exact ⟨none, .head (.clear true) ((moved_complete _ _ _ _).tail (.settle true)), rfl⟩
  | permission => exact ⟨none, .head (.permitted true) (moved_complete _ _ _ _), rfl⟩
  | channel => exact ⟨none, .head (.bound true) (moved_complete _ _ _ _), rfl⟩

/-- A negative response to the request in hand. -/
theorem moved_answerError (inner : Inner) (readings : Readings) (pending : Pending)
    (message : Message) (time : occasion.now = readings.now)
    (answer : occasion.answer = some (pending.operation, message))
    (error : message.class = .error)
    (sizes : ∀ kind entry, message.attribute kind = some entry →
      entry.value.length ≤ occasion.size) :
    Moved digests occasion ⟨some (pending.operation, pending.authenticated), inner⟩
      ⟨none, inner.answerError digests readings pending message⟩ := by
  have failed : ∀ (inner : Inner) (authenticated : Bool) (status code : Int),
      Moved digests occasion ⟨some (pending.operation, authenticated), inner⟩
        ⟨none, (inner.responseError message.method.toUInt32 status code).completeFailure
          pending.operation resultProtocol code readings.now⟩ := by
    intro inner authenticated status code
    rw [← time]
    exact (moved_responseError _ _ _ _).trans
      (moved_completeFailure _ _ _ _ (.inl ⟨authenticated, rfl⟩))
  unfold Inner.answerError
  dsimp only
  split
  · exact failed inner pending.authenticated _ _
  · rename_i nonzero
    split
    · rename_i recreate
      apply (moved_responseError inner _ _ _).trans
      apply moved_destroyAllocation
      · rintro request ⟨⟩
        rfl
      · right
        right
        right
        cases found : errorCode message with
        | none =>
          rw [found] at nonzero
          exact absurd rfl nonzero
        | some code =>
          rw [found] at recreate
          exact ⟨message, code, answer, error, found, recreate⟩
    · split
      · exact failed inner pending.authenticated _ _
      · rename_i realm nonce renewal
        have fits : (realm.length ≤ occasion.size ∨ inner.realm = some realm) ∧
            nonce.length ≤ occasion.size := renewal_fits renewal sizes
        have renewed : Moved digests occasion
            ⟨some (pending.operation, pending.authenticated), inner⟩
              ⟨some (pending.operation, true), inner.setAuth digests realm nonce⟩ :=
          .single (.renew _ _ realm nonce fits.1 fits.2)
        split
        · rename_i next started
          exact renewed.trans (moved_startOperation started)
        · exact renewed.trans (failed _ true _ _)

/-- A response to the request in hand. -/
theorem moved_answer (inner : Inner) (readings : Readings) (pending : Pending)
    (message : Message) (time : occasion.now = readings.now)
    (answer : occasion.answer = some (pending.operation, message))
    (response : message.class = .success ∨ message.class = .error)
    (sizes : ∀ kind entry, message.attribute kind = some entry →
      entry.value.length ≤ occasion.size) :
    Moved digests occasion ⟨some (pending.operation, pending.authenticated), inner⟩
      ⟨none, (inner.answer digests readings pending message).2⟩ := by
  have failed : ∀ (hand : Option (Operation × Bool)) (inner : Inner) (status : Int),
      ((∃ authenticated, hand = some (pending.operation, authenticated)) ∨
        (hand = none ∧ pending.operation = .allocate ∧ inner.state = .deallocating)) →
      Moved digests occasion ⟨hand, inner⟩
        ⟨none, inner.completeFailure pending.operation status 0 readings.now⟩ := by
    intro hand inner status held
    rw [← time]
    exact moved_completeFailure _ _ _ _ held
  unfold Inner.answer
  split
  · exact failed _ _ _ (.inl ⟨_, rfl⟩)
  · rename_i genuine
    split
    · rename_i error
      exact moved_answerError inner readings pending message time answer error sizes
    · rename_i noError
      have success : message.class = .success := response.resolve_right noError
      have authenticated : pending.authenticated = true := by
        by_contra plain
        exact genuine ⟨success, plain⟩
      rw [authenticated]
      obtain ⟨hand, moved, left⟩ := moved_completeSuccess digests inner readings
        pending.operation message time answer success
      split
      · rename_i next completed
        rw [completed] at moved left
        rw [left] at moved
        exact moved
      · rename_i failure next malformed
        rw [malformed] at moved left
        apply moved.trans
        apply failed
        cases left with
        | inl held => exact .inl ⟨true, held⟩
        | inr none => exact .inr none

end Moved

/-- The response that `input_stun` takes for the answer to a pending request. -/
def Inner.answered (digests : Digests) (inner : Inner) (packet : List UInt8) :
    Option (Pending × Message) :=
  match Message.decode packet with
  | .error _ => none
  | .ok message =>
    if ¬(message.class = .success ∨ message.class = .error) then none
    else if message.fingerprintValid digests.crc32 = some false then none
    else
      match inner.pending.find? (·.matches message) with
      | none => none
      | some pending =>
        if pending.authenticated && responseRequiresIntegrity message &&
            !verifyIntegrity digests packet message inner.key &&
            !isFingerprintedAllocationMismatch digests message then none
        else some (pending, message)

/-- What a call goes by: its time and the response it takes for an answer. -/
def Call.occasion (digests : Digests) (inner : Inner) : Call → Occasion
  | .startAllocation readings => ⟨readings.now, none, 0, false⟩
  | .startChannel readings => ⟨readings.now, none, 0, false⟩
  | .startPermission readings => ⟨readings.now, none, 0, false⟩
  | .inputStun readings packet =>
    ⟨readings.now, (inner.answered digests packet).map
      (fun answered => (answered.1.operation, answered.2)), packet.length, false⟩
  | .poll readings => ⟨readings.now, none, 0, false⟩
  | .pullControl => ⟨0, none, 0, false⟩
  | .pullEvent => ⟨0, none, 0, false⟩
  | .gracefulShutdown readings => ⟨readings.now, none, 0, true⟩
  | .forceDestroy _ => ⟨0, none, 0, false⟩

section Calls

variable (digests : Digests)

/-- The state without the request that a response answers, and without its packets. -/
def Inner.without (inner : Inner) (message : Message) : Inner :=
  { inner with
    pending := inner.pending.eraseP (·.matches message) }.removeQueuedTransaction
      message.transaction

/-- A response that is taken for an answer is processed without the request it answers. -/
theorem inputStun_answered {inner : Inner} {packet : List UInt8} {pending : Pending}
    {message : Message} (answered : inner.answered digests packet = some (pending, message))
    (readings : Readings) :
    Message.decode packet = .ok message ∧
      (message.class = .success ∨ message.class = .error) ∧
      inner.pending.find? (·.matches message) = some pending ∧
      inner.inputStun digests readings packet =
        (inner.without message).answer digests readings pending message := by
  unfold Inner.inputStun
  unfold Inner.answered at answered
  cases decoded : Message.decode packet with
  | error failure =>
    rw [decoded] at answered
    cases answered
  | ok decodedMessage =>
    rw [decoded] at answered
    dsimp only at answered ⊢
    by_cases response : ¬(decodedMessage.class = .success ∨ decodedMessage.class = .error)
    · rw [if_pos response] at answered
      cases answered
    · by_cases damaged : decodedMessage.fingerprintValid digests.crc32 = some false
      · rw [if_neg response, if_pos damaged] at answered
        cases answered
      · rw [if_neg response, if_neg damaged] at answered
        cases found : inner.pending.find? (·.matches decodedMessage) with
        | none =>
          rw [found] at answered
          cases answered
        | some first =>
          rw [found] at answered
          dsimp only at answered
          split at answered
          · cases answered
          · rename_i genuine
            cases answered
            refine ⟨rfl, not_not.mp response, found, ?_⟩
            rw [if_neg response, if_neg damaged]
            dsimp only
            rw [if_neg genuine]
            rfl

/-- Every other datagram is at most reported. -/
theorem moved_unanswered {occasion : Occasion} {inner : Inner} {packet : List UInt8}
    (unanswered : inner.answered digests packet = none) (readings : Readings) :
    Moved digests occasion ⟨none, inner⟩
      ⟨none, (inner.inputStun digests readings packet).2⟩ := by
  unfold Inner.inputStun
  unfold Inner.answered at unanswered
  cases decoded : Message.decode packet with
  | error failure => exact .refl
  | ok message =>
    rw [decoded] at unanswered
    dsimp only at unanswered ⊢
    by_cases response : ¬(message.class = .success ∨ message.class = .error)
    · rw [if_pos response]
    · rw [if_neg response] at unanswered ⊢
      by_cases damaged : message.fingerprintValid digests.crc32 = some false
      · rw [if_pos damaged]
      · rw [if_neg damaged] at unanswered ⊢
        cases found : inner.pending.find? (·.matches message) with
        | none => exact .refl
        | some pending =>
          rw [found] at unanswered
          dsimp only at unanswered ⊢
          split at unanswered
          · rename_i forged
            rw [if_pos forged]
            dsimp only
            split
            · exact moved_responseError _ _ _ _
            · exact .refl
          · cases unanswered

/-- The request that a response answers is taken into the hand. -/
theorem moved_without {occasion : Occasion} {inner : Inner} {message : Message}
    {pending : Pending} (found : inner.pending.find? (·.matches message) = some pending) :
    Moved digests occasion ⟨none, inner⟩
      ⟨some (pending.operation, pending.authenticated), inner.without message⟩ := by
  obtain ⟨matched, before, after, among, others⟩ := List.find?_eq_some_iff_append.mp found
  have removed : inner.pending.eraseP (·.matches message) = before ++ after := by
    rw [among, List.eraseP_append_right _ (by simpa using others),
      List.eraseP_cons_of_pos (by exact matched)]
  unfold Inner.without
  rw [removed]
  exact .head (.take before pending after among) (.single (.unqueue _))

/-- Taking in a datagram. -/
theorem moved_inputStun (inner : Inner) (readings : Readings) (packet : List UInt8) :
    Moved digests (Call.occasion digests inner (.inputStun readings packet)) ⟨none, inner⟩
      ⟨none, (inner.inputStun digests readings packet).2⟩ := by
  cases answered : inner.answered digests packet with
  | none => exact moved_unanswered digests answered readings
  | some answer =>
    cases answer with
    | mk pending message =>
      obtain ⟨decoded, response, found, same⟩ := inputStun_answered digests answered readings
      rw [same]
      apply (moved_without digests found).trans
      apply moved_answer _ readings pending message rfl _ response
      · intro kind entry carries
        have inside := (attribute_length decoded carries).2
        show entry.value.length ≤ packet.length
        omega
      · show (inner.answered digests packet).map _ = _
        rw [answered]
        rfl

/-- The loop over requests that are due. -/
theorem moved_expireLoop (occasion : Occasion) (fuel index : Nat) (inner : Inner) :
    Moved digests occasion ⟨none, inner⟩ ⟨none, inner.expireLoop occasion.now fuel index⟩ := by
  induction fuel generalizing index inner with
  | zero => exact .refl
  | succ fuel ih =>
    unfold Inner.expireLoop
    split
    · exact .refl
    · rename_i pending there
      have short := (List.getElem?_eq_some_iff.mp there).1
      have among := Vec.split_at there
      split
      · exact ih _ _
      · split
        · rw [List.eraseIdx_eq_take_drop_succ]
          apply Relation.ReflTransGen.head (.take _ pending _ among)
          apply Relation.ReflTransGen.head (.unqueue _)
          exact (moved_completeFailure _ pending.operation resultTimeout 0 (.inl ⟨_, rfl⟩)).trans
            (ih _ _)
        · apply Relation.ReflTransGen.head (.send pending.packet)
          have same : (inner.queuePacket pending.packet).pending = inner.pending := by
            rw [queuePacket_eq]
          dsimp only
          rw [same, List.set_eq_take_append_cons_drop, if_pos short]
          apply Relation.ReflTransGen.trans _ (ih _ _)
          exact .single (.again _ pending _ _ (same.trans among) rfl rfl)

/-- One part after the other. -/
theorem moved_andThen {α β : Type} {occasion : Occasion} {inner : Inner}
    {first : Except Failure α × Inner} {next : α → Inner → Except Failure β × Inner}
    (left : Moved digests occasion ⟨none, inner⟩ ⟨none, first.2⟩)
    (right : ∀ value, first.1 = .ok value →
      Moved digests occasion ⟨none, first.2⟩ ⟨none, (next value first.2).2⟩) :
    Moved digests occasion ⟨none, inner⟩ ⟨none, (andThen first next).2⟩ := by
  cases first with
  | mk result middle =>
    cases result with
    | error failure => exact left
    | ok value => exact left.trans (right value rfl)

/-- Sending a request keeps the state of the client. -/
theorem start_state (inner : Inner) (readings : Readings) (operation : Operation)
    (authenticated : Bool) :
    (inner.start digests readings operation authenticated).2.state = inner.state := by
  unfold Inner.start
  split
  · rfl
  · rename_i next started
    unfold Inner.startOperation at started
    split at started
    · split at started <;> cases started
      · rw [queuePacket_eq]
      · rfl
    · split at started
      · cases started
      · cases built : inner.buildRequest digests operation
            (readings.draw operation).transaction authenticated with
        | error failure =>
          rw [built] at started
          cases started
        | ok packet =>
          rw [built] at started
          cases started
          show (inner.queuePacket packet).state = inner.state
          rw [queuePacket_eq]

/-- Starting what is due keeps the state of the client. -/
theorem startDue_state (inner : Inner) (readings : Readings) (operation : Operation)
    (due : Bool) : (inner.startDue digests readings operation due).2.state = inner.state := by
  have cleared : (inner.clearTimer operation).state = inner.state := by
    cases operation <;> rfl
  have started := start_state digests (inner.clearTimer operation) readings operation true
  unfold Inner.startDue
  split
  · unfold andThen
    split
    · rename_i failure next stopped
      rw [stopped, cleared] at started
      exact started
    · rename_i value next stopped
      rw [stopped, cleared] at started
      exact started
  · rfl

/-- Starting what is due. -/
theorem moved_startDue (occasion : Occasion) (inner : Inner) (readings : Readings)
    (operation : Operation) (due : Bool) (phase : operation.phase = .ready)
    (ready : inner.state = .ready) :
    Moved digests occasion ⟨none, inner⟩
      ⟨none, (inner.startDue digests readings operation due).2⟩ := by
  unfold Inner.startDue
  split
  · rename_i asked
    rw [Bool.and_eq_true, Bool.not_eq_true'] at asked
    apply moved_andThen
    · exact .head (.ask operation _ (.inr rfl) phase ready asked.2) (moved_start _ _ _ _)
    · exact fun _ _ => .refl
  · exact .refl

/-- Keeping permission and channel alive. -/
theorem moved_maintain (occasion : Occasion) (inner : Inner) (readings : Readings)
    (ready : inner.state = .ready) :
    Moved digests occasion ⟨none, inner⟩ ⟨none, (inner.maintain digests readings).2⟩ := by
  have kept := startDue_state digests
  have due := moved_startDue digests occasion
  unfold Inner.maintain
  apply moved_andThen digests (due inner readings .refresh _ rfl ready)
  intro refreshed _
  have second := (kept inner readings .refresh (reached inner.allocationRefresh readings.now)).trans
    ready
  generalize (inner.startDue digests readings .refresh
    (reached inner.allocationRefresh readings.now)).2 = afterRefresh at second
  have renewed : Moved digests occasion ⟨none, afterRefresh⟩
      ⟨none, if reached inner.maintenanceRefresh readings.now then
        afterRefresh.renewMaintenance readings.now else afterRefresh⟩ ∧
      (if reached inner.maintenanceRefresh readings.now then
        afterRefresh.renewMaintenance readings.now else afterRefresh).state = .ready := by
    split
    · exact ⟨.single (.rearm _), second⟩
    · exact ⟨.refl, second⟩
  apply renewed.1.trans
  have third := renewed.2
  generalize (if reached inner.maintenanceRefresh readings.now then
    afterRefresh.renewMaintenance readings.now else afterRefresh) = afterRenewal at third
  apply moved_andThen digests (due afterRenewal readings .permission _ rfl third)
  intro permitted _
  have fourth := fun due => (kept afterRenewal readings .permission due).trans third
  apply moved_andThen digests (due _ readings .channel _ rfl (fourth _))
  intro bound _
  dsimp only
  split
  · unfold Inner.renewKeepalive
    dsimp only
    apply Relation.ReflTransGen.head (.rouse _)
    split
    · exact .refl
    · unfold Inner.queueKeepalive
      split
      · exact .refl
      · exact .single (.send _)
  · exact .refl

/-- The work that is due. -/
theorem moved_poll (occasion : Occasion) (inner : Inner) (readings : Readings)
    (time : occasion.now = readings.now) :
    Moved digests occasion ⟨none, inner⟩ ⟨none, (inner.poll digests readings).2⟩ := by
  unfold Inner.poll
  dsimp only
  split
  · exact .refl
  · have expired := moved_expireLoop digests occasion inner.pending.length 0 inner
    rw [time] at expired
    apply expired.trans
    show Moved digests occasion ⟨none, inner.expireTransactions readings.now⟩ _
    generalize inner.expireTransactions readings.now = second
    have ended : Moved digests occasion ⟨none, second⟩
        ⟨none, if (!second.shuttingDown && second.state == .ready &&
          reached second.allocationExpiresAt readings.now) = true then
            second.destroyAllocation .refresh resultTimeout 0 else second⟩ := by
      split
      · rename_i ended
        rw [Bool.and_eq_true] at ended
        apply moved_destroyAllocation
        · exact nofun
        · refine .inr (.inr (.inl ⟨.inr ?_, ?_⟩))
          · exact beq_iff_eq.mp (Bool.and_eq_true_iff.mp ended.1).2
          · rintro ⟨_, live⟩
            have passed := ended.2
            unfold reached at passed
            unfold Inner.live at live
            rw [time] at live
            cases expires : second.allocationExpiresAt with
            | none =>
              rw [expires] at live
              cases live
            | some deadline =>
              rw [expires, Option.any_some, decide_eq_true_eq] at live passed
              omega
      · exact .refl
    apply ended.trans
    generalize (if (!second.shuttingDown && second.state == .ready &&
      reached second.allocationExpiresAt readings.now) = true then
        second.destroyAllocation .refresh resultTimeout 0 else second) = third
    apply moved_andThen
    · split
      · rename_i ready
        rw [Bool.and_eq_true, beq_iff_eq] at ready
        exact moved_maintain digests occasion third readings ready.2
      · exact .refl
    · exact fun _ _ => .refl

/-- Giving the allocation back. -/
theorem moved_gracefulShutdown (occasion : Occasion) (inner : Inner) (readings : Readings)
    (closes : occasion.closes = true) :
    Moved digests occasion ⟨none, inner⟩
      ⟨none, (inner.gracefulShutdown digests readings).2⟩ := by
  unfold Inner.gracefulShutdown
  split
  · exact .refl
  · dsimp only
    split
    · rename_i held
      exact .head (.leave closes held) (moved_start _ _ _ _)
    · rename_i nothing
      split
      · rename_i other
        exact .single (.close closes (fun ready => nothing (.inl ready)) other)
      · rename_i early
        exact .single (.closeEarly closes (not_not.mp early))

/-- Asking for the allocation. -/
theorem moved_startAllocation (occasion : Occasion) (inner : Inner) (readings : Readings) :
    Moved digests occasion ⟨none, inner⟩
      ⟨none, (inner.startAllocation digests readings).2⟩ := by
  unfold Inner.startAllocation
  split
  · exact .refl
  · split
    · exact .refl
    · rename_i null
      exact .head (.begin (not_not.mp null)) (moved_start _ _ _ _)

/-- A call that needs the client to be ready finds it so. -/
theorem ready_of_requireReady {inner : Inner} {operation : String}
    (passed : inner.requireReady operation = .ok ()) : inner.state = .ready := by
  unfold Inner.requireReady at passed
  cases opened : inner.requireOpen operation with
  | error failure =>
    rw [opened] at passed
    cases passed
  | ok value =>
    rw [opened] at passed
    by_contra other
    simp only [bind, Except.bind, if_pos other] at passed
    cases passed

/-- Every call of the client but `pull_event` and `force_destroy` consists of moves. -/
theorem moved_call (inner : Inner) (call : Call) (kept : call ≠ .pullEvent)
    (undestroyed : ∀ status, call ≠ .forceDestroy status) :
    Moved digests (call.occasion digests inner) ⟨none, inner⟩
      ⟨none, (inner.call digests call).1⟩ := by
  cases call with
  | startAllocation readings => exact moved_startAllocation digests _ inner readings
  | startChannel readings =>
    show Moved _ _ _ ⟨none, (inner.startChannel digests readings).2⟩
    unfold Inner.startChannel
    split
    · exact .refl
    · rename_i passed
      exact moved_startReady inner readings .channel rfl (ready_of_requireReady passed)
  | startPermission readings =>
    show Moved _ _ _ ⟨none, (inner.startPermission digests readings).2⟩
    unfold Inner.startPermission
    split
    · exact .refl
    · rename_i passed
      exact moved_startReady inner readings .permission rfl (ready_of_requireReady passed)
  | inputStun readings packet => exact moved_inputStun digests inner readings packet
  | poll readings => exact moved_poll digests _ inner readings rfl
  | pullControl =>
    show Moved _ _ _ ⟨none, inner.pullControl.2⟩
    unfold Inner.pullControl
    split
    · exact .refl
    · exact .single (.unqueue _)
  | pullEvent => exact absurd rfl kept
  | gracefulShutdown readings => exact moved_gracefulShutdown digests _ inner readings rfl
  | forceDestroy status => exact absurd rfl (undestroyed status)

end Calls

/-- No move changes with whom the client talks, and only a shutdown shuts it down. -/
theorem moves_kept {digests : Digests} {occasion : Occasion} {before after : Stage}
    (move : Moves digests occasion before after) :
    after.inner.server = before.inner.server ∧ after.inner.peer = before.inner.peer ∧
      (after.inner.shuttingDown = before.inner.shuttingDown ∨
        (occasion.closes = true ∧ after.inner.shuttingDown = true)) := by
  cases move with
  | note event =>
    rw [pushEvent_eq]
    exact ⟨rfl, rfl, .inl rfl⟩
  | send packet =>
    rw [queuePacket_eq]
    exact ⟨rfl, rfl, .inl rfl⟩
  | unqueue controls => exact ⟨rfl, rfl, .inl rfl⟩
  | take front pending rest among => exact ⟨rfl, rfl, .inl rfl⟩
  | again front pending next rest among operation authenticated => exact ⟨rfl, rfl, .inl rfl⟩
  | ask operation next cleared phase ready missing =>
    cases cleared with
    | inl same =>
      rw [same]
      exact ⟨rfl, rfl, .inl rfl⟩
    | inr cleared =>
      rw [cleared]
      cases operation <;> exact ⟨rfl, rfl, .inl rfl⟩
  | begin null =>
    rw [setState_eq]
    exact ⟨rfl, rfl, .inl rfl⟩
  | place pending => exact ⟨rfl, rfl, .inl rfl⟩
  | stuck operation authenticated cannot => exact ⟨rfl, rfl, .inl rfl⟩
  | renew operation authenticated realm nonce realmFits nonceFits => exact ⟨rfl, rfl, .inl rfl⟩
  | putOff operation authenticated phase live retried =>
    rw [scheduleMaintenanceRetry_eq]
    exact ⟨rfl, rfl, .inl rfl⟩
  | lose operation held why =>
    rw [setState_eq]
    exact ⟨rfl, rfl, .inl rfl⟩
  | exhaust authenticated =>
    rw [Inner.destroyAfterChannelRebindExhausted, setState_eq, pushEvent_eq,
      scheduleMaintenanceRetry_eq]
    exact ⟨rfl, rfl, .inl rfl⟩
  | granted message relay answer success wanted =>
    rw [setState_eq, Inner.grantedBy, pushEvent_eq]
    exact ⟨rfl, rfl, .inl rfl⟩
  | grantedLate message relay answer success closing =>
    rw [setState_eq, Inner.grantedBy, pushEvent_eq]
    exact ⟨rfl, rfl, .inl rfl⟩
  | extended message authenticated => exact ⟨rfl, rfl, .inl rfl⟩
  | clear authenticated => exact ⟨rfl, rfl, .inl rfl⟩
  | settle authenticated =>
    rw [setState_eq]
    exact ⟨rfl, rfl, .inl rfl⟩
  | permitted authenticated => exact ⟨rfl, rfl, .inl rfl⟩
  | bound authenticated =>
    rw [Inner.boundChannel, pushEvent_eq]
    exact ⟨rfl, rfl, .inl rfl⟩
  | rearm time => exact ⟨rfl, rfl, .inl rfl⟩
  | rouse time => exact ⟨rfl, rfl, .inl rfl⟩
  | leave closes held =>
    rw [setState_eq]
    exact ⟨rfl, rfl, .inr ⟨closes, rfl⟩⟩
  | close closes idle other => exact ⟨rfl, rfl, .inr ⟨closes, rfl⟩⟩
  | closeEarly closes early => exact ⟨rfl, rfl, .inr ⟨closes, rfl⟩⟩

end Focsq.Turn
