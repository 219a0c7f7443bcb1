import Focsq.Backend.NativeCore
import Focsq.Lib.Mealy

/-!
# The integrity gate of the TURN client

Nothing but an authentic positive response advances the client: every other call leaves the
relayed address, the channel and the end of the allocation as they are or resets them, and does
not make the client ready. A response that fails a check before the pending request is removed is
at most reported as an event.
-/

namespace Focsq.Turn

open Stun

/-- The allocation of the second state is that of the first one, or parts of it are gone. -/
structure Demotes (before after : Inner) : Prop where
  /-- The client did not become ready. -/
  state : after.state = .ready → before.state = .ready
  /-- The relayed address was not set. -/
  relay : after.relay = before.relay ∨ after.relay = none
  /-- The channel was not set. -/
  channel : after.channel = before.channel ∨ after.channel = none
  /-- The end of the allocation was not extended. -/
  expires : after.allocationExpiresAt = before.allocationExpiresAt ∨
    after.allocationExpiresAt = none

/-- A state whose allocation is the same. -/
theorem Demotes.of_same {before after : Inner} (state : after.state = before.state)
    (relay : after.relay = before.relay) (channel : after.channel = before.channel)
    (expires : after.allocationExpiresAt = before.allocationExpiresAt) : Demotes before after :=
  ⟨fun ready => state ▸ ready, .inl relay, .inl channel, .inl expires⟩

/-- No change. -/
theorem Demotes.refl (inner : Inner) : Demotes inner inner := .of_same rfl rfl rfl rfl

/-- One change after the other. -/
theorem Demotes.trans {first second third : Inner} (left : Demotes first second)
    (right : Demotes second third) : Demotes first third where
  state := fun ready => left.state (right.state ready)
  relay := right.relay.elim (fun same => same ▸ left.relay) .inr
  channel := right.channel.elim (fun same => same ▸ left.channel) .inr
  expires := right.expires.elim (fun same => same ▸ left.expires) .inr

/-- Events do not touch the allocation. -/
theorem demotes_pushEvent (inner : Inner) (event : NativeEvent) :
    Demotes inner (inner.pushEvent event) := by
  unfold Inner.pushEvent
  split
  · exact .of_same rfl rfl rfl rfl
  · exact .of_same rfl rfl rfl rfl

/-- Entering a state other than the ready one. -/
theorem demotes_setState (inner : Inner) (state : TurnState) (other : state ≠ .ready) :
    Demotes inner (inner.setState state) := by
  unfold Inner.setState
  split
  · exact .refl inner
  · have entered : Demotes inner { inner with state } :=
      ⟨fun ready => absurd ready other, .inl rfl, .inl rfl, .inl rfl⟩
    exact entered.trans (demotes_pushEvent _ _)

/-- Queueing a packet. -/
theorem demotes_queuePacket (inner : Inner) (packet : List UInt8) :
    Demotes inner (inner.queuePacket packet) := by
  unfold Inner.queuePacket
  split
  · have dropped : Demotes inner { inner with controls := inner.controls.tail } :=
      .of_same rfl rfl rfl rfl
    exact (dropped.trans (demotes_pushEvent _ _)).trans (.of_same rfl rfl rfl rfl)
  · exact .of_same rfl rfl rfl rfl

/-- Completing a request. -/
theorem demotes_complete (inner : Inner) (operation : Operation) (status stunCode : Int) :
    Demotes inner (inner.complete operation status stunCode) := demotes_pushEvent _ _

/-- Reporting an error response. -/
theorem demotes_responseError (inner : Inner) (method : UInt32) (status stunCode : Int) :
    Demotes inner (inner.responseError method status stunCode) := demotes_pushEvent _ _

section Calls

variable (digests : Digests)

/-- Sending a request. -/
theorem demotes_startOperation {inner next : Inner} {draw : Draw} {operation : Operation}
    {authenticated : Bool} {nonceRetries : Nat}
    (started : inner.startOperation digests draw operation authenticated nonceRetries = .ok next) :
    Demotes inner next := by
  unfold Inner.startOperation at started
  split at started
  · split at started
    · cases started
      exact demotes_queuePacket _ _
    · cases started
      exact .refl _
  · split at started
    · cases started
    · cases built : inner.buildRequest digests operation draw.transaction authenticated with
      | error failure =>
        rw [built] at started
        cases started
      | ok packet =>
        rw [built] at started
        cases started
        exact (demotes_queuePacket inner packet).trans (.of_same rfl rfl rfl rfl)

/-- Sending a request, or failing to. -/
theorem demotes_start (inner : Inner) (readings : Readings) (operation : Operation)
    (authenticated : Bool) :
    Demotes inner (inner.start digests readings operation authenticated).2 := by
  unfold Inner.start
  split
  · exact .refl inner
  · rename_i next started
    exact demotes_startOperation digests started

end Calls

/-- Losing the allocation. -/
theorem demotes_destroyAllocation (inner : Inner) (operation : Operation)
    (status stunCode : Int) :
    Demotes inner (inner.destroyAllocation operation status stunCode) := by
  have dropped : Demotes inner (inner.complete operation status stunCode).dropAllocation :=
    (demotes_complete inner operation status stunCode).trans ⟨id, .inr rfl, .inr rfl, .inr rfl⟩
  unfold Inner.destroyAllocation
  split
  · exact dropped.trans (demotes_setState _ _ (by decide))
  · exact dropped.trans (demotes_setState _ _ (by decide))

/-- Giving up the channel. -/
theorem demotes_destroyAfterChannelRebindExhausted (inner : Inner) :
    Demotes inner inner.destroyAfterChannelRebindExhausted := by
  have dropped : Demotes inner inner.dropChannel := ⟨id, .inl rfl, .inr rfl, .inl rfl⟩
  exact (dropped.trans (demotes_pushEvent _ _)).trans (demotes_setState _ _ (by decide))

/-- Putting off a maintenance request. -/
theorem demotes_scheduleMaintenanceRetry (inner : Inner) (operation : Operation) (now : Nat) :
    Demotes inner (inner.scheduleMaintenanceRetry operation now).2 := by
  unfold Inner.scheduleMaintenanceRetry
  cases operation with
  | allocate => exact .refl inner
  | deallocate => exact .refl inner
  | refresh => exact .of_same rfl rfl rfl rfl
  | permission => exact .of_same rfl rfl rfl rfl
  | channel =>
    dsimp only
    split
    · exact .of_same rfl rfl rfl rfl
    · exact .of_same rfl rfl rfl rfl

/-- A request that failed. -/
theorem demotes_completeFailure (inner : Inner) (operation : Operation) (status stunCode : Int)
    (now : Nat) : Demotes inner (inner.completeFailure operation status stunCode now) := by
  unfold Inner.completeFailure
  split
  · have put := (demotes_complete inner operation status stunCode).trans
      (demotes_scheduleMaintenanceRetry _ operation now)
    dsimp only
    split
    · exact put
    · exact put.trans (demotes_destroyAfterChannelRebindExhausted _)
  · exact demotes_destroyAllocation _ _ _ _

section Calls

variable (digests : Digests)

/-- An error response. -/
theorem demotes_answerError (inner : Inner) (readings : Readings) (pending : Pending)
    (message : Message) : Demotes inner (inner.answerError digests readings pending message) := by
  have failed : ∀ inner status code, Demotes inner
      ((inner.responseError message.method.toUInt32 status code).completeFailure
        pending.operation resultProtocol code readings.now) := fun inner status code =>
    (demotes_responseError _ _ _ _).trans (demotes_completeFailure _ _ _ _ _)
  unfold Inner.answerError
  dsimp only
  split
  · exact failed inner _ _
  · split
    · exact (demotes_responseError _ _ _ _).trans (demotes_destroyAllocation _ _ _ _)
    · split
      · exact failed inner _ _
      · rename_i realm nonce _
        have renewed : Demotes inner (inner.setAuth digests realm nonce) :=
          .of_same rfl rfl rfl rfl
        split
        · rename_i next started
          exact renewed.trans (demotes_startOperation digests started)
        · exact renewed.trans (failed _ _ _)

/-- A response that is not an authenticated success. -/
theorem demotes_answer (inner : Inner) (readings : Readings) (pending : Pending)
    (message : Message)
    (other : ¬(message.class = .success ∧ pending.authenticated = true))
    (response : message.class = .success ∨ message.class = .error) :
    Demotes inner (inner.answer digests readings pending message).2 := by
  unfold Inner.answer
  split
  · exact demotes_completeFailure _ _ _ _ _
  · rename_i granted
    have error : message.class = .error := by
      cases response with
      | inl success => exact absurd ⟨success, fun yes => other ⟨success, yes⟩⟩ granted
      | inr error => exact error
    rw [if_pos error]
    exact demotes_answerError digests _ _ _ _

/-- A datagram is a positive response with an integrity that is right under the client's key. -/
def VerifiedSuccess (inner : Inner) (packet : List UInt8) : Prop :=
  ∃ message, Message.decode packet = .ok message ∧ message.class = .success ∧
    verifyIntegrity digests packet message inner.key = true

/-- Every other datagram. -/
theorem demotes_inputStun (inner : Inner) (readings : Readings) (packet : List UInt8)
    (other : ¬VerifiedSuccess digests inner packet) :
    Demotes inner (inner.inputStun digests readings packet).2 := by
  unfold Inner.inputStun
  split
  · exact .refl inner
  · rename_i message decoded
    split
    · exact .refl inner
    · rename_i response
      rw [not_not] at response
      split
      · exact .refl inner
      · split
        · exact .refl inner
        · rename_i pending _
          split
          · dsimp only
            split
            · exact demotes_responseError _ _ _ _
            · exact .refl inner
          · rename_i genuine
            have removed : Demotes inner ({ inner with
                pending := inner.pending.eraseP
                  (·.matches message) }.removeQueuedTransaction message.transaction) :=
              .of_same rfl rfl rfl rfl
            apply removed.trans
            apply demotes_answer digests _ _ _ _ _ response
            intro ⟨success, authenticated⟩
            apply other
            refine ⟨message, decoded, success, ?_⟩
            by_contra forged
            apply genuine
            have needed : responseRequiresIntegrity message = true := by
              rw [responseRequiresIntegrity, success]
            have matched : isFingerprintedAllocationMismatch digests message = false := by
              rw [isFingerprintedAllocationMismatch, success]
              rfl
            rw [authenticated, needed, matched, Bool.eq_false_of_not_eq_true forged]
            rfl

/-- The loop over requests that are due. -/
theorem demotes_expireLoop (now fuel index : Nat) (inner : Inner) :
    Demotes inner (inner.expireLoop now fuel index) := by
  induction fuel generalizing index inner with
  | zero => exact .refl inner
  | succ fuel ih =>
    unfold Inner.expireLoop
    split
    · exact .refl inner
    · rename_i pending _
      split
      · exact ih _ _
      · split
        · have removed : Demotes inner ({ inner with
              pending := inner.pending.eraseIdx index }.removeQueuedTransaction
                pending.transaction) := .of_same rfl rfl rfl rfl
          exact (removed.trans (demotes_completeFailure _ _ _ _ _)).trans (ih _ _)
        · apply Demotes.trans _ (ih _ _)
          exact (demotes_queuePacket inner pending.packet).trans (.of_same rfl rfl rfl rfl)

/-- A failure keeps what the first part did; otherwise the second part goes on. -/
theorem demotes_andThen {α β : Type} {inner : Inner} {first : Except Failure α × Inner}
    {next : α → Inner → Except Failure β × Inner} (left : Demotes inner first.2)
    (right : ∀ value inner, Demotes inner (next value inner).2) :
    Demotes inner (andThen first next).2 := by
  obtain ⟨_ | value, middle⟩ := first
  · exact left
  · exact left.trans (right value middle)

/-- Starting what is due. -/
theorem demotes_startDue (inner : Inner) (readings : Readings) (operation : Operation)
    (due : Bool) : Demotes inner (inner.startDue digests readings operation due).2 := by
  have cleared : Demotes inner (inner.clearTimer operation) := by
    cases operation <;> exact .of_same rfl rfl rfl rfl
  unfold Inner.startDue
  split
  · apply demotes_andThen
    · exact cleared.trans (demotes_start digests _ _ _ _)
    · exact fun _ inner => .refl inner
  · exact .refl inner

/-- The next keepalive. -/
theorem demotes_renewKeepalive (inner : Inner) (now : Nat) (controlStarted : Bool) :
    Demotes inner (inner.renewKeepalive now controlStarted) := by
  have renewed : Demotes inner
      { inner with keepalive := some (now + inner.profile.keepaliveInterval) } :=
    .of_same rfl rfl rfl rfl
  unfold Inner.renewKeepalive
  dsimp only
  split
  · exact renewed
  · apply renewed.trans
    unfold Inner.queueKeepalive
    split
    · exact .refl _
    · exact demotes_queuePacket _ _

/-- Keeping permission and channel alive. -/
theorem demotes_maintain (inner : Inner) (readings : Readings) :
    Demotes inner (inner.maintain digests readings).2 := by
  unfold Inner.maintain
  apply demotes_andThen (demotes_startDue digests _ _ _ _)
  intro refreshed second
  have renewed : Demotes second (if reached inner.maintenanceRefresh readings.now then
      second.renewMaintenance readings.now else second) := by
    split
    · exact .of_same rfl rfl rfl rfl
    · exact .refl second
  apply renewed.trans
  apply demotes_andThen (demotes_startDue digests _ _ _ _)
  intro permitted third
  apply demotes_andThen (demotes_startDue digests _ _ _ _)
  intro bound fourth
  dsimp only
  split
  · exact demotes_renewKeepalive _ _ _
  · exact .refl fourth

/-- The work that is due. -/
theorem demotes_poll (inner : Inner) (readings : Readings) :
    Demotes inner (inner.poll digests readings).2 := by
  unfold Inner.poll
  dsimp only
  split
  · exact .refl inner
  · have expired : Demotes inner (inner.expireTransactions readings.now) :=
      demotes_expireLoop _ _ _ _
    apply expired.trans
    generalize inner.expireTransactions readings.now = second
    have ended : Demotes second (if (!second.shuttingDown && second.state == .ready &&
        reached second.allocationExpiresAt readings.now) = true then
          second.destroyAllocation .refresh resultTimeout 0 else second) := by
      split
      · exact demotes_destroyAllocation _ _ _ _
      · exact .refl second
    have maintained : ∀ inner : Inner, Demotes inner
        (if (!inner.shuttingDown && inner.state == .ready) = true then
          inner.maintain digests readings else (.ok (), inner)).2 := by
      intro inner
      split
      · exact demotes_maintain digests inner readings
      · exact .refl inner
    apply ended.trans
    exact demotes_andThen (maintained _) (fun _ inner => .refl inner)

/-- Giving the allocation back. -/
theorem demotes_gracefulShutdown (inner : Inner) (readings : Readings) :
    Demotes inner (inner.gracefulShutdown digests readings).2 := by
  have quiet : Demotes inner inner.quiet := ⟨id, .inl rfl, .inr rfl, .inl rfl⟩
  have cleared : ∀ inner : Inner, Demotes inner { inner with pending := [] } :=
    fun _ => .of_same rfl rfl rfl rfl
  unfold Inner.gracefulShutdown
  split
  · exact .refl inner
  · apply quiet.trans
    dsimp only
    split
    · exact ((cleared _).trans (demotes_setState _ _ (by decide))).trans
        (demotes_start digests _ _ _ _)
    · split
      · exact cleared _
      · exact .refl _

/-- Starting a request for the caller. -/
theorem demotes_startAllocation (inner : Inner) (readings : Readings) :
    Demotes inner (inner.startAllocation digests readings).2 := by
  unfold Inner.startAllocation
  split
  · exact .refl inner
  · split
    · exact .refl inner
    · exact (demotes_setState _ _ (by decide)).trans (demotes_start digests _ _ _ _)

/-- Every call but the input of an authentic positive response. -/
theorem demotes_call (inner : Inner) (call : Call)
    (other : ¬∃ readings packet, call = .inputStun readings packet ∧
      VerifiedSuccess digests inner packet) : Demotes inner (inner.call digests call).1 := by
  cases call with
  | startAllocation readings => exact demotes_startAllocation digests inner readings
  | startChannel readings =>
    show Demotes inner (inner.startChannel digests readings).2
    unfold Inner.startChannel
    split
    · exact .refl inner
    · exact demotes_start digests _ _ _ _
  | startPermission readings =>
    show Demotes inner (inner.startPermission digests readings).2
    unfold Inner.startPermission
    split
    · exact .refl inner
    · exact demotes_start digests _ _ _ _
  | inputStun readings packet =>
    exact demotes_inputStun digests inner readings packet
      (fun verified => other ⟨readings, packet, rfl, verified⟩)
  | poll readings => exact demotes_poll digests inner readings
  | pullControl =>
    show Demotes inner inner.pullControl.2
    unfold Inner.pullControl
    split
    · exact .refl inner
    · exact .of_same rfl rfl rfl rfl
  | pullEvent => exact .of_same rfl rfl rfl rfl
  | gracefulShutdown readings => exact demotes_gracefulShutdown digests inner readings
  | forceDestroy status =>
    show Demotes inner (inner.forceDestroy status)
    unfold Inner.forceDestroy
    split
    · exact .refl inner
    · have cleared : Demotes inner
          { inner with destroyed := true, controls := [], pending := [] } :=
        .of_same rfl rfl rfl rfl
      exact (cleared.trans (demotes_setState _ _ (by decide))).trans (demotes_pushEvent _ _)

/-- A datagram is refused before a pending request is taken for answered: it is no message, no
response or damaged, answers no pending request, or lacks the integrity that the response to an
authenticated request needs. -/
def Refused (inner : Inner) (packet : List UInt8) : Prop :=
  match Message.decode packet with
  | .error _ => True
  | .ok message =>
    ¬(message.class = .success ∨ message.class = .error) ∨
      message.fingerprintValid digests.crc32 = some false ∨
      (∀ pending ∈ inner.pending, ¬(pending.transaction = message.transaction ∧
        pending.operation.method = message.method.toUInt32)) ∨
      ∃ pending, inner.pending.find? (·.matches message) = some pending ∧
        pending.authenticated = true ∧ responseRequiresIntegrity message = true ∧
        isFingerprintedAllocationMismatch digests message = false ∧
        verifyIntegrity digests packet message inner.key = false

/-- Events are all that a refused datagram leaves behind. -/
theorem inputStun_refused (inner : Inner) (readings : Readings) (packet : List UInt8)
    (refused : Refused digests inner packet) :
    { (inner.inputStun digests readings packet).2 with events := inner.events } = inner := by
  have reported : ∀ method status code, { inner.responseError method status code with
      events := inner.events } = inner := by
    intro method status code
    unfold Inner.responseError Inner.pushEvent
    split <;> rfl
  unfold Refused at refused
  unfold Inner.inputStun
  cases decoded : Message.decode packet with
  | error failure => rfl
  | ok message =>
    rw [decoded] at refused
    dsimp only at refused ⊢
    split
    · rfl
    · rename_i response
      split
      · rfl
      · rename_i undamaged
        cases found : inner.pending.find? (·.matches message) with
        | none => rfl
        | some pending =>
          dsimp only
          have forged : (pending.authenticated && responseRequiresIntegrity message &&
              !verifyIntegrity digests packet message inner.key &&
              !isFingerprintedAllocationMismatch digests message) = true := by
            rcases refused with other | damaged | unknown | ⟨same, is, authenticated, needed,
              mismatch, unverified⟩
            · exact absurd other response
            · exact absurd damaged undamaged
            · have matched := List.find?_some found
              simp only [Pending.matches, Bool.and_eq_true, beq_iff_eq] at matched
              exact absurd matched (unknown pending (List.mem_of_find?_eq_some found))
            · rw [found] at is
              cases is
              rw [authenticated, needed, mismatch, unverified]
              rfl
          rw [if_pos forged]
          dsimp only
          split
          · exact reported _ _ _
          · rfl

/-- The gate: whatever has happened, a refused datagram changes nothing but the events; and in
every run the client becomes ready, gets a relayed address or a channel, or a later end of the
allocation only while it takes in a positive response with an integrity that is right under the
key it has then. -/
theorem integrity_gate (start : Inner) (calls : List Call) :
    (∀ readings packet,
      let inner := Mealy.final (Inner.call digests) start calls
      Refused digests inner packet →
        { (inner.inputStun digests readings packet).2 with events := inner.events } = inner) ∧
    Mealy.Along (Inner.call digests) (fun inner call =>
      ¬(∃ readings packet, call = .inputStun readings packet ∧
        VerifiedSuccess digests inner packet) →
          Demotes inner (inner.call digests call).1) start calls := by
  constructor
  · intro readings packet inner refused
    exact inputStun_refused digests inner readings packet refused
  · induction calls generalizing start with
    | nil => trivial
    | cons call rest ih => exact ⟨demotes_call digests start call, ih _⟩

end Calls

end Focsq.Turn
