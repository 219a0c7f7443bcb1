import Focsq.Backend.TurnCore

/-!
# Calls of the TURN client

The public functions of `NativeCore`: creating a client, starting requests, taking in responses,
the work that is due at a time, and shutting down. `Call` is one of them with its arguments, and
`Inner.call` the state and the answer after it.
-/

namespace Focsq.Turn

open Stun

/-- `create_with_profile_and_transport` — a client, if its arguments are valid. -/
def Inner.create (server : SocketAddr) (username password : List UInt8) (peer : SocketAddr)
    (profile : CsqttTurnProfile) (transport : TurnControlTransport) : Except Failure Inner :=
  let invalid := Failure.bail ("TURN core create: " ++ nativeStatusText resultInvalidArgument)
  if server.port == 0 || peer.port == 0 then .error invalid
  else if username.isEmpty || 512 < username.length || password.isEmpty ||
      512 < password.length then .error invalid
  else
    .ok
      { server, peer, username, password
        realm := none
        nonce := none
        key := none
        state := .null
        relay := none
        channel := none
        controls := []
        events := []
        pending := []
        allocationRefresh := none
        allocationExpiresAt := none
        maintenanceRefresh := none
        permissionRetry := none
        channelRetry := none
        refreshFailures := 0
        permissionFailures := 0
        channelFailures := 0
        keepalive := none
        shuttingDown := false
        destroyed := false
        profile, transport }

section Calls

variable (digests : Digests)

/-- Start an operation for a caller who is told about a failure. -/
def Inner.start (inner : Inner) (readings : Readings) (operation : Operation)
    (authenticated : Bool) : Except Failure Unit × Inner :=
  match inner.startOperation digests (readings.draw operation) operation authenticated 0 with
  | .error failure => (.error failure, inner)
  | .ok inner => (.ok (), inner)

/-- `start_allocation`. -/
def Inner.startAllocation (inner : Inner) (readings : Readings) : Except Failure Unit × Inner :=
  match inner.requireOpen "TURN Allocate start" with
  | .error failure => (.error failure, inner)
  | .ok () =>
    if inner.state ≠ .null then
      (.error (.bail ("TURN Allocate start: " ++ nativeStatusText resultInvalidArgument)), inner)
    else (inner.setState .allocating).start digests readings .allocate false

/-- `start_channel`. -/
def Inner.startChannel (inner : Inner) (readings : Readings) : Except Failure Unit × Inner :=
  match inner.requireReady "TURN ChannelBind start" with
  | .error failure => (.error failure, inner)
  | .ok () => inner.start digests readings .channel true

/-- `start_permission`. -/
def Inner.startPermission (inner : Inner) (readings : Readings) : Except Failure Unit × Inner :=
  match inner.requireReady "TURN CreatePermission start" with
  | .error failure => (.error failure, inner)
  | .ok () => inner.start digests readings .permission true

/-- The event of an error response. -/
def Inner.responseError (inner : Inner) (method : UInt32) (status stunCode : Int) : Inner :=
  inner.pushEvent { kind := .stunResponseError, method, status, stunCode, state := inner.state }

/-- Realm and nonce with which a request is repeated after an error response, if it is. -/
def Inner.renewal (inner : Inner) (pending : Pending) (message : Message) (code : UInt16) :
    Option (List UInt8 × List UInt8) :=
  let realm :=
    match message.attribute attrRealm with
    | some entry => some entry.value
    | none => if code == 438 then inner.realm else none
  let nonce := (message.attribute attrNonce).map Attribute.value
  if (code == 401 || code == 438) && pending.nonceRetries < inner.profile.maxNonceRetries then
    match realm, nonce with
    | some realm, some nonce => some (realm, nonce)
    | _, _ => none
  else none

/-- The part of `input_stun` for error responses. -/
def Inner.answerError (inner : Inner) (readings : Readings) (pending : Pending)
    (message : Message) : Inner :=
  let method := message.method.toUInt32
  let code := (errorCode message).getD 0
  if code == 0 then
    (inner.responseError method resultProtocol 0).completeFailure pending.operation
      resultProtocol 0 readings.now
  else if requiresAllocationRecreate pending.operation code then
    (inner.responseError method 0 code.toNat).destroyAllocation pending.operation resultProtocol
      code.toNat
  else
    match inner.renewal pending message code with
    | none =>
      (inner.responseError method 0 code.toNat).completeFailure pending.operation resultProtocol
        code.toNat readings.now
    | some (realm, nonce) =>
      let inner := inner.setAuth digests realm nonce
      match inner.startOperation digests (readings.draw pending.operation) pending.operation true
          (pending.nonceRetries + 1) with
      | .ok inner => inner
      | .error _ =>
        (inner.responseError method 0 code.toNat).completeFailure pending.operation
          resultProtocol code.toNat readings.now

/-- The part of `input_stun` for a response to a pending request. -/
def Inner.answer (inner : Inner) (readings : Readings) (pending : Pending) (message : Message) :
    Int × Inner :=
  if message.class = .success ∧ ¬pending.authenticated then
    (resultAuthentication,
      inner.completeFailure pending.operation resultAuthentication 0 readings.now)
  else if message.class = .error then (0, inner.answerError digests readings pending message)
  else
    match inner.completeSuccess digests readings pending.operation message with
    | (.ok (), inner) => (0, inner)
    | (.error _, inner) =>
      (resultProtocol, inner.completeFailure pending.operation resultProtocol 0 readings.now)

/-- Whether a pending request is the one a response answers. -/
def Pending.matches (pending : Pending) (message : Message) : Bool :=
  pending.transaction == message.transaction &&
    pending.operation.method == message.method.toUInt32

/-- `input_stun` — take in a datagram. The pending request is found and removed by its position,
which is that of the first one that matches. -/
def Inner.inputStun (inner : Inner) (readings : Readings) (packet : List UInt8) : Int × Inner :=
  match Message.decode packet with
  | .error _ => (resultInvalidArgument, inner)
  | .ok message =>
    if ¬(message.class = .success ∨ message.class = .error) then (resultNotControl, inner)
    else if message.fingerprintValid digests.crc32 = some false then
      (resultInvalidArgument, inner)
    else
      match inner.pending.find? (·.matches message) with
      | none => (resultNotControl, inner)
      | some pending =>
        if pending.authenticated && responseRequiresIntegrity message &&
            !verifyIntegrity digests packet message inner.key &&
            !isFingerprintedAllocationMismatch digests message then
          (resultAuthentication,
            match message.class, errorCode message with
            | .error, some code =>
              inner.responseError message.method.toUInt32 resultAuthentication code.toNat
            | _, _ => inner)
        else
          ({ inner with
            pending := inner.pending.eraseP (·.matches message) }.removeQueuedTransaction
              message.transaction).answer digests readings pending message

/-- The loop of `expire_transactions`. A turn goes on to the next request or removes one, so it
ends after as many turns as there are requests. -/
def Inner.expireLoop (now : Nat) : Nat → Nat → Inner → Inner
  | 0, _, inner => inner
  | fuel + 1, index, inner =>
    match inner.pending[index]? with
    | none => inner
    | some pending =>
      if now < pending.nextAttempt then inner.expireLoop now fuel (index + 1)
      else if maxTransmissions ≤ pending.transmissions ∨ inner.transport = .stream then
        let inner := { inner with
          pending := inner.pending.eraseIdx index }.removeQueuedTransaction pending.transaction
        (inner.completeFailure pending.operation resultTimeout 0 now).expireLoop now fuel index
      else
        let inner := inner.queuePacket pending.packet
        let rto := min (pending.rto * 2) maxRto
        { inner with
          pending := inner.pending.set index
            { pending with
              transmissions := pending.transmissions + 1
              rto
              nextAttempt := now + rto } }.expireLoop now fuel (index + 1)

/-- `expire_transactions` — send requests again that were not answered, and give up old ones. -/
def Inner.expireTransactions (inner : Inner) (now : Nat) : Inner :=
  inner.expireLoop now inner.pending.length 0

/-- Whether a deadline has been reached. -/
def reached (deadline : Option Nat) (now : Nat) : Bool := deadline.any (fun time => time ≤ now)

/-- Reset the timer of an operation. -/
def Inner.clearTimer (inner : Inner) : Operation → Inner
  | .refresh => { inner with allocationRefresh := none }
  | .permission => { inner with permissionRetry := none }
  | .channel => { inner with channelRetry := none }
  | .allocate => inner
  | .deallocate => inner

/-- The operator `?` — go on in the new state, unless the first part failed. -/
def andThen {α β : Type} (first : Except Failure α × Inner)
    (next : α → Inner → Except Failure β × Inner) : Except Failure β × Inner :=
  match first with
  | (.error failure, inner) => (.error failure, inner)
  | (.ok value, inner) => next value inner

/-- Start an operation that is due, unless it is pending; the answer is whether it was started. -/
def Inner.startDue (inner : Inner) (readings : Readings) (operation : Operation) (due : Bool) :
    Except Failure Bool × Inner :=
  if due && !inner.hasOperation operation then
    andThen ((inner.clearTimer operation).start digests readings operation true)
      fun _ inner => (.ok true, inner)
  else (.ok false, inner)

/-- The next renewal of permission and channel. -/
def Inner.renewMaintenance (inner : Inner) (now : Nat) : Inner :=
  { inner with maintenanceRefresh := some (now + inner.profile.maintenanceRefresh) }

/-- The next keepalive, which is left out when a request was sent. -/
def Inner.renewKeepalive (inner : Inner) (now : Nat) (controlStarted : Bool) : Inner :=
  let inner := { inner with keepalive := some (now + inner.profile.keepaliveInterval) }
  if controlStarted then inner else inner.queueKeepalive

/-- The part of `poll` that keeps allocation, permission and channel alive. -/
def Inner.maintain (inner : Inner) (readings : Readings) : Except Failure Unit × Inner :=
  let now := readings.now
  let maintenanceDue := reached inner.maintenanceRefresh now
  let permissionRetryDue := reached inner.permissionRetry now
  let channelRetryDue := reached inner.channelRetry now
  andThen (inner.startDue digests readings .refresh (reached inner.allocationRefresh now))
    fun refreshed inner =>
  let inner := if maintenanceDue then inner.renewMaintenance now else inner
  andThen (inner.startDue digests readings .permission (maintenanceDue || permissionRetryDue))
    fun permitted inner =>
  andThen (inner.startDue digests readings .channel (maintenanceDue || channelRetryDue))
    fun bound inner =>
  (.ok (), if reached inner.keepalive now then
    inner.renewKeepalive now (refreshed || permitted || bound) else inner)

/-- `next_deadline` — the next time at which there is work. -/
def Inner.nextDeadline (inner : Inner) : Option Nat :=
  (inner.pending.map Pending.nextAttempt ++ inner.allocationRefresh.toList ++
    inner.maintenanceRefresh.toList ++ inner.permissionRetry.toList ++
    inner.channelRetry.toList ++ inner.keepalive.toList).min?

/-- `poll` — do the work that is due; the answer is how long to wait. -/
def Inner.poll (inner : Inner) (readings : Readings) : Except Failure (Option Nat) × Inner :=
  let now := readings.now
  if inner.destroyed then (.ok none, inner)
  else
    let inner := inner.expireTransactions now
    let inner :=
      if !inner.shuttingDown && inner.state == .ready && reached inner.allocationExpiresAt now then
        inner.destroyAllocation .refresh resultTimeout 0
      else inner
    andThen
      (if !inner.shuttingDown && inner.state == .ready then inner.maintain digests readings
      else (.ok (), inner))
      fun _ inner =>
        (.ok (inner.nextDeadline.map (fun deadline => max (deadline - now) (millis 1))), inner)

/-- `pull_control` — the next packet to be sent, if it fits the buffer of 1024 bytes. -/
def Inner.pullControl (inner : Inner) : Except Failure (Option Control) × Inner :=
  match inner.controls with
  | [] => (.ok none, inner)
  | control :: controls =>
    (if 1024 < control.packet.length then
      .error (.bail ("TURN control dequeue: " ++ nativeStatusText resultBufferTooSmall))
    else .ok (some control), { inner with controls })

/-- `pull_event` — the next event. -/
def Inner.pullEvent (inner : Inner) : Option NativeEvent × Inner :=
  (inner.events.head?, { inner with events := inner.events.tail })

/-- The fields that `graceful_shutdown` resets. -/
def Inner.quiet (inner : Inner) : Inner :=
  { inner with
    shuttingDown := true
    channel := none
    maintenanceRefresh := none
    permissionRetry := none
    channelRetry := none
    keepalive := none
    controls := [] }

/-- `graceful_shutdown` — give the allocation back. -/
def Inner.gracefulShutdown (inner : Inner) (readings : Readings) : Except Failure Unit × Inner :=
  if inner.destroyed || inner.shuttingDown then (.ok (), inner)
  else
    let inner := inner.quiet
    if inner.state = .ready ∨ (inner.state = .destroying ∧ inner.allocationExpiresAt.isSome) then
      ({ inner with pending := [] }.setState .deallocating).start digests readings .deallocate true
    else if inner.state ≠ .allocating then (.ok (), { inner with pending := [] })
    else (.ok (), inner)

/-- `force_destroy` — tear the client down. -/
def Inner.forceDestroy (inner : Inner) (status : Int) : Inner :=
  if inner.destroyed then inner
  else
    ({ inner with destroyed := true, controls := [], pending := [] }.setState
      .destroying).pushEvent { kind := .forcedDestroy, status, state := .destroying }

/-- A call of the client with its arguments and what it reads. -/
inductive Call where
  /-- `start_allocation`. -/
  | startAllocation (readings : Readings)
  /-- `start_channel`. -/
  | startChannel (readings : Readings)
  /-- `start_permission`. -/
  | startPermission (readings : Readings)
  /-- `input_stun`. -/
  | inputStun (readings : Readings) (packet : List UInt8)
  /-- `poll`. -/
  | poll (readings : Readings)
  /-- `pull_control`. -/
  | pullControl
  /-- `pull_event`. -/
  | pullEvent
  /-- `graceful_shutdown`. -/
  | gracefulShutdown (readings : Readings)
  /-- `force_destroy`. -/
  | forceDestroy (status : Int)

/-- What a call answers. -/
inductive Answer where
  /-- Whether it succeeded. -/
  | result (result : Except Failure Unit)
  /-- A status. -/
  | status (status : Int)
  /-- How long to wait. -/
  | wait (time : Except Failure (Option Nat))
  /-- A packet to be sent. -/
  | control (control : Except Failure (Option Control))
  /-- Something that happened. -/
  | event (event : Option NativeEvent)

/-- One call. -/
def Inner.call (inner : Inner) (call : Call) : Inner × Answer :=
  match call with
  | .startAllocation readings =>
    let (result, inner) := inner.startAllocation digests readings
    (inner, .result result)
  | .startChannel readings =>
    let (result, inner) := inner.startChannel digests readings
    (inner, .result result)
  | .startPermission readings =>
    let (result, inner) := inner.startPermission digests readings
    (inner, .result result)
  | .inputStun readings packet =>
    let (status, inner) := inner.inputStun digests readings packet
    (inner, .status status)
  | .poll readings =>
    let (time, inner) := inner.poll digests readings
    (inner, .wait time)
  | .pullControl =>
    let (control, inner) := inner.pullControl
    (inner, .control control)
  | .pullEvent =>
    let (event, inner) := inner.pullEvent
    (inner, .event event)
  | .gracefulShutdown readings =>
    let (result, inner) := inner.gracefulShutdown digests readings
    (inner, .result result)
  | .forceDestroy status => (inner.forceDestroy status, .result (.ok ()))

end Calls

end Focsq.Turn
