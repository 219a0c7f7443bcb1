import Focsq.Backend.TurnMessage

/-!
# The TURN client

`NativeCore` of `turn_core.rs` is the client side of a TURN allocation without input and output:
requests are queued as control packets, responses are put in, and what happened is queued as
events. Each operation of the core is a function of its state `Inner`; what it reads from the
clock and draws at random is an argument, `Readings`. Instants and durations are nanoseconds.

A fallible operation that changes the state before it fails returns the changed state with the
failure.
-/

namespace Focsq.Turn

open Stun

/-- Nanoseconds of a number of milliseconds. -/
def millis (count : Nat) : Nat := count * 1000000
/-- Nanoseconds of a number of seconds. -/
def seconds (count : Nat) : Nat := count * 1000000000

/-- `CONTROL_CAPACITY` — control packets that are queued. -/
def controlCapacity : Nat := 16
/-- `EVENT_CAPACITY` — events that are queued. -/
def eventCapacity : Nat := 64
/-- `INITIAL_RTO` — first retransmission timeout. -/
def initialRto : Nat := millis 200
/-- `MAX_RTO` — longest retransmission timeout. -/
def maxRto : Nat := millis 1600
/-- `MAX_TRANSMISSIONS` — how often a request is sent. -/
def maxTransmissions : Nat := 7
/-- `STREAM_TRANSACTION_TIMEOUT` — how long a response is awaited on a stream. -/
def streamTransactionTimeout : Nat := seconds 12
/-- `REQUESTED_ALLOCATION_LIFETIME_SECS` — lifetime that is asked for, and taken for granted. -/
def requestedAllocationLifetimeSecs : UInt32 := 600
/-- `MAINTENANCE_RETRY_BASE` — first delay after a failed maintenance request. -/
def maintenanceRetryBase : Nat := seconds 1
/-- `MAINTENANCE_RETRY_MAX` — longest such delay. -/
def maintenanceRetryMax : Nat := seconds 30
/-- `MAX_CHANNEL_MAINTENANCE_FAILURES` — failed bindings of the channel before it is given up. -/
def maxChannelMaintenanceFailures : Nat := 4
/-- `CHANNEL_NUMBER` — the channel that is bound. -/
def channelNumber : UInt16 := 0x4000

/-- `TurnControlTransport` — how control packets are sent. -/
inductive TurnControlTransport where
  /-- One by one; they can be lost. -/
  | datagram
  /-- In a stream. -/
  | stream
  deriving DecidableEq, Repr

/-- `CsqttTurnProfile` — intervals of the client. -/
structure CsqttTurnProfile where
  /-- Refreshing the allocation. -/
  allocationRefresh : Nat
  /-- Renewing permission and channel. -/
  maintenanceRefresh : Nat
  /-- Keeping the channel alive. -/
  keepaliveInterval : Nat
  /-- How often a request is repeated with a new nonce. -/
  maxNonceRetries : Nat
  deriving DecidableEq, Repr

/-- `PJNATH_COMPAT`. -/
def CsqttTurnProfile.pjnathCompat : CsqttTurnProfile where
  allocationRefresh := seconds 300
  maintenanceRefresh := seconds 175
  keepaliveInterval := seconds 10
  maxNonceRetries := 3

/-- The states of the client, `STATE_NULL` and so on. -/
inductive TurnState where
  /-- Nothing has been asked for. -/
  | null
  /-- The allocation has been asked for. -/
  | allocating
  /-- The allocation exists. -/
  | ready
  /-- The end of the allocation has been asked for. -/
  | deallocating
  /-- The allocation has ended. -/
  | deallocated
  /-- The allocation is lost. -/
  | destroying
  deriving DecidableEq, Repr

/-- The kinds of events, `EVENT_STATE` and so on. -/
inductive EventKind where
  /-- The state has changed. -/
  | state
  /-- A request has been answered, or given up. -/
  | requestComplete
  /-- The channel is bound. -/
  | channelBound
  /-- The relayed address is known. -/
  | relayAddress
  /-- A control packet was dropped. -/
  | controlOverflow
  /-- The client was torn down. -/
  | forcedDestroy
  /-- An event was dropped. -/
  | eventOverflow
  /-- An error response. -/
  | stunResponseError
  /-- The channel was given up. -/
  | channelRebindExhausted
  deriving DecidableEq, Repr

/-- `NativeAddress` — an address in an event. -/
structure NativeAddress where
  /-- 4, 6, or 0 for no address. -/
  family : UInt8
  /-- Unused. -/
  reserved : UInt8
  /-- The port. -/
  port : UInt16
  /-- The address, with zeros behind an IPv4 address. -/
  ip : Bytes.Octets 16
  deriving DecidableEq

/-- `NativeAddress::default` — no address. -/
def NativeAddress.default : NativeAddress := ⟨0, 0, 0, .ofList []⟩

/-- `from_socket_addr`. -/
def NativeAddress.fromSocketAddr (address : SocketAddr) : NativeAddress where
  family := if address.isIpv4 then 4 else 6
  reserved := 0
  port := address.port
  ip :=
    match address.ip with
    | .v4 octets => .ofList octets.val
    | .v6 octets => octets

/-- `NativeEvent` — something that happened. The defaults are those of `NativeEvent::default`. -/
structure NativeEvent where
  /-- What happened. -/
  kind : EventKind
  /-- Method of a request. -/
  method : UInt32 := 0
  /-- Status of a request. -/
  status : Int := 0
  /-- Error code of a response. -/
  stunCode : Int := 0
  /-- State of the client. -/
  state : TurnState := .null
  /-- State before a change. -/
  previousState : TurnState := .null
  /-- Number of dropped packets or events. -/
  dropped : UInt32 := 0
  /-- The bound channel. -/
  channel : UInt16 := 0
  /-- Unused. -/
  reserved : UInt16 := 0
  /-- The relayed address. -/
  address : NativeAddress := .default
  deriving DecidableEq

/-- `Operation` — what a request is for. -/
inductive Operation where
  /-- Get an allocation. -/
  | allocate
  /-- Keep it. -/
  | refresh
  /-- Give it back. -/
  | deallocate
  /-- Let the peer in. -/
  | permission
  /-- Bind the channel. -/
  | channel
  deriving DecidableEq, Repr

/-- `Operation::method`. -/
def Operation.method : Operation → UInt32
  | .allocate => 3
  | .refresh => 4
  | .deallocate => 4
  | .permission => 8
  | .channel => 9

/-- `Pending` — a request without a response. -/
structure Pending where
  /-- What it is for. -/
  operation : Operation
  /-- Its transaction. -/
  transaction : Bytes.Octets 12
  /-- The request itself. -/
  packet : List UInt8
  /-- When it is sent again, or given up. -/
  nextAttempt : Nat
  /-- Present retransmission timeout. -/
  rto : Nat
  /-- How often it has been sent. -/
  transmissions : Nat
  /-- How often it has been repeated with a new nonce. -/
  nonceRetries : Nat
  /-- Whether it carries the credentials. -/
  authenticated : Bool
  deriving DecidableEq

/-- `Control` — a packet to be sent. -/
structure Control where
  /-- The packet. -/
  packet : List UInt8
  /-- Where to. -/
  destination : SocketAddr
  deriving DecidableEq

/-- `Inner` — state of the client. -/
structure Inner where
  /-- The TURN server. -/
  server : SocketAddr
  /-- The peer behind the relay. -/
  peer : SocketAddr
  /-- User name, as bytes. -/
  username : List UInt8
  /-- Password, as bytes. -/
  password : List UInt8
  /-- Realm of the server. -/
  realm : Option (List UInt8)
  /-- Present nonce of the server. -/
  nonce : Option (List UInt8)
  /-- Key of the long-term credentials. -/
  key : Option (Bytes.Octets 16)
  /-- Where the client is. -/
  state : TurnState
  /-- Relayed address of the allocation. -/
  relay : Option SocketAddr
  /-- The bound channel. -/
  channel : Option UInt16
  /-- Packets to be sent. -/
  controls : List Control
  /-- What happened. -/
  events : List NativeEvent
  /-- Requests without a response. -/
  pending : List Pending
  /-- When the allocation is refreshed. -/
  allocationRefresh : Option Nat
  /-- When the allocation ends. -/
  allocationExpiresAt : Option Nat
  /-- When permission and channel are renewed. -/
  maintenanceRefresh : Option Nat
  /-- When the permission is asked for again. -/
  permissionRetry : Option Nat
  /-- When the channel is bound again. -/
  channelRetry : Option Nat
  /-- Refreshs that failed in a row. -/
  refreshFailures : Nat
  /-- Permissions that failed in a row. -/
  permissionFailures : Nat
  /-- Channel bindings that failed in a row. -/
  channelFailures : Nat
  /-- When the channel is kept alive. -/
  keepalive : Option Nat
  /-- Whether the client is being shut down. -/
  shuttingDown : Bool
  /-- Whether the client was torn down. -/
  destroyed : Bool
  /-- Intervals of the client. -/
  profile : CsqttTurnProfile
  /-- How control packets are sent. -/
  transport : TurnControlTransport
  deriving DecidableEq

/-- What `start_operation` draws and reads for a new transaction. -/
structure Draw where
  /-- The random transaction identifier. -/
  transaction : Bytes.Octets 12
  /-- When it is started. -/
  started : Nat
  deriving DecidableEq

/-- What one call reads: the time, and a draw for each operation it may start. -/
structure Readings where
  /-- The time at the start of the call. -/
  now : Nat
  /-- The draw for an operation; a call starts an operation at most once. -/
  draw : Operation → Draw

/-- `push_event` — a full queue drops its first event and takes a note of that instead. -/
def Inner.pushEvent (inner : Inner) (event : NativeEvent) : Inner :=
  if inner.events.length = eventCapacity then
    { inner with
      events := inner.events.tail ++
        [{ kind := .eventOverflow, status := resultBufferTooSmall, dropped := 1 }] }
  else { inner with events := inner.events ++ [event] }

/-- `require_open`. -/
def Inner.requireOpen (inner : Inner) (operation : String) : Except Failure Unit :=
  if inner.destroyed || inner.shuttingDown then
    .error (.bail (operation ++ ": " ++ nativeStatusText resultClosed))
  else .ok ()

/-- `require_ready`. -/
def Inner.requireReady (inner : Inner) (operation : String) : Except Failure Unit := do
  inner.requireOpen operation
  if inner.state ≠ .ready then
    throw (.bail (operation ++ ": " ++ nativeStatusText resultInvalidArgument))

/-- `set_state` — a new state is an event. -/
def Inner.setState (inner : Inner) (state : TurnState) : Inner :=
  if inner.state = state then inner
  else
    { inner with state }.pushEvent { kind := .state, state, previousState := inner.state }

/-- `set_auth` — take over realm and nonce of the server. -/
def Inner.setAuth (digests : Digests) (inner : Inner) (realm nonce : List UInt8) : Inner :=
  { inner with
    key := some (digests.md5 (inner.username ++ [0x3a] ++ realm ++ [0x3a] ++ inner.password))
    realm := some realm
    nonce := some nonce }

/-- `has_operation`. -/
def Inner.hasOperation (inner : Inner) (operation : Operation) : Bool :=
  inner.pending.any (fun pending => pending.operation == operation)

/-- `transaction_timeout`. -/
def Inner.transactionTimeout (inner : Inner) : Nat :=
  match inner.transport with
  | .datagram => initialRto
  | .stream => streamTransactionTimeout

/-- `queue_packet` — a full queue drops its first packet. -/
def Inner.queuePacket (inner : Inner) (packet : List UInt8) : Inner :=
  let inner :=
    if inner.controls.length = controlCapacity then
      { inner with controls := inner.controls.tail }.pushEvent
        { kind := .controlOverflow, status := resultBufferTooSmall, dropped := 1 }
    else inner
  { inner with controls := inner.controls ++ [{ packet, destination := inner.server }] }

/-- `queue_keepalive` — one byte of data for the channel. -/
def Inner.queueKeepalive (inner : Inner) : Inner :=
  match inner.channel with
  | none => inner
  | some channel =>
    inner.queuePacket (Bytes.be 2 channel.toNat ++ Bytes.be 2 1 ++ [0xff, 0, 0, 0])

/-- The first part of `build_request`: the attributes of an operation. -/
def Inner.requestAttributes (inner : Inner) (operation : Operation) (builder : MessageBuilder) :
    MessageBuilder :=
  match operation with
  | .allocate =>
    let family : UInt8 := if inner.peer.isIpv4 then 1 else 2
    ((builder.attribute attrRequestedTransport [17, 0, 0, 0]).attribute
      attrRequestedAddressFamily [family, 0, 0, 0]).attribute
        attrLifetime (Bytes.be 4 requestedAllocationLifetimeSecs.toNat)
  | .refresh => builder.attribute attrLifetime (Bytes.be 4 requestedAllocationLifetimeSecs.toNat)
  | .deallocate => builder.attribute attrLifetime (Bytes.be 4 0)
  | .permission => builder.xorAddress attrXorPeerAddress inner.peer
  | .channel =>
    (builder.attribute attrChannelNumber [0x40, 0, 0, 0]).xorAddress attrXorPeerAddress inner.peer

/-- `build_request`. -/
def Inner.buildRequest (digests : Digests) (inner : Inner) (operation : Operation)
    (transaction : Bytes.Octets 12) (authenticated : Bool) : Except Failure (List UInt8) :=
  let builder := inner.requestAttributes operation
    (.withTransaction operation.method.toUInt16 transaction)
  if authenticated then
    let builder := ((builder.attribute attrUsername inner.username).attribute attrRealm
      (inner.realm.getD [])).attribute attrNonce (inner.nonce.getD [])
    match inner.key with
    | none => .error (.bail "TURN authentication key missing")
    | some key => builder.finishAuthenticated digests key
  else builder.finish digests

/-- `start_operation` — send a request, unless there is one of its kind already. A failure leaves
the state as it is. -/
def Inner.startOperation (digests : Digests) (inner : Inner) (draw : Draw) (operation : Operation)
    (authenticated : Bool) (nonceRetries : Nat) : Except Failure Inner :=
  match inner.pending.find? (fun pending => pending.operation == operation) with
  | some pending =>
    if operation = .channel then .ok (inner.queuePacket pending.packet) else .ok inner
  | none =>
    if authenticated && (inner.realm.isNone || inner.nonce.isNone || inner.key.isNone) then
      .error (.bail "TURN authentication state is incomplete")
    else do
      let packet ← inner.buildRequest digests operation draw.transaction authenticated
      let inner := inner.queuePacket packet
      return { inner with
        pending := inner.pending ++
          [{ operation
             transaction := draw.transaction
             packet
             nextAttempt := draw.started + inner.transactionTimeout
             rto := initialRto
             transmissions := 1
             nonceRetries
             authenticated }] }

/-- `remove_queued_transaction` — packets of a transaction need not be sent any more. -/
def Inner.removeQueuedTransaction (inner : Inner) (transaction : Bytes.Octets 12) : Inner :=
  { inner with
    controls := inner.controls.filter (fun control =>
      !(decide (20 ≤ control.packet.length) &&
        Bytes.slice control.packet 8 20 == transaction.val)) }

/-- `complete` — a request has been answered, or given up. -/
def Inner.complete (inner : Inner) (operation : Operation) (status stunCode : Int) : Inner :=
  inner.pushEvent
    { kind := .requestComplete
      method := operation.method
      status
      stunCode
      state := inner.state
      channel := inner.channel.getD 0
      address := (inner.relay.map NativeAddress.fromSocketAddr).getD .default }

/-- The fields that `destroy_allocation` resets. -/
def Inner.dropAllocation (inner : Inner) : Inner :=
  { inner with
    controls := []
    pending := []
    channel := none
    allocationRefresh := none
    allocationExpiresAt := none
    maintenanceRefresh := none
    permissionRetry := none
    channelRetry := none
    keepalive := none
    relay := none }

/-- `destroy_allocation` — the allocation is gone. -/
def Inner.destroyAllocation (inner : Inner) (operation : Operation) (status stunCode : Int) :
    Inner :=
  let inner := (inner.complete operation status stunCode).dropAllocation
  if operation = .deallocate then inner.setState .deallocated else inner.setState .destroying

/-- The fields that `destroy_after_channel_rebind_exhausted` resets. -/
def Inner.dropChannel (inner : Inner) : Inner :=
  { inner with
    controls := []
    pending := []
    channel := none
    maintenanceRefresh := none
    permissionRetry := none
    channelRetry := none
    keepalive := none }

/-- `destroy_after_channel_rebind_exhausted` — the channel cannot be kept. -/
def Inner.destroyAfterChannelRebindExhausted (inner : Inner) : Inner :=
  (inner.dropChannel.pushEvent
    { kind := .channelRebindExhausted
      status := resultTimeout
      state := .destroying }).setState .destroying

/-- Delay before a maintenance request is repeated. -/
def maintenanceRetryDelay (failures : Nat) : Nat :=
  min (maintenanceRetryBase * 2 ^ min (failures - 1) 5) maintenanceRetryMax

/-- `schedule_maintenance_retry` — whether a failed request will be repeated. Counters of failures
stop at 255. -/
def Inner.scheduleMaintenanceRetry (inner : Inner) (operation : Operation) (now : Nat) :
    Bool × Inner :=
  match operation with
  | .refresh =>
    let failures := min (inner.refreshFailures + 1) 255
    (true, { inner with
      refreshFailures := failures
      allocationRefresh := some (now + maintenanceRetryDelay failures) })
  | .permission =>
    let failures := min (inner.permissionFailures + 1) 255
    (true, { inner with
      permissionFailures := failures
      permissionRetry := some (now + maintenanceRetryDelay failures) })
  | .channel =>
    let failures := min (inner.channelFailures + 1) 255
    if maxChannelMaintenanceFailures ≤ failures then
      (false, { inner with channelFailures := failures })
    else
      (true, { inner with
        channelFailures := failures
        channelRetry := some (now + maintenanceRetryDelay failures) })
  | .allocate => (true, inner)
  | .deallocate => (true, inner)

/-- `complete_failure` — failed maintenance of a live allocation is repeated; everything else ends
the allocation. -/
def Inner.completeFailure (inner : Inner) (operation : Operation) (status stunCode : Int)
    (now : Nat) : Inner :=
  if (operation = .refresh ∨ operation = .permission ∨ operation = .channel) ∧
      inner.state = .ready ∧ (inner.allocationExpiresAt.any (fun deadline => now < deadline)) then
    let (retried, inner) :=
      (inner.complete operation status stunCode).scheduleMaintenanceRetry operation now
    if retried then inner else inner.destroyAfterChannelRebindExhausted
  else inner.destroyAllocation operation status stunCode

/-- `allocation_refresh_deadline` — half the lifetime, but not more than the interval and not less
than half a second. -/
def allocationRefreshDeadline (now : Nat) (lifetime : Option UInt32) (interval : Nat) : Nat :=
  let lifetime := seconds (lifetime.getD requestedAllocationLifetimeSecs).toNat
  now + max (min interval (lifetime / 2)) (millis 500)

/-- The fields that a granted lifetime sets. -/
def Inner.extendAllocation (inner : Inner) (now : Nat) (returned : Option UInt32) : Inner :=
  let lifetime := returned.getD requestedAllocationLifetimeSecs
  { inner with
    allocationRefresh :=
      some (allocationRefreshDeadline now returned inner.profile.allocationRefresh)
    allocationExpiresAt := some (now + seconds lifetime.toNat)
    refreshFailures := 0 }

/-- The relayed address of an Allocate response. -/
def Inner.relayedAddress (inner : Inner) (message : Message) : Except Failure SocketAddr := do
  match message.attribute attrXorRelayedAddress with
  | none => throw (.bail "TURN Allocate response has no relayed address")
  | some entry =>
    let relay ← decodeXorAddress entry.value message.transaction
    if relay.isIpv4 != inner.peer.isIpv4 || relay.port == 0 then
      throw (.bail "TURN Allocate response has invalid relayed address")
    return relay

/-- The arm of `complete_success` for Allocate, after the address and the lifetime were checked. -/
def Inner.allocated (digests : Digests) (inner : Inner) (draw : Draw) (relay : SocketAddr)
    (returned : Option UInt32) (now : Nat) : Except Failure Unit × Inner :=
  let inner := { inner.extendAllocation now returned with
    relay := some relay
    maintenanceRefresh := some (now + inner.profile.maintenanceRefresh)
    keepalive := some (now + inner.profile.keepaliveInterval) }
  let inner := inner.pushEvent { kind := .relayAddress, address := .fromSocketAddr relay }
  if inner.shuttingDown then
    let inner := inner.setState .deallocating
    match inner.startOperation digests draw .deallocate true 0 with
    | .error failure => (.error failure, inner)
    | .ok inner => (.ok (), inner)
  else (.ok (), (inner.setState .ready).complete .allocate 0 0)

/-- `complete_success` — a positive response. -/
def Inner.completeSuccess (digests : Digests) (inner : Inner) (readings : Readings)
    (operation : Operation) (message : Message) : Except Failure Unit × Inner :=
  match operation with
  | .allocate =>
    match inner.relayedAddress message with
    | .error failure => (.error failure, inner)
    | .ok relay =>
      let returned := attributeU32 message attrLifetime
      if returned.getD requestedAllocationLifetimeSecs == 0 then
        (.error (.bail "TURN Allocate response lifetime is zero"), inner)
      else inner.allocated digests (readings.draw .deallocate) relay returned readings.now
  | .refresh =>
    let returned := attributeU32 message attrLifetime
    if returned.getD requestedAllocationLifetimeSecs == 0 then
      (.error (.bail "TURN Refresh response lifetime is zero"), inner)
    else (.ok (), (inner.extendAllocation readings.now returned).complete .refresh 0 0)
  | .deallocate =>
    if (attributeU32 message attrLifetime).getD 0 != 0 then
      (.error (.bail "TURN deallocation response lifetime is not zero"), inner)
    else
      let inner := { inner with
        relay := none
        allocationRefresh := none
        allocationExpiresAt := none }
      (.ok (), (inner.complete .deallocate 0 0).setState .deallocated)
  | .permission => (.ok (), { inner with permissionFailures := 0 }.complete .permission 0 0)
  | .channel =>
    let inner := { inner with channel := some channelNumber, channelFailures := 0 }
    let inner := inner.pushEvent
      { kind := .channelBound, channel := channelNumber, address := .fromSocketAddr inner.peer }
    (.ok (), inner.complete .channel 0 0)

/-- `requires_allocation_recreate` — errors after which the allocation is lost. -/
def requiresAllocationRecreate (operation : Operation) (code : UInt16) : Bool :=
  code == 437 || (operation == .channel && code == 400)

end Focsq.Turn
