import Focsq.Backend.NativeCore

/-!
# The driver of the TURN client

`pump_native` of `turn.rs` lets the client work, sends its control packets, and takes over into the
state of the driver, `DriverShared`, what its events report. Logging, counters of the data path and
the waking of tasks are left out.
-/

namespace Focsq

/-- Digits of a 16-bit group of an IPv6 address. -/
def hexDigits (group : Nat) : String := String.ofList (Nat.toDigits 16 group)

/-- The first longest run of zeros, as its start and its length. -/
def longestZeros : (groups : List Nat) → (position start length bestStart bestLength : Nat) →
    Nat × Nat
  | [], _, _, _, bestStart, bestLength => (bestStart, bestLength)
  | group :: rest, position, start, length, bestStart, bestLength =>
    if group = 0 then
      let start := if length = 0 then position else start
      if bestLength < length + 1 then
        longestZeros rest (position + 1) start (length + 1) start (length + 1)
      else longestZeros rest (position + 1) start (length + 1) bestStart bestLength
    else longestZeros rest (position + 1) 0 0 bestStart bestLength

/-- `Ipv4Addr` as text. -/
def ipv4Text (octets : List UInt8) : String :=
  ".".intercalate (octets.map (fun octet => toString octet.toNat))

/-- `Ipv6Addr` as text: the longest run of zeros is left out. -/
def ipv6Text (octets : List UInt8) : String :=
  let groups := (List.range 8).map (fun index =>
    Bytes.fromBe (Bytes.slice octets (2 * index) (2 * index + 2)))
  if groups.take 6 = [0, 0, 0, 0, 0, 0xffff] then "::ffff:" ++ ipv4Text (octets.drop 12)
  else
    let (start, length) := longestZeros groups 0 0 0 0 0
    let text := fun groups : List Nat => ":".intercalate (groups.map hexDigits)
    if 1 < length then text (groups.take start) ++ "::" ++ text (groups.drop (start + length))
    else text groups

namespace Turn

/-- `SocketAddr` as text. -/
def SocketAddr.text : SocketAddr → String
  | .v4 octets port => ipv4Text octets.val ++ ":" ++ toString port.toNat
  | .v6 octets port _ scopeId =>
    if scopeId = 0 then "[" ++ ipv6Text octets.val ++ "]:" ++ toString port.toNat
    else "[" ++ ipv6Text octets.val ++ "%" ++ toString scopeId.toNat ++ "]:" ++ toString port.toNat

/-- `to_socket_addr`. -/
def NativeAddress.toSocketAddr (address : NativeAddress) : Except Failure SocketAddr :=
  if address.family = 4 then .ok (.new (.v4 (.ofList (address.ip.val.take 4))) address.port)
  else if address.family = 6 then .ok (.new (.v6 address.ip) address.port)
  else .error (.bail ("TURN core returned address family " ++ toString address.family.toNat))

/-- `relay_address`. -/
def Inner.relayAddress (inner : Inner) : Except Failure SocketAddr :=
  match inner.relay with
  | some relay => .ok relay
  | none => .error (.bail "TURN relay address: unavailable")

/-- `method_name`. -/
def methodName (method : UInt32) : String :=
  if method = 3 then "Allocate"
  else if method = 4 then "Refresh"
  else if method = 8 then "CreatePermission"
  else if method = 9 then "ChannelBind"
  else "request"

/-- `stun_suffix`. -/
def stunSuffix (stunCode : Int) : String :=
  if stunCode = 0 then "" else "; STUN error " ++ toString stunCode

/-- `is_retryable_maintenance` — requests that the client repeats by itself. -/
def isRetryableMaintenance (method : UInt32) : Bool := method == 8 || method == 9 || method == 4

/-- `Completion` — how requests of one kind were completed. -/
structure Completion where
  /-- How many were. -/
  sequence : UInt64 := 0
  /-- Status of the last one. -/
  status : Int := 0
  /-- Error code of the last one. -/
  stunCode : Int := 0
  deriving DecidableEq

/-- `CoreSnapshot` — what is known of the client. -/
structure CoreSnapshot where
  /-- Its state. -/
  state : TurnState := .null
  /-- Relayed address of the allocation. -/
  relay : Option SocketAddr := none
  /-- The bound channel. -/
  channel : Option UInt16 := none
  /-- Allocate requests. -/
  allocate : Completion := {}
  /-- Refresh requests. -/
  refresh : Completion := {}
  /-- CreatePermission requests. -/
  permission : Completion := {}
  /-- ChannelBind requests. -/
  channelBind : Completion := {}
  /-- Why the driver gave up. -/
  terminal : Option String := none
  deriving DecidableEq

/-- `completion_mut` — change the completions of a method. -/
def CoreSnapshot.completionMut (snapshot : CoreSnapshot) (method : UInt32)
    (change : Completion → Completion) : CoreSnapshot :=
  if method = 3 then { snapshot with allocate := change snapshot.allocate }
  else if method = 4 then { snapshot with refresh := change snapshot.refresh }
  else if method = 8 then { snapshot with permission := change snapshot.permission }
  else if method = 9 then { snapshot with channelBind := change snapshot.channelBind }
  else snapshot

/-- `DriverShared` — what the driver shares with the tasks that use the allocation. -/
structure DriverShared where
  /-- What is known of the client. -/
  snapshot : CoreSnapshot := {}
  /-- Whether the driver is to end. -/
  closing : Bool := false
  /-- Whether the driver gave up. -/
  terminalPresent : Bool := false
  /-- Whether a control packet was sent. -/
  controlSent : Bool := false
  /-- The channel that data is sent on, or 0. -/
  channel : UInt16 := 0
  deriving DecidableEq

/-- `fail` — give up; the first reason stays. -/
def DriverShared.fail (shared : DriverShared) (reason : String) : DriverShared :=
  if shared.closing then shared
  else if shared.snapshot.terminal.isNone then
    { shared with
      snapshot := { shared.snapshot with terminal := some reason }
      terminalPresent := true }
  else shared

/-- `terminal`. -/
def DriverShared.terminal (shared : DriverShared) : Option String :=
  if shared.terminalPresent then shared.snapshot.terminal else none

/-- `DriverCommon` — the client and what the driver keeps. -/
structure DriverCommon where
  /-- The client. -/
  core : Inner
  /-- What the driver keeps. -/
  shared : DriverShared
  /-- The TURN server. -/
  server : SocketAddr
  /-- The peer behind the relay. -/
  peer : SocketAddr
  deriving DecidableEq

/-- What the loop over the events changes. -/
structure Drain where
  /-- The state of the driver. -/
  shared : DriverShared
  /-- The client was lost. -/
  unexpectedDestroy : Bool := false
  /-- The channel was given up. -/
  channelRebindExhausted : Bool := false
  deriving DecidableEq

/-- The arm of `EVENT_STATE`. -/
def Drain.stateEvent (drain : Drain) (event : NativeEvent) : Drain :=
  let shared := drain.shared
  let snapshot := shared.snapshot
  let gone := event.state = .deallocated ∨ event.state = .destroying
  { drain with
    shared :=
      { shared with
        channel := if event.state ≠ .ready then 0 else shared.channel
        snapshot :=
          { snapshot with
            state := event.state
            channel := if event.state ≠ .ready then none else snapshot.channel
            relay := if gone then none else snapshot.relay } }
    unexpectedDestroy := drain.unexpectedDestroy || event.state == .destroying && !shared.closing }

/-- The arm of `EVENT_REQUEST_COMPLETE`. -/
def Drain.requestComplete (drain : Drain) (event : NativeEvent) : Drain :=
  let shared := drain.shared
  let shared :=
    { shared with
      snapshot := shared.snapshot.completionMut event.method (fun completion =>
        { sequence := completion.sequence + 1
          status := event.status
          stunCode := event.stunCode }) }
  { drain with
    shared :=
      if (event.status ≠ 0 ∨ event.stunCode ≠ 0) ∧ shared.closing = false ∧
          isRetryableMaintenance event.method = false then
        shared.fail ("TURN " ++ methodName event.method ++ " failed: " ++
          nativeStatusText event.status ++ stunSuffix event.stunCode)
      else shared }

/-- The arm of `EVENT_CHANNEL_BOUND`. -/
def Drain.channelBound (drain : Drain) (peer : SocketAddr) (event : NativeEvent) :
    Except Failure Drain := do
  let eventPeer ← event.address.toSocketAddr
  let shared := drain.shared
  return { drain with
    shared :=
      if eventPeer ≠ peer then
        shared.fail ("TURN ChannelBind confirmed unexpected peer " ++ eventPeer.text)
      else if ¬(0x4000 ≤ event.channel ∧ event.channel ≤ 0x7fff) then
        shared.fail ("TURN core returned invalid channel " ++ toString event.channel.toNat)
      else
        { shared with
          channel := event.channel
          snapshot := { shared.snapshot with channel := some event.channel } } }

/-- The arm of `EVENT_RELAY_ADDRESS`. -/
def Drain.relayAddress (drain : Drain) (core : Inner) (event : NativeEvent) :
    Except Failure Drain := do
  let relay ← event.address.toSocketAddr
  let queried ← core.relayAddress
  if queried ≠ relay then throw (.bail "TURN core relay address event/getter mismatch")
  let shared := drain.shared
  return { drain with
    shared := { shared with snapshot := { shared.snapshot with relay := some relay } } }

/-- The driver gives up because of an event. -/
def Drain.fail (drain : Drain) (reason : String) : Drain :=
  { drain with shared := drain.shared.fail reason }

/-- One event. -/
def Drain.take (drain : Drain) (core : Inner) (peer : SocketAddr) (event : NativeEvent) :
    Except Failure Drain :=
  match event.kind with
  | .state => .ok (drain.stateEvent event)
  | .requestComplete => .ok (drain.requestComplete event)
  | .stunResponseError => .ok drain
  | .channelBound => drain.channelBound peer event
  | .relayAddress => drain.relayAddress core event
  | .controlOverflow =>
    .ok (drain.fail ("TURN control output ring overflow dropped " ++
      toString event.dropped.toNat ++ " datagrams"))
  | .forcedDestroy =>
    .ok (if drain.shared.closing then drain else drain.fail "TURN core was force-destroyed")
  | .channelRebindExhausted => .ok { drain with channelRebindExhausted := true }
  | .eventOverflow =>
    .ok (drain.fail ("TURN event ring overflow dropped " ++ toString event.dropped.toNat ++
      " events"))

/-- The loop over the events: as many turns as there are events. An event that fails has been
taken. -/
def drainEvents (peer : SocketAddr) : (turns : Nat) → Inner → Drain →
    Except Failure Unit × Inner × Drain
  | 0, core, drain => (.ok (), core, drain)
  | turns + 1, core, drain =>
    let (pulled, core) := core.pullEvent
    match pulled with
    | none => (.ok (), core, drain)
    | some event =>
      match drain.take core peer event with
      | .error failure => (.error failure, core, drain)
      | .ok drain => drainEvents peer turns core drain

/-- What follows the loop over the events. -/
def Drain.conclude (drain : Drain) : DriverShared :=
  if drain.unexpectedDestroy && drain.shared.terminal.isNone then
    if drain.channelRebindExhausted then drain.shared.fail "TURN channel rebind retry exhausted"
    else drain.shared.fail "TURN allocation entered DESTROYING unexpectedly"
  else drain.shared

/-- The loop over the control packets: as many turns as there are packets. The outcomes of sending
are given. -/
def sendControls (server : SocketAddr) : (turns : Nat) → List (Except Failure Unit) → Inner →
    DriverShared → Except Failure Unit × Inner × DriverShared
  | 0, _, core, shared => (.ok (), core, shared)
  | turns + 1, outcomes, core, shared =>
    let (pulled, core) := core.pullControl
    match pulled with
    | .error failure => (.error failure, core, shared)
    | .ok none => (.ok (), core, shared)
    | .ok (some control) =>
      if control.destination ≠ server then
        (.error (.bail ("TURN core attempted control send to unexpected destination " ++
          control.destination.text)), core, shared)
      else
        match outcomes.headD (.ok ()) with
        | .error failure => (.error failure, core, shared)
        | .ok () =>
          sendControls server turns outcomes.tail core { shared with controlSent := true }

/-- `pump_native` — the answer is how long to wait for the next one. -/
def DriverCommon.pumpNative (digests : Digests) (driver : DriverCommon) (readings : Readings)
    (outcomes : List (Except Failure Unit)) : Except Failure (Option Nat) × DriverCommon :=
  match driver.core.poll digests readings with
  | (.error failure, core) => (.error failure, { driver with core })
  | (.ok nextTimer, core) =>
    match sendControls driver.server core.controls.length outcomes core driver.shared with
    | (.error failure, core, shared) => (.error failure, { driver with core, shared })
    | (.ok (), core, shared) =>
      match drainEvents driver.peer core.events.length core { shared } with
      | (.error failure, core, drain) =>
        (.error failure, { driver with core, shared := drain.shared })
      | (.ok (), core, drain) => (.ok nextTimer, { driver with core, shared := drain.conclude })

/-- The calls of the client that the driver leaves to its own loops. -/
def Call.pulls : Call → Bool
  | .pullControl => true
  | .pullEvent => true
  | _ => false

/-- Something that happens to the driver. -/
inductive DriverCall where
  /-- A call of the client outside of `pump_native`. -/
  | operate (call : Call) (outside : call.pulls = false)
  /-- A call of `pump_native`. -/
  | pump (readings : Readings) (outcomes : List (Except Failure Unit))

/-- One such step, with the answer of `pump_native`. -/
def DriverCommon.advance (digests : Digests) (driver : DriverCommon) (step : DriverCall) :
    DriverCommon × Option (Except Failure (Option Nat)) :=
  match step with
  | .operate call _ => ({ driver with core := (driver.core.call digests call).1 }, none)
  | .pump readings outcomes =>
    let (answer, driver) := driver.pumpNative digests readings outcomes
    (driver, some answer)

/-- The driver of a new client. -/
def DriverCommon.start (core : Inner) (server peer : SocketAddr) : DriverCommon where
  core := core
  shared := {}
  server := server
  peer := peer

end Turn

end Focsq
