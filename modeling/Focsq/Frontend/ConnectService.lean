import Focsq.Lib.Json

/-!
# The service of the connection

The state of `ConnectService` of `connect.dart`, and what it does with a line of the core.
-/

namespace Focsq.ConnectService

/-- `ConnectState`. -/
inductive ConnectState where
  /-- There is no connection. -/
  | disconnected
  /-- One is made. -/
  | connecting
  /-- There is one. -/
  | connected
  /-- It is ended. -/
  | disconnecting
  deriving DecidableEq

/-- `ConnectStats`. -/
structure ConnectStats where
  /-- `activeWorkers`. -/
  activeWorkers : Int
  /-- `bytesUp`. -/
  bytesUp : Int
  /-- `bytesDown`. -/
  bytesDown : Int
  deriving DecidableEq

/-- `ConnectStats` without arguments. -/
def ConnectStats.zero : ConnectStats := ⟨0, 0, 0⟩

/-- What the service knows, and what it has handed over to the others. -/
structure Service where
  /-- `_state`. -/
  state : ConnectState
  /-- `_stats`. -/
  stats : ConnectStats
  /-- `_lastError`. -/
  lastError : Option Text
  /-- `_tunReady`. -/
  tunReady : Bool
  /-- `_connectWatchdog` — whether the timer runs. -/
  watchdog : Bool
  /-- `_coreRun` — the run of the core, by its number. -/
  coreRun : Option Nat
  /-- `_clientRunning`. -/
  clientRunning : Bool
  /-- What was added to the log since it was cleared. -/
  log : List Text
  /-- What was handed to the captcha service, with whether the client was running. -/
  captcha : List (Text × Bool)
  deriving DecidableEq

/-- The service at first. -/
def Service.new : Service := ⟨.disconnected, .zero, none, false, false, none, false, [], []⟩

/-- `_log`. -/
def Service.add (service : Service) (line : Text) : Service :=
  { service with log := service.log ++ [line] }

/-- The line about a state that `_setState` adds to the log. -/
def stateLine (value : ConnectState) (stats : ConnectStats) : Text :=
  match value with
  | .connecting => "[СТАТУС] Подключение...".toList
  | .connected => "[СТАТУС] Подключено · потоков ".toList ++ Json.writeInt stats.activeWorkers
  | .disconnecting => "[СТАТУС] Отключение...".toList
  | .disconnected => "[СТАТУС] Отключено".toList

/-- Whether `_setState` cancels the timer. -/
def ConnectState.settled : ConnectState → Bool
  | .connected | .disconnected => true
  | .connecting | .disconnecting => false

/-- `_setState`. -/
def Service.setState (service : Service) (value : ConnectState) : Service :=
  if service.state = value then service
  else
    { service with state := value, watchdog := service.watchdog && !value.settled }.add
      (stateLine value service.stats)

/-- `_restartConnectWatchdog`. -/
def Service.restartConnectWatchdog (service : Service) : Service :=
  if service.state = .connecting then { service with watchdog := true } else service

section Lines

variable {δ : Type} (doubles : Json.Doubles δ)

/-- Whether the value is `true`. -/
def isTrue : Option (Json δ) → Bool
  | some (.bool value) => value
  | _ => false

/-- A line with an event, as it was taken apart. -/
structure Received (δ : Type) where
  /-- `type`. -/
  type : Text
  /-- `payloadRaw`. -/
  payloadRaw : Text
  /-- `payload`. -/
  payload : List (Text × Json δ)

/-- The payload of an event. What is no JSON object counts as an empty one. -/
def decodePayload (payloadRaw : Text) : List (Text × Json δ) :=
  if payloadRaw.startsWith ['{'] then
    match Json.decode doubles payloadRaw with
    | some (.object members) => members
    | _ => []
  else []

/-- `_eventPrefix`. -/
def eventPrefix : Text := "__CSQTT_EVENT__|".toList

/-- The part of `onCoreLine` that takes a line apart, if there is an event in it. -/
def receive (line : Text) : Option (Received δ) :=
  if line.startsWith eventPrefix then
    let withoutPrefix := line.drop eventPrefix.length
    match Text.indexOf ['|'] withoutPrefix with
    | none => none
    | some typeEnd =>
      some
        { type := withoutPrefix.take typeEnd
          payloadRaw := withoutPrefix.drop (typeEnd + 1)
          payload := decodePayload doubles (withoutPrefix.drop (typeEnd + 1)) }
  else none

/-- The case `STATS`. -/
def Service.onStats (service : Service) (payload : List (Text × Json δ)) : Except Unit Service := do
  let active := (← Json.asInt doubles (payload.lookup "active".toList)).getD 0
  let bytesUp := (← Json.asInt doubles (payload.lookup "bytes_up".toList)).getD 0
  let bytesDown := (← Json.asInt doubles (payload.lookup "bytes_down".toList)).getD 0
  let counted := { service with stats := ⟨active, bytesUp, bytesDown⟩ }
  let watched :=
    if 0 < active ∧ counted.state = .connecting then counted.restartConnectWatchdog else counted
  return if 0 < active ∧ watched.clientRunning = true ∧ watched.tunReady = true ∧
      watched.state ≠ .disconnecting then watched.setState .connected
    else watched

/-- The case `ERROR`. -/
def Service.onError (service : Service) (payload : List (Text × Json δ)) : Except Unit Service := do
  let code := (← Json.asInt doubles (payload.lookup "code".toList)).getD 0
  let message := (Json.asText doubles (payload.lookup "message".toList)).getD []
  let fatal := isTrue (payload.lookup "fatal".toList)
  let logged := service.add ("[ЯДРО] ".toList ++
    (if fatal then "ФАТАЛЬНО".toList else "Ошибка".toList) ++ " (".toList ++ Json.writeInt code ++
      ") ".toList ++ message)
  return if fatal then
      { logged with
        lastError := some (if message.isEmpty then "Ошибка ядра".toList else message)
        clientRunning := false }.setState .disconnected
    else logged

/-- The case `STOPPED`. -/
def Service.onStopped (service : Service) : Service :=
  { service with clientRunning := false, stats := .zero }.setState .disconnected

/-- The configuration that an event contains, if any. -/
def configOf (received : Received δ) : Text :=
  match Json.asText doubles (received.payload.lookup "config".toList) with
  | some config => config
  | none =>
    if received.payloadRaw.startsWith "TUNCONF:".toList then received.payloadRaw else []

/-- The case `CONFIG`. -/
def Service.onConfig (service : Service) (received : Received δ) : Service :=
  let watched := service.restartConnectWatchdog
  let configStr := configOf doubles received
  if configStr.startsWith "TUNCONF:".toList then
    let conf : Text := (configStr.replaceFirst "TUNCONF:".toList []).trim
    let parts := conf.splitOn ':'
    let ready : Service := { watched.add ("[TUN] Конфиг сети получен: ".toList ++ (parts[0]?).getD [] ++
      " (DNS: ".toList ++ (parts[1]?).getD [] ++ ")".toList) with tunReady := true }
    if ready.clientRunning = true ∧ 0 < ready.stats.activeWorkers ∧
        ready.state ≠ .disconnecting then
      ready.setState .connected
    else ready
  else watched

/-- What `onCoreLine` does with an event. -/
def Service.onEvent (service : Service) (received : Received δ) : Except Unit Service :=
  if received.type = "STATS".toList then service.onStats doubles received.payload
  else if received.type = "ACTIVE_ZERO".toList then .ok { service with stats := .zero }
  else if received.type = "ERROR".toList then service.onError doubles received.payload
  else if received.type = "STOPPED".toList then .ok service.onStopped
  else if received.type = "CONFIG".toList then .ok (service.onConfig doubles received)
  else if received.type = "SERVER_RESTART".toList then
    .ok (service.add "[ЯДРО] Сервер перезапущен панелью".toList)
  else if received.type = "READY".toList ∨ received.type = "STARTED".toList then
    .ok service.restartConnectWatchdog
  else if received.type = "CAPTCHA_REQUEST".toList then .ok { service with watchdog := false }
  else if received.type = "CAPTCHA_DONE".toList then .ok service.restartConnectWatchdog
  else .ok service

/-- `onCoreLine` — the service after it, and whether it has thrown. -/
def Service.onCoreLine (service : Service) (line : Text) : Service × Bool :=
  let logged := service.add line
  if line.startsWith "CAPTCHA_SOLVE|".toList then
    ({ logged with captcha := logged.captcha ++ [(line, logged.clientRunning)] }, false)
  else
    match receive doubles line with
    | none => (logged, false)
    | some received =>
      match logged.onEvent doubles received with
      | .ok after => (after, false)
      | .error () => (logged, true)

end Lines

end Focsq.ConnectService
