import Focsq.Frontend.ConnectService
import Focsq.Lib.Tasks

/-!
# What the service does at the same time

The functions of `ConnectService` wait for others, and while one waits, any other one goes on. What
lies between two awaits is one step. The steps are those of calls from the user interface, of the
watchdog, of lines of the core, and of the runs of the core, from their launch to the end of
`_onCoreExited`.

`_startInternal` waits many times before it launches the core. What it does in the meantime does not
concern the state of the service, except that it may set the state when the rights are missing.
-/

namespace Focsq.ConnectService

/-- What the tasks share. -/
structure World where
  /-- The service. -/
  service : Service
  /-- The number of runs that were launched. -/
  launched : Nat
  deriving DecidableEq

/-- Nothing was launched. -/
def World.new : World := ⟨.new, 0⟩

/-- What happens from outside. -/
inductive Call where
  /-- `start`. -/
  | start
  /-- `stop`. -/
  | stop
  /-- `toggle`. -/
  | toggle
  /-- The time of the watchdog. -/
  | timeout
  /-- A line of the core. -/
  | line (line : Text)
  deriving DecidableEq

/-- How `_startInternal` ends without a launch. -/
inductive Failure where
  /-- It returns an issue. -/
  | issue (text : Text)
  /-- It throws. -/
  | thrown (error : Text)
  deriving DecidableEq

/-- Where a task is. -/
inductive Place where
  /-- The call is to be made. -/
  | entering (call : Call)
  /-- A start waits in `_startInternal`. -/
  | preparing (toggled : Bool)
  /-- `_startInternal` has failed, and the start is to go on. -/
  | failing (toggled : Bool) (failure : Failure)
  /-- `toggle` is to log an error. -/
  | reporting (error : Text)
  /-- The future of a run of the core is live. -/
  | running
  /-- It is complete, and `_onCoreExited` is to be called. -/
  | exited (error : Option Text)
  /-- `_onCoreExited` waits until the calls are finished. -/
  | finishing
  /-- A stop waits for `stopCsqttClient`. -/
  | stopping (toggled : Bool)
  /-- The watchdog waits for `stopCsqttClient`. -/
  | cancelling
  /-- The watchdog waits for the exit of the core, or for the end of its time. -/
  | waiting
  /-- The task has returned. -/
  | returned
  deriving DecidableEq

/-- What a task learns from outside. -/
inductive Outside where
  /-- It goes on. -/
  | going
  /-- Something returns an issue, or throws. -/
  | failed (failure : Failure)
  /-- The rights for the tunnel are missing. -/
  | withoutRights (issue : Text)
  /-- The core is launched. -/
  | launching
  /-- The launch throws. -/
  | launchThrows (error : Text)
  deriving DecidableEq

section Steps

/-- The synchronous part of `start`, if it goes on. -/
def Service.enterStart (service : Service) : Service :=
  ({ service with log := [], lastError := none, tunReady := false }.setState
    .connecting).restartConnectWatchdog

/-- A start enters. -/
def World.enterStart (world : World) (toggled : Bool) : World × Place :=
  if world.service.state = .disconnected then
    ({ world with service := world.service.enterStart }, .preparing toggled)
  else (world, .returned)

/-- A stop enters. -/
def World.enterStop (world : World) (toggled : Bool) : World × Place :=
  if world.service.coreRun = none then (world, .returned)
  else ({ world with service := world.service.setState .disconnecting }, .stopping toggled)

/-- `_connectWatchdogTimeout`, in seconds. -/
def connectWatchdogTimeout : Nat := 60

/-- The error after the time of the watchdog. -/
def timeoutError : Text :=
  "Не удалось подключиться за ".toList ++ Nat.toDigits 10 connectWatchdogTimeout ++
    " с — проверьте интернет или отключите другой VPN".toList

/-- `_onConnectTimeout` up to its first await, which is in `stop` or after it. -/
def World.enterTimeout (world : World) : World × Place :=
  if world.service.watchdog = false then (world, .returned)
  else
    let fired := { world.service with watchdog := false }
    if fired.state ≠ .connecting then ({ world with service := fired }, .returned)
    else
      let told := { fired with lastError := some timeoutError }.add
        ("[КОННЕКТ] ".toList ++ timeoutError)
      if told.coreRun = none then ({ world with service := told }, .waiting)
      else ({ world with service := told.setState .disconnecting }, .cancelling)

/-- The end of `_onConnectTimeout`. -/
def Service.reset (service : Service) : Service :=
  if service.state = .disconnected then service
  else
    { service.add "[КОННЕКТ] Ядро не ответило на отмену — состояние сброшено".toList with
      coreRun := none, clientRunning := false }.setState .disconnected

/-- `_onCoreExited` up to its await, for a run that is known. -/
def Service.coreExited (service : Service) (error : Option Text) : Service :=
  let stopped := { service with
    coreRun := none, clientRunning := false, tunReady := false, stats := .zero }
  match error with
  | some error =>
    { stopped with lastError := some error }.add ("[ЯДРО] ".toList ++ error)
  | none => stopped.add "[ЯДРО] Ядро остановлено".toList

/-- The error that a start returns, with the end of its `catch`. -/
def Service.failStart (service : Service) : Failure → Service × Text
  | .issue text => (service.setState .disconnected, text)
  | .thrown error =>
    let message := "Ошибка запуска: ".toList ++ error
    ((service.setState .disconnected).add ("[КОННЕКТ] ".toList ++ message), message)

/-- The core is launched. -/
def World.launch (world : World) : World :=
  { service := { world.service with clientRunning := true, coreRun := some world.launched }
    launched := world.launched + 1 }

variable {δ : Type} (doubles : Json.Doubles δ)

/-- A call is made. -/
def World.enter (world : World) : Call → World × Place
  | .start => world.enterStart false
  | .stop => world.enterStop false
  | .toggle =>
    if world.service.state = .disconnected then world.enterStart true else world.enterStop true
  | .timeout => world.enterTimeout
  | .line line =>
    ({ world with service := (world.service.onCoreLine doubles line).1 }, .returned)

/-- `toggle` logs an error, others return it. -/
def report (toggled : Bool) (error : Text) : Place := if toggled then .reporting error else .returned

/-- The next step of a task. What does not concern it leaves it where it is. -/
def Place.next (world : World) (place : Place) (input : Outside) : World × Place × Option Empty :=
  match place, input with
  | .entering call, _ => ((world.enter doubles call).1, (world.enter doubles call).2, none)
  | .preparing toggled, .failed failure => (world, .failing toggled failure, none)
  | .preparing toggled, .withoutRights issue =>
    ({ world with service := world.service.setState .disconnected },
      .failing toggled (.issue issue), none)
  | .preparing _, .launching => (world.launch, .running, none)
  | .preparing toggled, .launchThrows error =>
    ({ world with service := { world.service with clientRunning := true } },
      .failing toggled (.thrown error), none)
  | .failing toggled failure, _ =>
    ({ world with service := (world.service.failStart failure).1 },
      report toggled (world.service.failStart failure).2, none)
  | .reporting error, _ =>
    ({ world with service := world.service.add ("[КОННЕКТ] ".toList ++ error) }, .returned, none)
  | .running, .going => (world, .exited none, none)
  | .running, .failed (.thrown error) => (world, .exited (some error), none)
  | .exited error, _ =>
    if world.service.coreRun = none then (world, .returned, none)
    else ({ world with service := world.service.coreExited error }, .finishing, none)
  | .finishing, _ =>
    ({ world with service := world.service.setState .disconnected }, .returned, none)
  | .stopping _, .going => (world, .returned, none)
  | .stopping toggled, .failed (.thrown error) =>
    ({ world with service := { world.service with lastError := some error } },
      report toggled error, none)
  | .cancelling, .going => (world, .waiting, none)
  | .cancelling, .failed (.thrown error) =>
    ({ world with service := { world.service with lastError := some error } }, .waiting, none)
  | .waiting, _ => ({ world with service := world.service.reset }, .returned, none)
  | place, _ => (world, place, none)

/-- The tasks. -/
abbrev ConnectPool : Type := Tasks.Pool World Place

/-- Nothing was called. -/
def ConnectPool.new : ConnectPool := ⟨.new, []⟩

/-- One action. -/
abbrev ConnectPool.step : ConnectPool → Tasks.Action Call Outside → ConnectPool × Option Empty :=
  Tasks.Pool.step Place.entering (Place.next doubles)

end Steps

end Focsq.ConnectService
