import Focsq.Backend.CaptchaSolver

/-!
# Windows for captchas

`CaptchaService` of `captcha.dart` together with the solver of the core. What lies between two awaits
of the service is one action, and so is one step of the solver. Results are handed over by calls that
run in the core at some later time, and the service goes on even later.
-/

namespace Focsq.Captcha

/-- Where a call of `_solve` is, or the result of a rejection. -/
inductive Progress where
  /-- The window is being created. -/
  | creating
  /-- It is open. -/
  | opened
  /-- `submitCaptchaResult` was called, and has not run in the core yet. -/
  | submitting (result reason : Text)
  /-- It has run, and the service is to go on. -/
  | submitted (delivered : Bool) (reason : Text)
  /-- `done` is complete, and `whenComplete` is to be called. -/
  | completing
  /-- It is over. -/
  | ended
  deriving DecidableEq

/-- A call of `_solve`, or a rejection. -/
structure Job where
  /-- The number of the request. -/
  request : Nat
  /-- Whether there is a window. -/
  source : Source
  /-- `mode`. -/
  mode : Text
  /-- Where it is. -/
  progress : Progress
  deriving DecidableEq

/-- `CaptchaService`. -/
structure CaptchaService where
  /-- `_busy`. -/
  busy : Bool
  /-- `_activeFinish` — the job whose `finish` it is. -/
  activeFinish : Option Nat
  /-- The calls of `_solve` and the rejections so far. -/
  jobs : List Job
  /-- What was logged. -/
  log : List Text
  deriving DecidableEq

/-- The service at first. -/
def CaptchaService.new : CaptchaService := ⟨false, none, [], []⟩

/-- `log`. -/
def CaptchaService.add (service : CaptchaService) (message : Text) : CaptchaService :=
  { service with log := service.log ++ [message] }

/-- `_timeoutFor`, in seconds. -/
def timeoutFor (mode : Text) : Nat :=
  if mode = "selected".toList then 120 else if mode = "manual".toList then 60 else 40

/-- Seconds in a message. -/
def seconds (mode : Text) : Text := Nat.toDigits 10 (timeoutFor mode)

/-- The parts of a line. -/
def Line.parts (line : Line) : List Text := line.text.splitOn '|'

/-- Whether `handleSolveRequest` accepts the line. -/
def Line.complete (line : Line) : Bool := decide (4 ≤ line.parts.length)

/-- `handleSolveRequest`, and `_solve` up to its first await. -/
def CaptchaService.handleSolveRequest (service : CaptchaService) (line : Line)
    (clientRunning : Bool) : CaptchaService :=
  if line.complete = false then
    service.add ("[КАПЧА] Некорректный запрос от ядра: ".toList ++ line.text)
  else if clientRunning = false then
    service.add "[КАПЧА] Клиент остановлен — окно не открываю".toList
  else if service.busy then
    let told := service.add "[КАПЧА] Окно уже открыто, параллельный запрос отклонён".toList
    { told with
      jobs := told.jobs ++
        [⟨line.request, .rejection, [], .submitting "error:busy".toList []⟩] }
  else
    let mode := (line.parts[1]?).getD []
    let told := service.add ("[КАПЧА] WebView(".toList ++ mode ++
      "): открываю окно решения (".toList ++ seconds mode ++ "s)...".toList)
    { told with busy := true, jobs := told.jobs ++ [⟨line.request, .window, mode, .creating⟩] }

/-- Why a window is finished. -/
inductive Cause where
  /-- The user closes it. -/
  | closed
  /-- A token is captured. -/
  | captured (token : Text)
  /-- Its time is over. -/
  | timedOut
  deriving DecidableEq

/-- The result. -/
def Cause.result : Cause → Text
  | .closed => "error:closed".toList
  | .captured token => token
  | .timedOut => "error:timeout".toList

/-- The reason that is logged. -/
def Cause.reason (mode : Text) : Cause → Text
  | .closed => "окно закрыто пользователем".toList
  | .captured _ => "success_token перехвачен".toList
  | .timedOut => "таймаут ".toList ++ seconds mode ++ "s".toList

/-- A job is put where it is next. -/
def CaptchaService.moved (service : CaptchaService) (index : Nat) (job : Job)
    (progress : Progress) : CaptchaService :=
  { service with jobs := service.jobs.set index { job with progress := progress } }

/-- The window is created, or that throws. -/
def CaptchaService.created (service : CaptchaService) (index : Nat) (error : Option Text) :
    CaptchaService :=
  match service.jobs[index]? with
  | some job =>
    if job.progress = .creating then
      match error with
      | none => service.moved index job .opened
      | some error =>
        (service.add ("[КАПЧА] Не удалось открыть WebView: ".toList ++ error)).moved index job
          (.submitting "error:webview".toList "ошибка WebView".toList)
    else service
  | none => service

/-- `finish`, up to its await. It does nothing when it was called before. -/
def CaptchaService.finish (service : CaptchaService) (index : Nat) (result reason : Text) :
    CaptchaService :=
  match service.jobs[index]? with
  | some job =>
    if job.progress = .opened then service.moved index job (.submitting result reason) else service
  | none => service

/-- The window is finished by itself. -/
def CaptchaService.finished (service : CaptchaService) (index : Nat) (cause : Cause) :
    CaptchaService :=
  match service.jobs[index]? with
  | some job => service.finish index cause.result (cause.reason job.mode)
  | none => service

/-- `finish` after its await. -/
def CaptchaService.goOn (service : CaptchaService) (index : Nat) : CaptchaService :=
  match service.jobs[index]? with
  | some job =>
    match job.progress with
    | .submitted delivered reason =>
      let message :=
        if delivered then "[КАПЧА] Результат передан в ядро (".toList ++ reason ++ ")".toList
        else "[КАПЧА] Ядро не приняло результат (".toList ++ reason ++
          ") — устарел или клиент остановлен".toList
      (service.add message).moved index job .completing
    | _ => service
  | none => service

/-- `whenComplete`. -/
def CaptchaService.release (service : CaptchaService) (index : Nat) : CaptchaService :=
  match service.jobs[index]? with
  | some job =>
    if job.progress = .completing then
      { service.moved index job .ended with busy := false, activeFinish := none }
    else service
  | none => service

/-- `abort`. -/
def CaptchaService.abort (service : CaptchaService) (reason : Text) : CaptchaService :=
  match service.activeFinish with
  | some index => service.finish index "error:stopped".toList reason
  | none => service

/-- The core and the service. -/
structure System where
  /-- The solver of the session. -/
  solver : CaptchaSolver
  /-- `ACTIVE_CAPTCHA` — whether it is the solver of the session. -/
  active : Bool
  /-- Lines on their way to the service, in their order. -/
  lines : List Line
  /-- The service. -/
  service : CaptchaService
  deriving DecidableEq

/-- The session has begun. -/
def System.new : System := ⟨.new, true, [], .new⟩

/-- `submit_captcha_result`. -/
def System.submitCaptchaResult (system : System) (answer : Answer) : CaptchaSolver × Bool :=
  if system.active then system.solver.submitResult answer else (system.solver, false)

/-- Where a job is after its result was handed over. Nobody waits for the end of a rejection. -/
def Job.handed (job : Job) (delivered : Bool) (reason : Text) : Progress :=
  match job.source with
  | .window => .submitted delivered reason
  | .rejection => .ended

/-- A call of `submit_captcha_result` runs in the core. -/
def System.submit (system : System) (index : Nat) : System :=
  match system.service.jobs[index]? with
  | some job =>
    match job.progress with
    | .submitting result reason =>
      let handed := system.submitCaptchaResult ⟨result, job.request, job.source⟩
      { system with
        solver := handed.1, service := system.service.moved index job (job.handed handed.2 reason) }
    | _ => system
  | none => system

/-- What happens. -/
inductive Action where
  /-- `webview` is called. -/
  | webview (mode : Text) (captcha : VkCaptchaError)
  /-- It takes an old result, or there is none. -/
  | drain
  /-- It prints the line. -/
  | print
  /-- It gets a result. -/
  | receive
  /-- It does not wait any longer. -/
  | giveUp
  /-- `clear_active_captcha`. -/
  | clear
  /-- The next line arrives. -/
  | handle (clientRunning : Bool)
  /-- A window is created, or that throws. -/
  | created (job : Nat) (error : Option Text)
  /-- A window is finished. -/
  | finished (job : Nat) (cause : Cause)
  /-- `submit_captcha_result` runs in the core. -/
  | submit (job : Nat)
  /-- `finish` goes on. -/
  | goOn (job : Nat)
  /-- `whenComplete` is called. -/
  | release (job : Nat)
  /-- `abort`. -/
  | abort (reason : Text)
  deriving DecidableEq

/-- A result is taken for a request, and `webview` returns. -/
structure Answered where
  /-- The number of the request. -/
  request : Nat
  /-- The result. -/
  answer : Answer
  /-- What `webview` returns. -/
  outcome : Except Text Text

/-- One action. -/
def System.step (system : System) : Action → System × Option Answered
  | .webview mode captcha => ({ system with solver := system.solver.webview mode captcha }, none)
  | .drain => ({ system with solver := system.solver.drain }, none)
  | .print =>
    ({ system with solver := system.solver.print.1, lines := system.lines ++ system.solver.print.2 },
      none)
  | .receive =>
    ({ system with solver := system.solver.receive.1 },
      system.solver.receive.2.map fun taken => ⟨taken.1, taken.2, conclude taken.2.result⟩)
  | .giveUp => ({ system with solver := system.solver.giveUp }, none)
  | .clear => ({ system with active := false }, none)
  | .handle clientRunning =>
    match system.lines with
    | [] => (system, none)
    | line :: rest =>
      ({ system with
        lines := rest, service := system.service.handleSolveRequest line clientRunning }, none)
  | .created job error => ({ system with service := system.service.created job error }, none)
  | .finished job cause => ({ system with service := system.service.finished job cause }, none)
  | .submit job => (system.submit job, none)
  | .goOn job => ({ system with service := system.service.goOn job }, none)
  | .release job => ({ system with service := system.service.release job }, none)
  | .abort reason => ({ system with service := system.service.abort reason }, none)

end Focsq.Captcha
