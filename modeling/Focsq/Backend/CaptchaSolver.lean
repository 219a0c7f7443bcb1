import Focsq.Backend.Events

/-!
# The solver of captchas in the core

`webview` of `CaptchaSolver` in `captcha.rs`, step by step. A call locks the receiver, takes what is
left in the channel, asks the user interface for a window, and waits for a result. The channel has
room for one result. Requests are numbered here, and a result carries the number of the request that
it was made for: the code has no such numbers.
-/

namespace Focsq.Captcha

/-- What `webview` uses of a `VkCaptchaError`. -/
structure VkCaptchaError where
  /-- `redirect_uri`. -/
  redirectUri : Text
  /-- `session_token`. -/
  sessionToken : Text
  deriving DecidableEq

/-- Where a result comes from. -/
inductive Source where
  /-- From the window that was opened for a request. -/
  | window
  /-- From the rejection of a request. -/
  | rejection
  deriving DecidableEq

/-- A result, with what it was made for. -/
structure Answer where
  /-- The text that is handed over. -/
  result : Text
  /-- The number of the request. -/
  request : Nat
  /-- Where it comes from. -/
  source : Source
  deriving DecidableEq

/-- A line that asks for a window. -/
structure Line where
  /-- The line, as it is delivered. -/
  text : Text
  /-- The number of the request. -/
  request : Nat
  deriving DecidableEq

/-- Where the call of `webview` is that holds the receiver. -/
inductive Receiver where
  /-- The receiver is not locked. -/
  | free
  /-- Old results are taken from the channel. -/
  | draining (mode : Text) (captcha : VkCaptchaError)
  /-- The line is to be printed. -/
  | printing (mode : Text) (captcha : VkCaptchaError)
  /-- The call waits for a result. -/
  | waiting (request : Nat)
  deriving DecidableEq

/-- `CaptchaSolver`. -/
structure CaptchaSolver where
  /-- `result_tx` and `result_rx` — the result in the channel. -/
  channel : Option Answer
  /-- The lock of `result_rx`. -/
  receiver : Receiver
  /-- The number of requests so far. -/
  issued : Nat
  deriving DecidableEq

/-- `new`. -/
def CaptchaSolver.new : CaptchaSolver := ⟨none, .free, 0⟩

/-- `submit_result`. -/
def CaptchaSolver.submitResult (solver : CaptchaSolver) (answer : Answer) : CaptchaSolver × Bool :=
  match solver.channel with
  | none => ({ solver with channel := some answer }, true)
  | some _ => (solver, false)

/-- `webview` up to the loop that empties the channel. A call that does not get the lock waits. -/
def CaptchaSolver.webview (solver : CaptchaSolver) (mode : Text) (captcha : VkCaptchaError) :
    CaptchaSolver :=
  if captcha.redirectUri.isEmpty || captcha.sessionToken.isEmpty then solver
  else
    match solver.receiver with
    | .free => { solver with receiver := .draining mode captcha }
    | _ => solver

/-- One `try_recv`. -/
def CaptchaSolver.drain (solver : CaptchaSolver) : CaptchaSolver :=
  match solver.receiver, solver.channel with
  | .draining _ _, some _ => { solver with channel := none }
  | .draining mode captcha, none => { solver with receiver := .printing mode captcha }
  | _, _ => solver

/-- The line that asks for a window. -/
def requestLine (mode : Text) (captcha : VkCaptchaError) : Text :=
  "CAPTCHA_SOLVE|".toList ++ mode ++ '|' :: captcha.redirectUri ++ '|' :: captcha.sessionToken

/-- The line is printed. -/
def CaptchaSolver.print (solver : CaptchaSolver) : CaptchaSolver × List Line :=
  match solver.receiver with
  | .printing mode captcha =>
    ({ solver with receiver := .waiting solver.issued, issued := solver.issued + 1 },
      [⟨CoreEvents.delivered (requestLine mode captcha), solver.issued⟩])
  | _ => (solver, [])

/-- `recv` returns a result, if there is one. -/
def CaptchaSolver.receive (solver : CaptchaSolver) : CaptchaSolver × Option (Nat × Answer) :=
  match solver.receiver, solver.channel with
  | .waiting request, some answer =>
    ({ solver with channel := none, receiver := .free }, some (request, answer))
  | _, _ => (solver, none)

/-- The time is over, or the token is cancelled. -/
def CaptchaSolver.giveUp (solver : CaptchaSolver) : CaptchaSolver :=
  match solver.receiver with
  | .waiting _ => { solver with receiver := .free }
  | _ => solver

/-- White space that `trim` of the core removes. -/
def isWhitespace (char : Char) : Bool := Text.isWhite char && char.toNat != 0xFEFF

/-- What `webview` returns for a result. -/
def conclude (result : Text) : Except Text Text :=
  let trimmed : Text := (result.dropWhile isWhitespace).rdropWhile isWhitespace
  if trimmed.isEmpty then .error "webview captcha returned empty result".toList
  else
    let lower : Text := trimmed.map Char.toLower
    if lower = "error:timeout".toList then .error "webview captcha timed out".toList
    else if lower.startsWith "error:".toList then
      .error ("webview captcha failed: ".toList ++ trimmed)
    else .ok trimmed

end Focsq.Captcha
