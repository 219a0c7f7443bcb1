import Focsq.Backend.Events
import Focsq.Backend.Protocol
import Focsq.Backend.WorkerRetry

/-!
# Asking for the configuration

A session begins with `request_configuration` of `session.rs`. The request is sent up to three
times, and each time the answer is waited for until a deadline. Other packets that arrive are
dropped.

Times are in milliseconds. How long it takes to send, and what arrives and when, comes from outside,
and so does what the standard library says of malformed text.
-/

namespace Focsq.Session

open Protocol (ConfigResponse ResponseError isConfigResponse isPanelRestartNotice
  parseConfigResponse)
open Worker (SessionError)

/-- `CONFIG_RESPONSE_TIMEOUT_MS`. -/
def configResponseTimeoutMs : List Nat := [750, 1500, 3000]

/-- What `recv` returns, and when. -/
structure Reception where
  /-- When it arrives. -/
  time : Nat
  /-- The packet, or why there are no more packets. -/
  packet : Except SessionError (List UInt8)

/-- What `request_configuration` does besides returning. -/
inductive HandshakeEffect where
  /-- The request is sent. -/
  | request
  /-- An event is told. -/
  | event (event : CoreEvents.Event)
  /-- `server_stream_repair` is stored. -/
  | streamRepair
  /-- The configuration is sent to `config_tx`. -/
  | configured (value : String)
  deriving DecidableEq

/-- How an exchange ends. -/
structure Handshake where
  /-- What it does, one after the other. -/
  effects : List HandshakeEffect
  /-- The result. -/
  result : Except SessionError Bool
  /-- When it ends. -/
  time : Nat

/-- Something is done first. -/
def Handshake.after (handshake : Handshake) (effects : List HandshakeEffect) : Handshake :=
  { handshake with effects := effects ++ handshake.effects }

/-- The message when no answer has come. -/
def unconfirmedMessage : Text :=
  "FATAL_HANDSHAKE: сервер не подтвердил конфигурацию после ".toList ++
    Nat.toDigits 10 configResponseTimeoutMs.length ++
    " попыток; проверьте пароль подключения и совместимость клиента с сервером".toList

/-- No answer has come to the last request. -/
def unconfirmed (getConfig : Bool) (message : Text) (time : Nat) : Handshake where
  effects :=
    if getConfig then [.event (.error "handshake_timeout".toList message true)] else []
  result := .error (.bail message)
  time := time

/-- What the error of an answer says. -/
def responseMessage (utf8Message : List UInt8 → Text) (packet : List UInt8) : ResponseError → Text
  | .utf8 => utf8Message packet
  | .bail message => message.toList

/-- An answer has come. -/
def answered (utf8Message : List UInt8 → Text) (getConfig configTx : Bool) (packet : List UInt8)
    (time : Nat) : Handshake :=
  match parseConfigResponse packet with
  | .error error =>
    let message := responseMessage utf8Message packet error
    { effects :=
        if getConfig && message.contains "FATAL_".toList then
          [.event (.error "handshake_rejected".toList message true)]
        else []
      result := .error (.bail message)
      time }
  | .ok .noConfig => { effects := [], result := .ok false, time }
  | .ok (.config value) =>
    { effects :=
        (if ":stream-v1".toList.isSuffixOf value.toList ||
            ":stream-v2".toList.isSuffixOf value.toList then [.streamRepair] else []) ++
          if configTx then [.configured value] else []
      result := .ok true
      time }

/-- What comes of waiting. -/
inductive Waited where
  /-- The answer. -/
  | packet (packet : List UInt8) (time : Nat)
  /-- There are no more packets. -/
  | failed (error : SessionError) (time : Nat)
  /-- The deadline is reached. -/
  | expired (left : List Reception)

/-- The inner loop: what is told of other packets, and what comes of it. -/
def awaitResponse (deadline : Nat) : List Reception → List HandshakeEffect × Waited
  | [] => ([], .expired [])
  | arrival :: rest =>
    if deadline < arrival.time then ([], .expired (arrival :: rest))
    else
      match arrival.packet with
      | .error error => ([], .failed error arrival.time)
      | .ok packet =>
        if isPanelRestartNotice packet then
          let (effects, waited) := awaitResponse deadline rest
          (.event .panelRestart :: effects, waited)
        else if isConfigResponse packet then ([], .packet packet arrival.time)
        else awaitResponse deadline rest

/-- The loop over the attempts, with how long it takes to send each request. -/
def attempts (utf8Message : List UInt8 → Text) (getConfig configTx : Bool)
    (send : Nat → Except SessionError Nat) (attempt now : Nat) :
    List Nat → List Reception → Handshake
  | [], _ => unconfirmed getConfig "FATAL_HANDSHAKE: сервер не подтвердил конфигурацию".toList now
  | timeout :: timeouts, arrivals =>
    match send attempt with
    | .error error => ⟨[], .error (error.context "отправка GETCONF".toList), now⟩
    | .ok took =>
      let deadline := now + took + timeout
      let (effects, waited) := awaitResponse deadline arrivals
      let next : Handshake :=
        match waited with
        | .packet packet time =>
          answered utf8Message getConfig configTx packet (max time (now + took))
        | .failed error time =>
          ⟨[], .error (error.context "GETCONF чтение ответа конфига".toList),
            max time (now + took)⟩
        | .expired left =>
          if timeouts.isEmpty then unconfirmed getConfig unconfirmedMessage deadline
          else attempts utf8Message getConfig configTx send (attempt + 1) deadline timeouts left
      next.after (.request :: effects)

end Focsq.Session
