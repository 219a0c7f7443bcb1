import Focsq.Backend.Handshake

/-!
# Asking three times

Whatever arrives and however long it takes to send, to ask three times leads to what it leads to to
wait once until the last deadline; the request is sent once more for each deadline that passes
before the answer. When no answer comes, the worker waits for at least five seconds, and its
credential is left alone.
-/

namespace Focsq.Session

open Protocol (isConfigResponse isPanelRestartNotice parseConfigResponse)
open Worker (SessionError)

section Waiting

/-- The deadlines of some attempts. -/
def deadlines (took : Nat → Nat) (attempt now : Nat) : List Nat → List Nat
  | [] => []
  | timeout :: timeouts =>
    let deadline := now + took attempt + timeout
    deadline :: deadlines took (attempt + 1) deadline timeouts

/-- How often the request is sent. -/
def requests (effects : List HandshakeEffect) : Nat := effects.count .request

/-- What is done besides. -/
def others (effects : List HandshakeEffect) : List HandshakeEffect :=
  effects.filter (· ≠ .request)

/-- When there is an answer, if there is one. -/
def Waited.time : Waited → Option Nat
  | .packet _ time => some time
  | .failed _ time => some time
  | .expired _ => none

end Waiting

section Attempts

variable (utf8Message : List UInt8 → Text) (getConfig configTx : Bool)

/-- What is done when the waiting is over. -/
def Waited.conclude (last : Nat) : Waited → Handshake
  | .packet answer time => answered utf8Message getConfig configTx answer time
  | .failed error time => ⟨[], .error (error.context "GETCONF чтение ответа конфига".toList), time⟩
  | .expired _ => unconfirmed getConfig unconfirmedMessage last

/-- An exchange leads to what another one leads to, not earlier and in time. -/
structure Handshake.Follows (handshake once : Handshake) (last : Nat) : Prop where
  /-- The result is the same. -/
  result : handshake.result = once.result
  /-- What is done besides the requests is the same. -/
  effects : others handshake.effects = once.effects
  /-- It does not end earlier. -/
  later : once.time ≤ handshake.time
  /-- It ends in time. -/
  timely : handshake.time ≤ last

variable {send : Nat → Except SessionError Nat} {took : Nat → Nat}

end Attempts

end Focsq.Session
