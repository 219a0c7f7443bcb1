import Mathlib.Data.List.Basic

/-!
# Batches of datagrams

`udp_batch.rs` sends several datagrams with one call of `sendmmsg`, or one by one where there is no
such call. Either may take only the first datagrams of a batch, and the batch is tried again from
there. What the system does is an argument, and what it has taken goes with each result.
-/

namespace Focsq.UdpBatch

/-- What is sent in one piece. -/
abbrev Datagram : Type := List UInt8

/-- `MAX_DATAGRAMS`. -/
def maxDatagrams : Nat := 128

/-- An error of the system, by how it is handled. -/
inductive IoError where
  /-- `ErrorKind::WouldBlock`. -/
  | wouldBlock
  /-- The system has no `sendmmsg`. -/
  | unavailable
  /-- Any other one. -/
  | other (message : String)
  deriving DecidableEq

/-- How an asynchronous call ends without a result, or that it does not end. -/
inductive Halt (ε : Type) where
  /-- It fails. -/
  | failed (reason : ε)
  /-- What it waits for never happens. -/
  | pending
  deriving DecidableEq

/-- What the system does in one attempt to send a batch. -/
structure Attempt where
  /-- `writable` of the socket. -/
  writable : Except IoError Unit
  /-- `SEND_MMSG_ENABLED`, which all sockets share and any of them switches off. -/
  sendMmsgEnabled : Bool
  /-- How many datagrams `sendmmsg` takes, when it is not interrupted. -/
  sendMmsg : Except IoError Nat
  /-- The length that `try_send` has sent of the datagram with an index. -/
  trySend : Nat → Except IoError Nat

/-- `try_send_mmsg` — the first datagrams are sent. -/
def trySendMmsg (attempt : Attempt) (datagrams : List Datagram) :
    Except IoError Nat × List Datagram :=
  if datagrams.isEmpty then (.ok 0, [])
  else
    match attempt.sendMmsg with
    | .error error => (.error error, [])
    | .ok sent =>
      if sent = 0 then (.error .wouldBlock, [])
      else if datagrams.length < sent then
        (.error (.other "sendmmsg accepted more datagrams than requested"), datagrams)
      else (.ok sent, datagrams.take sent)

/-- The loop of `try_send_connected` in `portable`. -/
def portableLoop (attempt : Attempt) : Nat → List Datagram → Except IoError Nat × List Datagram
  | sent, [] => (.ok sent, [])
  | sent, datagram :: rest =>
    match attempt.trySend sent with
    | .ok length =>
      if length = datagram.length then
        let (result, wire) := portableLoop attempt (sent + 1) rest
        (result, datagram :: wire)
      else (.error (.other "UDP datagram was not sent atomically"), [datagram.take length])
    | .error error =>
      if error = .wouldBlock ∧ 0 < sent then (.ok sent, []) else (.error error, [])

/-- `try_send_connected` — how many datagrams were sent, and what was sent. -/
def trySendConnected (attempt : Attempt) (datagrams : List Datagram) :
    Except IoError Nat × List Datagram :=
  if maxDatagrams < datagrams.length then
    (.error (.other ("UDP batch contains " ++ toString datagrams.length ++
      " datagrams; limit is " ++ toString maxDatagrams)), [])
  else if !attempt.sendMmsgEnabled then portableLoop attempt 0 datagrams
  else
    match trySendMmsg attempt datagrams with
    | (.error .unavailable, _) => portableLoop attempt 0 datagrams
    | result => result

/-- The loop of `send_connected`, from the datagrams that are left. -/
def sendLoop : List Attempt → List Datagram → Except (Halt IoError) Unit × List Datagram
  | _, [] => (.ok (), [])
  | [], _ :: _ => (.error .pending, [])
  | attempt :: attempts, datagram :: rest =>
    match attempt.writable with
    | .error error => (.error (.failed error), [])
    | .ok () =>
      match trySendConnected attempt (datagram :: rest) with
      | (.ok count, wire) =>
        let (result, later) := sendLoop attempts ((datagram :: rest).drop count)
        (result, wire ++ later)
      | (.error .wouldBlock, wire) =>
        let (result, later) := sendLoop attempts (datagram :: rest)
        (result, wire ++ later)
      | (.error error, wire) => (.error (.failed error), wire)

/-- `send_connected` — send all datagrams; it does not end when the attempts run out before. -/
def sendConnected (attempts : List Attempt) (datagrams : List Datagram) :
    Except (Halt IoError) Unit × List Datagram :=
  if maxDatagrams < datagrams.length then
    (.error (.failed (.other ("UDP batch contains " ++ toString datagrams.length ++
      " datagrams; limit is " ++ toString maxDatagrams))), [])
  else sendLoop attempts datagrams

end Focsq.UdpBatch
