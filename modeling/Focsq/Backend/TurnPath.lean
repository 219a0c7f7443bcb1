import Focsq.Backend.TurnEndpoint

/-!
# The server of a session

`session.rs` tries the addresses that came with a credential in turn: the number of the worker and
the number of its attempt say where to begin, and addresses that cannot be used are passed over.
-/

namespace Focsq.Session

open Endpoint

/-- `SessionConfig`, as far as it chooses a server. -/
structure TurnConfig where
  /-- `id` — the number of the worker. -/
  id : Nat
  /-- `turn_endpoint_cursor` — the number of the attempt. -/
  turnEndpointCursor : Nat
  /-- `turn_host` — a host of the user. -/
  turnHost : Option Text
  /-- `turn_port` — a port of the user. -/
  turnPort : Option Text
  /-- `turn_transport`. -/
  turnTransport : TurnTransportMode
  deriving DecidableEq

/-- `resolve_turn_endpoints` with what is configured. -/
def TurnConfig.resolve (config : TurnConfig) (address : Text) :
    Except Failure (List TurnEndpoint) :=
  resolveTurnEndpoints address config.turnHost config.turnPort config.turnTransport

/-- `turn_endpoint_index`, of numbers below 2⁶⁴. -/
def turnEndpointIndex (id cursor endpointCount : Nat) : Nat :=
  (id % endpointCount + cursor % endpointCount) % endpointCount

/-- The loop of `select_turn_address`, over the offsets that are left. -/
def selectLoop (config : TurnConfig) (addresses : List Text) (start : Nat) :
    List Nat → Except Failure Text
  | [] => .error (.bail "Нет TURN endpoint для выбранного транспорта")
  | offset :: offsets =>
    match addresses[(start + offset) % addresses.length]? with
    | none => .error .panic
    | some address =>
      if (config.resolve address).toBool then .ok address
      else selectLoop config addresses start offsets

/-- `select_turn_address`. Without addresses there is nothing to divide by. -/
def selectTurnAddress (addresses : List Text) (config : TurnConfig) : Except Failure Text :=
  let count := addresses.length
  if count = 0 then .error .panic
  else
    let start := turnEndpointIndex config.id config.turnEndpointCursor count
    selectLoop config addresses start (List.range count)

/-- `turn_path_key` — what connections of workers to the same server have in common. -/
def turnPathKey (address : Text) (config : TurnConfig) : Except Failure Text :=
  match config.resolve address with
  | .error _ => .error (.bail "TURN endpoint is invalid")
  | .ok [] => .error (.bail "TURN endpoint list is empty")
  | .ok (endpoint :: _) => .ok endpoint.socketAuthority

/-- The first lines of `run_session`: the address of the server and the key of the path. -/
def turnPath (serverAddresses : List Text) (config : TurnConfig) :
    Except Failure (Text × Text) :=
  if serverAddresses.isEmpty then .error (.bail "нет TURN URL в учётных данных")
  else do
    let turnAddress ← selectTurnAddress serverAddresses config
    let turnPath ← turnPathKey turnAddress config
    return (turnAddress, turnPath)

end Focsq.Session
