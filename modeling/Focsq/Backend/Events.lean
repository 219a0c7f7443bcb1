import Focsq.Lib.Json

/-!
# Events of the core

`Events` of `events.rs` and the part of `logging.rs` that its lines go through. An event is a line
with a kind and a JSON object. The core hands it to the callback of the user interface.
-/

namespace Focsq.CoreEvents

open Json (Plain)

/-- `EVENT_PREFIX`. -/
def eventPrefix : Text := "__CSQTT_EVENT__|".toList

/-- `NETWORK_TIMEOUT_BURST_WINDOW`, in milliseconds. -/
def networkTimeoutBurstWindow : Nat := 15000

/-- What is emitted, with what it is made from. -/
inductive Event where
  /-- From `ready`. -/
  | ready (worker : UInt64)
  /-- From `stopped`. -/
  | stopped
  /-- From `process`. -/
  | process (pid : UInt32)
  /-- From `config`. -/
  | config (config : Text)
  /-- From `error`. -/
  | error (code message : Text) (fatal : Bool)
  /-- From `stats`. -/
  | stats (active : Int32) (bytesUp bytesDown : Int64)
  /-- From `active_zero`. -/
  | activeZero
  /-- From `panel_restart`. -/
  | panelRestart
  /-- From `progress`. -/
  | progress (kind : Text)
  /-- From `network_timeout`. -/
  | networkTimeout
  /-- From `call_unavailable`. -/
  | callUnavailable (hash : Text) (code : Int64)
  deriving DecidableEq

/-- The kind that `emit` is called with. -/
def Event.kind : Event → Text
  | .ready _ => "READY".toList
  | .stopped => "STOPPED".toList
  | .process _ => "PROCESS".toList
  | .config _ => "CONFIG".toList
  | .error _ _ _ => "ERROR".toList
  | .stats _ _ _ => "STATS".toList
  | .activeZero => "ACTIVE_ZERO".toList
  | .panelRestart => "SERVER_RESTART".toList
  | .progress _ => "PROGRESS".toList
  | .networkTimeout => "NETWORK_SUSPECT".toList
  | .callUnavailable _ _ => "CALL_UNAVAILABLE".toList

/-- The payload. `serde_json` keeps the members of an object in the order of their keys. -/
def Event.payload : Event → List (Text × Plain)
  | .ready worker => [("worker".toList, .int worker.toNat)]
  | .process pid => [("pid".toList, .int pid.toNat)]
  | .config text => [("config".toList, .string text)]
  | .error code message fatal =>
    [("code".toList, .string code), ("fatal".toList, .bool fatal),
      ("message".toList, .string message)]
  | .stats active bytesUp bytesDown =>
    [("active".toList, .int active.toInt), ("bytes_down".toList, .int bytesDown.toInt),
      ("bytes_up".toList, .int bytesUp.toInt)]
  | .panelRestart => [("source".toList, .string "panel".toList)]
  | .progress kind => [("kind".toList, .string kind)]
  | .callUnavailable hash code =>
    [("code".toList, .int code.toInt), ("hash".toList, .string hash)]
  | .stopped | .activeZero | .networkTimeout => []

/-- `encode_event`. -/
def encodeEvent (kind : Text) (payload : List (Text × Plain)) : Text :=
  eventPrefix ++ kind ++ '|' :: Json.writeObject payload

/-- The line of an event. -/
def Event.line (event : Event) : Text := encodeEvent event.kind event.payload

section Emitter

/-- `Events`. -/
structure Events where
  /-- Whether anything is emitted. -/
  enabled : Bool
  /-- `panel_restart_emitted`. -/
  panelRestartEmitted : Bool
  /-- `network_suspect_emitted`. -/
  networkSuspectEmitted : Bool
  /-- `network_timeouts`. -/
  networkTimeouts : Nat
  /-- `network_timeout_window_started`. -/
  networkTimeoutWindowStarted : Option Nat
  /-- `unavailable_hashes`. -/
  unavailableHashes : List Text
  deriving DecidableEq

/-- `new`. -/
def Events.new (enabled : Bool) : Events := ⟨enabled, false, false, 0, none, []⟩

/-- `emit`. -/
def Events.emit (events : Events) (event : Event) : Events × Option Event :=
  (events, if events.enabled then some event else none)

/-- `panel_restart`. -/
def Events.panelRestart (events : Events) : Events × Option Event :=
  if events.panelRestartEmitted then (events, none)
  else { events with panelRestartEmitted := true }.emit .panelRestart

/-- The window in `network_timeout`. -/
def Events.openWindow (events : Events) (now : Nat) : Events :=
  if events.networkTimeoutWindowStarted.all fun started =>
      networkTimeoutBurstWindow < now - started then
    { events with
      networkTimeoutWindowStarted := some now, networkTimeouts := 0,
      networkSuspectEmitted := false }
  else events

/-- `network_timeout`. -/
def Events.networkTimeout (events : Events) (now : Nat) : Events × Option Event :=
  let opened := events.openWindow now
  let counted := { opened with networkTimeouts := opened.networkTimeouts + 1 }
  if 6 ≤ counted.networkTimeouts then
    if counted.networkSuspectEmitted then (counted, none)
    else { counted with networkSuspectEmitted := true }.emit .networkTimeout
  else (counted, none)

/-- `network_recovered`. -/
def Events.networkRecovered (events : Events) : Events :=
  { events with
    networkTimeouts := 0, networkSuspectEmitted := false, networkTimeoutWindowStarted := none }

/-- `call_unavailable`. -/
def Events.callUnavailable (events : Events) (hash : Text) (code : Int64) :
    Events × Option Event :=
  if hash ∈ events.unavailableHashes then (events, none)
  else
    { events with unavailableHashes := hash :: events.unavailableHashes }.emit
      (.callUnavailable hash code)

end Emitter

section Logging

/-- `MAX_LINE_BYTES`. -/
def maxLineBytes : Nat := 4096

/-- The longest part at the front of a text that fits into a number of bytes. -/
def fitting : Nat → Text → Text
  | _, [] => []
  | room, char :: rest =>
    if char.utf8Size ≤ room then char :: fitting (room - char.utf8Size) rest else []

/-- `format_line` — a `BoundedLine` into which the line is written. -/
def formatLine (line : Text) : Text :=
  if line.utf8Length ≤ maxLineBytes then line else fitting maxLineBytes line

/-- `write_line`. -/
def writeLine (value : Text) (repetitions : Nat) : Text :=
  value ++
    (if 1 < repetitions then " (x".toList ++ Nat.toDigits 10 repetitions ++ [')'] else []) ++
      ['\n']

/-- What the callback is called with when a line is written to the output. -/
def delivered (line : Text) : Text := writeLine (formatLine line) 1

end Logging

end Focsq.CoreEvents
