import Focsq.Backend.Events
import Focsq.Frontend.ConnectService

/-!
# From the core to the user interface

What `onCoreLine` takes from the line of an event is the kind and the payload that the core has
emitted. But the case `ERROR` expects the code to be a number, and the core sends a text: it throws
on every error of the core.
-/

namespace Focsq.CoreEvents

open ConnectService Json

section Statement

variable {δ : Type} (doubles : Doubles δ)

/-- The service takes the kind and the payload of the event from its line, does not throw, and after
a fatal error is disconnected and knows its message. -/
def Reaches (service : Service) (event : Event) : Prop :=
  (∃ payloadRaw, receive doubles (delivered event.line) =
    some ⟨event.kind, payloadRaw, event.payload.map fun member => (member.1, member.2.value)⟩) ∧
  (service.onCoreLine doubles (delivered event.line)).2 = false ∧
  ∀ code message, event = .error code message true →
    (service.onCoreLine doubles (delivered event.line)).1.state = .disconnected ∧
      (service.onCoreLine doubles (delivered event.line)).1.lastError = some message

/-- The event is not an error, and the number of a worker fits into 64 bits with a sign. -/
def Event.Suits : Event → Prop
  | .error _ _ _ => False
  | .ready worker => worker.toNat < 2 ^ 63
  | _ => True

end Statement

section Line

/-- A short line is delivered with a line feed after it. -/
theorem delivered_short {line : Text} (short : line.utf8Length ≤ maxLineBytes) :
    delivered line = line ++ ['\n'] := by
  rw [delivered, formatLine, if_pos short, writeLine, if_neg (by decide), List.append_nil]

/-- No kind contains the separator. -/
theorem kind_separator (event : Event) : '|' ∉ event.kind := by
  cases event <;> exact of_decide_eq_true rfl

/-- The keys of a payload are different. -/
theorem payload_distinct (event : Event) : (event.payload.map Prod.fst).Nodup := by
  cases event <;> exact of_decide_eq_true rfl

variable {δ : Type} (doubles : Doubles δ)

/-- What is taken from the line of an event. -/
theorem receive_delivered (event : Event) (short : event.line.utf8Length ≤ maxLineBytes) :
    receive doubles (delivered event.line) =
      some ⟨event.kind, writeObject event.payload ++ ['\n'],
        event.payload.map fun member => (member.1, member.2.decoded doubles)⟩ := by
  have line : delivered event.line = ConnectService.eventPrefix ++
      (event.kind ++ '|' :: (writeObject event.payload ++ ['\n'])) := by
    rw [delivered_short short, Event.line, encodeEvent, List.append_assoc, List.append_assoc]
    rfl
  have found := Text.indexOf_append (kind_separator event)
    (writeObject event.payload ++ ['\n'])
  have raw : (event.kind ++ '|' :: (writeObject event.payload ++ ['\n'])).drop
      (event.kind.length + 1) = writeObject event.payload ++ ['\n'] := by
    rw [List.drop_append]
    simp
  have object : decodePayload doubles (writeObject event.payload ++ ['\n']) =
      event.payload.map fun member => (member.1, member.2.decoded doubles) := by
    have decoded := decode_writeObject doubles event.payload (payload_distinct event) ['\n']
      (List.forall_mem_singleton.mpr (by decide))
    have start : (writeObject event.payload ++ ['\n']).startsWith ['{'] = true := rfl
    rw [decodePayload, if_pos start, decoded]
  rw [line, receive, Text.startsWith_append, if_pos rfl, List.drop_left]
  dsimp only
  rw [found]
  dsimp only
  rw [List.take_left, raw, object]

/-- What the service does with the line of an event. -/
theorem onCoreLine_delivered (service : Service) (event : Event)
    (short : event.line.utf8Length ≤ maxLineBytes) :
    service.onCoreLine doubles (delivered event.line) =
      match (service.add (delivered event.line)).onEvent doubles
        ⟨event.kind, writeObject event.payload ++ ['\n'],
          event.payload.map fun member => (member.1, member.2.decoded doubles)⟩ with
      | .ok after => (after, false)
      | .error () => (service.add (delivered event.line), true) := by
  have other : (delivered event.line).startsWith "CAPTCHA_SOLVE|".toList = false := by
    rw [delivered_short short, Event.line, encodeEvent]
    rfl
  rw [Service.onCoreLine, other, receive_delivered doubles event short]
  rfl

/-- An integer that fits is read as it is. -/
theorem decoded_of_fits {value : Int} (low : -2 ^ 63 ≤ value) (high : value < 2 ^ 63) :
    (Plain.int value).decoded doubles = .int value := by
  have fits : fits64 value = true := by
    rw [fits64, decide_eq_true low, decide_eq_true high]
    rfl
  rw [Plain.decoded, if_pos fits]

/-- The payload of an event that suits is read as it is. -/
theorem payload_decoded {event : Event} (suits : event.Suits) :
    (event.payload.map fun member => (member.1, member.2.decoded doubles)) =
      event.payload.map fun member => (member.1, member.2.value) := by
  refine List.map_congr_left fun member inside => ?_
  have same : member.2.decoded doubles = member.2.value := by
    cases event with
    | error => exact suits.elim
    | ready worker =>
      obtain rfl := List.mem_singleton.mp inside
      exact decoded_of_fits doubles (by omega) (by exact_mod_cast suits)
    | process pid =>
      obtain rfl := List.mem_singleton.mp inside
      have bound := pid.toNat_lt
      exact decoded_of_fits doubles (by omega) (by omega)
    | config text | progress text =>
      obtain rfl := List.mem_singleton.mp inside
      rfl
    | panelRestart =>
      obtain rfl := List.mem_singleton.mp inside
      rfl
    | stats active bytesUp bytesDown =>
      have bounds := And.intro active.le_toInt active.toInt_lt
      have up := And.intro bytesUp.le_toInt bytesUp.toInt_lt
      have down := And.intro bytesDown.le_toInt bytesDown.toInt_lt
      simp only [Event.payload, List.mem_cons, List.not_mem_nil, or_false] at inside
      rcases inside with rfl | rfl | rfl
      · exact decoded_of_fits doubles (by omega) (by omega)
      · exact decoded_of_fits doubles down.1 down.2
      · exact decoded_of_fits doubles up.1 up.2
    | callUnavailable hash code =>
      simp only [Event.payload, List.mem_cons, List.not_mem_nil, or_false] at inside
      rcases inside with rfl | rfl
      · exact decoded_of_fits doubles code.le_toInt code.toInt_lt
      · rfl
    | stopped | activeZero | networkTimeout => cases inside
  rw [same]

/-- A service throws on no event that suits. -/
theorem onEvent_ok {event : Event} (suits : event.Suits) (service : Service) (raw : Text) :
    ∃ after, service.onEvent doubles
      ⟨event.kind, raw, event.payload.map fun member => (member.1, member.2.value)⟩ = .ok after := by
  cases event with
  | error => exact suits.elim
  | stats active bytesUp bytesDown => exact ⟨_, rfl⟩
  | _ => exact ⟨_, rfl⟩

/-- It throws on every error. -/
theorem onEvent_error (code message : Text) (fatal : Bool) (service : Service) (raw : Text) :
    service.onEvent doubles
      ⟨(Event.error code message fatal).kind, raw,
        (Event.error code message fatal).payload.map fun member =>
          (member.1, member.2.decoded doubles)⟩ = .error () :=
  rfl

/-- An event reaches the service if and only if it is not an error and its worker is no larger than
a signed number of 64 bits. -/
theorem reaches_iff_suits (service : Service) (event : Event)
    (short : event.line.utf8Length ≤ maxLineBytes) :
    Reaches doubles service event ↔ event.Suits := by
  constructor
  · intro reaches
    cases event with
    | error code message fatal =>
      have silent := reaches.2.1
      rw [onCoreLine_delivered doubles service _ short, onEvent_error] at silent
      cases silent
    | ready worker =>
      obtain ⟨raw, received⟩ := reaches.1
      rw [receive_delivered doubles _ short] at received
      have member := congrArg Received.payload (Option.some.inj received)
      by_contra large
      have unfit : fits64 worker.toNat = false := by
        have big : ¬ (worker.toNat : Int) < 2 ^ 63 := fun small => large (by exact_mod_cast small)
        rw [fits64, decide_eq_false big, Bool.and_false]
      simp only [Event.payload, List.map_cons, Plain.decoded, unfit, Plain.value] at member
      simp at member
    | _ => trivial
  · intro suits
    have same := payload_decoded doubles suits
    refine ⟨⟨_, (receive_delivered doubles event short).trans (by rw [same])⟩, ?_, ?_⟩
    · obtain ⟨after, ok⟩ := onEvent_ok doubles suits (service.add (delivered event.line))
        (writeObject event.payload ++ ['\n'])
      rw [onCoreLine_delivered doubles service event short, same, ok]
    · rintro code message rfl
      exact suits.elim

/-- A worker is ready. -/
theorem ready_reaches : Reaches Doubles.literals .new (.ready 3) :=
  (reaches_iff_suits Doubles.literals .new (.ready 3) (by decide)).mpr
    (show (3 : UInt64).toNat < 2 ^ 63 by decide)

/-- The connection is being made. -/
def connecting : Service := { Service.new with state := .connecting, clientRunning := true }

/-- The server does not answer. -/
def handshakeTimeout : Event :=
  .error "handshake_timeout".toList "FATAL_HANDSHAKE: no response".toList true

/-- The service throws on this error, and stays as it is. -/
theorem handshakeTimeout_throws :
    handshakeTimeout.line.utf8Length ≤ maxLineBytes ∧
      (connecting.onCoreLine Doubles.literals (delivered handshakeTimeout.line)).2 = true ∧
      (connecting.onCoreLine Doubles.literals (delivered handshakeTimeout.line)).1.state = .connecting ∧
      (connecting.onCoreLine Doubles.literals (delivered handshakeTimeout.line)).1.lastError = none := by
  have short : handshakeTimeout.line.utf8Length ≤ maxLineBytes := by decide
  have thrown : connecting.onCoreLine Doubles.literals (delivered handshakeTimeout.line) =
      (connecting.add (delivered handshakeTimeout.line), true) := by
    rw [onCoreLine_delivered Doubles.literals connecting handshakeTimeout short]
    rfl
  rw [thrown]
  exact ⟨short, rfl, rfl, rfl⟩

end Line

end Focsq.CoreEvents
