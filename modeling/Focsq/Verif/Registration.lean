import Mathlib.Data.List.Basic
import Focsq.Backend.Protocol
import Focsq.Lib.Text

/-!
# Requests for the configuration

The fields of such a request are joined by bars, and nothing is escaped. A bar in a field that is
free text shifts the fields after it. What can still be told apart is what has no bar in front of
the password and behind it.
-/

namespace Focsq.Protocol

/-- What a request for the configuration says. -/
structure Registration where
  /-- `local_port`. -/
  localPort : String
  /-- `device_id`. -/
  deviceId : String
  /-- `password`. -/
  password : String
  /-- `generation_id`. -/
  generationId : UInt64
  /-- `salt`. -/
  salt : String
  /-- `worker_id`. -/
  workerId : Nat
  /-- `desired_count`. -/
  desiredCount : Option Nat
  deriving DecidableEq

/-- The request with these fields. -/
def Registration.request (registration : Registration) : String :=
  configRequest registration.localPort registration.deviceId registration.password
    registration.generationId registration.salt registration.workerId registration.desiredCount

/-- The number of streams, if there is one. -/
def Registration.desiredText (registration : Registration) : String :=
  registration.desiredCount.elim "" toString

/-- The fields as they are written. -/
def Registration.fields (registration : Registration) : List String :=
  [registration.localPort, registration.deviceId, registration.password,
    toString registration.generationId, registration.salt, toString registration.workerId,
    registration.desiredText, wireProtocolRevision]

/-- A text has no bar in it. -/
def hasNoBar (text : String) : Prop := '|' ∉ text.toList

/-- It can be decided whether there is a bar. -/
instance (text : String) : Decidable (hasNoBar text) := inferInstanceAs (Decidable (¬ _))

/-- What is read between the bars of a request, after its first word. -/
def requestFields (request : String) : List String :=
  ((request.toList.drop "GETCONF:".length).splitOn '|').map String.ofList

section Separators

variable {α : Type*}

/-- No piece between separators has one in it. -/
theorem notMem_of_mem_splitOn [DecidableEq α] {separator : α} (text : List α) :
    ∀ piece ∈ text.splitOn separator, separator ∉ piece := by
  induction text with
  | nil =>
    intro piece member
    rw [List.splitOn_nil, List.mem_singleton] at member
    rw [member]
    exact List.not_mem_nil
  | cons head rest ih =>
    intro piece member
    rw [List.splitOn_cons_eq_if_modifyHead] at member
    split at member
    · rcases List.mem_cons.mp member with new | old
      · rw [new]
        exact List.not_mem_nil
      · exact ih piece old
    · rename_i other
      obtain ⟨first, more, shape⟩ := List.exists_cons_of_ne_nil (List.splitOn_ne_nil separator rest)
      rw [shape, List.modifyHead_cons] at member
      rw [shape] at ih
      rcases List.mem_cons.mp member with new | old
      · rw [new]
        intro inside
        rcases List.mem_cons.mp inside with equal | later
        · exact other (beq_iff_eq.mpr equal.symm)
        · exact ih first List.mem_cons_self later
      · exact ih piece (List.mem_cons_of_mem _ old)

end Separators

/-- A written number has no bar. -/
theorem hasNoBar_toString (number : Nat) : hasNoBar (toString number) := by
  intro member
  have digits : (toString number).toList = Nat.toDigits 10 number := String.toList_ofList
  rw [digits] at member
  exact absurd (Nat.isDigit_of_mem_toDigits (by decide) (by decide) member) (by decide)

/-- Different numbers are written differently. -/
theorem toString_injective {left right : Nat} (same : toString left = toString right) :
    left = right := by
  have digits : Nat.toDigits 10 left = Nat.toDigits 10 right := by
    have texts := congrArg String.toList same
    exact String.toList_ofList.symm.trans (texts.trans String.toList_ofList)
  rw [← @Nat.ofDigitChars_ten_toDigits left, digits, Nat.ofDigitChars_ten_toDigits]

/-- The text after the first word, bar by bar from the left. -/
theorem toList_request (registration : Registration) :
    registration.request.toList =
      "GETCONF:".toList ++ (registration.localPort.toList ++ '|' ::
        (registration.deviceId.toList ++ '|' ::
          (((((registration.password.toList ++ '|' ::
            (toString registration.generationId).toList) ++ '|' :: registration.salt.toList) ++
              '|' :: (toString registration.workerId).toList) ++ '|' ::
                registration.desiredText.toList) ++ '|' :: wireProtocolRevision.toList))) := by
  unfold Registration.request configRequest
  simp only [String.toList_append, List.append_assoc, List.cons_append]
  rfl

/-- The number of streams has no bar. -/
theorem Registration.hasNoBar_desiredText (registration : Registration) :
    hasNoBar registration.desiredText := by
  unfold desiredText
  cases registration.desiredCount with
  | none => exact List.not_mem_nil
  | some count => exact hasNoBar_toString count

/-- Different numbers of streams are written differently, and none is written as nothing. -/
theorem desiredCount_of_desiredText {left right : Registration}
    (same : left.desiredText = right.desiredText) : left.desiredCount = right.desiredCount := by
  have written (count : Nat) : toString count ≠ "" := fun empty =>
    Nat.toDigits_ne_nil (String.toList_ofList.symm.trans (congrArg String.toList empty))
  unfold Registration.desiredText at same
  cases one : left.desiredCount with
  | none =>
    cases other : right.desiredCount with
    | none => rfl
    | some count =>
      rw [one, other] at same
      exact absurd same.symm (written count)
  | some count =>
    cases other : right.desiredCount with
    | none =>
      rw [one, other] at same
      exact absurd same (written count)
    | some number =>
      rw [one, other] at same
      rw [toString_injective same]

/-- The fields in front of the password and behind it that are texts have no bar. -/
structure Registration.Barless (registration : Registration) : Prop where
  /-- The port. -/
  localPort : hasNoBar registration.localPort
  /-- The device. -/
  deviceId : hasNoBar registration.deviceId
  /-- The salt. -/
  salt : hasNoBar registration.salt

/-- Requests that are the same have the same fields, whatever the passwords are. -/
theorem Registration.request_injective {left right : Registration} (one : left.Barless)
    (other : right.Barless) (same : left.request = right.request) : left = right := by
  have texts := congrArg String.toList same
  rw [toList_request, toList_request] at texts
  obtain ⟨ports, texts⟩ :=
    Text.append_cons_inj_left one.localPort other.localPort (List.append_cancel_left texts)
  obtain ⟨devices, texts⟩ := Text.append_cons_inj_left one.deviceId other.deviceId texts
  obtain ⟨texts, _⟩ := Text.append_cons_inj_right (by decide) (by decide) texts
  obtain ⟨texts, counts⟩ :=
    Text.append_cons_inj_right left.hasNoBar_desiredText right.hasNoBar_desiredText texts
  obtain ⟨texts, workers⟩ :=
    Text.append_cons_inj_right (hasNoBar_toString _) (hasNoBar_toString _) texts
  obtain ⟨texts, salts⟩ := Text.append_cons_inj_right one.salt other.salt texts
  obtain ⟨passwords, generations⟩ :=
    Text.append_cons_inj_right (hasNoBar_toString _) (hasNoBar_toString _) texts
  have count := desiredCount_of_desiredText (String.toList_injective counts)
  have generation : left.generationId = right.generationId :=
    UInt64.toNat_inj.mp (toString_injective (String.toList_injective generations))
  have worker := toString_injective (String.toList_injective workers)
  have port := String.toList_injective ports
  have device := String.toList_injective devices
  have password := String.toList_injective passwords
  have salt := String.toList_injective salts
  cases left
  cases right
  dsimp only at count generation worker port device password salt
  rw [count, generation, worker, port, device, password, salt]

/-- The request is its fields, with bars between them. -/
theorem requestFields_request (registration : Registration) :
    requestFields registration.request =
      ((['|'].intercalate (registration.fields.map String.toList)).splitOn '|').map
        String.ofList := by
  unfold requestFields
  rw [toList_request, List.drop_left' (by rfl)]
  congr 2
  simp [Registration.fields, List.intercalate]

/-- The fields are found again if none of them has a bar, and only then. -/
theorem requestFields_eq_fields (registration : Registration) :
    requestFields registration.request = registration.fields ↔
      ∀ field ∈ registration.fields, hasNoBar field := by
  rw [requestFields_request]
  constructor
  · intro same field member
    rw [← same] at member
    obtain ⟨piece, inside, equal⟩ := List.mem_map.mp member
    rw [← equal, hasNoBar, String.toList_ofList]
    exact notMem_of_mem_splitOn _ piece inside
  · intro free
    rw [List.splitOn_intercalate]
    · rw [List.map_map]
      exact (List.map_congr_left fun _ _ => String.ofList_toList).trans (List.map_id _)
    · intro text member
      obtain ⟨field, inside, equal⟩ := List.mem_map.mp member
      exact equal ▸ free field inside
    · exact List.cons_ne_nil _ _

/-- Only the fields that are texts can have a bar. -/
theorem Registration.fields_hasNoBar (registration : Registration) :
    (∀ field ∈ registration.fields, hasNoBar field) ↔
      registration.Barless ∧ hasNoBar registration.password := by
  constructor
  · intro free
    exact ⟨⟨free _ (by simp [fields]), free _ (by simp [fields]), free _ (by simp [fields])⟩,
      free _ (by simp [fields])⟩
  · rintro ⟨free, password⟩ field member
    simp only [fields, List.mem_cons, List.not_mem_nil, or_false] at member
    rcases member with rfl | rfl | rfl | rfl | rfl | rfl | rfl | rfl
    · exact free.localPort
    · exact free.deviceId
    · exact password
    · exact hasNoBar_toString registration.generationId.toNat
    · exact free.salt
    · exact hasNoBar_toString registration.workerId
    · exact registration.hasNoBar_desiredText
    · decide

/-- A device and a password, with the rest as in a first request. -/
def Registration.of (deviceId password : String) : Registration :=
  ⟨"9000", deviceId, password, 7, "salt", 4, some 36⟩

/-- Two requests with a device, a port and a salt without bars are different if any of their fields
are, and reading between the bars gives the fields unless one has a bar. -/
theorem configRequest_unambiguous :
    (∀ left right : Registration, left.Barless → right.Barless → left ≠ right →
      left.request ≠ right.request) ∧
    ∀ registration : Registration, requestFields registration.request = registration.fields ↔
      registration.Barless ∧ hasNoBar registration.password :=
  ⟨fun _ _ one other different same => different (Registration.request_injective one other same),
    fun registration => (requestFields_eq_fields registration).trans
      registration.fields_hasNoBar⟩

/-- Two passwords with bars are told apart, and one without bars is read. -/
theorem configRequest_unambiguous_passwords :
    (Registration.of "device" "pass|word|7").request ≠
        (Registration.of "device" "pass|word").request ∧
      requestFields (Registration.of "device" "password").request =
        (Registration.of "device" "password").fields :=
  ⟨configRequest_unambiguous.1 _ _ ⟨by decide, by decide, by decide⟩
      ⟨by decide, by decide, by decide⟩ (by decide),
    (configRequest_unambiguous.2 _).mpr ⟨⟨by decide, by decide, by decide⟩, by decide⟩⟩

/-- A bar may belong to the device or to the password, and one in the password alone shifts the
fields. -/
theorem configRequest_ambiguous :
    (¬ ∀ left right : Registration, left ≠ right → left.request ≠ right.request) ∧
      (¬ ∀ registration : Registration,
        requestFields registration.request = registration.fields) := by
  constructor
  · intro different
    exact different (.of "device|pass" "word") (.of "device" "pass|word") (by decide) (by decide)
  · intro always
    exact absurd (always (.of "device" "pass|word")) (by decide)

end Focsq.Protocol
