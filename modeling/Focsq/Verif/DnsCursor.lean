import Focsq.Backend.Dns

/-!
# The cursor stays inside the answer

On every message, reading ends with a result or with a message about what is wrong with it. No
index is out of range and no sum is, and the loop over a name comes to its end.
-/

namespace Focsq.Dns

/-- An error that the source reports. -/
def DnsError.isReported : DnsError → Bool
  | .panic | .unfinished => false
  | _ => true

/-- A result that meets the condition, or an error that is reported. -/
def Orderly {α : Type} (holds : α → Prop) : Except DnsError α → Prop
  | .ok result => holds result
  | .error reason => reason.isReported = true

section Rules

variable {α β : Type}

/-- One thing after the other. -/
theorem Orderly.bind {first : Except DnsError α} {next : α → Except DnsError β}
    {middle : α → Prop} {holds : β → Prop} (before : Orderly middle first)
    (after : ∀ result, middle result → Orderly holds (next result)) :
    Orderly holds (first >>= next) := by
  cases first with
  | ok result => exact after result before
  | error reason => exact before

/-- What is made of a result. -/
theorem Orderly.map {first : Except DnsError α} {make : α → β} {holds : β → Prop}
    (before : Orderly (fun result => holds (make result)) first) :
    Orderly holds (first.map make) := by
  cases first with
  | ok result => exact before
  | error reason => exact before

/-- A weaker condition. -/
theorem Orderly.mono {result : Except DnsError α} {holds weaker : α → Prop}
    (before : Orderly holds result) (implies : ∀ result, holds result → weaker result) :
    Orderly weaker result := by
  cases result with
  | ok result => exact implies result before
  | error reason => exact before

/-- A check that bails out with a message. -/
theorem orderly_bailIf {condition : Prop} [Decidable condition] {reason : DnsError}
    (reported : reason.isReported = true) :
    Orderly (fun _ => ¬condition) (bailIf condition reason) := by
  unfold bailIf
  split
  · exact reported
  · rename_i passes
    exact passes

end Rules

section Steps

variable (message : Slice)

/-- A small sum. -/
theorem orderly_add {left right : Nat} (small : left + right < 2 ^ 64) :
    Orderly (fun sum => sum = left + right) (add left right) := by
  rw [add, if_pos small]
  rfl

/-- A checked position is inside the message. -/
theorem orderly_checkedIn (offset amount : Nat) (context : String) :
    Orderly (fun value => value = offset + amount ∧ value ≤ message.bytes.length)
      (checkedIn message offset amount context) := by
  unfold checkedIn checkedAdd
  split
  · rename_i value found
    split at found
    · rw [Option.filter_some] at found
      split at found
      · rename_i inside
        cases found
        exact ⟨rfl, of_decide_eq_true inside⟩
      · cases found
    · cases found
  · rfl

/-- Two bytes are read if they are there. -/
theorem orderly_readU16 {offset : Nat} (small : offset + 2 < 2 ^ 64) :
    Orderly (fun _ => offset + 2 ≤ message.bytes.length) (readU16 message offset) := by
  unfold readU16
  refine (orderly_add small).bind fun stop equal => ?_
  rw [equal]
  split
  · rename_i inside
    exact inside
  · rfl

/-- One byte is read where there is one. -/
theorem orderly_index {offset : Nat} (inside : offset < message.bytes.length) :
    Orderly (fun _ => True) (index message offset) := by
  rw [index, List.getElem?_eq_getElem inside]
  trivial

/-- Four bytes are read where they are. -/
theorem orderly_readV4 {offset : Nat} (inside : offset + 4 ≤ message.bytes.length) :
    Orderly (fun _ => True) (readV4 message offset) := by
  have fits := message.fits
  have later (steps : Nat) (few : steps < 4) :
      Orderly (fun position => position < message.bytes.length) (add offset steps) :=
    (orderly_add (by omega)).mono fun position equal => by omega
  unfold readV4
  refine (orderly_index message (by omega)).bind fun first _ => ?_
  refine (later 1 (by decide)).bind fun second reached => ?_
  refine (orderly_index message reached).bind fun second _ => ?_
  refine (later 2 (by decide)).bind fun third reached => ?_
  refine (orderly_index message reached).bind fun third _ => ?_
  refine (later 3 (by decide)).bind fun fourth reached => ?_
  exact (orderly_index message reached).bind fun fourth _ => trivial

/-- Sixteen bytes are read where they are. -/
theorem orderly_readV6 {start stop : Nat} (width : stop = start + 16)
    (inside : stop ≤ message.bytes.length) :
    Orderly (fun _ => True) (readV6 message start stop) := by
  have same : (Bytes.slice message.bytes start stop).length = 16 := by
    rw [Bytes.length_slice _ _ _ inside]
    omega
  rw [readV6, if_pos inside, dif_pos same]
  trivial

/-- A turn over a label moves on and stays inside. -/
theorem orderly_skipLabel (offset : Nat) :
    Orderly (fun turn => match turn with
        | .returned stop => stop ≤ message.bytes.length
        | .again stop => offset < stop ∧ stop ≤ message.bytes.length)
      (skipLabel message offset) := by
  unfold skipLabel
  cases here : message.bytes[offset]? with
  | none => rfl
  | some length =>
    have inside := (List.getElem?_eq_some_iff.mp here).1
    dsimp only
    split
    · exact ((orderly_checkedIn message offset 2 _).mono fun stop reached => reached.2).map
    · split
      · rfl
      · have fits := message.fits
        rw [checkedAdd, if_pos (by omega)]
        dsimp only
        split
        · exact inside
        · refine ((orderly_checkedIn message (offset + 1) length.toNat _).mono
            fun stop reached => ?_).map
          exact ⟨by omega, reached.2⟩

/-- With a turn for every byte that is left, the loop over a name comes to its end. -/
theorem orderly_skipLabels (fuel offset : Nat) (some : 0 < fuel)
    (enough : message.bytes.length < fuel + offset) :
    Orderly (fun stop => stop ≤ message.bytes.length) (skipLabels message fuel offset) := by
  induction fuel generalizing offset with
  | zero => exact absurd some (Nat.lt_irrefl 0)
  | succ fuel ih =>
    have turned := orderly_skipLabel message offset
    rw [skipLabels]
    cases result : skipLabel message offset with
    | error reason =>
      rw [result] at turned
      exact turned
    | ok turn =>
      rw [result] at turned
      cases turn with
      | returned stop => exact turned
      | again stop =>
        obtain ⟨moved, inside⟩ := turned
        exact ih stop (by omega) (by omega)

/-- A name ends inside the message. -/
theorem orderly_skipName (offset : Nat) :
    Orderly (fun stop => stop ≤ message.bytes.length) (skipName message offset) :=
  orderly_skipLabels message _ _ (Nat.succ_pos _) (by omega)

end Steps

section Loops

variable (response : Slice)

/-- The questions end inside the message. -/
theorem orderly_skipQuestions (questions : Nat) {offset : Nat}
    (start : offset ≤ response.bytes.length) :
    Orderly (fun stop => stop ≤ response.bytes.length)
      (skipQuestions response questions offset) := by
  induction questions generalizing offset with
  | zero => exact start
  | succ questions ih =>
    rw [skipQuestions]
    refine (orderly_skipName response offset).bind fun name _ => ?_
    exact (orderly_checkedIn response name 4 _).bind fun stop reached => ih reached.2

/-- An address is read if there is one. -/
theorem orderly_addIf {condition : Prop} [Decidable condition] {address : Except DnsError IpAddr}
    (addresses : List IpAddr) (read : condition → Orderly (fun _ => True) address) :
    Orderly (fun _ => True) (addIf condition address addresses) := by
  unfold addIf
  split
  · rename_i found
    exact (read found).map
  · trivial

/-- An answer ends inside the message. -/
theorem orderly_readAnswer (offset : Nat) (addresses : List IpAddr) :
    Orderly (fun read => read.1 ≤ response.bytes.length)
      (readAnswer response offset addresses) := by
  have fits := response.fits
  unfold readAnswer
  refine (orderly_skipName response offset).bind fun offset inside => ?_
  refine (orderly_readU16 response (by omega)).bind fun recordType _ => ?_
  refine (orderly_add (by omega)).bind fun classOffset equal => ?_
  refine (orderly_readU16 response (by omega)).bind fun recordClass _ => ?_
  refine (orderly_add (by omega)).bind fun lengthOffset equal => ?_
  refine (orderly_readU16 response (by omega)).bind fun dataLength _ => ?_
  refine (orderly_checkedIn response offset 10 _).bind fun dataOffset started => ?_
  refine (orderly_checkedIn response dataOffset dataLength.toNat _).bind fun nextOffset ended => ?_
  refine (orderly_addIf addresses fun found =>
    orderly_readV4 response (by omega)).bind fun addresses _ => ?_
  exact (orderly_addIf addresses fun found =>
    orderly_readV6 response (by omega) ended.2).bind fun addresses _ => ended.2

/-- The answers are read to their end. -/
theorem orderly_readAnswers (answers offset : Nat) (addresses : List IpAddr) :
    Orderly (fun _ => True) (readAnswers response answers offset addresses) := by
  induction answers generalizing offset addresses with
  | zero => trivial
  | succ answers ih =>
    rw [readAnswers]
    exact (orderly_readAnswer response offset addresses).bind fun read _ => ih read.1 read.2

/-- A header is read from twelve bytes. -/
theorem orderly_readHeader (queryId : UInt16) :
    Orderly (fun _ => 12 ≤ response.bytes.length) (readHeader response queryId) := by
  unfold readHeader
  refine (orderly_bailIf rfl).bind fun _ long => ?_
  refine (orderly_readU16 response (by decide)).bind fun responseId _ => ?_
  refine (orderly_bailIf rfl).bind fun _ same => ?_
  refine (orderly_readU16 response (by decide)).bind fun flags _ => ?_
  refine (orderly_bailIf rfl).bind fun _ answer => ?_
  refine (orderly_bailIf rfl).bind fun _ whole => ?_
  refine (orderly_bailIf rfl).bind fun _ status => ?_
  refine (orderly_readU16 response (by decide)).bind fun questions _ => ?_
  exact (orderly_readU16 response (by decide)).bind fun answers _ => Nat.not_lt.mp long

/-- An answer is read, or there is a message about what is wrong with it. -/
theorem orderly_parseResponse (queryId : UInt16) :
    Orderly (fun _ => True) (parseResponse response queryId) := by
  unfold parseResponse
  refine (orderly_readHeader response queryId).bind fun counts long => ?_
  refine (orderly_skipQuestions response counts.1 long).bind fun offset _ => ?_
  exact orderly_readAnswers response counts.2 offset []

end Loops

end Focsq.Dns
