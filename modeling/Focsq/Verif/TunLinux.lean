import Focsq.Backend.TunLinux

/-!
# The walk over messages of the kernel

The walk never reads behind what was received. It ends if and only if no header that it comes to
gives a length of zero: such a message is looked at again and again.
-/

namespace Focsq.TunLinux

/-- Where the headers are: each is as far behind the one before as the length in that one says. -/
inductive HeaderAt (received : List UInt8) : Nat → Prop where
  /-- The first one is at the start. -/
  | first : HeaderAt received 0
  /-- The one behind a message that is no error. -/
  | next {offset : Nat} {header : NlMsgHeader} (before : HeaderAt received offset)
    (read : readHeader received offset = some header)
    (noError : isError received offset header = false) :
    HeaderAt received (offset + nlmsgAlign header.length.toNat)

/-- Every header that was received says that its message has a length. -/
def NoEmptyHeader (received : List UInt8) : Prop :=
  ∀ offset header, HeaderAt received offset → readHeader received offset = some header →
    header.length ≠ 0

variable {received : List UInt8} {offset : Nat} {header : NlMsgHeader}

/-- A header that is read was received. -/
theorem inside_of_readHeader (read : readHeader received offset = some header) :
    offset + sizeOfHeader ≤ received.length := by
  unfold readHeader at read
  split at read
  · assumption
  · cases read

/-- The code of an error was received. -/
theorem inside_of_isError (error : isError received offset header = true) :
    offset + sizeOfHeader + 4 ≤ received.length := by
  unfold isError at error
  rw [Bool.and_eq_true] at error
  exact of_decide_eq_true error.2

/-- What a turn of the walk can do. -/
theorem walkTurn_cases (received : List UInt8) (offset : Nat) :
    walkTurn received offset = .done .finished ∨
      (∃ code, walkTurn received offset =
        .done (if code = 0 then .acknowledged else .refused code)) ∨
      ∃ header, readHeader received offset = some header ∧
        isError received offset header = false ∧
        walkTurn received offset = .again (offset + nlmsgAlign header.length.toNat) := by
  unfold walkTurn
  split
  · rename_i inside
    have read : ∃ header, readHeader received offset = some header :=
      ⟨_, if_pos inside⟩
    obtain ⟨header, read⟩ := read
    rw [read]
    dsimp only
    cases error : isError received offset header with
    | true =>
      have code : ∃ code, readCode received (offset + sizeOfHeader) = some code :=
        ⟨_, if_pos (inside_of_isError error)⟩
      obtain ⟨code, read⟩ := code
      rw [if_pos rfl, read]
      exact .inr (.inl ⟨code, rfl⟩)
    | false =>
      rw [if_neg Bool.false_ne_true]
      exact .inr (.inr ⟨header, rfl, error, rfl⟩)
  · exact .inl rfl

/-- A message that is no error is walked over. -/
theorem walkTurn_again (read : readHeader received offset = some header)
    (noError : isError received offset header = false) :
    walkTurn received offset = .again (offset + nlmsgAlign header.length.toNat) := by
  rw [walkTurn, if_pos (inside_of_readHeader read), read]
  dsimp only
  rw [noError, if_neg Bool.false_ne_true]

/-- The walk goes from one header to the next. -/
theorem reached_iff : Loops.Reached (walkTurn received) 0 offset ↔ HeaderAt received offset := by
  constructor
  · intro reached
    induction reached with
    | start => exact .first
    | @next state next _ again ih =>
      rcases walkTurn_cases received state with finished | ⟨code, answered⟩ | ⟨header, read, noError, on⟩
      · rw [finished] at again
        cases again
      · rw [answered] at again
        cases again
      · rw [on] at again
        cases again
        exact ih.next read noError
  · intro headers
    induction headers with
    | first => exact .start
    | next _ read noError ih => exact ih.next (walkTurn_again read noError)

/-- No message of a positive length is empty. -/
theorem nlmsgAlign_pos {length : Nat} (positive : 0 < length) : 0 < nlmsgAlign length := by
  unfold nlmsgAlign
  omega

/-- A message without a length is no error. -/
theorem isError_zero (empty : header.length = 0) : isError received offset header = false := by
  rw [isError, empty]
  have short : decide (sizeOfHeader + 4 ≤ (0 : UInt32).toNat) = false := rfl
  rw [short, Bool.and_false, Bool.false_and]

/-- The walk stays where it is at a header without a length. -/
theorem walkTurn_stuck (read : readHeader received offset = some header)
    (empty : header.length = 0) : walkTurn received offset = .again offset := by
  rw [walkTurn_again read (isError_zero empty), empty]
  rfl

/-- No result of the walk is a read behind what was received. -/
theorem walk_inside {fuel : Nat} : walk received fuel ≠ some .outside := by
  have inside : ∀ offset result, walkTurn received offset = .done result →
      result ≠ Walk.outside := by
    intro offset result made
    rcases walkTurn_cases received offset with finished | ⟨code, answered⟩ | ⟨header, _, _, on⟩
    · rw [finished] at made
      cases made
      exact Walk.noConfusion
    · rw [answered] at made
      cases made
      split <;> exact Walk.noConfusion
    · rw [on] at made
      cases made
  intro outside
  have different : Walk.outside ≠ Walk.outside := Loops.run_result inside outside
  exact different rfl

/-- The walk stays inside what was received, and it ends if no header that it comes to is without a
length, and only then. -/
theorem walk_ends_iff (received : List UInt8) :
    ((∃ fuel, (walk received fuel).isSome = true) ∧
        ∀ fuel, walk received fuel ≠ some .outside) ↔ NoEmptyHeader received := by
  have turns : ∀ offset next, Loops.Reached (walkTurn received) 0 offset →
      walkTurn received offset = .again next →
      next = offset ∨ received.length + 1 - next < received.length + 1 - offset := by
    intro offset next _ again
    rcases walkTurn_cases received offset with finished | ⟨code, answered⟩ | ⟨header, read, _, on⟩
    · rw [finished] at again
      cases again
    · rw [answered] at again
      cases again
    · rw [on] at again
      cases again
      have inside := inside_of_readHeader read
      omega
  rw [and_iff_left fun fuel => walk_inside]
  unfold walk
  rw [Loops.ends_iff (fun offset => received.length + 1 - offset) turns]
  constructor
  · intro moves offset header headers read empty
    exact moves offset (reached_iff.mpr headers) (walkTurn_stuck read empty)
  · intro lengths offset reached stuck
    rcases walkTurn_cases received offset with finished | ⟨code, answered⟩ | ⟨header, read, _, on⟩
    · rw [finished] at stuck
      cases stuck
    · rw [answered] at stuck
      cases stuck
    · have some := lengths offset header (reached_iff.mp reached) read
      have positive : 0 < header.length.toNat :=
        Nat.pos_of_ne_zero fun zero => some (UInt32.toNat_inj.mp zero)
      have moved := nlmsgAlign_pos positive
      rw [on] at stuck
      have same := Loops.Turn.again.inj stuck
      omega

/-- Sixteen zeros are a header without a length, and the walk does not end. -/
theorem walk_endless :
    ¬∀ received : List UInt8, ∃ fuel, (walk received fuel).isSome = true := by
  intro always
  obtain ⟨fuel, ends⟩ := always (List.replicate 16 0)
  have stuck : walkTurn (List.replicate 16 0) 0 = .again 0 := walkTurn_stuck (by rfl) (by rfl)
  rw [walk, Loops.run_stuck stuck] at ends
  cases ends

end Focsq.TunLinux
