import Focsq.Frontend.VkToken
import Focsq.Lib.Mealy

/-!
# The token store as one register

A token can be found in the secure storage and in the file. A save and a delete clean up the one
that they do not write to only on some branches. As long as they leave no other token there, the
store behaves as a register; otherwise the next read can return what was to be replaced.
-/

namespace Focsq.VkToken

section Statement

/-- The token that one of the two contains, if any. -/
def tokenIn (content : Option Text) : Option Text :=
  if (content.getD []).trim.isEmpty then none else some (content.getD []).trim

/-- What is known of the token. -/
inductive Register where
  /-- Nothing. -/
  | unknown
  /-- It is this one, or there is none. -/
  | holds (token : Option Text)
  deriving DecidableEq

/-- What is known after a call. -/
def Register.after (register : Register) : Operation → Result → Register
  | .save token, .saved none => .holds (some token.trim)
  | .delete, .deleted true => .holds none
  | .readWithStatus, .read _ => register
  | _, _ => .unknown

/-- A call on the store, beside what is known. -/
def observe (linux : Bool) (state : Store × Register) (call : Operation × Failures) :
    (Store × Register) × Result :=
  (((state.1.step linux call).1, state.2.after call.1 (state.1.step linux call).2),
    (state.1.step linux call).2)

end Statement

section Read

/-- What can be found in the store. -/
def Store.Offers (store : Store) (token : Text) : Prop :=
  tokenIn store.secure = some token ∨ tokenIn store.file = some token

/-- The secure storage cannot be used. -/
def Failures.onlyFile : Failures :=
  { Failures.never with
    secureRead := some (.platform "KeyringLocked".toList none)
    secureWrite := some (.platform "KeyringLocked".toList none) }

end Read

section Write

end Write

section Run

/-- A token is saved to the file while the secure storage cannot be used. Another one is saved to the
secure storage, and the file is deleted. -/
def replacedRun : List (Operation × Failures) :=
  [(.save " old ".toList, .onlyFile), (.save "new".toList, .never), (.readWithStatus, .onlyFile)]

end Run

end Focsq.VkToken
