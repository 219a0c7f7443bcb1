import Focsq.Lib.Text

/-!
# The page of a captcha

A page of a captcha assigns a JSON object to `window.init`. `captcha.rs` takes this object out of
the page by counting braces, without those in strings.
-/

namespace Focsq.Captcha

/-- Why there is no object. -/
inductive InitError where
  /-- `bail!` with its message. -/
  | message (text : String)
  /-- A depth below zero. -/
  | underflow
  deriving DecidableEq

/-- The variables of the loop of `extract_window_init`. -/
structure Scan where
  /-- `depth`. -/
  depth : Nat
  /-- `in_string`. -/
  inString : Bool
  /-- `escaped`. -/
  escaped : Bool
  deriving DecidableEq

/-- What a turn of the loop leads to. -/
inductive Scanned where
  /-- The next character. -/
  | again (state : Scan)
  /-- The object ends here. -/
  | returned
  /-- `depth -= 1` at zero. -/
  | underflow
  deriving DecidableEq

/-- A turn of the loop. -/
def Scan.turn (state : Scan) (character : Char) : Scanned :=
  if state.inString then
    if state.escaped then .again { state with escaped := false }
    else if character = '\\' then .again { state with escaped := true }
    else if character = '"' then .again { state with inString := false }
    else .again state
  else if character = '"' then .again { state with inString := true }
  else if character = '\x7b' then .again { state with depth := state.depth + 1 }
  else if character = '\x7d' then
    if state.depth = 0 then .underflow
    else if state.depth - 1 = 0 then .returned
    else .again { state with depth := state.depth - 1 }
  else .again state

/-- The text up to the character where the loop returns. -/
def Scan.run (state : Scan) : Text → Except InitError Text
  | [] => .error (.message "unbalanced braces in captcha init json")
  | character :: rest =>
    match state.turn character with
    | .again next => (run next rest).map (character :: ·)
    | .returned => .ok [character]
    | .underflow => .error .underflow

/-- `window.init`. -/
def windowInit : Text := "window.init".toList

/-- `extract_window_init`. -/
def extractWindowInit (html : Text) : Except InitError Text :=
  match Text.indexOf windowInit html with
  | none => .error (.message "window.init token not found")
  | some token =>
    let behind := html.drop (token + windowInit.length)
    match Text.indexOf ['\x7b'] behind with
    | none => .error (.message "captcha init json start brace not found")
    | some offset => Scan.run ⟨0, false, false⟩ (behind.drop offset)

end Focsq.Captcha
