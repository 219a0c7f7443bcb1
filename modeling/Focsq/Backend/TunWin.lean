import Focsq.Lib.Text

/-!
# Starting programs of Windows

`tun_win.rs` starts the programs that set the tunnel up. Windows passes one command line to a
program, so the arguments are quoted and joined by spaces.
-/

namespace Focsq.TunWin

/-- The loop of `quote_arg` over the characters. -/
def quoteLoop (out : Text) (backslashes : Nat) : Text → Text
  | [] => out ++ List.replicate (backslashes * 2) '\\' ++ ['"']
  | char :: rest =>
    if char = '\\' then quoteLoop out (backslashes + 1) rest
    else if char = '"' then
      quoteLoop (out ++ List.replicate (backslashes * 2 + 1) '\\' ++ ['"']) 0 rest
    else quoteLoop (out ++ List.replicate backslashes '\\' ++ [char]) 0 rest

/-- `quote_arg`. -/
def quoteArg (arg : Text) : Text :=
  if !arg.isEmpty && !arg.any fun char => char == ' ' || char == '"' || char == '\t' then arg
  else quoteLoop ['"'] 0 arg

/-- The `command_line` of `run`. -/
def commandLine (command : Text) (args : List Text) : Text :=
  [' '].intercalate (quoteArg command :: args.map quoteArg)

/-- `wide` — a text with a zero behind it. -/
def wide (text : Text) : Text := text ++ ['\x00']

/-- What is read of a text with a zero behind it. -/
def untilZero (text : Text) : Text := text.takeWhile (· != '\x00')

end Focsq.TunWin
