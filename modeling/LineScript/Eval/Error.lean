import LineScript.Text.Escaped
import LineScript.Text.Unsigned

/-! ## Errors of running commands

A command fails when it calls a function that is not registered, refers to a variable that
is not bound, calls a function with the wrong number of arguments, closes a block that was
never opened, or when a host function fails for a reason of its own. The runner reports the
failure together with the 1-based number of the command.

Host failures compare by their text only, so two failures with the same text are the same
failure whatever raised them.
-/

namespace LineScript

/-- Failures that host functions raise. -/
inductive HostError where
  /-- `fail` was called; the text is its arguments joined by spaces. -/
  | failed (text : String)
  /-- `sleep` was given something that is not a number of milliseconds. -/
  | invalidDuration (value : String) (fault : NumberFault)
  /-- `pause` was given an empty token. -/
  | emptyPauseToken
  /-- Any other failure, known by its text. -/
  | other (text : String)
  deriving DecidableEq, Repr

namespace HostError

/-- The text of a host failure. -/
def message : HostError → String
  | .failed t => t
  | .invalidDuration v f => "invalid duration " ++ Text.escaped v ++ ": " ++ f.message
  | .emptyPauseToken => "pause token cannot be empty"
  | .other t => t

/-- The texts of the failures beneath this one, outermost first. -/
def causes : HostError → List String
  | .invalidDuration _ f => [f.message]
  | _ => []

end HostError

/-- Why a command failed. -/
inductive CommandError where
  | noSuchFunction (name : String)
  | noSuchVariable (name : String)
  | arguments
  | strayEndif
  | host (e : HostError)
  deriving DecidableEq, Repr

namespace CommandError

/-- The text of a command failure. -/
def message : CommandError → String
  | .noSuchFunction n => "No such function: " ++ Text.escaped n
  | .noSuchVariable n => "No such variable: " ++ Text.escaped n
  | .arguments => "Invalid number of arguments"
  | .strayEndif => "Stray endif"
  | .host e => e.message

/-- The texts of the failures beneath this one (a host failure stands for its own). -/
def causes : CommandError → List String
  | .host e => e.causes
  | _ => []

/-- Whether two failures are the same: host failures by their text, the others by cause
and name. -/
def same : CommandError → CommandError → Bool
  | .host a, .host b => a.message = b.message
  | a, b => a = b

end CommandError

/-- A failed command of a script, with its 1-based number. -/
structure ExecutionError where
  command : Nat
  cause : CommandError
  deriving DecidableEq, Repr

namespace ExecutionError

/-- The text of an execution error. -/
def message (e : ExecutionError) : String :=
  "Error raised while executing the script (command " ++ toString e.command ++ "): " ++
    e.cause.message

/-- Whether two execution errors are the same: same command and the same failure. -/
def same (a b : ExecutionError) : Bool := a.command = b.command && a.cause.same b.cause

end ExecutionError

end LineScript
