import LineScript.Syntax.Word

/-! ## Syntax errors

A line fails to read when its words cannot be split, when a command is required and none is
given (after `if` or `name =`), or when `else` or `endif` has words after it. A script fails
at its first such line, and the error names that line by its 1-based number.
-/

namespace LineScript

/-- Why one line is not a command. -/
inductive SyntaxError where
  /-- The words of the line cannot be split. -/
  | words (error : WordError)
  /-- A command was required and the line ended. -/
  | emptyCommand
  /-- `else` or `endif` followed by more words. -/
  | misusedKeyword (keyword : String)
  deriving DecidableEq, Repr

/-- The text of a syntax error. -/
def SyntaxError.message : SyntaxError → String
  | .words e => e.message
  | .emptyCommand => "Command cannot be empty"
  | .misusedKeyword k => "Invalid usage of builtin command: " ++ k

/-- A syntax error on a line of a script, with the line's 1-based number. -/
structure ParseError where
  line : Nat
  cause : SyntaxError
  deriving DecidableEq, Repr

/-- The text of a parse error. -/
def ParseError.message (e : ParseError) : String :=
  "Parse error (line " ++ toString e.line ++ "): " ++ e.cause.message

end LineScript
