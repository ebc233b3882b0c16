import LineScript.Syntax.Word

/-! ## Commands and scripts

A script is a list of commands, one per line. A command is a call of a named function
with arguments, an assignment of a command's result to a variable, or one of the three
block lines `if`, `else` and `endif`. An argument is a fixed text or a variable reference.

Each command is written back as one line (`Command.render`): names and literals through
`Word.quote`, a literal that starts with `$` with one more `$` in front, a variable
reference as `$` and its name.
-/

namespace LineScript

/-- An argument of a call: a fixed text, or the value of a variable when the call runs. -/
inductive Argument where
  | literal (value : String)
  | var (name : String)
  deriving DecidableEq, Repr

/-- One line of a script. -/
inductive Command where
  /-- `name arg...`: call a function. -/
  | call (function : String) (args : List Argument)
  /-- `name = command`: run the command and keep its result in a variable. -/
  | assign (target : String) (command : Command)
  /-- `if command`: open a block that runs when the command's result holds. -/
  | ifLine (condition : Command)
  /-- `else`: switch to the other branch of the innermost block. -/
  | elseLine
  /-- `endif`: close the innermost block. -/
  | endifLine
  deriving DecidableEq, Repr

/-- A script: its commands in order, the first being command 1. -/
structure Script where
  commands : List Command
  deriving DecidableEq, Repr

namespace Command

/-- The command a blank line stands for: a call of `nop` without arguments. -/
def nop : Command := .call "nop" []

/-- The block lines `if`, `else` and `endif`, which run even inside a skipped block. -/
def isBlockLine : Command → Bool
  | .ifLine _ | .elseLine | .endifLine => true
  | _ => false

end Command

/-- How an argument is written in a line. -/
def Argument.render : Argument → String
  | .literal v => if v.startsWith "$" then Word.quote ("$" ++ v) else Word.quote v
  | .var n => Word.quote ("$" ++ n)

/-- How a command is written as one line. -/
def Command.render : Command → String
  | .call f args => Word.quote f ++ String.join (args.map fun a => " " ++ a.render)
  | .assign v c => Word.quote v ++ " = " ++ c.render
  | .ifLine c => "if " ++ c.render
  | .elseLine => "else"
  | .endifLine => "endif"

namespace Script

/-- The number of commands. -/
def size (s : Script) : Nat := s.commands.length

/-- The command at a 0-based position, if there is one. -/
def get? (s : Script) (i : Nat) : Option Command := s.commands[i]?

/-- The script as text: the lines of its commands joined by line feeds. -/
def render (s : Script) : String :=
  "\n".intercalate (s.commands.map Command.render)

end Script

end LineScript
