import LineScript.Syntax.Command
import LineScript.Syntax.Error

/-! ## Reading scripts

Every line is read on its own into one command:

* a line without words is `nop`;
* `if` takes the command made of the remaining words as its condition;
* `else` and `endif` stand alone;
* `NAME = ...` assigns the command made of the words after `=`;
* otherwise the first word names a function and the others are its arguments, where `$$x`
  is the literal `$x`, `$x` refers to the variable `x`, and any other word is a literal.

Quoting only groups characters, so a quoted `"$x"` is still a variable reference. A script
is read line by line, splitting at line feeds only, and stops at the first bad line.
-/

namespace LineScript

/-- The argument a word stands for. -/
def Argument.ofWord (w : String) : Argument :=
  if w.startsWith "$$" then .literal (String.ofList (w.toList.drop 1))
  else if w.startsWith "$" then .var (String.ofList (w.toList.drop 1))
  else .literal w

/-- The command made of a list of words, or why there is none. -/
def Command.ofWords : List String → Except SyntaxError Command
  | [] => .error .emptyCommand
  | head :: rest =>
    if head = "if" then (Command.ofWords rest).map .ifLine
    else if head = "else" then
      if rest.isEmpty then .ok .elseLine else .error (.misusedKeyword "else")
    else if head = "endif" then
      if rest.isEmpty then .ok .endifLine else .error (.misusedKeyword "endif")
    else
      match rest with
      | "=" :: more => (Command.ofWords more).map (.assign head)
      | _ => .ok (.call head (rest.map Argument.ofWord))

/-- The command one line stands for; a line without words is `nop`. -/
def Command.ofLine (line : String) : Except SyntaxError Command :=
  match Word.split line with
  | .error e => .error (.words e)
  | .ok [] => .ok .nop
  | .ok ws => Command.ofWords ws

/-- Reads numbered lines, the first being line `n`, stopping at the first bad one. -/
def Script.readLines (n : Nat) : List String → Except ParseError (List Command)
  | [] => .ok []
  | line :: rest =>
    match Command.ofLine line with
    | .error cause => .error { line := n, cause }
    | .ok c => (Script.readLines (n + 1) rest).map (c :: ·)

/-- Reads a script: one command for each line, lines being split at line feeds only. -/
def Script.parse (source : String) : Except ParseError Script :=
  (Script.readLines 1 ((source.toList.splitOn '\n').map String.ofList)).map Script.mk

end LineScript
