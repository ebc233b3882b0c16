import LineScript.Syntax.Command
import LineScript.Json.Value

/-! ## Scripts as JSON

The syntax tree of a script as a JSON array of commands. A command is an object whose
`kind` field comes first: `call` with `function` and `arguments`, `assignment` with
`variable` and `command`, `if` with `condition`, and `else` and `endif` alone. An argument
is `{"kind": "literal" | "variable", "value": text}`.
-/

namespace LineScript

/-- An argument as JSON. -/
def Argument.toJson : Argument → Json
  | .literal v => .obj [("kind", .str "literal"), ("value", .str v)]
  | .var n => .obj [("kind", .str "variable"), ("value", .str n)]

/-- A command as JSON. -/
def Command.toJson : Command → Json
  | .call f args =>
    .obj [("kind", .str "call"), ("function", .str f), ("arguments", .arr (args.map Argument.toJson))]
  | .assign v c => .obj [("kind", .str "assignment"), ("variable", .str v), ("command", c.toJson)]
  | .ifLine c => .obj [("kind", .str "if"), ("condition", c.toJson)]
  | .elseLine => .obj [("kind", .str "else")]
  | .endifLine => .obj [("kind", .str "endif")]

/-- A script as a JSON array of its commands. -/
def Script.toJson (s : Script) : Json :=
  .arr (s.commands.map Command.toJson)

end LineScript
