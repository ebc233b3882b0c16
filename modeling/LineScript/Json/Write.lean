import LineScript.Json.Value
import LineScript.Text.Escaped

/-! ## Writing JSON

Two layouts of one grammar: compact (no blanks at all) and pretty (each item of a non-empty
array or object on its own line, indented by two spaces per level, `": "` after a key).
Empty arrays and objects are `[]` and `{}` in both.

In strings a backslash goes before `"` and `\`; backspace, form feed, line feed, carriage
return and tab have their short escapes; the other characters below U+0020 are written as
`\u00xx` in lower-case hexadecimal; all other characters, non-ASCII included, stand as they
are.
-/

namespace LineScript.Json

/-- How one character is written inside a JSON string. -/
def escapeChar (c : Char) : String :=
  if c = '"' then "\\\""
  else if c = '\\' then "\\\\"
  else if c = '\x08' then "\\b"
  else if c = '\x0c' then "\\f"
  else if c = '\n' then "\\n"
  else if c = '\r' then "\\r"
  else if c = '\t' then "\\t"
  else if c.toNat < 0x20 then
    "\\u00" ++ (if c.toNat < 0x10 then "0" else "") ++ Text.hexDigits c.toNat
  else c.toString

/-- A JSON string literal for `s`. -/
def quote (s : String) : String :=
  "\"" ++ String.join (s.toList.map escapeChar) ++ "\""

mutual

/-- The compact text of a value. -/
def compact : Json → String
  | .null => "null"
  | .bool b => if b then "true" else "false"
  | .str s => quote s
  | .arr items => "[" ++ compactItems items ++ "]"
  | .obj fields => "\x7b" ++ compactFields fields ++ "\x7d"

/-- The compact text of array items, separated by commas. -/
def compactItems : List Json → String
  | [] => ""
  | [v] => compact v
  | v :: rest => compact v ++ "," ++ compactItems rest

/-- The compact text of object fields, separated by commas. -/
def compactFields : List (String × Json) → String
  | [] => ""
  | [(k, v)] => quote k ++ ":" ++ compact v
  | (k, v) :: rest => quote k ++ ":" ++ compact v ++ "," ++ compactFields rest

end

/-- The blanks that start a line at nesting depth `depth`. -/
def indent (depth : Nat) : String :=
  String.ofList (List.replicate (2 * depth) ' ')

mutual

/-- The pretty text of a value whose first line stands at nesting depth `depth`. -/
def pretty (depth : Nat) : Json → String
  | .null => "null"
  | .bool b => if b then "true" else "false"
  | .str s => quote s
  | .arr [] => "[]"
  | .arr items => "[\n" ++ prettyItems (depth + 1) items ++ "\n" ++ indent depth ++ "]"
  | .obj [] => "\x7b\x7d"
  | .obj fields =>
    "\x7b\n" ++ prettyFields (depth + 1) fields ++ "\n" ++ indent depth ++ "\x7d"

/-- Array items, one per line at depth `depth`. -/
def prettyItems (depth : Nat) : List Json → String
  | [] => ""
  | [v] => indent depth ++ pretty depth v
  | v :: rest => indent depth ++ pretty depth v ++ ",\n" ++ prettyItems depth rest

/-- Object fields, one per line at depth `depth`. -/
def prettyFields (depth : Nat) : List (String × Json) → String
  | [] => ""
  | [(k, v)] => indent depth ++ quote k ++ ": " ++ pretty depth v
  | (k, v) :: rest =>
    indent depth ++ quote k ++ ": " ++ pretty depth v ++ ",\n" ++ prettyFields depth rest

end

end LineScript.Json
