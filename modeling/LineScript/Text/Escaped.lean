import LineScript.Text.Hidden

/-! ## Escaped text

Messages show names and lines as escaped text: the text in double quotes, with a backslash
before `"` and `\`, the short escapes `\0`, `\t`, `\r`, `\n`, and every hidden character
(`LineScript.Text.isHidden`) written as `\u{hex}` in lower-case hexadecimal. All other
characters, including non-ASCII letters and the single quote, stand as they are.
-/

namespace LineScript.Text

/-- Lower-case hexadecimal digits of `n`, without leading zeros. -/
def hexDigits (n : Nat) : String :=
  String.ofList (Nat.toDigits 16 n)

/-- How one character is written inside escaped text. -/
def escapeChar (c : Char) : String :=
  if c = '\x00' then "\\0"
  else if c = '\t' then "\\t"
  else if c = '\r' then "\\r"
  else if c = '\n' then "\\n"
  else if c = '\\' then "\\\\"
  else if c = '"' then "\\\""
  else if isHidden c then "\\u\x7b" ++ hexDigits c.toNat ++ "\x7d"
  else c.toString

/-- The text `s` in double quotes, each character written by `escapeChar`. -/
def escaped (s : String) : String :=
  "\"" ++ String.join (s.toList.map escapeChar) ++ "\""

end LineScript.Text
