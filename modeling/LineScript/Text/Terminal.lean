/-! ## Styled terminal text

Text meant for a terminal is a list of pieces, each with a look (`Look`): headings are bold
and underlined, literal names bold, errors bold and red, good values green, bad values
yellow, and the rest plain. Rendering puts the escape codes of a look before its piece and a
reset after it; a plain piece gets no codes at all.

When the text goes somewhere other than a terminal, the escape sequences are taken out again
(`strip`), and with them every sequence that the pieces themselves hold. Stripping follows a
terminal's parser, which reads the bytes of the text: an escape character starts a sequence,
`[` makes it a control sequence that runs to its final character (`@` to `~`), `]` an
operating-system command that runs to a bell or to the next escape, `P` a device control
string and `X`, `^` or `_` a private string, which run to the next escape; cancel and
substitute end any sequence. The byte 0x9C (the string terminator) also ends a private
string or the body of a device control string, even where it is one of the bytes that
encode a character. Outside sequences the printable characters stay, and of the control
characters only tab, line feed, form feed and carriage return, which also stay when they
come inside an escape or control sequence and end it; delete goes.
-/

namespace LineScript.Text

/-- How a piece of terminal text looks. -/
inductive Look where
  | plain
  | header
  | error
  | literal
  | valid
  | invalid
  deriving DecidableEq, Repr

/-- The escape codes that switch a look on. -/
def Look.codes : Look → String
  | .plain => ""
  | .header => "\x1b[1m\x1b[4m"
  | .error => "\x1b[1m\x1b[31m"
  | .literal => "\x1b[1m"
  | .valid => "\x1b[32m"
  | .invalid => "\x1b[33m"

/-- Terminal text: pieces, each with its look. -/
structure Styled where
  pieces : List (Look × String)
  deriving DecidableEq, Repr

namespace Styled

/-- Plain text. -/
def text (s : String) : Styled := ⟨[(.plain, s)]⟩

/-- Text with a look. -/
def styled (l : Look) (s : String) : Styled := ⟨[(l, s)]⟩

instance : Append Styled := ⟨fun a b => ⟨a.pieces ++ b.pieces⟩⟩

instance : EmptyCollection Styled := ⟨⟨[]⟩⟩

/-- The pieces one after another. -/
def join (xs : List Styled) : Styled := ⟨xs.flatMap Styled.pieces⟩

/-- The pieces with `sep` between each two. -/
def intercalate (sep : Styled) : List Styled → Styled
  | [] => ⟨[]⟩
  | x :: xs => join (x :: xs.map (sep ++ ·))

/-- The text without its looks. -/
def plainText (s : Styled) : String := String.join (s.pieces.map Prod.snd)

/-- The text with the escape codes of its looks; every piece with a look is followed by a
reset. -/
def render (s : Styled) : String :=
  String.join (s.pieces.map fun (l, t) =>
    if l = .plain then t else l.codes ++ t ++ "\x1b[0m")

end Styled

/-- Where a terminal's parser stands between characters. -/
inductive Sequence where
  /-- Outside any sequence. -/
  | ground
  /-- After an escape character. -/
  | escape
  /-- After an escape character and intermediate characters (` ` to `/`). -/
  | escapeIntermediate
  /-- Inside a control sequence (after `ESC [`). -/
  | control
  /-- Inside an operating-system command (after `ESC ]`). -/
  | command
  /-- Just after `ESC P`, at the start of a device control string. -/
  | deviceEntry
  /-- Among the parameters of a device control string. -/
  | deviceParameters
  /-- Among the intermediate characters of a device control string. -/
  | deviceIntermediate
  /-- In the body of a device control string. -/
  | deviceBody
  /-- Inside a private string (after `ESC X`, `ESC ^` or `ESC _`). -/
  | string
  deriving DecidableEq, Repr

/-- Control characters that are kept: tab, line feed, form feed, carriage return. -/
def isKeptControl (c : Char) : Bool :=
  c = '\t' || c = '\n' || c = '\x0c' || c = '\r'

/-- Whether `c` is a control character that a parser carries out where it stands (all below
U+0020 but cancel, substitute and escape). -/
def isExecuted (c : Char) : Bool :=
  c.toNat < 0x20 && c ≠ '\x18' && c ≠ '\x1a' && c ≠ '\x1b'

/-- The six-bit groups that the continuation bytes of the UTF-8 encoding of code point `n`
carry, first to last; each such byte is `0x80` plus its group. -/
def continuationGroups (n : Nat) : List Nat :=
  if n < 0x80 then []
  else if n < 0x800 then [n % 64]
  else if n < 0x10000 then [n / 64 % 64, n % 64]
  else [n / 4096 % 64, n / 64 % 64, n % 64]

/-- Whether the UTF-8 encoding of `c` holds the byte 0x9C, the string terminator. -/
def holdsTerminator (c : Char) : Bool := (continuationGroups c.toNat).contains 0x1C

/-- One character through the parser: the state after it, and the character if it is shown.
A character beyond ASCII is shown outside sequences; inside them its bytes are ignored,
except that a string terminator among them ends a private string or a device control
string's body. -/
def Sequence.step (s : Sequence) (c : Char) : Sequence × Option Char :=
  let n := c.toNat
  if c = '\x18' || c = '\x1a' then (.ground, none)
  else if c = '\x1b' then (.escape, none)
  else if n ≥ 0x80 then
    match s with
    | .ground => (.ground, some c)
    | .string | .deviceBody => (if holdsTerminator c then .ground else s, none)
    | _ => (s, none)
  else match s with
    | .ground =>
      if isExecuted c then (.ground, if isKeptControl c then some c else none)
      else if c = '\x7f' then (.ground, none)
      else (.ground, some c)
    | .escape =>
      if isExecuted c then (if isKeptControl c then (.ground, some c) else (.escape, none))
      else if c = '\x7f' then (.escape, none)
      else if n ≤ 0x2f then (.escapeIntermediate, none)
      else if c = '[' then (.control, none)
      else if c = ']' then (.command, none)
      else if c = 'P' then (.deviceEntry, none)
      else if c = 'X' || c = '^' || c = '_' then (.string, none)
      else (.ground, none)
    | .escapeIntermediate =>
      if isExecuted c then
        (if isKeptControl c then (.ground, some c) else (.escapeIntermediate, none))
      else if c = '\x7f' || n ≤ 0x2f then (.escapeIntermediate, none)
      else (.ground, none)
    | .control =>
      if isExecuted c then (if isKeptControl c then (.ground, some c) else (.control, none))
      else if 0x40 ≤ n && n ≤ 0x7e then (.ground, none)
      else (.control, none)
    | .command => if c = '\x07' then (.ground, none) else (.command, none)
    | .deviceEntry =>
      if n < 0x20 || c = '\x7f' then (.deviceEntry, none)
      else if n ≤ 0x2f then (.deviceIntermediate, none)
      else if n ≤ 0x3f then (.deviceParameters, none)
      else (.deviceBody, none)
    | .deviceParameters =>
      if n < 0x20 || c = '\x7f' then (.deviceParameters, none)
      else if n ≤ 0x2f then (.deviceIntermediate, none)
      else if n ≤ 0x3b then (.deviceParameters, none)
      else (.deviceBody, none)
    | .deviceIntermediate =>
      if n < 0x20 || c = '\x7f' || n ≤ 0x2f then (.deviceIntermediate, none)
      else (.deviceBody, none)
    | .deviceBody => (.deviceBody, none)
    | .string => (.string, none)

/-- The characters of `cs` that a terminal would show, from parser state `s`. -/
def Sequence.shown (s : Sequence) : List Char → List Char
  | [] => []
  | c :: cs =>
    let (s', out) := s.step c
    match out with
    | some d => d :: Sequence.shown s' cs
    | none => Sequence.shown s' cs

/-- Text with its escape sequences and other control characters taken out, as written to
something that is not a terminal. -/
def strip (t : String) : String := String.ofList (Sequence.ground.shown t.toList)

/-- Styled text as written to something that is not a terminal. -/
def Styled.toPlain (s : Styled) : String := strip s.render

end LineScript.Text
