import LineScript.Text.Letters

/-! ## Patterns

Which regular expressions the log filter accepts as field values. A pattern is accepted when
it is well formed and every part of it can be compiled by an engine that has no Unicode
tables. The syntax is the usual one: literals, `.`, `^`, `$`, escapes, classes in brackets
(with nested classes, `[:name:]` classes and the set operations `&&`, `--`, `~~`), groups
(capturing, named with `(?P<name>` or `(?<name>`, or with flags `(?flags:` ), flag settings
`(?flags)`, alternation, and the repetitions `?`, `*`, `+` and `{m}`, `{m,}`, `{m,n}`, each
possibly followed by `?`. Back-references and look-around are refused.

Without Unicode tables, Unicode mode (the default, flag `u`) refuses every construct that
needs them: the classes `\p`, `\P`, `\d`, `\s`, `\w` and their complements, the word
boundaries (`\b`, `\B`, `\<`, `\>` and `\b{...}`), and case-insensitive matching (flag `i`)
of any literal or any class that is not empty. Outside Unicode mode the pattern still has to
match only UTF-8 text, so `.`, the complemented classes, bytes above ASCII written `\xNN`,
and classes that hold bytes above ASCII are refused; `\p` is refused there too.

The pattern is read one character at a time. Flags hold until the end of the group that sets
them. With flag `x`, white space and `#` comments are skipped between items. A repetition
needs something before it: not the start of the pattern or of a group, not `|`, and not a
flag setting. Size limits of the compiled automaton are not modelled.
-/

namespace LineScript.Pattern

open Text

/-- The flags in force at a point of a pattern. -/
structure Flags where
  /-- Unicode mode (flag `u`). -/
  unicode : Bool
  /-- Case-insensitive matching (flag `i`). -/
  caseless : Bool
  /-- White space and comments are skipped (flag `x`). -/
  spaces : Bool
  deriving DecidableEq, Repr

/-- The flags at the start of a pattern: Unicode mode only. -/
def Flags.initial : Flags := ⟨true, false, false⟩

/-- The flags after a flag letter is set (`on`) or cleared. -/
def Flags.set (f : Flags) (letter : Char) (on : Bool) : Flags :=
  if letter = 'u' then { f with unicode := on }
  else if letter = 'i' then { f with caseless := on }
  else if letter = 'x' then { f with spaces := on }
  else f

/-- The outcome of reading part of a pattern: refused, or a result. -/
abbrev Checked := Except Unit

/-- The pattern is refused. -/
def refuse {α : Type} : Checked α := .error ()

/-- Skips white space, and `#` comments up to and with the end of their line, when `spaces` is
on. -/
def skipSpace (spaces : Bool) (cs : List Char) : List Char :=
  if spaces then go false cs else cs
where
  /-- Skips from inside a comment (`true`) or outside one. -/
  go : Bool → List Char → List Char
    | _, [] => []
    | true, c :: cs => if c = '\n' then go false cs else go true cs
    | false, c :: cs =>
      if isWhiteSpace c then go false cs else if c = '#' then go true cs else c :: cs

/-- The character after the current one, looking past white space (and the first `#`) when
`spaces` is on; `after` is what follows the current character. When only white space
follows, it is the character right after the current one. -/
def peekSpace (spaces : Bool) (after : List Char) : Option Char :=
  if spaces then go after.head? false after else after.head?
where
  /-- Looks from inside a comment (`true`) or outside one; `next` is the answer when nothing
  else is found. -/
  go (next : Option Char) : Bool → List Char → Option Char
    | _, [] => next
    | inComment, c :: cs =>
      if isWhiteSpace c then go next inComment cs
      else if !inComment && c = '#' then go next true cs
      else some c

/-- The value of a hexadecimal digit. -/
def hexValue? (c : Char) : Option Nat :=
  if '0' ≤ c && c ≤ '9' then some (c.toNat - '0'.toNat)
  else if 'a' ≤ c && c ≤ 'f' then some (c.toNat - 'a'.toNat + 10)
  else if 'A' ≤ c && c ≤ 'F' then some (c.toNat - 'A'.toNat + 10)
  else none

/-- Whether `n` is a Unicode scalar value: at most U+10FFFF and not a surrogate. -/
def isScalar (n : Nat) : Bool := n ≤ 0x10FFFF && !(0xD800 ≤ n && n ≤ 0xDFFF)

/-- The characters with a meaning of their own, which a backslash makes literal. -/
def isMeta (c : Char) : Bool :=
  "\\.+*?()|[]^$#&-~".contains c || c = '\x7b' || c = '\x7d'

/-- Whether a backslash before `c` makes it literal: the meta characters, and ASCII
characters other than letters, digits, `<` and `>`. -/
def isEscapeable (c : Char) : Bool :=
  isMeta c || (c.toNat < 0x80 && !c.isAlphanum && c ≠ '<' && c ≠ '>')

/-- What an escape stands for. -/
inductive Escape where
  /-- A character; `byte` when written as two hexadecimal digits after `\x`, which outside
  Unicode mode is a byte. -/
  | literal (c : Char) (byte : Bool)
  /-- A digit, space or word class, or (`negated`) its complement. -/
  | perl (negated : Bool)
  /-- An assertion; `word` for the word boundaries. -/
  | assertion (word : Bool)
  deriving DecidableEq, Repr

/-- Reads `count` hexadecimal digits into `acc`; white space may come between them when
`spaces` is on. -/
def hexDigits (spaces : Bool) : Nat → Nat → List Char → Checked (Nat × List Char)
  | 0, acc, cs => .ok (acc, cs)
  | count + 1, acc, c :: rest =>
    match hexValue? c with
    | none => refuse
    | some v =>
      let after := skipSpace spaces rest
      if count = 0 then .ok (16 * acc + v, after)
      else if after.isEmpty then refuse
      else hexDigits spaces count (16 * acc + v) after
  | _ + 1, _, [] => refuse

/-- Reads hexadecimal digits up to `}` (after `\x{`, `\u{` or `\U{`). -/
def hexBrace (spaces : Bool) : Nat → List Nat → List Char → Checked (Nat × List Char)
  | 0, _, _ => refuse
  | fuel + 1, digits, cs =>
    match skipSpace spaces cs with
    | [] => refuse
    | c :: rest =>
      if c = '\x7d' then
        let v := digits.foldl (fun a d => 16 * a + d) 0
        if digits.isEmpty || !isScalar v then refuse else .ok (v, skipSpace spaces rest)
      else match hexValue? c with
        | some d => hexBrace spaces fuel (digits ++ [d]) rest
        | none => refuse

/-- Whether `c` may appear in the name of a special word boundary. -/
def isBoundaryNameChar (c : Char) : Bool := c.isAlpha || c = '-'

/-- Reads the name of a special word boundary. -/
def boundaryName (spaces : Bool) : Nat → List Char → List Char × List Char
  | 0, cs => ([], cs)
  | fuel + 1, c :: rest =>
    if isBoundaryNameChar c then
      let (name, after) := boundaryName spaces fuel (skipSpace spaces rest)
      (c :: name, after)
    else ([], c :: rest)
  | _ + 1, [] => ([], [])

/-- Reads what follows `\b`: a special word boundary `{start}`, `{end}`, `{start-half}` or
`{end-half}`, or nothing (a `{` that does not start one is left for a repetition). -/
def afterBoundary (spaces : Bool) (fuel : Nat) (rest : List Char) : Checked (Escape × List Char) :=
  match rest with
  | '\x7b' :: after =>
    match skipSpace spaces after with
    | [] => refuse
    | d :: more =>
      if !isBoundaryNameChar d then .ok (.assertion true, rest)
      else
        let (name, tail) := boundaryName spaces fuel (d :: more)
        match tail with
        | '\x7d' :: more' =>
          if ["start", "end", "start-half", "end-half"].contains (String.ofList name) then
            .ok (.assertion true, more')
          else refuse
        | _ => refuse
  | _ => .ok (.assertion true, rest)

/-- Reads an escape; `cs` follows the backslash. -/
def parseEscape (spaces : Bool) (fuel : Nat) : List Char → Checked (Escape × List Char)
  | [] => refuse
  | c :: rest =>
    if c.isDigit then refuse
    else if c = 'x' || c = 'u' || c = 'U' then
      match skipSpace spaces rest with
      | [] => refuse
      | d :: more =>
        if d = '\x7b' then
          match hexBrace spaces fuel [] more with
          | .ok (v, after) => .ok (.literal (Char.ofNat v) false, after)
          | .error e => .error e
        else
          let count := if c = 'x' then 2 else if c = 'u' then 4 else 8
          match hexDigits spaces count 0 (d :: more) with
          | .ok (v, after) =>
            if isScalar v then .ok (.literal (Char.ofNat v) (c = 'x'), after) else refuse
          | .error e => .error e
    else if c = 'p' || c = 'P' then refuse
    else if c = 'd' || c = 's' || c = 'w' then .ok (.perl false, rest)
    else if c = 'D' || c = 'S' || c = 'W' then .ok (.perl true, rest)
    else if isEscapeable c then .ok (.literal c false, rest)
    else if c = 'a' then .ok (.literal '\x07' false, rest)
    else if c = 'f' then .ok (.literal '\x0c' false, rest)
    else if c = 't' then .ok (.literal '\t' false, rest)
    else if c = 'n' then .ok (.literal '\n' false, rest)
    else if c = 'r' then .ok (.literal '\r' false, rest)
    else if c = 'v' then .ok (.literal '\x0b' false, rest)
    else if c = 'A' || c = 'z' then .ok (.assertion false, rest)
    else if c = 'B' || c = '<' || c = '>' then .ok (.assertion true, rest)
    else if c = 'b' then afterBoundary spaces fuel rest
    else refuse

/-- Whether an escape outside a class compiles under flags `f`. -/
def Escape.compiles (f : Flags) : Escape → Bool
  | .literal c byte => if f.unicode then !f.caseless else !(byte && c.toNat > 0x7F)
  | .perl negated => !f.unicode && !negated
  | .assertion word => !(word && f.unicode)

/-! ### Classes -/

/-- A set operation between the parts of a class. -/
inductive SetOp where
  | intersection
  | difference
  | symmetricDifference
  deriving DecidableEq, Repr

/-- A set operation on the question whether a set holds bytes above ASCII. -/
def SetOp.apply : SetOp → Bool → Bool → Bool
  | .intersection, a, b => a && b
  | .difference, a, b => a && !b
  | .symmetricDifference, a, b => a != b

/-- An open bracket of a class, as far as compiling it is concerned. -/
structure Bracket where
  negated : Bool
  /-- A set operation waiting for its right side, and whether its left side holds bytes above
  ASCII. -/
  pending : Option (SetOp × Bool)
  /-- Whether the items since the last operation include one that is not empty. -/
  filled : Bool
  /-- Whether the items since the last operation hold bytes above ASCII. -/
  high : Bool
  deriving DecidableEq, Repr

/-- The bracket with one more item. -/
def Bracket.add (b : Bracket) (filled high : Bool) : Bracket :=
  { b with filled := b.filled || filled, high := b.high || high }

/-- Whether the items since the last operation, combined with the pending one, hold bytes
above ASCII. -/
def Bracket.content (b : Bracket) : Bool :=
  match b.pending with
  | some (op, left) => op.apply left b.high
  | none => b.high

/-- Starts a set operation. Case-insensitive matching in Unicode mode cannot fold a side
that is not empty. -/
def Bracket.push (f : Flags) (b : Bracket) (op : SetOp) : Checked Bracket :=
  if f.unicode && f.caseless && b.filled then refuse
  else .ok { b with pending := some (op, b.content), filled := false, high := false }

/-- Closes a bracket: what it is as an item of the class around it, whether it is not empty
and whether it holds bytes above ASCII. -/
def Bracket.close (f : Flags) (b : Bracket) : Checked (Bool × Bool) :=
  if f.unicode && f.caseless && b.filled then refuse
  else
    let final := if b.negated then !b.content else b.content
    if !f.unicode && final then refuse else .ok (b.negated, false)

/-- An item of a class under flags `f`: whether it is not empty and whether it holds bytes
above ASCII. -/
def classItem (f : Flags) : Escape → Checked (Bool × Bool)
  | .literal c _ => if f.unicode || c.toNat ≤ 0x7F then .ok (true, false) else refuse
  | .perl negated => if f.unicode || negated then refuse else .ok (true, false)
  | .assertion _ => refuse

/-- The names of the ASCII classes `[:name:]`. -/
def asciiClassNames : List String :=
  ["alnum", "alpha", "ascii", "blank", "cntrl", "digit", "graph", "lower", "print", "punct",
    "space", "upper", "word", "xdigit"]

/-- Reads an ASCII class `[:name:]` or `[:^name:]` after its `[`: whether it is negated, and
what follows it. -/
def asciiClass (cs : List Char) : Option (Bool × List Char) :=
  match cs with
  | ':' :: rest =>
    let (negated, rest) : Bool × List Char := match rest with
      | '^' :: r => (true, r)
      | r => (false, r)
    let name := rest.takeWhile (· ≠ ':')
    match rest.dropWhile (· ≠ ':') with
    | ':' :: ']' :: after =>
      if asciiClassNames.contains (String.ofList name) then some (negated, after) else none
    | _ => none
  | _ => none

/-- Reads `-` characters at the start of a class, which are literal. -/
def leadingDashes (spaces : Bool) : Nat → Bool → List Char → Checked (Bool × List Char)
  | 0, _, _ => refuse
  | fuel + 1, _, '-' :: rest =>
    let after := skipSpace spaces rest
    if after.isEmpty then refuse else leadingDashes spaces fuel true after
  | _ + 1, seen, cs => .ok (seen, cs)

/-- Opens a bracket; `cs` follows the `[`. A `^` negates the class; `-` characters and then
a `]` at its start are literal. -/
def openBracket (spaces : Bool) (fuel : Nat) (cs : List Char) : Checked (Bracket × List Char) :=
  match skipSpace spaces cs with
  | [] => refuse
  | c :: rest =>
    let (negated, cs) : Bool × List Char :=
      if c = '^' then (true, skipSpace spaces rest) else (false, c :: rest)
    if cs.isEmpty then refuse
    else match leadingDashes spaces fuel false cs with
      | .error e => .error e
      | .ok (dashes, cs) =>
        match cs with
        | ']' :: after =>
          if dashes then .ok (⟨negated, none, true, false⟩, cs)
          else
            let after := skipSpace spaces after
            if after.isEmpty then refuse else .ok (⟨negated, none, true, false⟩, after)
        | _ => .ok (⟨negated, none, dashes, false⟩, cs)

/-- Reads one character of a class, or an escape. -/
def classAtom (spaces : Bool) (fuel : Nat) : List Char → Checked (Escape × List Char)
  | '\\' :: rest => parseEscape spaces fuel rest
  | c :: rest => .ok (.literal c false, rest)
  | [] => refuse

/-- Reads the rest of a class under flags `f`: `b` is the innermost open bracket and `outer`
the brackets around it. Gives what follows the class. -/
def classLoop (f : Flags) : Nat → List Bracket → Bracket → List Char → Checked (List Char)
  | 0, _, _, _ => refuse
  | fuel + 1, outer, b, cs =>
    match skipSpace f.spaces cs with
    | [] => refuse
    | '[' :: rest =>
      match asciiClass rest with
      | some (negated, after) => classLoop f fuel outer (b.add true (!f.unicode && negated)) after
      | none =>
        match openBracket f.spaces fuel rest with
        | .ok (inner, after) => classLoop f fuel (b :: outer) inner after
        | .error e => .error e
    | ']' :: rest =>
      match b.close f with
      | .error e => .error e
      | .ok (filled, high) =>
        match outer with
        | [] => .ok rest
        | parent :: outer' => classLoop f fuel outer' (parent.add filled high) rest
    | '&' :: '&' :: rest =>
      match b.push f .intersection with
      | .ok b' => classLoop f fuel outer b' rest
      | .error e => .error e
    | '-' :: '-' :: rest =>
      match b.push f .difference with
      | .ok b' => classLoop f fuel outer b' rest
      | .error e => .error e
    | '~' :: '~' :: rest =>
      match b.push f .symmetricDifference with
      | .ok b' => classLoop f fuel outer b' rest
      | .error e => .error e
    | cs =>
      match classAtom f.spaces fuel cs with
      | .error e => .error e
      | .ok (first, rest) =>
        match skipSpace f.spaces rest with
        | [] => refuse
        | d :: more =>
          let peek := peekSpace f.spaces more
          if d ≠ '-' || peek = some ']' || peek = some '-' then
            match classItem f first with
            | .ok (filled, high) => classLoop f fuel outer (b.add filled high) (d :: more)
            | .error e => .error e
          else
            match skipSpace f.spaces more with
            | [] => refuse
            | more' =>
              match classAtom f.spaces fuel more' with
              | .error e => .error e
              | .ok (second, after) =>
                match first, second with
                | .literal c₁ _, .literal c₂ _ =>
                  if c₂ < c₁ then refuse
                  else if !f.unicode && (c₁.toNat > 0x7F || c₂.toNat > 0x7F) then refuse
                  else classLoop f fuel outer (b.add true false) after
                | _, _ => refuse

/-! ### Groups and repetitions -/

/-- Where the reader of a pattern stands. -/
structure State where
  flags : Flags
  /-- The flags to restore at the end of each open group, innermost first. -/
  groups : List Flags
  /-- Whether the last item read can be repeated. -/
  repeatable : Bool
  /-- The names of the named groups so far. -/
  names : List String
  deriving DecidableEq, Repr

/-- Whether `c` may be the first character of a group's name. -/
def isNameStart (c : Char) : Bool := c = '_' || isAlphabetic c

/-- Whether `c` may be a later character of a group's name. -/
def isNameChar (c : Char) : Bool :=
  c = '_' || c = '.' || c = '[' || c = ']' || isAlphanumeric c

/-- Reads a group's name up to `>`; the name must be new. -/
def groupName (st : State) (cs : List Char) : Checked (State × List Char) :=
  let name := cs.takeWhile (· ≠ '>')
  let valid := match name with
    | [] => false
    | c :: rest => isNameStart c && rest.all isNameChar
  match cs.dropWhile (· ≠ '>') with
  | _ :: after =>
    let n := String.ofList name
    if !valid || st.names.contains n then refuse
    else
      let opened : State := ⟨st.flags, st.flags :: st.groups, false, n :: st.names⟩
      .ok (opened, after)
  | [] => refuse

/-- Reads flag letters up to `:` or `)`: the letters with their settings, whether `-` was
read, the character that ends them, and what follows it. `last` says the last character read
was `-`. -/
def readFlags : Nat → List (Char × Bool) → Bool → Bool → List Char →
    Checked (List (Char × Bool) × Bool × Char × List Char)
  | 0, _, _, _, _ => refuse
  | _ + 1, _, _, _, [] => refuse
  | fuel + 1, items, negation, last, c :: rest =>
    if c = ':' || c = ')' then
      if last then refuse else .ok (items, negation, c, rest)
    else if c = '-' then
      if negation || rest.isEmpty then refuse else readFlags fuel items true true rest
    else if "imsUuRx".contains c then
      if items.any (·.1 = c) || rest.isEmpty then refuse
      else readFlags fuel (items ++ [(c, !negation)]) negation false rest
    else refuse

/-- Reads what follows `(`: a group of some kind, or a flag setting. -/
def openGroup (st : State) (fuel : Nat) (rest : List Char) : Checked (State × List Char) :=
  let rest := skipSpace st.flags.spaces rest
  match rest with
  | '?' :: '=' :: _ | '?' :: '!' :: _ | '?' :: '<' :: '=' :: _ | '?' :: '<' :: '!' :: _ => refuse
  | '?' :: 'P' :: '<' :: after | '?' :: '<' :: after => groupName st after
  | '?' :: after =>
    match readFlags fuel [] false false after with
    | .error e => .error e
    | .ok (items, negation, close, more) =>
      let flags := items.foldl (fun f (c, on) => f.set c on) st.flags
      if close = ')' then
        if items.isEmpty && !negation then refuse
        else .ok ({ st with flags := flags, repeatable := false }, more)
      else .ok (⟨flags, st.flags :: st.groups, false, st.names⟩, more)
  | _ => .ok ({ st with groups := st.flags :: st.groups, repeatable := false }, rest)

/-- Drops white space (and, with flag `x`, comments after it). -/
def dropWhiteSpace (spaces : Bool) : Nat → List Char → List Char
  | 0, cs => cs
  | fuel + 1, c :: rest =>
    if isWhiteSpace c then dropWhiteSpace spaces fuel (skipSpace spaces rest) else c :: rest
  | _ + 1, [] => []

/-- Reads decimal digits, with white space allowed around them, into a count below 2^32. -/
def decimal (spaces : Bool) (fuel : Nat) (cs : List Char) : Checked (Nat × List Char) :=
  let cs := cs.dropWhile isWhiteSpace
  let (digits, rest) := go fuel cs
  let rest := dropWhiteSpace spaces fuel rest
  let n := digits.foldl (fun a d => 10 * a + (d.toNat - '0'.toNat)) 0
  if digits.isEmpty || n ≥ Nat.pow 2 32 then refuse else .ok (n, rest)
where
  /-- Reads the digits. -/
  go : Nat → List Char → List Char × List Char
    | 0, cs => ([], cs)
    | fuel + 1, c :: rest =>
      if c.isDigit then
        let (ds, after) := go fuel (skipSpace spaces rest)
        (c :: ds, after)
      else ([], c :: rest)
    | _ + 1, [] => ([], [])

/-- Reads a counted repetition after its `{`: `{m}`, `{m,}` or `{m,n}` with `m ≤ n`, then an
optional `?`. -/
def counted (st : State) (fuel : Nat) (rest : List Char) : Checked (List Char) :=
  let sp := st.flags.spaces
  let finish (after : List Char) : List Char :=
    match skipSpace sp after with
    | '?' :: r => r
    | r => r
  if !st.repeatable then refuse
  else match skipSpace sp rest with
    | [] => refuse
    | cs =>
      match decimal sp fuel cs with
      | .error e => .error e
      | .ok (low, cs) =>
        match cs with
        | '\x7d' :: after => .ok (finish after)
        | ',' :: more =>
          match skipSpace sp more with
          | [] => refuse
          | '\x7d' :: after => .ok (finish after)
          | cs' =>
            match decimal sp fuel cs' with
            | .error e => .error e
            | .ok (high, cs'') =>
              match cs'' with
              | '\x7d' :: after => if high < low then refuse else .ok (finish after)
              | _ => refuse
        | _ => refuse

/-- Reads a pattern from state `st`, one item a step. -/
def run : Nat → State → List Char → Checked Unit
  | 0, _, _ => refuse
  | fuel + 1, st, cs =>
    match skipSpace st.flags.spaces cs with
    | [] => if st.groups.isEmpty then .ok () else refuse
    | '(' :: rest =>
      match openGroup st fuel rest with
      | .ok (st', after) => run fuel st' after
      | .error e => .error e
    | ')' :: rest =>
      match st.groups with
      | [] => refuse
      | g :: gs => run fuel { st with flags := g, groups := gs, repeatable := true } rest
    | '|' :: rest => run fuel { st with repeatable := false } rest
    | '[' :: rest =>
      match openBracket st.flags.spaces fuel rest with
      | .error e => .error e
      | .ok (b, after) =>
        match classLoop st.flags fuel [] b after with
        | .ok after' => run fuel { st with repeatable := true } after'
        | .error e => .error e
    | '\x7b' :: rest =>
      match counted st fuel rest with
      | .ok after => run fuel st after
      | .error e => .error e
    | c :: rest =>
      if c = '?' || c = '*' || c = '+' then
        if !st.repeatable then refuse
        else run fuel st (match rest with
          | '?' :: r => r
          | r => r)
      else if c = '\\' then
        match parseEscape st.flags.spaces fuel rest with
        | .error e => .error e
        | .ok (e, after) =>
          if e.compiles st.flags then run fuel { st with repeatable := true } after else refuse
      else if c = '.' then
        if st.flags.unicode then run fuel { st with repeatable := true } rest else refuse
      else if c = '^' || c = '$' then run fuel { st with repeatable := true } rest
      else if st.flags.unicode && st.flags.caseless then refuse
      else run fuel { st with repeatable := true } rest

/-- Whether `p` is accepted as a pattern. -/
def accepts (p : String) : Bool :=
  let cs := p.toList
  (run (cs.length + 1) ⟨Flags.initial, [], false, []⟩ cs).toBool

end LineScript.Pattern
