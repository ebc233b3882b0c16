import LineScript.Decimal.Shortest
import LineScript.Text.Escaped

/-! ## Reading JSON text

A reader over the UTF-8 bytes of a JSON text, for documents whose shape is known in advance:
a typed reader asks for a boolean, a string, an object and so on, and every mismatch or
malformed piece is an error with a line and a column. Lines count from 1, columns count bytes
from the start of the line.

Where an error points: faults met while consuming input point at the byte after the last one
consumed; faults met by looking at the next byte point one past it (`failAhead`); a value of
the wrong type points just after the value's first token.

Blanks are space, tab, line feed and carriage return. Values that the reader skips (unknown
fields) are checked for well-formedness only, numbers included, without their range.
-/

namespace LineScript.JsonReader

/-- What went wrong while reading JSON. -/
inductive Fault where
  | eofInValue
  | eofInList
  | eofInObject
  | eofInString
  | expectedColon
  | expectedListCommaOrEnd
  | expectedObjectCommaOrEnd
  | expectedIdent
  | expectedValue
  | invalidEscape
  | invalidNumber
  | numberOutOfRange
  | controlCharacter
  | keyMustBeString
  | loneLeadingSurrogate
  | trailingComma
  | trailingCharacters
  | unexpectedEndOfHexEscape
  /-- A value of the wrong type: what was found and what was expected. -/
  | invalidType (found expected : String)
  /-- A field of a record given twice. -/
  | duplicateField (name : String)
  deriving DecidableEq, Repr

/-- The text of a fault. -/
def Fault.text : Fault → String
  | .eofInValue => "EOF while parsing a value"
  | .eofInList => "EOF while parsing a list"
  | .eofInObject => "EOF while parsing an object"
  | .eofInString => "EOF while parsing a string"
  | .expectedColon => "expected `:`"
  | .expectedListCommaOrEnd => "expected `,` or `]`"
  | .expectedObjectCommaOrEnd => "expected `,` or `\x7d`"
  | .expectedIdent => "expected ident"
  | .expectedValue => "expected value"
  | .invalidEscape => "invalid escape"
  | .invalidNumber => "invalid number"
  | .numberOutOfRange => "number out of range"
  | .controlCharacter => "control character (\\u0000-\\u001F) found while parsing a string"
  | .keyMustBeString => "key must be a string"
  | .loneLeadingSurrogate => "lone leading surrogate in hex escape"
  | .trailingComma => "trailing comma"
  | .trailingCharacters => "trailing characters"
  | .unexpectedEndOfHexEscape => "unexpected end of hex escape"
  | .invalidType found expected => "invalid type: " ++ found ++ ", expected " ++ expected
  | .duplicateField name => "duplicate field `" ++ name ++ "`"

/-- A fault at a line and column. -/
structure Error where
  fault : Fault
  line : Nat
  column : Nat
  deriving DecidableEq, Repr

/-- The text of an error: the fault, then where it is. -/
def Error.message (e : Error) : String :=
  e.fault.text ++ " at line " ++ toString e.line ++ " column " ++ toString e.column

/-- What a typed reader found where it expected something else. -/
inductive Found where
  | null
  | bool (b : Bool)
  | unsigned (n : Nat)
  | negative (n : Nat)
  | float (f : Float)
  | str (s : String)
  | seq
  | map

/-- How a found value is named in a type error. -/
def Found.describe : Found → String
  | .null => "null"
  | .bool b => "boolean `" ++ toString b ++ "`"
  | .unsigned n => "integer `" ++ toString n ++ "`"
  | .negative n => "integer `-" ++ toString n ++ "`"
  | .float f => "floating point `" ++ Decimal.shortest f ++ "`"
  | .str s => "string " ++ Text.escaped s
  | .seq => "sequence"
  | .map => "map"

/-- A reader: the position in the bytes is its state. -/
abbrev ReadM := StateT Nat (Except Error)

section

variable (text : ByteArray)

/-- The line and column of a byte position. -/
def positionOf (i : Nat) : Nat × Nat :=
  let (line, start) := (List.range i).foldl (fun (acc : Nat × Nat) k =>
    if text[k]?.getD 0 = 10 then (acc.1 + 1, k + 1) else acc) (1, 0)
  (line, i - start)

/-- The error of a fault at a byte position. -/
def errorAt (i : Nat) (f : Fault) : Error :=
  let (line, column) := positionOf text i
  ⟨f, line, column⟩

/-- Fails with a fault at the current position. -/
def fail {α : Type} (f : Fault) : ReadM α := do
  throw (errorAt text (← get) f)

/-- Fails with a fault one byte past the current position (at most the end). -/
def failAhead {α : Type} (f : Fault) : ReadM α := do
  throw (errorAt text (min text.size ((← get) + 1)) f)

/-- The byte at the current position, if any. -/
def peek : ReadM (Option UInt8) := do
  return text[← get]?

/-- Moves past one byte. -/
def eat : ReadM Unit := modify (· + 1)

/-- The byte at the current position, moving past it. -/
def next : ReadM (Option UInt8) := do
  let c ← peek text
  if c.isSome then eat
  return c

/-- The number of steps any loop over the text can take. -/
def budget : Nat := text.size + 1

/-- Whether a byte is a JSON blank. -/
def isBlankByte (c : UInt8) : Bool := c = 32 || c = 9 || c = 10 || c = 13

/-- Whether a byte is an ASCII digit. -/
def isDigitByte (c : UInt8) : Bool := 48 ≤ c && c ≤ 57

/-- Skips blanks and gives the next byte without moving past it. -/
def skipBlanks : Nat → ReadM (Option UInt8)
  | 0 => peek text
  | fuel + 1 => do
    match ← peek text with
    | some c => if isBlankByte c then do eat; skipBlanks fuel else return some c
    | none => return none

/-- Reads the bytes of an identifier after its first letter. -/
def expectIdent : List UInt8 → ReadM Unit
  | [] => pure ()
  | b :: rest => do
    match ← next text with
    | none => fail text .eofInValue
    | some c => if c = b then expectIdent rest else fail text .expectedIdent

/-- The value of a hexadecimal digit. -/
def hexValue (c : UInt8) : Option Nat :=
  if 48 ≤ c && c ≤ 57 then some (c.toNat - 48)
  else if 97 ≤ c && c ≤ 102 then some (c.toNat - 87)
  else if 65 ≤ c && c ≤ 70 then some (c.toNat - 55)
  else none

/-- Reads the four hexadecimal digits of a `\u` escape. -/
def hexQuad : ReadM Nat := do
  let i ← get
  if i + 4 > text.size then
    set text.size
    fail text .eofInString
  else
    set (i + 4)
    let ds := [text[i]?, text[i + 1]?, text[i + 2]?, text[i + 3]?].map fun c => c.bind hexValue
    match ds with
    | [some a, some b, some c, some d] => return ((a * 16 + b) * 16 + c) * 16 + d
    | _ => fail text .invalidEscape

/-- The UTF-8 bytes of a code point. -/
def utf8 (n : Nat) : ByteArray := (Char.ofNat n).toString.toUTF8

/-- Reads the rest of a `\u` escape onto `acc`, pairing surrogates. -/
def unicodeEscape (acc : ByteArray) : ReadM ByteArray := do
  let n ← hexQuad text
  if 0xDC00 ≤ n && n ≤ 0xDFFF then fail text .loneLeadingSurrogate
  else if n < 0xD800 || n > 0xDBFF then return acc ++ utf8 n
  else
    match ← peek text with
    | none => fail text .eofInString
    | some 92 => eat
    | some _ => do eat; fail text .unexpectedEndOfHexEscape
    match ← peek text with
    | none => fail text .eofInString
    | some 117 => eat
    | some _ => do eat; fail text .unexpectedEndOfHexEscape
    let n2 ← hexQuad text
    if n2 < 0xDC00 || n2 > 0xDFFF then fail text .loneLeadingSurrogate
    else return acc ++ utf8 (((n - 0xD800) * 1024 + (n2 - 0xDC00)) + 0x10000)

/-- Reads an escape after its backslash onto `acc`. -/
def escape (acc : ByteArray) : ReadM ByteArray := do
  match ← next text with
  | none => fail text .eofInString
  | some c =>
    if c = 34 then return acc.push 34
    else if c = 92 then return acc.push 92
    else if c = 47 then return acc.push 47
    else if c = 98 then return acc.push 8
    else if c = 102 then return acc.push 12
    else if c = 110 then return acc.push 10
    else if c = 114 then return acc.push 13
    else if c = 116 then return acc.push 9
    else if c = 117 then unicodeEscape text acc
    else fail text .invalidEscape

/-- Reads the rest of a string after its opening quote. -/
def stringBody : Nat → ByteArray → ReadM String
  | 0, _ => fail text .eofInString
  | fuel + 1, acc => do
    match ← peek text with
    | none => fail text .eofInString
    | some c =>
      if c = 34 then do
        eat
        return (String.fromUTF8? acc).getD ""
      else if c = 92 then do
        eat
        let acc ← escape text acc
        stringBody fuel acc
      else if c < 32 then do
        eat
        fail text .controlCharacter
      else do
        eat
        stringBody fuel (acc.push c)

/-- Skips an escape after its backslash, checking it. -/
def skipEscape : ReadM Unit := do
  match ← next text with
  | none => fail text .eofInString
  | some c =>
    if c = 34 || c = 92 || c = 47 || c = 98 || c = 102 || c = 110 || c = 114 || c = 116 then
      pure ()
    else if c = 117 then do
      let _ ← hexQuad text
      pure ()
    else fail text .invalidEscape

/-- Skips the rest of a string after its opening quote, checking it. -/
def skipString : Nat → ReadM Unit
  | 0 => fail text .eofInString
  | fuel + 1 => do
    match ← peek text with
    | none => fail text .eofInString
    | some c =>
      if c = 34 then eat
      else if c = 92 then do
        eat
        skipEscape text
        skipString fuel
      else if c < 32 then fail text .controlCharacter
      else do
        eat
        skipString fuel

/-- Skips digits. -/
def skipDigits : Nat → ReadM Unit
  | 0 => pure ()
  | fuel + 1 => do
    match ← peek text with
    | some c => if isDigitByte c then do eat; skipDigits fuel else pure ()
    | none => pure ()

/-- Skips an exponent from its `e`, checking it. -/
def skipExponent : ReadM Unit := do
  eat
  match ← peek text with
  | some 43 | some 45 => eat
  | _ => pure ()
  match ← next text with
  | some c => if isDigitByte c then skipDigits text (budget text) else fail text .invalidNumber
  | none => fail text .invalidNumber

/-- Skips a number from its first digit, checking it. -/
def skipNumber : ReadM Unit := do
  match ← next text with
  | some 48 =>
    match ← peek text with
    | some c => if isDigitByte c then failAhead text .invalidNumber else pure ()
    | none => pure ()
  | some c => if 49 ≤ c && c ≤ 57 then skipDigits text (budget text) else fail text .invalidNumber
  | none => fail text .invalidNumber
  match ← peek text with
  | some 46 => do
    eat
    let start ← get
    skipDigits text (budget text)
    if (← get) = start then failAhead text .invalidNumber
    match ← peek text with
    | some 101 | some 69 => skipExponent text
    | _ => pure ()
  | some 101 | some 69 => skipExponent text
  | _ => pure ()

/-- After a value inside open arrays and objects (`open`, innermost first, and `frame`, the
innermost): closes finished frames and moves to the next item; gives the frames still open
and the innermost one, or none when the outermost value is done. -/
def closeFrames : Nat → List UInt8 → UInt8 → Bool → ReadM (Option (List UInt8 × UInt8))
  | 0, _, _, _ => fail text .eofInValue
  | fuel + 1, stack, frame, acceptComma => do
    match ← skipBlanks text (budget text) with
    | some 44 =>
      if acceptComma then do eat; return some (stack, frame)
      else return some (stack, frame)
    | some 93 =>
      if frame = 91 then closeOne fuel stack
      else if acceptComma then failAhead text .expectedObjectCommaOrEnd
      else return some (stack, frame)
    | some 125 =>
      if frame = 123 then closeOne fuel stack
      else if acceptComma then failAhead text .expectedListCommaOrEnd
      else return some (stack, frame)
    | some _ =>
      if acceptComma then
        failAhead text (if frame = 91 then .expectedListCommaOrEnd else .expectedObjectCommaOrEnd)
      else return some (stack, frame)
    | none => failAhead text (if frame = 91 then .eofInList else .eofInObject)
where
  /-- Moves past a closing bracket and goes on with the enclosing frame, if any. -/
  closeOne (fuel : Nat) (stack : List UInt8) : ReadM (Option (List UInt8 × UInt8)) := do
    eat
    match stack with
    | [] => return none
    | f :: rest => closeFrames fuel rest f true

/-- Skips values until the outermost one is done; `stack` holds the open frames below
`enclosing`. -/
def skipValues : Nat → List UInt8 → Option UInt8 → ReadM Unit
  | 0, _, _ => fail text .eofInValue
  | fuel + 1, stack, enclosing => do
    let opened : Option (List UInt8 × UInt8) ← match ← skipBlanks text (budget text) with
      | none => failAhead text .eofInValue
      | some 110 => do eat; expectIdent text [117, 108, 108]; pure none
      | some 116 => do eat; expectIdent text [114, 117, 101]; pure none
      | some 102 => do eat; expectIdent text [97, 108, 115, 101]; pure none
      | some 45 => do eat; skipNumber text; pure none
      | some 34 => do eat; skipString text (budget text); pure none
      | some c =>
        if isDigitByte c then do skipNumber text; pure none
        else if c = 91 || c = 123 then do
          eat
          pure (some (enclosing.toList ++ stack, c))
        else failAhead text .expectedValue
    let next : Option (List UInt8 × UInt8) ← match opened with
      | some (stack', frame) => closeFrames text (budget text) stack' frame false
      | none =>
        match enclosing with
        | some frame => closeFrames text (budget text) stack frame true
        | none =>
          match stack with
          | [] => pure none
          | f :: rest => closeFrames text (budget text) rest f true
    match next with
    | none => pure ()
    | some (stack', frame) =>
      if frame = 123 then
        match ← skipBlanks text (budget text) with
        | some 34 => eat
        | some _ => failAhead text .keyMustBeString
        | none => failAhead text .eofInObject
        skipString text (budget text)
        match ← skipBlanks text (budget text) with
        | some 58 => eat
        | some _ => failAhead text .expectedColon
        | none => failAhead text .eofInObject
      skipValues fuel stack' (some frame)

/-- The largest unsigned 64-bit number. -/
def maxU64 : Nat := Nat.pow 2 64 - 1

/-- The largest signed 32-bit number, the limit of exponents. -/
def maxI32 : Nat := Nat.pow 2 31 - 1

/-- The double nearest to `10^k`. -/
def pow10 (k : Nat) : Float := Decimal.ofRatio (Nat.pow 10 k) 1

/-- The double of `significand · 10^exponent`, by one multiplication or division by a power
of ten (several divisions by `10^308` first when the exponent is below -308). -/
def floatOfParts (positive : Bool) (significand : Nat) (exponent : Int) : ReadM Float := do
  let mut f := Decimal.ofRatio significand 1
  let mut e := exponent
  for _ in List.range (e.natAbs / 308 + 1) do
    if e.natAbs ≤ 308 then
      if e ≥ 0 then
        f := f * pow10 e.toNat
        if f.isInf then fail text .numberOutOfRange
      else f := f / pow10 (-e).toNat
      break
    else
      if f == 0.0 then break
      if e ≥ 0 then fail text .numberOutOfRange
      f := f / pow10 308
      e := e + 308
  return if positive then f else -f

/-- Reads exponent digits after `e` and its sign; `starting` is the exponent so far. -/
def exponentPart (positive : Bool) (significand : Nat) (starting : Int) : ReadM Float := do
  eat
  let positiveExp ← match ← peek text with
    | some 43 => do eat; pure true
    | some 45 => do eat; pure false
    | _ => pure true
  let first ← match ← next text with
    | none => fail text .eofInValue
    | some c => if isDigitByte c then pure (c.toNat - 48) else fail text .invalidNumber
  let mut exp := first
  for _ in List.range (budget text) do
    match ← peek text with
    | some c =>
      if isDigitByte c then
        eat
        let d := c.toNat - 48
        if exp * 10 + d > maxI32 then
          -- the exponent is out of range: zero, or an error if the value would be infinite
          if significand ≠ 0 && positiveExp then fail text .numberOutOfRange
          skipDigits text (budget text)
          return if positive then 0.0 else -0.0
        exp := exp * 10 + d
      else break
    | none => break
  let final : Int := if positiveExp then starting + exp else starting - exp
  let final := max (min final (Int.pow 2 31 - 1)) (-(Int.pow 2 31))
  floatOfParts text positive significand final

/-- Reads the digits after a decimal point; `before` is the exponent the integer part
already carries. -/
def decimalPart (positive : Bool) (significand : Nat) (before : Int) : ReadM Float := do
  eat
  let mut sig := significand
  let mut after : Int := 0
  let mut overflowed := false
  for _ in List.range (budget text) do
    match ← peek text with
    | some c =>
      if isDigitByte c then
        let d := c.toNat - 48
        if sig * 10 + d > maxU64 then
          overflowed := true
          break
        eat
        sig := sig * 10 + d
        after := after - 1
      else break
    | none => break
  if overflowed then
    -- further digits cannot change the double: skip them
    skipDigits text (budget text)
  else if after = 0 then
    match ← peek text with
    | some _ => failAhead text .invalidNumber
    | none => failAhead text .eofInValue
  match ← peek text with
  | some 101 | some 69 => exponentPart text positive sig (before + after)
  | _ => floatOfParts text positive sig (before + after)

/-- Reads what follows the digits of a number's integer part. -/
def numberTail (positive : Bool) (significand : Nat) : ReadM Found := do
  match ← peek text with
  | some 46 => return .float (← decimalPart text positive significand 0)
  | some 101 | some 69 => return .float (← exponentPart text positive significand 0)
  | _ =>
    if positive then return .unsigned significand
    else if significand = 0 || significand > Nat.pow 2 63 then
      return .float (-(Decimal.ofRatio significand 1))
    else return .negative significand

/-- Reads a number from its first digit (after the minus sign of a negative one). -/
def number (positive : Bool) : ReadM Found := do
  match ← next text with
  | none => fail text .eofInValue
  | some 48 =>
    match ← peek text with
    | some c => if isDigitByte c then failAhead text .invalidNumber else numberTail text positive 0
    | none => numberTail text positive 0
  | some c =>
    if 49 ≤ c && c ≤ 57 then
      let mut sig := c.toNat - 48
      for _ in List.range (budget text) do
        match ← peek text with
        | some d =>
          if isDigitByte d then
            if sig * 10 + (d.toNat - 48) > maxU64 then
              -- too long for 64 bits: count the remaining integer digits as an exponent
              let start ← get
              skipDigits text (budget text)
              let extra : Int := (← get) - start
              match ← peek text with
              | some 46 => return .float (← decimalPart text positive sig extra)
              | some 101 | some 69 => return .float (← exponentPart text positive sig extra)
              | _ => return .float (← floatOfParts text positive sig extra)
            eat
            sig := sig * 10 + (d.toNat - 48)
          else break
        | none => break
      numberTail text positive sig
    else fail text .invalidNumber

/-- Fails with a type error: reads the token in front to name what was found. -/
def wrongType {α : Type} (expected : String) : ReadM α := do
  let found : Found ← match ← peek text with
    | some 110 => do eat; expectIdent text [117, 108, 108]; pure .null
    | some 116 => do eat; expectIdent text [114, 117, 101]; pure (.bool true)
    | some 102 => do eat; expectIdent text [97, 108, 115, 101]; pure (.bool false)
    | some 45 => do eat; number text false
    | some 34 => do eat; pure (.str (← stringBody text (budget text) ByteArray.empty))
    | some 91 => pure .seq
    | some 123 => pure .map
    | some c => if isDigitByte c then number text true else failAhead text .expectedValue
    | none => failAhead text .expectedValue
  fail text (.invalidType found.describe expected)

/-- Skips one value, checking that it is well formed. -/
def skipValue : ReadM Unit := skipValues text (budget text) [] none

end

end LineScript.JsonReader
