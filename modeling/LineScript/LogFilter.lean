import LineScript.Text.Letters
import LineScript.Pattern

/-! ## Log filter directives

A log filter (the variable `RUST_LOG`, or the settings' `log_filter`) is a list of directives
separated by commas; empty ones are skipped. A directive has the shape
`target[span{field,...}]=level`, every part optional; `level` is a number from 0 to 5 or one
of `off`, `error`, `warn`, `info`, `debug`, `trace` in any case, and a directive that is only
a level sets the level for everything.

A directive is read one character at a time after white space is trimmed from both ends.
Positions found while reading count bytes of the trimmed text, but the level is cut from the
directive as written: after leading white space the cut starts early by as many bytes.
A directive may start with `[`, `-`, `:`, `_` or a letter or digit; after a target, `=`
starts the level and `[` a span; a span runs to `]`, or to `{` which starts its fields; each
field runs to `}` and must not be empty, and the fields end with `]`; after a span only `=`
may follow. Any other shape, or a text that ends inside a span or after its fields, is
refused as an invalid directive; a level that is not one is refused as such. A field
`name=value` is checked when its `}` is read (its text cut from the directive as written,
like the level): the value must be `true`, `false`, a number, or a pattern the filter can
compile (`LineScript.Pattern`).

When `RUST_LOG` is set and every directive in it is accepted, it is the filter and nothing
is reported. Otherwise the settings' filter is used, and each of its directives that is
refused is reported on standard error as ``ignoring `d`: reason``.
-/

namespace LineScript.LogFilter

/-- How much is logged, from nothing to everything. -/
inductive Level where
  | off
  | error
  | warn
  | info
  | debug
  | trace
  deriving DecidableEq, Repr

/-- The lower-case ASCII spelling of a byte string. -/
def lowerBytes (bs : List UInt8) : List UInt8 :=
  bs.map fun b => if 0x41 ≤ b && b ≤ 0x5A then b + 0x20 else b

/-- The value of a string of decimal digits. -/
def digitsValue (bs : List UInt8) : Nat :=
  bs.foldl (fun n b => 10 * n + (b.toNat - 0x30)) 0

/-- A level as written (in UTF-8): a number from 0 to 5, possibly after `+`, or a level's
name in any case. -/
def Level.ofBytes? (bs : List UInt8) : Option Level :=
  let digits := match bs with
    | 0x2B :: rest => rest
    | _ => bs
  if !digits.isEmpty && digits.all (fun b => 0x30 ≤ b && b ≤ 0x39) then
    match digitsValue digits with
    | 0 => some .off
    | 1 => some .error
    | 2 => some .warn
    | 3 => some .info
    | 4 => some .debug
    | 5 => some .trace
    | _ => none
  else
    let name := lowerBytes bs
    if name = "off".toUTF8.toList then some .off
    else if name = "error".toUTF8.toList then some .error
    else if name = "warn".toUTF8.toList then some .warn
    else if name = "info".toUTF8.toList then some .info
    else if name = "debug".toUTF8.toList then some .debug
    else if name = "trace".toUTF8.toList then some .trace
    else none

/-- Why a directive is refused. -/
inductive Refusal where
  /-- The directive has none of the accepted shapes. -/
  | invalid
  /-- The text after `=` is not a level. -/
  | level
  /-- A field's value is not a value the filter can match. -/
  | field
  deriving DecidableEq, Repr

/-- The reason given when a directive is refused. -/
def Refusal.message : Refusal → String
  | .invalid => "invalid filter directive"
  | .level => "error parsing level filter: expected one of \"off\", \"error\", \"warn\", \"info\", \"debug\", \"trace\", or a number 0-5"
  | .field => "invalid field filter: error building NFA"

/-- Whether a text is a floating-point number as the filter reads one: an optional sign, then
`inf`, `infinity` or `nan` in any case, or digits with an optional fraction (at least one
digit in all) and an optional exponent. -/
def isNumber (cs : List Char) : Bool :=
  let body := match cs with
    | '+' :: r => r
    | '-' :: r => r
    | r => r
  let lower := body.map Char.toLower
  if lower = "inf".toList || lower = "infinity".toList || lower = "nan".toList then true
  else
    let whole := body.takeWhile Char.isDigit
    let rest := body.dropWhile Char.isDigit
    let (fraction, rest) : List Char × List Char := match rest with
      | '.' :: r => (r.takeWhile Char.isDigit, r.dropWhile Char.isDigit)
      | r => ([], r)
    let exponentOk := match rest with
      | [] => true
      | e :: r =>
        let digits := match r with
          | '+' :: t => t
          | '-' :: t => t
          | t => t
        (e = 'e' || e = 'E') && !digits.isEmpty && digits.all Char.isDigit
    (!whole.isEmpty || !fraction.isEmpty) && exponentOk

/-- Whether a field's value can be matched: `true` or `false`, a number, or a pattern
(`LineScript.Pattern.accepts`). -/
def valueAccepted (v : String) : Bool :=
  v = "true" || v = "false" || isNumber v.toList || Pattern.accepts v

/-- Whether a field `name` or `name=value` is accepted: its value, the text between the first
and the second `=`, must be one that can be matched. -/
def fieldAccepted (field : String) : Bool :=
  match field.splitOn "=" with
  | _ :: v :: _ => valueAccepted v
  | _ => true

/-- Where the reader of a directive stands. -/
inductive Stage where
  /-- Before the first character. -/
  | start
  /-- Inside a word that is a level or a target. -/
  | word
  /-- Inside a span's name. -/
  | span
  /-- Inside a field that started at byte `first`. -/
  | field (first : Nat)
  /-- After a span's fields. -/
  | fields
  /-- After a span. -/
  | target
  /-- Inside the level, which starts at byte `first`. -/
  | level (first : Nat)
  deriving DecidableEq, Repr

/-- The text of bytes `first` to `last` (not included) of a directive as written. -/
def cut (written : List UInt8) (first last : Nat) : Option String :=
  String.fromUTF8? ⟨((written.drop first).take (last - first)).toArray⟩

/-- One character of a directive, at byte `pos` of the trimmed text; `written` is the
directive as written. A field is checked as soon as its `}` is read. -/
def Stage.step (written : List UInt8) (s : Stage) (c : Char) (pos : Nat) : Except Refusal Stage :=
  match s with
  | .start =>
    if c = '[' then .ok .span
    else if c = '-' || c = ':' || c = '_' || Text.isAlphanumeric c then .ok .word
    else .error .invalid
  | .word => .ok (if c = '=' then .level (pos + 1) else if c = '[' then .span else .word)
  | .span => .ok (if c = ']' then .target else if c = '\x7b' then .field (pos + 1) else .span)
  | .field first =>
    if c = '\x7d' then
      if pos = first then .error .invalid
      else if ((cut written first pos).map fieldAccepted).getD true then .ok .fields
      else .error .field
    else .ok (.field first)
  | .fields => if c = ']' then .ok .target else .error .invalid
  | .target => if c = '=' then .ok (.level (pos + 1)) else .error .invalid
  | .level first => .ok (.level first)

/-- Reads characters from byte `pos` of the trimmed text on. -/
def Stage.run (written : List UInt8) (s : Stage) (pos : Nat) : List Char → Except Refusal Stage
  | [] => .ok s
  | c :: cs =>
    match s.step written c pos with
    | .ok s' => s'.run written (pos + c.utf8Size) cs
    | .error r => .error r

/-- Reads a directive: the level it sets, or why it is refused. A target or span without a
level enables everything for it. -/
def read (d : String) : Except Refusal Level :=
  let written := d.toUTF8.toList
  let trimmed := (d.toList.dropWhile Text.isWhiteSpace).reverse.dropWhile Text.isWhiteSpace
    |>.reverse
  match Stage.start.run written 0 trimmed with
  | .ok .word => .ok ((Level.ofBytes? written).getD .trace)
  | .ok (.level first) =>
    let text := written.drop first
    if text.isEmpty then .ok .trace
    else match Level.ofBytes? text with
      | some l => .ok l
      | none => .error .level
  | .ok .target => .ok .trace
  | .ok _ => .error .invalid
  | .error r => .error r

/-- The directives of a filter: the pieces between commas that are not empty. -/
def directives (filter : String) : List String :=
  (filter.splitOn ",").filter (!·.isEmpty)

/-- What setting up the log filter reports on standard error. `rustLog` is the value of
`RUST_LOG`, if set; `configured` is the settings' filter. -/
def warnings (rustLog : Option String) (configured : String) : String :=
  let fromVariable := match rustLog with
    | some v => (directives v).all fun d => (read d).toOption.isSome
    | none => false
  if fromVariable then ""
  else String.join ((directives configured).filterMap fun d =>
    match read d with
    | .ok _ => none
    | .error r => some ("ignoring `" ++ d ++ "`: " ++ r.message ++ "\n"))

end LineScript.LogFilter
