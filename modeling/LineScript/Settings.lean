import LineScript.Json.Read
import LineScript.Json.Write
import LineScript.Eval.Bindings

/-! ## Settings

The settings of the command line, read from a JSON file: whether to resume after a pause
(`resume`, default true), a log filter (`log_filter`, default none, which means `warn`), and
variables bound before a script starts (`variables`, default none). Every field is optional
and unknown fields are skipped.

The document is an object with these fields, or an array giving them in this order (missing
ones keep their defaults). A field given twice is an error; within `variables` the last value
of a name wins. Nothing but blanks may follow the document.

Written back (`Settings.toJson`), the settings are an object with `resume`, then `log_filter`
when there is one, then `variables` in name order when there are any.
-/

namespace LineScript

/-- The settings of the command line. -/
structure Settings where
  resume : Bool
  logFilter : Option String
  vars : Bindings
  deriving DecidableEq, Repr

namespace Settings

/-- The settings when nothing is configured. -/
def defaults : Settings := ⟨true, none, .empty⟩

/-- The log filter in force: the configured one, or `warn`. -/
def effectiveLogFilter (s : Settings) : String := s.logFilter.getD "warn"

/-- The settings as a JSON object. -/
def toJson (s : Settings) : Json :=
  .obj <| [("resume", .bool s.resume)] ++
    (match s.logFilter with
     | some f => [("log_filter", .str f)]
     | none => []) ++
    (if s.vars.size = 0 then []
     else [("variables", .obj (s.vars.toList.map fun (k, v) => (k, .str v)))])

end Settings

namespace JsonReader

section

variable (text : ByteArray)

/-- Reads a boolean. -/
def readBool : ReadM Bool := do
  match ← skipBlanks text (budget text) with
  | none => failAhead text .eofInValue
  | some 116 => do eat; expectIdent text [114, 117, 101]; pure true
  | some 102 => do eat; expectIdent text [97, 108, 115, 101]; pure false
  | some _ => wrongType text "a boolean"

/-- Reads a string. -/
def readString : ReadM String := do
  match ← skipBlanks text (budget text) with
  | none => failAhead text .eofInValue
  | some 34 => do eat; stringBody text (budget text) ByteArray.empty
  | some _ => wrongType text "a string"

/-- Reads a string or `null`. -/
def readOptString : ReadM (Option String) := do
  match ← skipBlanks text (budget text) with
  | some 110 => do eat; expectIdent text [117, 108, 108]; pure none
  | _ => some <$> readString text

/-- Whether another key follows in an object; `first` is true before the first key. -/
def hasNextKey (first : Bool) : ReadM Bool := do
  match ← skipBlanks text (budget text) with
  | none => failAhead text .eofInObject
  | some 125 => pure false
  | some c =>
    if first then
      if c = 34 then pure true else failAhead text .keyMustBeString
    else if c = 44 then do
      eat
      match ← skipBlanks text (budget text) with
      | some 34 => pure true
      | some 125 => failAhead text .trailingComma
      | some _ => failAhead text .keyMustBeString
      | none => failAhead text .eofInValue
    else failAhead text .expectedObjectCommaOrEnd

/-- Reads a key, from its opening quote. -/
def readKey : ReadM String := do
  eat
  stringBody text (budget text) ByteArray.empty

/-- Reads the colon after a key. -/
def readColon : ReadM Unit := do
  match ← skipBlanks text (budget text) with
  | some 58 => eat
  | some _ => failAhead text .expectedColon
  | none => failAhead text .eofInObject

/-- Reads the end of an object. -/
def readObjectEnd : ReadM Unit := do
  match ← skipBlanks text (budget text) with
  | some 125 => eat
  | some 44 => failAhead text .trailingComma
  | some _ => failAhead text .trailingCharacters
  | none => failAhead text .eofInObject

/-- Reads the entries of a string-to-string object after its opening brace. -/
def stringEntries : Nat → Bool → Bindings → ReadM Bindings
  | 0, _, acc => pure acc
  | fuel + 1, first, acc => do
    if ← hasNextKey text first then
      let k ← readKey text
      readColon text
      let v ← readString text
      stringEntries fuel false (acc.insert k v)
    else pure acc

/-- Reads an object of string values. -/
def readStringMap : ReadM Bindings := do
  match ← skipBlanks text (budget text) with
  | none => failAhead text .eofInValue
  | some 123 => do
    eat
    let m ← stringEntries text (budget text) true .empty
    readObjectEnd text
    pure m
  | some _ => wrongType text "a map"

/-- Which settings fields have been read so far. -/
structure Seen where
  resume : Bool
  logFilter : Bool
  vars : Bool

/-- Reads the fields of a settings object after its opening brace; gives the settings, or
the name of a field given twice (not yet placed, since its error points past the end of the
object's blanks). -/
def settingsFields : Nat → Bool → Seen → Settings → ReadM (Except String Settings)
  | 0, _, _, acc => pure (.ok acc)
  | fuel + 1, first, seen, acc => do
    if ← hasNextKey text first then
      let k ← readKey text
      if k = "resume" then
        if seen.resume then return .error k
        readColon text
        let b ← readBool text
        settingsFields fuel false { seen with resume := true } { acc with resume := b }
      else if k = "log_filter" then
        if seen.logFilter then return .error k
        readColon text
        let f ← readOptString text
        settingsFields fuel false { seen with logFilter := true } { acc with logFilter := f }
      else if k = "variables" then
        if seen.vars then return .error k
        readColon text
        let m ← readStringMap text
        settingsFields fuel false { seen with vars := true } { acc with vars := m }
      else
        readColon text
        skipValue text
        settingsFields fuel false seen acc
    else pure (.ok acc)

/-- Whether another element follows in an array; `first` is true before the first one. -/
def hasNextElement (first : Bool) : ReadM Bool := do
  match ← skipBlanks text (budget text) with
  | none => failAhead text .eofInList
  | some 93 => pure false
  | some c =>
    if first then pure true
    else if c = 44 then do
      eat
      match ← skipBlanks text (budget text) with
      | some 93 => failAhead text .trailingComma
      | some _ => pure true
      | none => failAhead text .eofInValue
    else failAhead text .expectedListCommaOrEnd

/-- Reads the end of an array. -/
def readArrayEnd : ReadM Unit := do
  match ← skipBlanks text (budget text) with
  | some 93 => eat
  | some 44 => do
    eat
    match ← skipBlanks text (budget text) with
    | some 93 => failAhead text .trailingComma
    | _ => failAhead text .trailingCharacters
  | some _ => failAhead text .trailingCharacters
  | none => failAhead text .eofInList

/-- Reads settings given as an array, after its opening bracket. -/
def settingsElements : ReadM Settings := do
  let d := Settings.defaults
  let (resume, first) ← do
    if ← hasNextElement text true then pure (← readBool text, false) else pure (d.resume, true)
  let (logFilter, first) ← do
    if ← hasNextElement text first then pure (← readOptString text, false)
    else pure (d.logFilter, first)
  let vars ← do
    if ← hasNextElement text first then readStringMap text else pure d.vars
  pure ⟨resume, logFilter, vars⟩

/-- Reads a settings document. -/
def readSettings : ReadM Settings := do
  let s ← match ← skipBlanks text (budget text) with
    | none => failAhead text .eofInValue
    | some 91 => do
      eat
      let s ← settingsElements text
      readArrayEnd text
      pure s
    | some 123 => do
      eat
      match ← settingsFields text (budget text) true ⟨false, false, false⟩ Settings.defaults with
      | .ok s => do
        readObjectEnd text
        pure s
      | .error name => do
        if (← skipBlanks text (budget text)) = some 125 then eat
        fail text (.duplicateField name)
    | some _ => wrongType text "struct KatesConfig"
  match ← skipBlanks text (budget text) with
  | some _ => failAhead text .trailingCharacters
  | none => pure s

end

end JsonReader

/-- Reads settings from a JSON text. -/
def Settings.read (text : String) : Except JsonReader.Error Settings :=
  (JsonReader.readSettings text.toUTF8).run' 0

end LineScript
