import LineScript.Cli.Spec
import LineScript.Text.Escaped
import LineScript.Text.Similarity
import LineScript.Text.Terminal

/-! ## Reading the command line

The words of a command line are read from the left. `--name` and `--name=value` are long
options, `-x` short ones, `--` makes every later word a plain argument, and other words are
arguments: at the top the name of a command, below it the script path. An option that takes
a value takes the next word unless that word is an option itself.

What a command line can ask for is a `Request`; a command line that asks for help or the
version, or that is wrong, is answered at once with a text (`Parsed.show`, `Parsed.refuse`).
A wrong command line is described by a `Complaint`: what is wrong, hints (similar names,
how to pass a word that looks like an option), and the usage line.
-/

namespace LineScript.Cli

open Text

/-- What a command line asks to do. -/
inductive Request where
  | run (script : Option String) (vars : List (String × String)) (noResume : Bool)
  | check (script : Option String) (json : Bool)
  | functions
  deriving DecidableEq, Repr

/-- A command line read successfully: the settings file and log directory if given, and the
request. -/
structure Invocation where
  config : Option String
  logDir : Option String
  request : Request
  deriving DecidableEq, Repr

/-- How a command line is answered before anything runs. -/
inductive Parsed where
  /-- Carry out the request. -/
  | invoke (i : Invocation)
  /-- Print this text on standard output and succeed (help, version). -/
  | show (text : String)
  /-- Print this text on standard error and fail with status 2. -/
  | refuse (text : String)
  deriving DecidableEq, Repr

/-- A name quoted, with a look: `'name'`. -/
def quoted (l : Look) (s : String) : Styled :=
  Styled.text "'" ++ Styled.styled l s ++ Styled.text "'"

/-- A hint on a line of its own: `tip: ...`. -/
def tipLine (t : Styled) : Styled :=
  Styled.text "\n  " ++ Styled.styled .valid "tip:" ++ Styled.text " " ++ t

/-- What is wrong with a command line, and the hints that go with it. -/
structure Complaint where
  message : Styled
  similarCommands : List String
  similarOption : Option String
  tips : List Styled
  usage : Option Styled
  /-- Whether the text ends by pointing to `--help`; the `help` command has no such flag, so
  its complaints end with a line break only. -/
  helpHint : Bool

/-- The text of a complaint: the message, then the hints, each group after a blank line,
then the usage line. -/
def Complaint.text (c : Complaint) : Styled :=
  let commands :=
    match c.similarCommands with
    | [] => ∅
    | [n] => Styled.text "\n" ++ tipLine (Styled.text "a similar subcommand exists: " ++ quoted .valid n)
    | ns => Styled.text "\n" ++ tipLine (Styled.text "some similar subcommands exist: " ++
        Styled.intercalate (Styled.text ", ") (ns.map (quoted .valid)))
  let suggested := !c.similarCommands.isEmpty
  let option :=
    match c.similarOption with
    | some o => (if suggested then ∅ else Styled.text "\n") ++
        tipLine (Styled.text "a similar argument exists: " ++ quoted .valid o)
    | none => ∅
  let suggested := suggested || c.similarOption.isSome
  let tips :=
    if c.tips.isEmpty then ∅
    else (if suggested then ∅ else Styled.text "\n") ++ Styled.join (c.tips.map tipLine)
  let usage := match c.usage with
    | some u => Styled.text "\n\n" ++ Styled.styled .header "Usage:" ++ Styled.text " " ++ u
    | none => ∅
  let footer :=
    if c.helpHint then Styled.text "\n\nFor more information, try " ++ quoted .literal "--help" ++
      Styled.text ".\n"
    else Styled.text "\n"
  Styled.styled .error "error:" ++ Styled.text " " ++ c.message ++ commands ++ option ++ tips ++
    usage ++ footer

/-- The refusal that shows a complaint. -/
def Complaint.refusal (c : Complaint) : Parsed := .refuse c.text.toPlain

/-- A complaint with a message and a usage line only. -/
def Complaint.plain (message : Styled) (usage : Option Styled) : Complaint :=
  ⟨message, [], none, [], usage, true⟩

/-- The message for an argument given twice. -/
def givenTwice (name : String) : Styled :=
  Styled.text "the argument " ++ quoted .invalid name ++ Styled.text " cannot be used multiple times"

/-- The message for a word no argument takes. -/
def unexpectedArgument (w : String) : Styled :=
  Styled.text "unexpected argument " ++ quoted .invalid w ++ Styled.text " found"

/-- The message for a word that names no command. -/
def unrecognizedCommand (w : String) : Styled :=
  Styled.text "unrecognized subcommand " ++ quoted .invalid w

/-- The hint for passing a word that looks like an option as a value. -/
def dashTip (w : String) : Styled :=
  Styled.text "to pass " ++ quoted .invalid w ++ Styled.text " as a value, use " ++
    quoted .valid ("-- " ++ w)

/-- What a command's words gave so far. -/
structure Given where
  /-- Options given, in the order they first appeared. -/
  seen : List Opt
  /-- Paths given to path options, by long name. -/
  paths : List (String × String)
  /-- Bindings given with `--var`, in order. -/
  bindings : List (String × String)
  /-- Switches given, by long name. -/
  switches : List String
  /-- The positional argument, once checked. -/
  positional : Option String
  deriving DecidableEq, Repr

/-- Nothing given yet. -/
def Given.empty : Given := ⟨[], [], [], [], none⟩

/-- Records that an option was given. -/
def Given.note (g : Given) (o : Opt) : Given :=
  if g.seen.contains o then g else { g with seen := g.seen ++ [o] }

/-- The path given to an option, if any. -/
def Given.path? (g : Given) (long : String) : Option String :=
  (g.paths.find? fun p => p.1 = long).map Prod.snd

/-- Whether an option was given on the command line. -/
def Given.has (g : Given) (o : Opt) : Bool := g.seen.contains o

/-- Whether an argument of the command's own group was given. -/
def Given.groupUsed (c : Cmd) (g : Given) : Bool :=
  g.seen.any c.inGroup || g.positional.isSome

/-- A `NAME=VALUE` binding: split at the first `=`, with a name that is not empty. -/
def binding? (s : String) : Option (String × String) :=
  match s.splitOn "=" with
  | name :: rest@(_ :: _) => if name.isEmpty then none else some (name, "=".intercalate rest)
  | _ => none

/-- Refusal for an argument that needs a value and got none; `name` is how it is shown. -/
def missingValue (name : String) : Parsed :=
  (Complaint.plain (Styled.text "a value is required for " ++ quoted .literal name ++
    Styled.text " but none was supplied") none).refusal

/-- Gives a value to an option. -/
def Given.give (c : Cmd) (g : Given) (o : Opt) (v : String) : Except Parsed Given :=
  match o.action with
  | .setPath =>
    if g.has o then .error (Complaint.plain (givenTwice o.display) (some c.usage)).refusal
    else if v.isEmpty then .error (missingValue o.display)
    else .ok { g.note o with paths := g.paths ++ [(o.long, v)] }
  | .appendBinding =>
    match binding? v with
    | some b => .ok { g.note o with bindings := g.bindings ++ [b] }
    | none =>
      .error (Complaint.plain (Styled.text "invalid value " ++ quoted .invalid v ++
        Styled.text " for " ++ quoted .literal o.display ++
        Styled.text (": expected NAME=VALUE, got " ++ Text.escaped v)) none).refusal
  | _ => .ok g

/-- A word read but not yet checked. An option's value, or the script path, is checked only
when the next option or argument is met, or when the command's words end; a wrong word met
in between is reported first. -/
inductive Waiting where
  /-- An option that takes a value was given; its value has not come yet. -/
  | forValue (o : Opt)
  /-- An option and its value, not yet checked. -/
  | withValue (o : Opt) (v : String)
  /-- The script path, not yet checked. -/
  | script (v : String)
  deriving DecidableEq, Repr

/-- Checks what was waiting and records it. -/
def Given.settle (c : Cmd) (g : Given) : Option Waiting → Except Parsed Given
  | none => .ok g
  | some (.forValue o) => .error (missingValue o.display)
  | some (.withValue o v) => g.give c o v
  | some (.script v) =>
    if v.isEmpty then
      .error (missingValue ("[" ++ ((c.positional.map Prod.fst).getD "") ++ "]"))
    else .ok { g with positional := some v }

/-- What is recorded of a waiting word when the command line is refused for another reason
anyway: an option given a second time is dropped, an option whose value is wrong is still
counted as given, and an option still without a value is not. -/
def Given.settleQuietly (c : Cmd) (g : Given) : Option Waiting → Given
  | some (.withValue o v) =>
    match g.give c o v with
    | .ok g' => g'
    | .error _ =>
      if o.action = .setPath && g.has o then { g with seen := g.seen.filter (· ≠ o) }
      else g.note o
  | some (.script v) => { g with positional := some v }
  | _ => g

/-- The options a long name could have been meant as: a similar option of this command, or
else a similar option of a command named later on the line. -/
def similarOption (c : Cmd) (name : String) (later : List String) :
    Option (String × Option String) :=
  match (Text.similar name (c.opts.map Opt.long)).getLast? with
  | some o => some (o, none)
  | none =>
    let found := (if c.name = "kates" then subcommands else []).filterMap fun s =>
      match (Text.similar name (s.opts.map Opt.long)).getLast?, later.idxOf? s.name with
      | some o, some i => some (i, o, s.name)
      | _, _ => none
    match found.mergeSort (fun a b => a.1 ≤ b.1) with
    | (_, o, s) :: _ => some (o, some s)
    | [] => none

/-- The refusal for a long option this command does not have. Its usage line lists the
options given, the suggested one included, one by one. -/
def unknownLong (c : Cmd) (g : Given) (name : String) (later : List String) (trailing : Bool) :
    Parsed :=
  let similar := similarOption c name later
  let used := match similar with
    | some (o, none) => match c.opts.find? (fun (x : Opt) => x.long = o) with
      | some opt => (g.note opt).seen
      | none => g.seen
    | _ => g.seen
  let withDash := similar.isNone && !trailing && c.positional.isSome
  let tips := (if withDash then [dashTip ("--" ++ name)] else []) ++
    (match similar with
     | some (o, some s) => [quoted .valid (s ++ " --" ++ o) ++ Styled.text " exists"]
     | _ => [])
  let option := match similar with
    | some (o, none) => some ("--" ++ o)
    | _ => none
  Complaint.refusal ⟨unexpectedArgument ("--" ++ name), [], option, tips,
    some (c.usageWith used g.positional.isSome false), true⟩

/-- The refusal for a word that no command takes. -/
def unexpectedWord (c : Cmd) (w : String) (trailing : Bool) : Parsed :=
  if c.name = "kates" then
    if trailing && subcommandNames.contains w then
      Complaint.refusal ⟨unexpectedArgument w, [], none,
        [Styled.text "subcommand " ++ quoted .valid w ++ Styled.text " exists; to use it, remove the " ++
          quoted .invalid "--" ++ Styled.text " before it"], some c.usage, true⟩
    else
      Complaint.refusal ⟨unrecognizedCommand w, Text.similar w subcommandNames, none, [],
        some c.usage, true⟩
  else
    let looksLikeOption := w.startsWith "-" && w.length > 1
    let tips := if !trailing && c.positional.isSome && looksLikeOption then [dashTip w] else []
    Complaint.refusal ⟨unexpectedArgument w, [], none, tips, some c.usage, true⟩

/-- Reads the words of one command. `waiting` is the word not yet checked; `trailing` says
a `--` was seen. Gives what was read, what still waits, and, at the top, the command named and
the words after it.

Before a `--`, a word is an option if it looks like one; otherwise it is the value of an
option still waiting for one, even when it is a command's name; otherwise, at the top, a
command's name ends the top command's words; anything else is the positional argument. -/
def readWords (c : Cmd) (env : List (String × String)) :
    List String → Given → Option Waiting → Bool →
      Except Parsed (Given × Option Waiting × Option (Cmd × List String))
  | [], g, waiting, _ => .ok (g, waiting, none)
  | w :: rest, g, waiting, trailing =>
    if !trailing && w = "--" then readWords c env rest g waiting true
    else if !trailing && w.startsWith "--" then
      let body := String.ofList (w.toList.drop 2)
      let (name, attached) : String × Option String := match body.splitOn "=" with
        | n :: v :: more => (n, some ("=".intercalate (v :: more)))
        | _ => (body, none)
      match c.opts.find? (·.long = name) with
      | none => .error (unknownLong c (g.settleQuietly c waiting) name rest trailing)
      | some o =>
        let takesValue := o.action = .setPath || o.action = .appendBinding
        match attached with
        | some v =>
          if takesValue then
            match g.settle c waiting >>= fun g => g.give c o v with
            | .ok g' => readWords c env rest g' none trailing
            | .error e => .error e
          else .error (tooMany g o v)
        | none =>
          match g.settle c waiting with
          | .error e => .error e
          | .ok g =>
            match o.action with
            | .help => .error (.show (c.helpPage env).toPlain)
            | .version => .error (.show versionText)
            | .setTrue =>
              if g.switches.contains o.long then
                .error (Complaint.plain (givenTwice o.display) (some c.usage)).refusal
              else readWords c env rest { g.note o with switches := g.switches ++ [o.long] } none
                trailing
            | _ => readWords c env rest g (some (.forValue o)) trailing
    else if !trailing && w.startsWith "-" && w.length > 1 then
      let s := (w.toList.drop 1).headD ' '
      match c.opts.find? (·.short = some s) with
      | some o =>
        match g.settle c waiting with
        | .error e => .error e
        | .ok _ =>
          if o.action = .help then .error (.show (c.helpPage env).toPlain)
          else .error (.show versionText)
      | none =>
        let arg := "-" ++ s.toString
        let tips := if c.positional.isSome then [dashTip arg] else []
        .error (Complaint.refusal ⟨unexpectedArgument arg, [], none, tips, some c.usage, true⟩)
    else
      match waiting, trailing with
      | some (.forValue o), false => readWords c env rest g (some (.withValue o w)) trailing
      | _, _ =>
        if !trailing && c.name = "kates" && subcommandNames.contains w then
          if w = "help" then .error (helpFor rest)
          else match subcommands.find? (·.name = w) with
            | some s => .ok (g, waiting, some (s, rest))
            | none => .error (unexpectedWord c w trailing)
        else
          let slotTaken := g.positional.isSome || match waiting with
            | some (.script _) => true
            | _ => false
          if c.positional.isSome && !slotTaken then
            match g.settle c waiting with
            | .error e => .error e
            | .ok g => readWords c env rest g (some (.script w)) trailing
          else .error (unexpectedWord c w trailing)
where
  /-- The refusal for a value given to an option that takes none. Its usage line shows the
  command's group as one alternative if an argument of it was recorded before this option. -/
  tooMany (g : Given) (o : Opt) (v : String) : Parsed :=
    Complaint.refusal ⟨Styled.text "unexpected value " ++ quoted .invalid v ++ Styled.text " for " ++
      quoted .literal o.display ++ Styled.text " found; no more were expected", [], none, [],
      some (c.usageWith (g.note o).seen g.positional.isSome (g.groupUsed c)), true⟩
  /-- The answer of `help` followed by command names. -/
  helpFor (names : List String) : Parsed :=
    match names with
    | [] => .show (top.helpPage env).toPlain
    | [n] =>
      if n = "help" then .show helpCommandPage.toPlain
      else match subcommands.find? (·.name = n) with
        | some s => .show (s.helpPage env).toPlain
        | none => (Complaint.plain (unrecognizedCommand n) (some top.usage)).refusal
    | n :: m :: _ =>
      if n = "help" then
        ({ Complaint.plain (unrecognizedCommand m) (some helpCommandUsage) with
            helpHint := false }).refusal
      else match subcommands.find? (·.name = n) with
        | some s => (Complaint.plain (unrecognizedCommand m) (some s.usage)).refusal
        | none => (Complaint.plain (unrecognizedCommand n) (some top.usage)).refusal

/-- The value of an environment variable, if set. -/
def envValue (env : List (String × String)) (name : String) : Option String :=
  (env.find? fun p => p.1 = name).map Prod.snd

/-- The settings path from the environment, for a command where `--config` was not given. -/
def configFromEnv (env : List (String × String)) (g : Given) : Except Parsed (Option String) :=
  if g.has configOpt then .ok (g.path? "config")
  else match envValue env "KATES_CONFIG" with
    | some "" => .error (missingValue configOpt.display)
    | some v => .ok (some v)
    | none => .ok none

/-- Ends a command's words: checks what still waits, then takes `--config` from the
environment if it was not given. -/
def finish (c : Cmd) (env : List (String × String)) (g : Given) (waiting : Option Waiting) :
    Except Parsed (Given × Option String) := do
  let g ← g.settle c waiting
  let config ← configFromEnv env g
  return (g, config)

/-- Reads a whole command line (without the program name). -/
def readCommandLine (args : List String) (env : List (String × String)) : Parsed :=
  match readWords top env args Given.empty none false with
  | .error p => p
  | .ok (g, waiting, none) =>
    match finish top env g waiting with
    | .error p => p
    | .ok (g, config) =>
      if g.seen.isEmpty && config.isNone then .refuse (top.helpPage env).toPlain
      else (Complaint.plain (quoted .invalid "kates" ++
        Styled.text " requires a subcommand but one was not provided\n  [subcommands: " ++
        Styled.intercalate (Styled.text ", ") (subcommandNames.map (Styled.styled .valid)) ++
        Styled.text "]") (some top.usage)).refusal
  | .ok (g, waiting, some (s, rest)) =>
    match readWords s env rest Given.empty none false with
    | .error p => p
    | .ok (sg, subWaiting, _) =>
      match finish s env sg subWaiting with
      | .error p => p
      | .ok (sg, subConfig) =>
        match finish top env g waiting with
        | .error p => p
        | .ok (g, topConfig) =>
          let config := if sg.has configOpt then subConfig
            else if g.has configOpt then topConfig else subConfig
          let logDir := (sg.path? "log-dir").orElse fun _ => g.path? "log-dir"
          let request :=
            if s.name = "run" then .run sg.positional sg.bindings (sg.switches.contains "no-resume")
            else if s.name = "check" then .check sg.positional (sg.switches.contains "json")
            else .functions
          .invoke ⟨config, logDir, request⟩

end LineScript.Cli
