import LineScript.Text.Terminal

/-! ## The command line described

The commands and options of the command line as data, and the texts made from them:
help pages, usage lines, and the names options go by in messages. The texts are styled
(`Text.Styled`): headings, and the names a user types, have looks of their own.

A help page is the command's description, its usage line, then the sections `Commands`,
`Arguments` and `Options` that apply, separated by blank lines. In a section each entry
starts with two blanks; option names leave room for a short name (`-h, `); descriptions are
aligned two blanks after the longest entry of the section, and a line break inside one is
followed by blanks up to that column. Options are listed by display order (options of the
top command first, in the order they were declared), then by name; the help and version
flags come last.

Each command's own arguments form a group (the top command's `--config` and `--log-dir`;
`run`'s script, `--var` and `--no-resume`; `check`'s script and `--json`). Usage lines
written after an argument of the group was given show the group as one alternative,
`<SCRIPT|--json>`.
-/

namespace LineScript.Cli

open Text

/-- What an option does when it is given. -/
inductive Action where
  /-- Show the help page. -/
  | help
  /-- Show the version. -/
  | version
  /-- Switch a setting on. -/
  | setTrue
  /-- Take a path; an empty path is refused. -/
  | setPath
  /-- Take a `NAME=VALUE` binding; may be given many times. -/
  | appendBinding
  deriving DecidableEq, Repr

/-- An option of a command. -/
structure Opt where
  long : String
  short : Option Char
  /-- The name of its value, for options that take one. -/
  valueName : Option String
  help : String
  /-- An environment variable that supplies the value when the option is not given. -/
  env : Option String
  /-- Where it is listed: lower first; ties by name. -/
  order : Nat
  action : Action
  deriving DecidableEq, Repr

/-- A command of the command line. -/
structure Cmd where
  /-- The full name used in usage lines: the program's name, then the command's. -/
  path : String
  /-- The name typed to select it. -/
  name : String
  about : String
  /-- The positional argument: its value name and description. -/
  positional : Option (String × String)
  /-- Its options, global ones included, in declaration order. -/
  opts : List Opt
  /-- The long names of the options in the command's own group, in declaration order; the
  positional argument, if any, belongs to the group too. -/
  group : List String
  deriving DecidableEq, Repr

/-- The name an option goes by in messages: `--name <VALUE>` or `--name`. -/
def Opt.display (o : Opt) : String :=
  "--" ++ o.long ++ match o.valueName with
    | some v => " <" ++ v ++ ">"
    | none => ""

/-- The help flag. -/
def helpOpt : Opt := ⟨"help", some 'h', none, "Print help", none, 999, .help⟩

/-- The version flag of the top command. -/
def versionOpt : Opt := ⟨"version", some 'V', none, "Print version", none, 999, .version⟩

/-- `--config`, shared by all commands. -/
def configOpt : Opt :=
  ⟨"config", none, some "CONFIG", "Path to a config file (defaults to ~/.kates/config.json)",
    some "KATES_CONFIG", 0, .setPath⟩

/-- `--log-dir`, shared by all commands. -/
def logDirOpt : Opt :=
  ⟨"log-dir", none, some "LOG_DIR", "Write logs to <DIR>/kates.log instead of stderr", none, 1,
    .setPath⟩

/-- The options every command shares. -/
def globalOpts : List Opt := [configOpt, logDirOpt]

/-- The top command. -/
def top : Cmd :=
  ⟨"kates", "kates", "Runs kates scripts", none, globalOpts ++ [helpOpt, versionOpt],
    ["config", "log-dir"]⟩

/-- The script argument of `run` and `check`. -/
def scriptArg : String × String := ("SCRIPT", "Path to the script file (reads stdin if omitted)")

/-- The `run` command. -/
def runCmd : Cmd :=
  ⟨"kates run", "run", "Run a .kts script", some scriptArg,
    [⟨"var", none, some "NAME=VALUE", "Bind a variable before the script starts", none, 0,
        .appendBinding⟩,
      ⟨"no-resume", none, none, "Exit on the first pause instead of resuming", none, 1, .setTrue⟩] ++
      globalOpts ++ [helpOpt], ["var", "no-resume"]⟩

/-- The `check` command. -/
def checkCmd : Cmd :=
  ⟨"kates check", "check", "Parse a script without running it", some scriptArg,
    [⟨"json", none, none, "Print the parsed commands as JSON", none, 0, .setTrue⟩] ++ globalOpts ++
      [helpOpt], ["json"]⟩

/-- The `functions` command. -/
def functionsCmd : Cmd :=
  ⟨"kates functions", "functions", "List the functions scripts can call", none,
    globalOpts ++ [helpOpt], []⟩

/-- The description of the `help` command. -/
def helpAbout : String := "Print this message or the help of the given subcommand(s)"

/-- The commands below the top one that select a behaviour. -/
def subcommands : List Cmd := [runCmd, checkCmd, functionsCmd]

/-- The names of all commands below the top one, `help` included. -/
def subcommandNames : List String := subcommands.map Cmd.name ++ ["help"]

/-- Blanks. -/
def blanks (n : Nat) : String := String.ofList (List.replicate n ' ')

/-- The width an option takes in a help page, short name included. -/
def Opt.width (o : Opt) : Nat := o.display.length + 4

/-- The options of a command in the order a help page lists them. -/
def Cmd.listedOpts (c : Cmd) : List Opt :=
  let key (o : Opt) : String := match o.short with
    | some s => s.toLower.toString ++ (if s.isLower then "0" else "1")
    | none => o.long
  c.opts.mergeSort fun a b => a.order < b.order || (a.order = b.order && key a ≤ key b)

/-- The description of an option with its environment variable, showing that variable's
value from `env`. -/
def Opt.describe (o : Opt) (env : List (String × String)) : String :=
  match o.env with
  | some e =>
    let v := ((env.find? fun p => p.1 = e).map Prod.snd).getD ""
    o.help ++ " [env: " ++ e ++ "=" ++ v ++ "]"
  | none => o.help

/-- An option as usage lines and help pages write it: its name, literal, then its value's
name. -/
def Opt.styledName (o : Opt) : Styled :=
  Styled.styled .literal ("--" ++ o.long) ++ match o.valueName with
    | some v => Styled.text (" <" ++ v ++ ">")
    | none => Styled.text ""

/-- `text` with blanks up to column `indent` after each line break. -/
def indentLines (indent : Nat) (text : String) : String :=
  "\n".intercalate ((text.splitOn "\n").mapIdx fun i l => if i = 0 then l else blanks indent ++ l)

/-- The line of an option in a help page, its description at column `2 + width + 2`. -/
def Opt.helpLine (o : Opt) (width : Nat) (env : List (String × String)) : Styled :=
  let head := match o.short with
    | some s => Styled.styled .literal ("-" ++ s.toString) ++ Styled.text ", "
    | none => Styled.text "    "
  Styled.text "  " ++ head ++ o.styledName ++
    Styled.text (blanks (width + 2 - o.width) ++ indentLines (width + 4) (o.describe env))

/-- Whether a command's usage line mentions `[OPTIONS]`: it has options other than help and
version. -/
def Cmd.hasOptions (c : Cmd) : Bool :=
  c.opts.any fun o => o.action ≠ .help && o.action ≠ .version

/-- The usage line of a command, without the `Usage: ` title. -/
def Cmd.usage (c : Cmd) : Styled :=
  Styled.styled .literal c.path ++
    Styled.text ((if c.hasOptions then " [OPTIONS]" else "") ++
      (match c.positional with
       | some (v, _) => " [" ++ v ++ "]"
       | none => "") ++
      (if c.name = "kates" then " <COMMAND>" else ""))

/-- Whether an option belongs to the command's own group. -/
def Cmd.inGroup (c : Cmd) (o : Opt) : Bool := c.group.contains o.long

/-- The command's own group as one alternative: `<SCRIPT|--var <NAME=VALUE>|--no-resume>`. -/
def Cmd.groupText (c : Cmd) : String :=
  let script := match c.positional with
    | some (v, _) => [v]
    | none => []
  let opts := c.group.filterMap fun n => (c.opts.find? (·.long = n)).map Opt.display
  "<" ++ "|".intercalate (script ++ opts) ++ ">"

/-- The usage line once some arguments were given: the command, the options given, the
command's group if one of its arguments was given (its members are then not listed one by
one), the positional argument (as required, `<SCRIPT>`, once given) and, for the top
command, `<COMMAND>`. With nothing given it is the plain usage line. -/
def Cmd.usageWith (c : Cmd) (used : List Opt) (positionalGiven groupUsed : Bool) : Styled :=
  if used.isEmpty && !positionalGiven && !groupUsed then c.usage
  else
    let listed := if groupUsed then used.filter (!c.inGroup ·) else used
    let positional := match c.positional with
      | some (v, _) =>
        if groupUsed then ""
        else if positionalGiven then " <" ++ v ++ ">" else " [" ++ v ++ "]"
      | none => ""
    Styled.styled .literal c.path ++
      Styled.join (listed.map fun o => Styled.text " " ++ o.styledName) ++
      Styled.text ((if groupUsed then " " ++ c.groupText else "") ++ positional ++
        (if c.name = "kates" then " <COMMAND>" else ""))

/-- The help page of a command. -/
def Cmd.helpPage (c : Cmd) (env : List (String × String)) : Styled :=
  let commands : List Styled :=
    if c.name = "kates" then
      let entries := subcommands.map (fun s => (s.name, s.about)) ++ [("help", helpAbout)]
      let w := (entries.map fun e => e.1.length).foldl max 0
      [Styled.styled .header "Commands:" ++ Styled.text "\n" ++
        Styled.intercalate (Styled.text "\n") (entries.map fun (n, a) =>
          Styled.text "  " ++ Styled.styled .literal n ++ Styled.text (blanks (w + 2 - n.length) ++ a))]
    else []
  let arguments : List Styled := match c.positional with
    | some (v, h) => [Styled.styled .header "Arguments:" ++ Styled.text ("\n  [" ++ v ++ "]  " ++ h)]
    | none => []
  let opts := c.listedOpts
  let width := (opts.map Opt.width).foldl max 2
  let options := [Styled.styled .header "Options:" ++ Styled.text "\n" ++
    Styled.intercalate (Styled.text "\n") (opts.map fun o => o.helpLine width env)]
  Styled.text (c.about ++ "\n\n") ++ Styled.styled .header "Usage:" ++ Styled.text " " ++ c.usage ++
    Styled.text "\n\n" ++ Styled.intercalate (Styled.text "\n\n") (commands ++ arguments ++ options) ++
    Styled.text "\n"

/-- The usage line of the `help` command. -/
def helpCommandUsage : Styled :=
  Styled.styled .literal "kates help" ++ Styled.text " [COMMAND]..."

/-- The help page of the `help` command. -/
def helpCommandPage : Styled :=
  Styled.text (helpAbout ++ "\n\n") ++ Styled.styled .header "Usage:" ++ Styled.text " " ++
    helpCommandUsage ++ Styled.text "\n\n" ++ Styled.styled .header "Arguments:" ++
    Styled.text "\n  [COMMAND]...  Print help for the subcommand(s)\n"

/-- The text of `--version`. -/
def versionText : String := "kates 0.2.2\n"

end LineScript.Cli
