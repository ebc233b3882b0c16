import LineScript.Cli.Parse
import LineScript.Cli.Disk
import LineScript.LogFilter
import LineScript.Settings
import LineScript.Syntax.Parse
import LineScript.Syntax.Tree
import LineScript.Host.Functions
import LineScript.Host.Executor

/-! ## The program

The whole command-line program as a function from what it sees (`World`: the words of the
command line, the environment, standard input, the files of the working directory, the
settings file in the home directory, the clock) to what it leaves (`Answer`: exit status,
standard output, standard error).

After the command line is read, the settings are loaded: from the file `--config` (or
`KATES_CONFIG`) names, whose absence or malformation is an error, or else from the home
directory's `.kates/config.json`, whose absence or malformation gives the defaults. Then:

* `run` reads the script (the file, or standard input), runs it with the host functions,
  binding the settings' variables and then the `--var` bindings, and resumes after pauses
  unless `--no-resume` or the settings say otherwise; a pause that ends the run prints
  `paused: TOKEN (next command N)`;
* `check` reads the script and prints `ok: N commands`, or the commands as JSON;
* `functions` prints the names of the host functions, one per line.

A failure prints `Error: ` and its text on standard error. Exit statuses: 2 for a command
line or parse error, 3 for a failed command, 4 for a file or settings error.
-/

namespace LineScript.Cli

/-- What the program can fail with after its command line was read. -/
inductive Failure where
  | parse (e : ParseError)
  | execution (e : ExecutionError)
  | settings (path : String) (e : JsonReader.Error)
  | file (e : FileError)

namespace Failure

/-- The text of a failure. -/
def message : Failure → String
  | .parse e => e.message
  | .execution e => e.message
  | .settings path e => "Config error: " ++ path ++ ": " ++ e.message
  | .file e => "IO error: " ++ e.message

/-- The exit status of a failure. -/
def status : Failure → Nat
  | .parse _ => 2
  | .execution _ => 3
  | .settings _ _ => 4
  | .file _ => 4

/-- The texts of the failures beneath this one, outermost first. -/
def causes : Failure → List String
  | .parse e => [e.message, e.cause.message]
  | .execution e => e.message :: e.cause.message :: e.cause.causes
  | .settings _ _ => []
  | .file e => [e.message]

end Failure

/-- What the program sees. -/
structure World where
  /-- The words after the program name. -/
  args : List String
  env : List (String × String)
  stdin : String
  /-- The working directory. -/
  disk : Disk
  /-- The contents of `~/.kates/config.json`, if there is such a file. -/
  homeConfig : Option String
  /-- The current time, RFC 3339. -/
  clock : String

/-- What the program leaves. -/
structure Answer where
  status : Nat
  stdout : String
  stderr : String
  deriving DecidableEq, Repr

/-- Reads a file: its text and the world after. Reading standard input, by any of the paths
that lead to it, gives what is left of it and leaves it empty. -/
def World.read (w : World) (path : String) : Except FileError String × World :=
  match w.disk.read path with
  | .ok (.text t) => (.ok t, w)
  | .ok .input => (.ok w.stdin, { w with stdin := "" })
  | .error e => (.error e, w)

/-- The settings in force, and the world once the settings file, if one is named, is read. -/
def World.settings (w : World) (config : Option String) : Except Failure (Settings × World) :=
  match config with
  | some path =>
    match w.read path with
    | (.error e, _) => .error (.file e)
    | (.ok text, w) =>
      match Settings.read text with
      | .ok s => .ok (s, w)
      | .error e => .error (.settings path e)
  | none =>
    match w.homeConfig with
    | some text => .ok ((Settings.read text).toOption.getD Settings.defaults, w)
    | none => .ok (Settings.defaults, w)

/-- Reads and parses the script: the file, or standard input. -/
def World.script (w : World) (path : Option String) : Except Failure Script := do
  let source ← match path with
    | some p => (w.read p).1.mapError Failure.file
    | none => pure w.stdin
  (Script.parse source).mapError Failure.parse

/-- The host functions' view of the world. -/
def World.host (w : World) : Host := ⟨w.env, w.clock⟩

/-- Carries out a request with the settings in force. -/
def World.perform (w : World) (s : Settings) : Request → Answer
  | .run path vars noResume =>
    match w.script path with
    | .error f => ⟨f.status, "", "Error: " ++ f.message ++ "\n"⟩
    | .ok script =>
      let ex := ((Executor.new (Host.registry w.host) script (!noResume && s.resume)).bind
        s.vars.toList).bind vars
      let (_, out, result) := ex.execute
      match result with
      | .ok (.finished _) => ⟨0, out, ""⟩
      | .ok (.paused token next) =>
        ⟨0, out ++ "paused: " ++ token ++ " (next command " ++ toString (next + 1) ++ ")\n", ""⟩
      | .error e => ⟨3, out, "Error: " ++ (Failure.execution e).message ++ "\n"⟩
  | .check path json =>
    match w.script path with
    | .error f => ⟨f.status, "", "Error: " ++ f.message ++ "\n"⟩
    | .ok script =>
      if json then ⟨0, Json.pretty 0 script.toJson ++ "\n", ""⟩
      else ⟨0, "ok: " ++ toString script.size ++ " commands\n", ""⟩
  | .functions =>
    ⟨0, String.join ((Host.registry w.host).names.map (· ++ "\n")), ""⟩

/-- The working directory once the log directory, if one is named, is made: the directory
and an empty `kates.log` in it. -/
def World.withLogDir (w : World) : Option String → World
  | some dir => { w with disk := w.disk.makeFileIn dir "kates.log" }
  | none => w

/-- The program: its answer, and the working directory it leaves. The settings are loaded
first; then the log filter is set up (reporting the directives it ignores), the log
directory is made, and the request is carried out. -/
def World.run (w : World) : Answer × Disk :=
  match readCommandLine w.args w.env with
  | .show text => (⟨0, text, ""⟩, w.disk)
  | .refuse text => (⟨2, "", text⟩, w.disk)
  | .invoke i =>
    match w.settings i.config with
    | .error f => (⟨f.status, "", "Error: " ++ f.message ++ "\n"⟩, w.disk)
    | .ok (s, w) =>
      let warnings := LogFilter.warnings (envValue w.env "RUST_LOG") s.effectiveLogFilter
      let w := w.withLogDir i.logDir
      let a := w.perform s i.request
      ({ a with stderr := warnings ++ a.stderr }, w.disk)

/-- The program's answer. -/
def World.answer (w : World) : Answer := w.run.1

end LineScript.Cli
