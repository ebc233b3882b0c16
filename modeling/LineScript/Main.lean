import LineScript.Cli.Program
import LineScript.Text.Timestamp
import Std.Time

/-! ## The executable

Gathers what the program sees (arguments, standard input, the files and directories on the
way to every path it is given, the settings file in the home directory, the environment
variables any of these name, the time), writes its answer, and makes the directories and
files it left in its working directory.
-/

open LineScript.Cli

/-- Reads a whole stream. -/
partial def readAll (s : IO.FS.Stream) (acc : String) : IO String := do
  let line ← s.getLine
  if line.isEmpty then return acc else readAll s (acc ++ line)

/-- The contents of a file, if it can be read. -/
def readIfPresent (path : String) : IO (Option String) := do
  try
    return some (← IO.FS.readFile path)
  catch _ =>
    return none

/-- What a path holds: a file's text, a file that is not text, or a directory (a read that
fails with "is a directory"); nothing when it cannot be read otherwise. -/
def probe (path : String) : IO (Option Node) := do
  try
    match String.fromUTF8? (← IO.FS.readBinFile path) with
    | some t => return some (.file t)
    | none => return some .binary
  catch e =>
    match e with
    | .inappropriateType _ 21 _ => return some .directory
    | _ => return none

/-- The disk as far as the paths given lead: the places every system has, and what each
path, and each path on the way to it, holds, recorded at the place it leads to (so a path
through `/proc/self/cwd` records a file of the working directory). Places the disk already
knows are not looked at again. -/
def survey (args paths : List String) : IO Disk := do
  let steps := paths.flatMap fun a =>
    let names := a.splitOn "/"
    (List.range names.length).map fun k => "/".intercalate (names.take (k + 1))
  let steps := (steps.filter (!·.isEmpty)).eraseDups
  let record (d : Disk) (q : String) : IO Disk := do
    match d.locate (start q) (q.splitOn "/") with
    | .error _ => return d
    | .ok p =>
      if (d.node p).isSome then return d
      match ← probe q with
      | some .directory => return { d with dirs := d.dirs ++ [p] }
      | some n => return { d with entries := d.entries ++ [(p, n)] }
      | none => return d
  steps.foldlM record (Disk.system args)

/-- Makes the directories and files of `after` that `before` does not have; a file is
opened for appending, so one that exists keeps its contents. -/
def leave (before after : Disk) : IO Unit := do
  for p in after.dirs do
    if !before.dirs.contains p then IO.FS.createDirAll (pathOf p)
  for (p, _) in after.entries do
    if !before.entries.any (·.1 = p) then
      let _ ← IO.FS.Handle.mk (pathOf p) .append

/-- Runs the program on the process's arguments, streams and environment; the exit status is
the program's. -/
def main (args : List String) : IO UInt32 := do
  let stdin ← readAll (← IO.getStdin) ""
  -- the paths the command line and the environment may name
  let named := args ++ (← IO.getEnv "KATES_CONFIG").toList
  let disk ← survey args named
  -- the environment variables the program or its scripts may name
  let texts := disk.entries.filterMap fun
    | (_, .file t) => some t
    | _ => none
  let words := (stdin :: texts).flatMap fun t =>
    (t.split Char.isWhitespace).toList.map toString
  let names := ("KATES_CONFIG" :: words).eraseDups
  let env ← names.filterMapM fun k => do
    return (← IO.getEnv k).map (k, ·)
  let homeConfig ← match (← IO.getEnv "HOME") with
    | some home => readIfPresent (home ++ "/.kates/config.json")
    | none => pure none
  let clock := LineScript.Timestamp.ofUnixNanos
    (← Std.Time.Timestamp.now).toNanosecondsSinceUnixEpoch.val
  let world : World := ⟨args, env, stdin, disk, homeConfig, clock⟩
  let (answer, after) := world.run
  leave disk after
  IO.print answer.stdout
  IO.eprint answer.stderr
  return answer.status.toUInt32
