/-! ## The working directory

The files the program can read, as the program sees them: the files it was given, and the
directories and files it makes, and the few places every system has (`/dev/null`, `/tmp`,
the process's own entries under `/proc/self`). A place is written as the list of names that
leads to it: from the working directory, or from the root when the list starts with `/`. A
place above the working directory starts with `..`. Of the places not listed, only the root,
the working directory and the directories above it are known to exist.

Paths are followed one name at a time, as the system does: each name before the last must
lead to a directory (`a/../b` needs `a`), an empty name or `.` stays, `..` goes up (the
root's parent is the root), and a name that is a link stands for the place it points to
(`/dev/fd/0` is `/proc/self/fd/0`, standard input; `/proc/self/cwd` is the working
directory).
-/

namespace LineScript.Cli

/-- Why a file could not be read. -/
inductive FileError where
  | notFound
  | isDirectory
  /-- A file was named as if it were a directory. -/
  | notDirectory
  /-- A file whose bytes are not UTF-8 text. -/
  | notText
  /-- A chain of links too long to follow. -/
  | linkLoop
  deriving DecidableEq, Repr

/-- The text of a file error. -/
def FileError.message : FileError → String
  | .notFound => "No such file or directory (os error 2)"
  | .isDirectory => "Is a directory (os error 21)"
  | .notDirectory => "Not a directory (os error 20)"
  | .notText => "stream did not contain valid UTF-8"
  | .linkLoop => "Too many levels of symbolic links (os error 40)"

/-- What a place holds. -/
inductive Node where
  | file (text : String)
  | directory
  /-- A file whose bytes are not UTF-8 text, such as the program itself. -/
  | binary
  /-- Standard input: reading it gives what is left of it, and uses that up. -/
  | input
  /-- A link to another place. -/
  | link (target : List String)
  deriving DecidableEq, Repr

/-- What reading a file gives: its text, or whatever standard input still holds. -/
inductive Content where
  | text (t : String)
  | input
  deriving DecidableEq, Repr

/-- The files, links and directories the program can see, each by its place. A directory is
every place listed in `dirs`, every place before one of them, every place before an entry,
the root, the working directory and the places above it. -/
structure Disk where
  entries : List (List String × Node)
  dirs : List (List String)
  deriving DecidableEq, Repr

namespace Disk

/-- The places every system the program runs on has: the usual directories under the root;
the devices `/dev/null`, which reads as empty, and `/dev/stdin` and `/dev/fd`, links into the
process's open files; and the process's own entries: standard input as `/proc/self/fd/0`,
the working directory as `/proc/self/cwd`, the root as `/proc/self/root`, the program itself
as `/proc/self/exe`, its name as `/proc/self/comm`, and its command line `args` as
`/proc/self/cmdline`, each word ended by a NUL character. -/
def system (args : List String) : Disk :=
  let self (n : String) : List String := ["/", "proc", "self", n]
  ⟨[(["/", "dev", "null"], .file ""),
      (["/", "dev", "stdin"], .link (self "fd" ++ ["0"])),
      (["/", "dev", "fd"], .link (self "fd")),
      (self "fd" ++ ["0"], .input),
      (self "cwd", .link []),
      (self "root", .link ["/"]),
      (self "exe", .binary),
      (self "comm", .file "kates\n"),
      (self "cmdline", .file (String.join (("kates" :: args).map (· ++ "\x00"))))],
    ["bin", "dev", "etc", "home", "lib", "proc", "sys", "tmp", "usr", "var"].map fun n => ["/", n]⟩

/-- A working directory holding these files, by name, on a system with the usual places, for
a program run with the command line `args`. -/
def ofFiles (fs : List (String × String)) (args : List String) : Disk :=
  ⟨fs.map (fun (n, t) => ([n], .file t)) ++ (system args).entries, (system args).dirs⟩

/-- What a place holds, if it is known. -/
def node (d : Disk) (p : List String) : Option Node :=
  match d.entries.find? (·.1 = p) with
  | some (_, n) => some n
  | none =>
    if p = ["/"] || p.all (· = "..") || d.dirs.any (p.isPrefixOf ·) ||
        d.entries.any (fun f => p.isPrefixOf f.1) then some .directory
    else none

/-- The place `p` stands for, following at most `fuel` links. -/
def resolve (d : Disk) : Nat → List String → Except FileError (List String)
  | 0, _ => .error .linkLoop
  | k + 1, p =>
    match d.node p with
    | some (.link t) => d.resolve k t
    | _ => .ok p

/-- How many links in a row the system follows. -/
def linkLimit : Nat := 40

end Disk

/-- The place above `p`. -/
def up (p : List String) : List String :=
  match p.getLast? with
  | some n => if n = ".." then p ++ [".."] else if p = ["/"] then p else p.dropLast
  | none => [".."]

/-- Where a path starts: the root for an absolute path, else the working directory. -/
def start (path : String) : List String := if path.startsWith "/" then ["/"] else []

/-- The place a relative path names, following its names without looking at what is there. -/
def placeOf (path : String) : List String :=
  (path.splitOn "/").foldl (fun here n =>
    if n = "" || n = "." then here else if n = ".." then up here else here ++ [n]) (start path)

/-- A path that names a place. -/
def pathOf : List String → String
  | [] => "."
  | "/" :: rest => "/" ++ "/".intercalate rest
  | p => "/".intercalate p

namespace Disk

/-- Follows the names `path` from the place `here`: the place reached, every name before
the last having led to a directory. -/
def locate (d : Disk) (here : List String) : List String → Except FileError (List String)
  | [] => .ok here
  | n :: rest =>
    match d.node here with
    | some .directory =>
      if n = "" || n = "." then d.locate here rest
      else if n = ".." then d.locate (up here) rest
      else do d.locate (← d.resolve linkLimit (here ++ [n])) rest
    | none => .error .notFound
    | some _ => .error .notDirectory

/-- Reads the file a path names. -/
def read (d : Disk) (path : String) : Except FileError Content := do
  if path.isEmpty then throw .notFound
  let p ← d.locate (start path) (path.splitOn "/")
  match d.node p with
  | some (.file t) => .ok (.text t)
  | some .input => .ok .input
  | some .binary => .error .notText
  | some .directory => .error .isDirectory
  | some (.link _) | none => .error .notFound

/-- Makes the directories along the names `path` from `here` that do not exist yet. Gives
the disk, and the place reached unless a name on the way is not a directory; the
directories made before that name stay. -/
def makeDirs (d : Disk) (here : List String) : List String → Disk × Option (List String)
  | [] => (d, some here)
  | n :: rest =>
    if n = "" || n = "." then d.makeDirs here rest
    else if n = ".." then d.makeDirs (up here) rest
    else
      match d.resolve linkLimit (here ++ [n]) with
      | .error _ => (d, none)
      | .ok next =>
        match d.node next with
        | some .directory => d.makeDirs next rest
        | none => Disk.makeDirs { d with dirs := d.dirs ++ [next] } next rest
        | some _ => (d, none)

/-- Makes the directory `path` with an empty file `name` in it, unless that file exists.
No file is made when the directory cannot be made or `name` is a directory there. -/
def makeFileIn (d : Disk) (path name : String) : Disk :=
  match d.makeDirs (start path) (path.splitOn "/") with
  | (d', some dir) =>
    match d'.node (dir ++ [name]) with
    | none => { d' with entries := d'.entries ++ [(dir ++ [name], .file "")] }
    | some _ => d'
  | (d', none) => d'

end Disk

end LineScript.Cli
