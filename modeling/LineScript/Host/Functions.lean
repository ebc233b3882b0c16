import LineScript.Eval.Registry
import LineScript.Text.Unsigned

/-! ## Host functions

The functions a host adds to the built-ins:

| name     | arguments | result                                               |
|----------|-----------|------------------------------------------------------|
| `echo`   | any       | prints the arguments joined by spaces and a line feed, gives the joined text |
| `concat` | any       | the arguments joined with no separator               |
| `env`    | `NAME`    | the environment variable, empty if unset             |
| `now`    | none      | the current time, RFC 3339                           |
| `sleep`  | `MILLIS`  | waits that long (an unsigned 64-bit number), gives the empty text |
| `pause`  | `TOKEN`   | asks for a stop with a non-empty token               |
| `fail`   | any       | fails with the arguments joined by spaces            |

What the host knows of its surroundings, the environment and the clock, is a `Host` value.
-/

namespace LineScript

/-- What host functions know of their surroundings. -/
structure Host where
  /-- The environment variables. -/
  environment : List (String × String)
  /-- The current time as RFC 3339 text. -/
  clock : String

namespace Host

/-- The value of an environment variable, empty when it is unset. The environment is read as
its entries `NAME=VALUE`: the first entry whose text begins with `name` and then `=` gives
the rest of its text. So a name holding `=` reaches into a value (`A=B` finds `C` in the
entry `A=B=C`); an empty name, or one holding a NUL character, finds nothing. -/
def lookup (h : Host) (name : String) : String :=
  if name.isEmpty || name.contains '\x00' then ""
  else
    let key := name ++ "="
    let entries := h.environment.map fun (k, v) => k ++ "=" ++ v
    match entries.find? (·.startsWith key) with
    | some e => String.ofList (e.toList.drop key.length)
    | none => ""

/-- `echo` prints its arguments joined by spaces and gives the joined text. -/
def echo : Function := fun args _ =>
  let line := " ".intercalate args
  ⟨[], line ++ "\n", .ok line⟩

/-- `concat` gives its arguments joined with no separator. -/
def concat : Function := fun args _ => .ok (String.join args)

/-- `env` gives the value of one environment variable. -/
def env (h : Host) : Function := fun args _ =>
  match args with
  | [name] => .ok (h.lookup name)
  | _ => .fail .arguments

/-- `now` gives the current time. -/
def now (h : Host) : Function := fun args _ =>
  match args with
  | [] => .ok h.clock
  | _ => .fail .arguments

/-- `sleep` takes a number of milliseconds and gives the empty text. -/
def sleep : Function := fun args _ =>
  match args with
  | [v] =>
    match readUnsigned64 v with
    | .ok _ => .ok ""
    | .error f => .fail (.host (.invalidDuration v f))
  | _ => .fail .arguments

/-- `pause` asks for a stop with its one, non-empty argument. -/
def pause : Function := fun args _ =>
  match args with
  | [t] => if t.isEmpty then .fail (.host .emptyPauseToken) else ⟨[.requestStop t], "", .ok ""⟩
  | _ => .fail .arguments

/-- `fail` fails with its arguments joined by spaces. -/
def fail : Function := fun args _ => .fail (.host (.failed (" ".intercalate args)))

/-- The built-ins and every host function. -/
def registry (h : Host) : Registry :=
  ((((((Registry.builtins.insert "echo" echo).insert "concat" concat).insert "env" (env h)).insert
    "now" (now h)).insert "sleep" sleep).insert "pause" pause).insert "fail" fail

end Host

end LineScript
