import LineScript.Eval.Context
import LineScript.Eval.Error

/-! ## Functions

A function receives the values of its arguments and a view of the context, and answers with
the effects it has on the context (variable bindings and stop requests, applied in order),
the text it prints, and its result or failure. The effects stand whether or not it fails.

Besides the four built-ins (`nop`, `id`, `==`, `!=`), a function can be scripted as a list
of actions (`Action`), run in order until one returns or fails.
-/

namespace LineScript

/-- What a function call gives back. -/
structure Reply where
  effects : List Effect
  printed : String
  result : Except CommandError String

/-- A reply with a result and nothing else. -/
def Reply.ok (v : String) : Reply := ⟨[], "", .ok v⟩

/-- A reply with a failure and nothing else. -/
def Reply.fail (e : CommandError) : Reply := ⟨[], "", .error e⟩

/-- A function scripts can call: argument values and the context in, a reply out. -/
def Function := List String → Context → Reply

namespace Function

/-- `nop` ignores its arguments and gives the empty text. -/
def nop : Function := fun _ _ => .ok ""

/-- `id` gives back its one argument. -/
def id : Function := fun args _ =>
  match args with
  | [v] => .ok v
  | _ => .fail .arguments

/-- The text of a truth value: `1` or `0`. -/
def flag (b : Bool) : String := if b then "1" else "0"

/-- `==` gives `1` when its two arguments are equal and `0` otherwise. -/
def equals : Function := fun args _ =>
  match args with
  | [a, b] => .ok (flag (a = b))
  | _ => .fail .arguments

/-- `!=` gives `1` when its two arguments differ and `0` otherwise. -/
def differs : Function := fun args _ =>
  match args with
  | [a, b] => .ok (flag (a ≠ b))
  | _ => .fail .arguments

end Function

/-- One step of a scripted function. -/
inductive Action where
  /-- Ask for a stop. -/
  | requestStop (token : String)
  /-- Bind a variable. -/
  | bind (name value : String)
  /-- Fail with `arguments` unless there are exactly this many arguments. -/
  | arity (count : Nat)
  /-- Give this text. -/
  | give (value : String)
  /-- Give the arguments joined by this separator. -/
  | giveJoined (separator : String)
  /-- Give the value of a variable, or `<unset>`. -/
  | giveVar (name : String)
  /-- Give a summary of the context. -/
  | giveContext
  /-- Fail with a host failure of this text. -/
  | fail (text : String)
  /-- Fail with this failure. -/
  | raise (e : CommandError)
  deriving DecidableEq, Repr

/-- A one-line summary of a context: cursor, stack depth, whether skipping, pending stop and
number of bindings. -/
def Context.summary (ctx : Context) : String :=
  "index=" ++ toString ctx.cursor ++ " depth=" ++ toString ctx.skips.depth ++
    " skipping=" ++ toString ctx.skips.isSkipping ++ " stop=" ++ ctx.pendingStop.getD "-" ++
    " vars=" ++ toString ctx.vars.size

/-- Runs actions in order on a context that already shows the effects `done`. -/
def Action.perform (args : List String) (ctx : Context) (done : List Effect) :
    List Action → Reply
  | [] => ⟨done, "", .ok ""⟩
  | a :: rest =>
    match a with
    | .requestStop t => Action.perform args (ctx.requestStop t) (done ++ [.requestStop t]) rest
    | .bind k v => Action.perform args (ctx.bind k v) (done ++ [.bind k v]) rest
    | .arity n =>
      if args.length = n then Action.perform args ctx done rest else ⟨done, "", .error .arguments⟩
    | .give v => ⟨done, "", .ok v⟩
    | .giveJoined sep => ⟨done, "", .ok (sep.intercalate args)⟩
    | .giveVar k => ⟨done, "", .ok ((ctx.vars.get? k).getD "<unset>")⟩
    | .giveContext => ⟨done, "", .ok ctx.summary⟩
    | .fail t => ⟨done, "", .error (.host (.other t))⟩
    | .raise e => ⟨done, "", .error e⟩

/-- The function scripted by a list of actions; it gives the empty text when no action
returns or fails. -/
def Function.ofActions (actions : List Action) : Function := fun args ctx =>
  Action.perform args ctx [] actions

end LineScript
