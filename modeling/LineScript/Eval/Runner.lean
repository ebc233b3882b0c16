import LineScript.Eval.Registry
import LineScript.Syntax.Command

/-! ## Running a script

A runner holds a registry, a script and a context. Each step advances the cursor past one
command and then runs it, unless the script is skipping and the command is not a block
line. A command that fails leaves no trace beyond the advanced cursor: the context is put
back as it was just after the advance. After each step a pending stop is taken out of the
context and ends the run with that token; a run that reaches the end of the script ends
with `end`, and a run on a finished runner ends at once.

Running a command: a call looks its function up first, then evaluates the arguments from
left to right, then calls the function once. An assignment runs its command and binds the
result. `if` runs its condition and opens a block that skips its first branch when the
result is empty or `0`. `else` flips the innermost frame and `endif` closes it.
-/

namespace LineScript

/-- Why a run ended: the script ran out, or a function asked for a stop with a token. -/
inductive StopReason where
  | finished
  | requested (token : String)
  deriving DecidableEq, Repr

/-- The token of a stop; a finished script gives `end`. -/
def StopReason.token : StopReason → String
  | .finished => "end"
  | .requested t => t

/-- A condition holds unless its result is empty or `0`. -/
def holds (result : String) : Bool := !(result.isEmpty || result = "0")

/-- The values of arguments, read from the bindings from left to right; the first unbound
variable is the failure. -/
def Context.evaluate (ctx : Context) : List Argument → Except CommandError (List String)
  | [] => .ok []
  | .literal v :: rest => (ctx.evaluate rest).map (v :: ·)
  | .var n :: rest =>
    match ctx.vars.get? n with
    | none => .error (.noSuchVariable n)
    | some v => (ctx.evaluate rest).map (v :: ·)

/-- A context after running a command, what was printed, and the command's result. -/
structure Executed where
  context : Context
  printed : String
  result : Except CommandError String

/-- Runs one command on a context, without the skip rule. -/
def Registry.execute (reg : Registry) : Command → Context → Executed
  | .call f args, ctx =>
    match reg.get? f with
    | none => ⟨ctx, "", .error (.noSuchFunction f)⟩
    | some fn =>
      match ctx.evaluate args with
      | .error e => ⟨ctx, "", .error e⟩
      | .ok vals =>
        let reply := fn vals ctx
        ⟨ctx.applyAll reply.effects, reply.printed, reply.result⟩
  | .assign v c, ctx =>
    let inner := reg.execute c ctx
    match inner.result with
    | .ok value => ⟨inner.context.bind v value, inner.printed, .ok value⟩
    | .error e => ⟨inner.context, inner.printed, .error e⟩
  | .ifLine c, ctx =>
    let inner := reg.execute c ctx
    match inner.result with
    | .ok value =>
      ⟨{ inner.context with skips := inner.context.skips.push (!holds value) }, inner.printed, .ok ""⟩
    | .error e => ⟨inner.context, inner.printed, .error e⟩
  | .elseLine, ctx => ⟨{ ctx with skips := ctx.skips.flip }, "", .ok ""⟩
  | .endifLine, ctx =>
    match ctx.skips.pop? with
    | none => ⟨ctx, "", .error .strayEndif⟩
    | some s => ⟨{ ctx with skips := s }, "", .ok ""⟩

theorem Registry.execute_cursor (reg : Registry) (c : Command) (ctx : Context) :
    (reg.execute c ctx).context.cursor = ctx.cursor := by
  induction c generalizing ctx with
  | call f args =>
    simp only [Registry.execute]
    split
    · rfl
    · split <;> simp
  | assign v c ih =>
    simp only [Registry.execute]
    split <;> simp [Context.bind, ih]
  | ifLine c ih =>
    simp only [Registry.execute]
    split <;> simp [ih]
  | elseLine => rfl
  | endifLine =>
    simp only [Registry.execute]
    split <;> rfl

/-- A script being run: the registry it calls, the script, and the context. -/
structure Runner where
  registry : Registry
  script : Script
  context : Context

/-- A runner after a step or a run, what host functions printed meanwhile, and the result. -/
structure Progress (α : Type) where
  runner : Runner
  printed : String
  result : Except ExecutionError α

namespace Runner

/-- A runner at the start of a script. -/
def new (registry : Registry) (script : Script) : Runner := ⟨registry, script, .initial⟩

/-- Binds a variable before or between runs. -/
def setVar (r : Runner) (k v : String) : Runner := { r with context := r.context.bind k v }

/-- Whether every command has been stepped. -/
def isFinished (r : Runner) : Bool := r.script.size ≤ r.context.cursor

/-- Whether two runners of the same registry are in the same state: equal scripts and equal
contexts. -/
def sameState (a b : Runner) : Bool := a.script = b.script && a.context = b.context

/-- Advances the cursor past `c` and runs it unless it is skipped; a failure puts the
context back as it was after the advance. -/
def step (r : Runner) (c : Command) : Progress Unit :=
  let ctx := { r.context with cursor := r.context.cursor + 1 }
  if c.isBlockLine || !ctx.skips.isSkipping then
    let e := r.registry.execute c ctx
    match e.result with
    | .ok _ => ⟨{ r with context := e.context }, e.printed, .ok ()⟩
    | .error err => ⟨{ r with context := ctx }, e.printed, .error ⟨ctx.cursor, err⟩⟩
  else ⟨{ r with context := ctx }, "", .ok ()⟩

@[simp] theorem step_script (r : Runner) (c : Command) : (r.step c).runner.script = r.script := by
  simp only [step]
  split
  · split <;> rfl
  · rfl

@[simp] theorem step_cursor (r : Runner) (c : Command) :
    (r.step c).runner.context.cursor = r.context.cursor + 1 := by
  simp only [step]
  split
  · split <;> simp [Registry.execute_cursor]
  · rfl

/-- The runner with its pending stop taken out. -/
def clearStop (r : Runner) : Runner := { r with context := { r.context with pendingStop := none } }

/-- Steps commands until the script ends, a command fails, or a stop is pending after a step;
a pending stop is taken out and ends the run with its token. -/
def run (r : Runner) : Progress StopReason :=
  if h : r.context.cursor < r.script.commands.length then
    let s := r.step (r.script.commands.get ⟨r.context.cursor, h⟩)
    match s.result with
    | .error e => ⟨s.runner, s.printed, .error e⟩
    | .ok () =>
      match s.runner.context.pendingStop with
      | some t => ⟨s.runner.clearStop, s.printed, .ok (.requested t)⟩
      | none =>
        let rest := s.runner.run
        ⟨rest.runner, s.printed ++ rest.printed, rest.result⟩
  else ⟨r, "", .ok .finished⟩
termination_by r.script.size - r.context.cursor
decreasing_by
  simp only [step_script, step_cursor, Script.size]
  omega

end Runner

end LineScript
