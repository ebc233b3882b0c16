import LineScript.Eval.Runner

/-! ## The resume loop

An executor drives a runner through its stops. When resuming is on, every stop is counted
and the run goes on, until the script finishes or a command fails. When it is off, the first
stop ends the drive with its token and the position of the next command.
-/

namespace LineScript

/-- How a drive of a script ended. -/
inductive Outcome where
  /-- The script ran to the end after resuming this many times. -/
  | finished (pauses : Nat)
  /-- Resuming is off and the script stopped with a token; `next` is the 0-based position of
  the command that runs on resume. -/
  | paused (token : String) (next : Nat)
  deriving DecidableEq, Repr

/-- A runner and whether it resumes after stops. -/
structure Executor where
  runner : Runner
  resume : Bool

namespace Executor

/-- An executor at the start of a script. -/
def new (registry : Registry) (script : Script) (resume : Bool) : Executor :=
  ⟨Runner.new registry script, resume⟩

/-- Binds variables in order; a later binding of a name replaces an earlier one. -/
def bind (e : Executor) (pairs : List (String × String)) : Executor :=
  { e with runner := pairs.foldl (fun r p => r.setVar p.1 p.2) e.runner }

/-- Runs again after each stop while resuming, for at most `fuel` runs. Each stop comes after
at least one command, so the remaining commands plus one runs are always enough. -/
def drive (resume : Bool) (pauses : Nat) : Nat → Runner → Progress Outcome
  | 0, r => ⟨r, "", .ok (.finished pauses)⟩
  | fuel + 1, r =>
    let s := r.run
    match s.result with
    | .error e => ⟨s.runner, s.printed, .error e⟩
    | .ok .finished => ⟨s.runner, s.printed, .ok (.finished pauses)⟩
    | .ok (.requested t) =>
      if resume then
        let rest := drive resume (pauses + 1) fuel s.runner
        ⟨rest.runner, s.printed ++ rest.printed, rest.result⟩
      else ⟨s.runner, s.printed, .ok (.paused t s.runner.context.cursor)⟩

/-- Drives the script until it finishes, fails, or stops while resuming is off. -/
def execute (e : Executor) : Executor × String × Except ExecutionError Outcome :=
  let p := drive e.resume 0 (e.runner.script.size - e.runner.context.cursor + 1) e.runner
  ({ e with runner := p.runner }, p.printed, p.result)

end Executor

end LineScript
