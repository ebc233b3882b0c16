import LineScript.Proofs.Stepping

/-! ## Blocks: the skip stack refines structured `if`/`else`

The runner never sees the block structure of a script: `if` pushes a frame, `else` flips the
innermost one, `endif` pops it, and any other command is skipped while some frame is set.
Here a well-nested run of lines is read as a tree (`Block`) and given the structured
semantics one expects of it (`Block.exec`): the condition of every `if` runs, whatever the
enclosing conditions gave, and a simple command runs exactly when no frame below the block
is set and the command lies, for every enclosing `if`, in the branch that the value of its
condition selected. Stepping through the lines of a block is that semantics, and leaves the
skip stack as it found it (`stepAll_lines_eq_exec`).

The proof is an induction over the block with one invariant: the stack skips exactly when
the branch being run is not active (`stepAll_lines_of_isSkipping`).
-/

namespace LineScript

-- ----------------------------------------------------------------------------
-- Frames
-- ----------------------------------------------------------------------------

namespace SkipStack

@[simp] theorem isSkipping_push (s : SkipStack) (b : Bool) :
    (s.push b).isSkipping = (s.isSkipping || b) := by
  cases b <;> simp [push, isSkipping]

@[simp] theorem flip_push (s : SkipStack) (b : Bool) : (s.push b).flip = s.push !b := rfl

@[simp] theorem pop?_push (s : SkipStack) (b : Bool) : (s.push b).pop? = some s := rfl

end SkipStack

@[simp] theorem Context.applyAll_skips (ctx : Context) (es : List Effect) :
    (ctx.applyAll es).skips = ctx.skips := by
  induction es generalizing ctx with
  | nil => rfl
  | cons e es ih =>
    cases e <;> exact ih _

-- ----------------------------------------------------------------------------
-- Simple commands and blocks
-- ----------------------------------------------------------------------------

/-- A command that is no block line: a call, or assignments wrapped around one. -/
inductive Simple where
  | call (function : String) (args : List Argument)
  | assign (target : String) (inner : Simple)
  deriving DecidableEq, Repr

/-- The command a simple command is. -/
def Simple.toCommand : Simple → Command
  | .call f args => .call f args
  | .assign v c => .assign v c.toCommand

@[simp] theorem Simple.isBlockLine_toCommand (c : Simple) : c.toCommand.isBlockLine = false := by
  cases c <;> rfl

/-- Running a simple command leaves the skip stack alone, whether it succeeds or not. -/
@[simp] theorem Registry.execute_skips_simple (reg : Registry) (c : Simple) (ctx : Context) :
    (reg.execute c.toCommand ctx).context.skips = ctx.skips := by
  induction c generalizing ctx with
  | call f args =>
    simp only [Simple.toCommand, Registry.execute]
    split
    · rfl
    · split <;> simp
  | assign v c ih =>
    simp only [Simple.toCommand, Registry.execute]
    split <;> simp [Context.bind, ih]

/-- A well-nested run of lines: simple commands, and `if` blocks with an optional `else`
branch, each closed by its `endif`. -/
inductive Block where
  /-- No more lines. -/
  | done
  /-- A simple command, then the rest. -/
  | simple (c : Simple) (rest : Block)
  /-- `if cond`, the block `thn`, `endif`, then the rest. -/
  | ifThen (cond : Simple) (thn rest : Block)
  /-- `if cond`, the block `thn`, `else`, the block `els`, `endif`, then the rest. -/
  | ifElse (cond : Simple) (thn els rest : Block)
  deriving DecidableEq, Repr

/-- The lines of a block, in order. -/
def Block.lines : Block → List Command
  | .done => []
  | .simple c rest => c.toCommand :: rest.lines
  | .ifThen k thn rest => (.ifLine k.toCommand :: thn.lines) ++ .endifLine :: rest.lines
  | .ifElse k thn els rest =>
    (.ifLine k.toCommand :: thn.lines) ++ (.elseLine :: els.lines) ++ .endifLine :: rest.lines

namespace Runner

variable {r : Runner}

/-- Whether the condition `k` of an `if` line run on `r` selects the first branch: its value
holds. A condition that fails selects nothing, and the line fails with it. -/
def selects (r : Runner) (k : Simple) : Bool :=
  match (r.registry.execute k.toCommand r.context.advance).result with
  | .ok v => holds v
  | .error _ => false

-- ----------------------------------------------------------------------------
-- What each kind of line does to the skip stack
-- ----------------------------------------------------------------------------

/-- A line takes out the stop and keeps the runner the step left. -/
theorem line_runner (r : Runner) (c : Command) (runs : Bool) :
    (r.line c runs).runner = (r.stepWith c runs).runner ∨
      (r.line c runs).runner = (r.stepWith c runs).runner.clearStop := by
  cases h : (r.stepWith c runs).result with
  | error e => exact .inl (by rw [line_of_error h])
  | ok u => exact .inr (by rw [line_of_ok h])

/-- A simple line leaves the skip stack alone, whether it runs or not. -/
theorem line_skips_simple (c : Simple) (runs : Bool) :
    (r.line c.toCommand runs).runner.context.skips = r.context.skips := by
  have hstep : (r.stepWith c.toCommand runs).runner.context.skips = r.context.skips := by
    cases runs with
    | false => simp
    | true =>
      cases he : (r.registry.execute c.toCommand r.context.advance).result with
      | ok v => simp [stepWith_true_of_ok he]
      | error err => simp [stepWith_true_of_error he]
  rcases line_runner r c.toCommand runs with h | h <;> simp [h, hstep]

/-- An `if` line that goes through pushes a frame that skips unless the condition selected
the first branch. -/
theorem line_ifLine_skips (k : Simple) (h : (r.line (.ifLine k.toCommand) true).result = .ok ()) :
    (r.line (.ifLine k.toCommand) true).runner.context.skips =
      r.context.skips.push !(r.selects k) := by
  unfold line at h ⊢
  cases he : (r.registry.execute k.toCommand r.context.advance).result with
  | error err =>
    have hif :
        (r.registry.execute (.ifLine k.toCommand) r.context.advance).result = .error err := by
      simp [Registry.execute, he]
    simp [stepWith_true_of_error hif] at h
  | ok v =>
    have hif : (r.registry.execute (.ifLine k.toCommand) r.context.advance).result = .ok "" := by
      simp [Registry.execute, he]
    simp [stepWith_true_of_ok hif, Registry.execute, he, selects]

/-- An `else` line flips the innermost frame. -/
theorem line_elseLine :
    (r.line .elseLine true).result = .ok () ∧
      (r.line .elseLine true).runner.context.skips = r.context.skips.flip := by
  have he : (r.registry.execute .elseLine r.context.advance).result = .ok "" := rfl
  simp [line, stepWith_true_of_ok he, Registry.execute]

/-- An `endif` line closing an open block pops its frame. -/
theorem line_endifLine {s : SkipStack} (hs : r.context.skips.pop? = some s) :
    (r.line .endifLine true).result = .ok () ∧
      (r.line .endifLine true).runner.context.skips = s := by
  have he : (r.registry.execute .endifLine r.context.advance).result = .ok "" := by
    simp [Registry.execute, hs]
  simp [line, stepWith_true_of_ok he, Registry.execute, hs]

end Runner

-- ----------------------------------------------------------------------------
-- The structured semantics
-- ----------------------------------------------------------------------------

namespace Block

/-- The structured reading of a block, run with the flag `active`. Every line moves the
cursor and has a stop it left taken out. An `if` line always runs, so its condition runs
once whatever `active` says; the branch its value selects runs with `active` kept and the
other with `active` off. `else` and `endif` lines run and call no function. A simple command
runs exactly when `active` holds. -/
def exec (active : Bool) : Block → Runner → Stepped
  | .done, r => .done r
  | .simple c rest, r => (r.line c.toCommand active).andThen (rest.exec active)
  | .ifThen k thn rest, r =>
    let sel := r.selects k
    (r.line (.ifLine k.toCommand) true).andThen fun r =>
      (thn.exec (active && sel) r).andThen fun r =>
        (r.line .endifLine true).andThen (rest.exec active)
  | .ifElse k thn els rest, r =>
    let sel := r.selects k
    (r.line (.ifLine k.toCommand) true).andThen fun r =>
      (thn.exec (active && sel) r).andThen fun r =>
        (r.line .elseLine true).andThen fun r =>
          (els.exec (active && !sel) r).andThen fun r =>
            (r.line .endifLine true).andThen (rest.exec active)

/-- A block that runs through leaves the skip stack as it found it: every frame an `if`
pushes, its `endif` pops, and `else` only flips it in between. -/
theorem exec_skips (B : Block) (active : Bool) (r : Runner)
    (h : (B.exec active r).result = .ok ()) :
    (B.exec active r).runner.context.skips = r.context.skips := by
  induction B generalizing active r with
  | done => rfl
  | simple c rest ih =>
    simp only [exec] at h ⊢
    obtain ⟨-, hrest, hr⟩ := Stepped.andThen_eq_ok h
    rw [hr, ih _ _ hrest, Runner.line_skips_simple]
  | ifThen k thn rest iht ihr =>
    simp only [exec] at h ⊢
    obtain ⟨hif, h1, hr1⟩ := Stepped.andThen_eq_ok h
    obtain ⟨hthn, h2, hr2⟩ := Stepped.andThen_eq_ok h1
    obtain ⟨-, hrest, hr3⟩ := Stepped.andThen_eq_ok h2
    -- the frame the `if` pushed is on top after the branch, and `endif` pops it
    have hpush := Runner.line_ifLine_skips k hif
    have hthn' := iht _ _ hthn
    obtain ⟨-, hpop⟩ := Runner.line_endifLine (by rw [hthn', hpush, SkipStack.pop?_push])
    rw [hr1, hr2, hr3, ihr _ _ hrest, hpop]
  | ifElse k thn els rest iht ihe ihr =>
    simp only [exec] at h ⊢
    obtain ⟨hif, h1, hr1⟩ := Stepped.andThen_eq_ok h
    obtain ⟨hthn, h2, hr2⟩ := Stepped.andThen_eq_ok h1
    obtain ⟨-, h3, hr3⟩ := Stepped.andThen_eq_ok h2
    obtain ⟨hels, h4, hr4⟩ := Stepped.andThen_eq_ok h3
    obtain ⟨-, hrest, hr5⟩ := Stepped.andThen_eq_ok h4
    -- `else` flips the frame the `if` pushed, and `endif` pops the flipped frame
    have hpush := Runner.line_ifLine_skips k hif
    have hthn' := iht _ _ hthn
    have hels' := ihe _ _ hels
    obtain ⟨-, hpop⟩ := Runner.line_endifLine
      (by rw [hels', Runner.line_elseLine.2, hthn', hpush, SkipStack.flip_push,
        SkipStack.pop?_push])
    rw [hr1, hr2, hr3, hr4, hr5, ihr _ _ hrest, hpop]

/-- The invariant of the refinement: run from a stack that skips exactly when `active` is
off, the lines of a block step as its structured reading with `active`. -/
theorem stepAll_lines_of_isSkipping (B : Block) (active : Bool) (r : Runner)
    (h : r.context.skips.isSkipping = !active) : r.stepAll B.lines = B.exec active r := by
  induction B generalizing active r with
  | done => rfl
  | simple c rest ih =>
    -- a simple command runs exactly when the stack skips nothing, that is, when active
    have hruns : c.toCommand.runsIn r.context.skips = active := by simp [Command.runsIn, h]
    rw [lines, Runner.stepAll_cons, hruns, exec]
    exact Stepped.andThen_congr fun _ => ih _ _ (by rw [Runner.line_skips_simple, h])
  | ifThen k thn rest iht ihr =>
    rw [lines, List.cons_append, Runner.stepAll_cons, Command.runsIn_ifLine, exec]
    refine Stepped.andThen_congr fun hif => ?_
    have hpush := Runner.line_ifLine_skips k hif
    rw [Runner.stepAll_append, iht (active && r.selects k) _ (by simp [hpush, h])]
    refine Stepped.andThen_congr fun hthn => ?_
    rw [Runner.stepAll_cons, Command.runsIn_endifLine]
    refine Stepped.andThen_congr fun hend => ?_
    obtain ⟨-, hpop⟩ := Runner.line_endifLine
      (by rw [exec_skips thn _ _ hthn, hpush, SkipStack.pop?_push])
    exact ihr _ _ (by rw [hpop, h])
  | ifElse k thn els rest iht ihe ihr =>
    rw [lines, List.append_assoc, List.cons_append, Runner.stepAll_cons, Command.runsIn_ifLine,
      exec]
    refine Stepped.andThen_congr fun hif => ?_
    have hpush := Runner.line_ifLine_skips k hif
    rw [Runner.stepAll_append, iht (active && r.selects k) _ (by simp [hpush, h])]
    refine Stepped.andThen_congr fun hthn => ?_
    have hthn' := exec_skips thn _ _ hthn
    rw [List.cons_append, Runner.stepAll_cons, Command.runsIn_elseLine]
    refine Stepped.andThen_congr fun helse => ?_
    rw [Runner.stepAll_append,
      ihe (active && !r.selects k) _
        (by rw [Runner.line_elseLine.2, hthn', hpush, SkipStack.flip_push]; simp [h])]
    refine Stepped.andThen_congr fun hels => ?_
    rw [Runner.stepAll_cons, Command.runsIn_endifLine]
    refine Stepped.andThen_congr fun hend => ?_
    obtain ⟨-, hpop⟩ := Runner.line_endifLine
      (by rw [exec_skips els _ _ hels, Runner.line_elseLine.2, hthn', hpush,
        SkipStack.flip_push, SkipStack.pop?_push])
    exact ihr _ _ (by rw [hpop, h])

/-- Flat execution refines structured `if`/`else`. Stepping through the lines of a block,
resuming after every stop, is its structured reading, active exactly when no frame below the
block is set: conditions always run, once each and in order, and a simple command runs
exactly when it lies in the branches its enclosing conditions selected. A block that runs
through leaves the skip stack as it found it. -/
theorem stepAll_lines_eq_exec (B : Block) (r : Runner) :
    r.stepAll B.lines = B.exec (!r.context.skips.isSkipping) r ∧
      ((r.stepAll B.lines).result = .ok () →
        (r.stepAll B.lines).runner.context.skips = r.context.skips) := by
  have h := stepAll_lines_of_isSkipping B (!r.context.skips.isSkipping) r (by simp)
  refine ⟨h, fun hok => ?_⟩
  rw [h] at hok ⊢
  exact exec_skips B _ r hok

end Block

end LineScript
