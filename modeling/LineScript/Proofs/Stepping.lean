import LineScript.Eval.Runner

/-! ## Stepping through commands

What one step of a runner can do, and the loop that a resumed run amounts to.

`Runner.stepWith` is a step whose decision to run the command comes from outside, and
`Runner.step` is the one that decides by the skip rule (`Command.runsIn`). A step moves the
cursor by one and keeps registry and script; it runs the command or leaves the context
alone, and a command that fails leaves only the moved cursor behind.

`Runner.stepAll` steps through a list of commands, takes out the stop pending after each
step (which is what calling `run` again after every stop does) and halts at the first
failure. It distributes over concatenation (`stepAll_append`), and `run` is that loop cut
at the first stop, read over `Runner.remaining`, the commands from the cursor on
(`run_of_remaining_nil`, `run_of_remaining_cons`).
-/

namespace LineScript

/-- The context with the cursor moved past one more command. -/
def Context.advance (ctx : Context) : Context := { ctx with cursor := ctx.cursor + 1 }

namespace Context

@[simp] theorem advance_cursor (ctx : Context) : ctx.advance.cursor = ctx.cursor + 1 := rfl
@[simp] theorem advance_skips (ctx : Context) : ctx.advance.skips = ctx.skips := rfl
@[simp] theorem advance_vars (ctx : Context) : ctx.advance.vars = ctx.vars := rfl
@[simp] theorem advance_pendingStop (ctx : Context) : ctx.advance.pendingStop = ctx.pendingStop :=
  rfl

end Context

/-- Whether a step runs `c` under the skip stack `s`: block lines always run, other commands
only while no frame skips. -/
def Command.runsIn (c : Command) (s : SkipStack) : Bool := c.isBlockLine || !s.isSkipping

namespace Command

@[simp] theorem runsIn_ifLine (c : Command) (s : SkipStack) : (ifLine c).runsIn s = true := rfl
@[simp] theorem runsIn_elseLine (s : SkipStack) : elseLine.runsIn s = true := rfl
@[simp] theorem runsIn_endifLine (s : SkipStack) : endifLine.runsIn s = true := rfl

end Command

namespace Runner

-- ----------------------------------------------------------------------------
-- One step
-- ----------------------------------------------------------------------------

/-- A step whose decision to run the command is `runs`: the cursor moves past `c`, and `c`
runs when `runs` holds; a failure puts the context back as it was after the move. -/
def stepWith (r : Runner) (c : Command) (runs : Bool) : Progress Unit :=
  if runs then
    let e := r.registry.execute c r.context.advance
    match e.result with
    | .ok _ => ⟨{ r with context := e.context }, e.printed, .ok ()⟩
    | .error err =>
      ⟨{ r with context := r.context.advance }, e.printed, .error ⟨r.context.cursor + 1, err⟩⟩
  else ⟨{ r with context := r.context.advance }, "", .ok ()⟩

/-- A step decides by the skip rule. -/
theorem step_eq_stepWith (r : Runner) (c : Command) :
    r.step c = r.stepWith c (c.runsIn r.context.skips) := rfl

variable {r : Runner} {c : Command} {runs : Bool}

@[simp] theorem stepWith_false (r : Runner) (c : Command) :
    r.stepWith c false = ⟨{ r with context := r.context.advance }, "", .ok ()⟩ := rfl

theorem stepWith_true_of_ok {v : String}
    (h : (r.registry.execute c r.context.advance).result = .ok v) :
    r.stepWith c true =
      ⟨{ r with context := (r.registry.execute c r.context.advance).context },
        (r.registry.execute c r.context.advance).printed, .ok ()⟩ := by
  simp only [stepWith, ↓reduceIte, h]

theorem stepWith_true_of_error {err : CommandError}
    (h : (r.registry.execute c r.context.advance).result = .error err) :
    r.stepWith c true =
      ⟨{ r with context := r.context.advance }, (r.registry.execute c r.context.advance).printed,
        .error ⟨r.context.cursor + 1, err⟩⟩ := by
  simp only [stepWith, ↓reduceIte, h]

/-- A step changes the context only: to the context after the move, or to the one the
command left, whose cursor has moved too. -/
theorem stepWith_runner (r : Runner) (c : Command) (runs : Bool) :
    ∃ ctx, (r.stepWith c runs).runner = { r with context := ctx } ∧
      ctx.cursor = r.context.cursor + 1 := by
  cases runs with
  | false => exact ⟨_, rfl, rfl⟩
  | true =>
    cases he : (r.registry.execute c r.context.advance).result with
    | ok v => exact ⟨_, by rw [stepWith_true_of_ok he], by simp [Registry.execute_cursor]⟩
    | error err => exact ⟨_, by rw [stepWith_true_of_error he], rfl⟩

@[simp] theorem stepWith_registry : (r.stepWith c runs).runner.registry = r.registry := by
  obtain ⟨ctx, h, -⟩ := stepWith_runner r c runs
  rw [h]

@[simp] theorem stepWith_script : (r.stepWith c runs).runner.script = r.script := by
  obtain ⟨ctx, h, -⟩ := stepWith_runner r c runs
  rw [h]

@[simp] theorem stepWith_cursor :
    (r.stepWith c runs).runner.context.cursor = r.context.cursor + 1 := by
  obtain ⟨ctx, h, hc⟩ := stepWith_runner r c runs
  rw [h, ← hc]

/-- A step that fails ran its command, which failed with the step's cause; the error names
the command by its 1-based number, and the runner keeps only the moved cursor. -/
theorem stepWith_eq_error {e : ExecutionError} (h : (r.stepWith c runs).result = .error e) :
    runs = true ∧ e.command = r.context.cursor + 1 ∧
      (r.registry.execute c r.context.advance).result = .error e.cause ∧
      (r.stepWith c runs).runner = { r with context := r.context.advance } := by
  cases runs with
  | false => simp at h
  | true =>
    cases he : (r.registry.execute c r.context.advance).result with
    | ok v => simp [stepWith_true_of_ok he] at h
    | error err =>
      rw [stepWith_true_of_error he] at h ⊢
      cases h
      exact ⟨rfl, rfl, rfl, rfl⟩

/-- A step that succeeds either skipped its command or ran it to a value, and the runner
holds the context the command left. -/
theorem stepWith_eq_ok (h : (r.stepWith c runs).result = .ok ()) :
    (runs = false ∧ (r.stepWith c runs).runner = { r with context := r.context.advance }) ∨
      (runs = true ∧ ∃ v, (r.registry.execute c r.context.advance).result = .ok v ∧
        (r.stepWith c runs).runner =
          { r with context := (r.registry.execute c r.context.advance).context }) := by
  cases runs with
  | false => exact .inl ⟨rfl, rfl⟩
  | true =>
    cases he : (r.registry.execute c r.context.advance).result with
    | ok v => exact .inr ⟨rfl, v, rfl, by rw [stepWith_true_of_ok he]⟩
    | error err => simp [stepWith_true_of_error he] at h

-- ----------------------------------------------------------------------------
-- Taking out a stop
-- ----------------------------------------------------------------------------

@[simp] theorem clearStop_registry (r : Runner) : r.clearStop.registry = r.registry := rfl
@[simp] theorem clearStop_script (r : Runner) : r.clearStop.script = r.script := rfl
@[simp] theorem clearStop_vars (r : Runner) : r.clearStop.context.vars = r.context.vars := rfl
@[simp] theorem clearStop_skips (r : Runner) : r.clearStop.context.skips = r.context.skips := rfl
@[simp] theorem clearStop_cursor (r : Runner) : r.clearStop.context.cursor = r.context.cursor :=
  rfl
@[simp] theorem clearStop_pendingStop (r : Runner) : r.clearStop.context.pendingStop = none := rfl

/-- Taking out a stop that is not there changes nothing. -/
theorem clearStop_of_none (h : r.context.pendingStop = none) : r.clearStop = r := by
  obtain ⟨reg, script, ⟨vars, skips, cursor, stop⟩⟩ := r
  cases h
  rfl

end Runner

-- ----------------------------------------------------------------------------
-- Stepping through a list of commands
-- ----------------------------------------------------------------------------

/-- What stepping through commands leaves: the runner, what host functions printed, the
tokens of the stops taken out after the steps that left one, in order, and the failure
that halted the steps, if one did. -/
structure Stepped where
  runner : Runner
  printed : String
  tokens : List String
  result : Except ExecutionError Unit

namespace Stepped

/-- Nothing stepped yet. -/
def done (r : Runner) : Stepped := ⟨r, "", [], .ok ()⟩

/-- Goes on with `f` from the runner reached, unless a failure halted the steps. -/
def andThen (s : Stepped) (f : Runner → Stepped) : Stepped :=
  match s.result with
  | .error _ => s
  | .ok () =>
    let t := f s.runner
    ⟨t.runner, s.printed ++ t.printed, s.tokens ++ t.tokens, t.result⟩

variable {s : Stepped} {f g : Runner → Stepped}

@[simp] theorem done_andThen (r : Runner) (f : Runner → Stepped) : (done r).andThen f = f r := by
  simp [done, andThen]

theorem andThen_of_error {e : ExecutionError} (h : s.result = .error e) : s.andThen f = s := by
  simp [andThen, h]

theorem andThen_of_ok (h : s.result = .ok ()) :
    s.andThen f = ⟨(f s.runner).runner, s.printed ++ (f s.runner).printed,
      s.tokens ++ (f s.runner).tokens, (f s.runner).result⟩ := by
  simp [andThen, h]

@[simp] theorem andThen_done (s : Stepped) : s.andThen done = s := by
  cases h : s.result with
  | error e => exact andThen_of_error h
  | ok u => rw [andThen_of_ok h]; simp [done, ← h]

theorem andThen_assoc (s : Stepped) (f g : Runner → Stepped) :
    (s.andThen f).andThen g = s.andThen fun r => (f r).andThen g := by
  cases h : s.result with
  | error e => rw [andThen_of_error h, andThen_of_error h, andThen_of_error h]
  | ok u =>
    rw [andThen_of_ok h, andThen_of_ok h]
    generalize f s.runner = t
    obtain ⟨r', p, ts, res⟩ := t
    cases res with
    | error e => simp [andThen]
    | ok u' => simp [andThen, String.append_assoc]

/-- Steps followed by more steps succeed when both parts do, and end where the second does. -/
theorem andThen_eq_ok (h : (s.andThen f).result = .ok ()) :
    s.result = .ok () ∧ (f s.runner).result = .ok () ∧
      (s.andThen f).runner = (f s.runner).runner := by
  cases hs : s.result with
  | error e =>
    rw [andThen_of_error hs, hs] at h
    cases h
  | ok u =>
    rw [andThen_of_ok hs] at h ⊢
    exact ⟨rfl, h, rfl⟩

/-- Only what `f` does from the runner reached counts, and only when the steps succeeded. -/
theorem andThen_congr (h : s.result = .ok () → f s.runner = g s.runner) :
    s.andThen f = s.andThen g := by
  cases hs : s.result with
  | error e => rw [andThen_of_error hs, andThen_of_error hs]
  | ok u => rw [andThen_of_ok hs, andThen_of_ok hs, h hs]

end Stepped

namespace Runner

/-- One line: a step with the decision `runs`, after which a stop the line left pending is
taken out. -/
def line (r : Runner) (c : Command) (runs : Bool) : Stepped :=
  let s := r.stepWith c runs
  match s.result with
  | .error e => ⟨s.runner, s.printed, [], .error e⟩
  | .ok () => ⟨s.runner.clearStop, s.printed, s.runner.context.pendingStop.toList, .ok ()⟩

theorem line_of_ok {r : Runner} {c : Command} {runs : Bool}
    (h : (r.stepWith c runs).result = .ok ()) :
    r.line c runs = ⟨(r.stepWith c runs).runner.clearStop, (r.stepWith c runs).printed,
      (r.stepWith c runs).runner.context.pendingStop.toList, .ok ()⟩ := by
  simp only [line, h]

theorem line_of_error {r : Runner} {c : Command} {runs : Bool} {e : ExecutionError}
    (h : (r.stepWith c runs).result = .error e) :
    r.line c runs =
      ⟨(r.stepWith c runs).runner, (r.stepWith c runs).printed, [], .error e⟩ := by
  simp only [line, h]

/-- Steps through `cs` in order, taking out the stop pending after each step, as calling
`run` again after every stop does; halts at the first failure. -/
def stepAll (r : Runner) : List Command → Stepped
  | [] => ⟨r, "", [], .ok ()⟩
  | c :: cs =>
    let s := r.step c
    match s.result with
    | .error e => ⟨s.runner, s.printed, [], .error e⟩
    | .ok () =>
      let rest := s.runner.clearStop.stepAll cs
      ⟨rest.runner, s.printed ++ rest.printed, s.runner.context.pendingStop.toList ++ rest.tokens,
        rest.result⟩

@[simp] theorem stepAll_nil (r : Runner) : r.stepAll [] = .done r := rfl

/-- Stepping through commands is one line after another, each deciding by the skip rule. -/
theorem stepAll_cons (r : Runner) (c : Command) (cs : List Command) :
    r.stepAll (c :: cs) = (r.line c (c.runsIn r.context.skips)).andThen (·.stepAll cs) := by
  simp only [stepAll, line, ← step_eq_stepWith]
  cases h : (r.step c).result with
  | error e => simp [Stepped.andThen]
  | ok u => simp [Stepped.andThen]

/-- Stepping through two lists is stepping through the first, then the second. -/
theorem stepAll_append (r : Runner) (cs ds : List Command) :
    r.stepAll (cs ++ ds) = (r.stepAll cs).andThen (·.stepAll ds) := by
  induction cs generalizing r with
  | nil => simp
  | cons c cs ih =>
    simp only [List.cons_append, stepAll_cons, Stepped.andThen_assoc]
    exact Stepped.andThen_congr fun _ => ih _

-- ----------------------------------------------------------------------------
-- Runs, read over the commands from the cursor on
-- ----------------------------------------------------------------------------

variable {r : Runner} {c : Command}

/-- The commands from the cursor on: what a run has still to step. -/
def remaining (r : Runner) : List Command := r.script.commands.drop r.context.cursor

@[simp] theorem remaining_clearStop (r : Runner) : r.clearStop.remaining = r.remaining := rfl

/-- The command at the cursor is the first of those still to step. -/
theorem get?_cursor (r : Runner) : r.script.get? r.context.cursor = r.remaining.head? := by
  simp [remaining, Script.get?, List.head?_drop]

/-- Stepping a command that succeeds and leaves no stop goes straight on with the rest. -/
theorem stepAll_cons_of_none {cs : List Command} (he : (r.step c).result = .ok ())
    (ht : (r.step c).runner.context.pendingStop = none) :
    r.stepAll (c :: cs) =
      ⟨((r.step c).runner.stepAll cs).runner,
        (r.step c).printed ++ ((r.step c).runner.stepAll cs).printed,
        ((r.step c).runner.stepAll cs).tokens, ((r.step c).runner.stepAll cs).result⟩ := by
  simp only [stepAll, he, ht, clearStop_of_none ht, Option.toList_none, List.nil_append]

/-- After a step the commands still to step are those after the one at the cursor. -/
theorem remaining_stepWith {cs : List Command} (h : r.remaining = c :: cs) (c' : Command)
    (runs : Bool) : (r.stepWith c' runs).runner.remaining = cs := by
  simp only [remaining, stepWith_script, stepWith_cursor, ← List.tail_drop]
  rw [show r.script.commands.drop r.context.cursor = c :: cs from h]
  rfl

theorem remaining_step {cs : List Command} (h : r.remaining = c :: cs) (c' : Command) :
    (r.step c').runner.remaining = cs :=
  remaining_stepWith h c' _

/-- A run with nothing left to step ends at once. -/
theorem run_of_remaining_nil (h : r.remaining = []) : r.run = ⟨r, "", .ok .finished⟩ := by
  have hlen : ¬ r.context.cursor < r.script.commands.length := by
    simpa [remaining, List.drop_eq_nil_iff] using h
  rw [run, dif_neg hlen]

/-- A run steps the command at the cursor; it ends on a failure or a pending stop, and
otherwise goes on from the runner the step left. -/
theorem run_of_remaining_cons {cs : List Command} (h : r.remaining = c :: cs) :
    r.run =
      match (r.step c).result with
      | .error e => ⟨(r.step c).runner, (r.step c).printed, .error e⟩
      | .ok () =>
        match (r.step c).runner.context.pendingStop with
        | some t => ⟨(r.step c).runner.clearStop, (r.step c).printed, .ok (.requested t)⟩
        | none =>
          ⟨(r.step c).runner.run.runner, (r.step c).printed ++ (r.step c).runner.run.printed,
            (r.step c).runner.run.result⟩ := by
  have hlt : r.context.cursor < r.script.commands.length := by
    have := congrArg List.length h
    simp only [remaining, List.length_drop, List.length_cons] at this
    omega
  have hc : r.script.commands.get ⟨r.context.cursor, hlt⟩ = c := by
    have := h
    rw [remaining, List.drop_eq_getElem_cons hlt] at this
    exact (List.cons.inj this).1
  rw [run, dif_pos hlt]
  -- the match in `run` and the one stated here agree once their matchers unfold
  subst hc
  rfl

theorem run_cons_error {cs : List Command} {e : ExecutionError} (h : r.remaining = c :: cs)
    (he : (r.step c).result = .error e) :
    r.run = ⟨(r.step c).runner, (r.step c).printed, .error e⟩ := by
  rw [run_of_remaining_cons h, he]

theorem run_cons_stop {cs : List Command} {t : String} (h : r.remaining = c :: cs)
    (he : (r.step c).result = .ok ()) (ht : (r.step c).runner.context.pendingStop = some t) :
    r.run = ⟨(r.step c).runner.clearStop, (r.step c).printed, .ok (.requested t)⟩ := by
  rw [run_of_remaining_cons h, he]
  simp only [ht]

theorem run_cons_next {cs : List Command} (h : r.remaining = c :: cs)
    (he : (r.step c).result = .ok ()) (ht : (r.step c).runner.context.pendingStop = none) :
    r.run = ⟨(r.step c).runner.run.runner, (r.step c).printed ++ (r.step c).runner.run.printed,
      (r.step c).runner.run.result⟩ := by
  rw [run_of_remaining_cons h, he]
  simp only [ht]

/-- A run that stops has stepped at least one command. -/
theorem remaining_run_lt {t : String} (h : r.run.result = .ok (.requested t)) :
    r.run.runner.remaining.length < r.remaining.length := by
  generalize hl : r.remaining = l
  induction l generalizing r with
  | nil => simp [run_of_remaining_nil hl] at h
  | cons c cs ih =>
    have hrest : (r.step c).runner.remaining = cs := remaining_step hl c
    cases he : (r.step c).result with
    | error e => simp [run_cons_error hl he] at h
    | ok u =>
      cases ht : (r.step c).runner.context.pendingStop with
      | some t' =>
        rw [run_cons_stop hl he ht, remaining_clearStop, hrest]
        simp
      | none =>
        rw [run_cons_next hl he ht] at h ⊢
        have := ih h hrest
        simp only [List.length_cons]
        omega

end Runner

end LineScript
