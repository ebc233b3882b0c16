import LineScript.Proofs.Session
import LineScript.Proofs.Blocks

/-! ## What steps do to the frames of the skip stack

Every command is a chain of `if`s and assignments around a call, an `else` or an `endif`. Run
through, it opens one frame per `if` of its chain and closes one if the chain ends in `endif`
(`Command.opens`, `Command.closes`); an `else` at the end of the chain flips the innermost
frame, which is the bottom one when no block is open.

Depth. A line that runs in every case (a block line) changes the depth the same way whatever
its condition gave; only a line that fails leaves the depth alone. A line that starts with an
assignment runs only while nothing is skipped, so `x = endif` closes a frame or not depending
on the conditions before it. Up to the first such line the depth after each step is fixed by
the commands and by which steps failed (`Runner.depth_stepEach_eq`). It is not fixed by the
commands alone: such a line tells two runs apart (`Runner.depth_depends_on_conditions`), and so
does a condition that reads a variable bound only in a branch one run skipped, which fails in
that run alone (`Runner.depth_depends_on_failures`).

Bottom frame. A step flips the bottom frame exactly when it runs a command ending in `else`
with no block open (`Runner.step_bottom`), so an `else` at top level leaves the bottom frame
set and the runner skips every later plain command (`Runner.topLevel_else_skips`).
-/

namespace LineScript

namespace SkipStack

@[simp] theorem depth_push (s : SkipStack) (b : Bool) : (s.push b).depth = s.depth + 1 := rfl

@[simp] theorem depth_flip (s : SkipStack) : s.flip.depth = s.depth := by
  cases s with
  | mk bottom above => cases above <;> rfl

theorem depth_of_pop? {s s' : SkipStack} (h : s.pop? = some s') : s'.depth + 1 = s.depth := by
  obtain ⟨bottom, above⟩ := s
  cases above with
  | nil => cases h
  | cons top rest =>
    cases h
    rfl

@[simp] theorem bottom_push (s : SkipStack) (b : Bool) : (s.push b).bottom = s.bottom := rfl

@[simp] theorem above_push (s : SkipStack) (b : Bool) : (s.push b).above = b :: s.above := rfl

/-- `else` flips the bottom frame exactly when no block is open. -/
@[simp] theorem bottom_flip (s : SkipStack) : s.flip.bottom = (s.bottom != s.above.isEmpty) := by
  obtain ⟨bottom, above⟩ := s
  cases above <;> simp [flip]

theorem bottom_of_pop? {s s' : SkipStack} (h : s.pop? = some s') : s'.bottom = s.bottom := by
  obtain ⟨bottom, above⟩ := s
  cases above with
  | nil => cases h
  | cons top rest =>
    cases h
    rfl

end SkipStack

-- ----------------------------------------------------------------------------
-- The frames a command opens and closes
-- ----------------------------------------------------------------------------

namespace Command

/-- The frames a command opens when it runs through: one for each `if` of its chain. -/
def opens : Command → Nat
  | .call _ _ | .elseLine | .endifLine => 0
  | .assign _ c => c.opens
  | .ifLine c => c.opens + 1

/-- The frames a command closes when it runs through: one when its chain ends in `endif`. -/
def closes : Command → Nat
  | .call _ _ | .elseLine => 0
  | .assign _ c => c.closes
  | .ifLine c => c.closes
  | .endifLine => 1

/-- Whether a command's chain ends in `else`. -/
def endsInElse : Command → Bool
  | .elseLine => true
  | .assign _ c => c.endsInElse
  | .ifLine c => c.endsInElse
  | .call _ _ | .endifLine => false

/-- Skipping the command loses no frame: unless it is a block line, which runs in every case,
it opens and closes none. Only a line that starts with an assignment of an `if` or an `endif`
fails this, such as `x = endif`. -/
def SkipSafe (c : Command) : Prop := c.isBlockLine = false → c.opens = 0 ∧ c.closes = 0

end Command

namespace Registry

variable {reg : Registry} {c : Command} {ctx : Context} {v : String}

/-- A command that runs through moves the depth by the frames it opens and closes. -/
theorem execute_depth (h : (reg.execute c ctx).result = .ok v) :
    (reg.execute c ctx).context.skips.depth + c.closes = ctx.skips.depth + c.opens := by
  induction c generalizing v with
  | call f args =>
    simp only [execute] at h ⊢
    split at h
    · cases h
    · split at h
      · cases h
      · simp [Command.opens, Command.closes]
  | assign x c ih =>
    simp only [execute] at h ⊢
    split at h
    · rename_i value hv
      simpa [Context.bind, Command.opens, Command.closes] using ih hv
    · cases h
  | ifLine c ih =>
    simp only [execute] at h ⊢
    split at h
    · rename_i value hv
      have := ih hv
      simp only [SkipStack.depth_push, Command.opens, Command.closes]
      omega
    · cases h
  | elseLine => simp [execute, Command.opens, Command.closes]
  | endifLine =>
    simp only [execute] at h ⊢
    split at h
    · cases h
    · rename_i s hs
      simpa [Command.opens, Command.closes] using SkipStack.depth_of_pop? hs

/-- A command that runs through flips the bottom frame exactly when its chain ends in `else`
and no block is open: the `else` runs first, before the `if`s around it open their frames. -/
theorem execute_bottom (h : (reg.execute c ctx).result = .ok v) :
    (reg.execute c ctx).context.skips.bottom =
      (ctx.skips.bottom != (c.endsInElse && ctx.skips.above.isEmpty)) := by
  induction c generalizing v with
  | call f args =>
    simp only [execute] at h ⊢
    split at h
    · cases h
    · split at h
      · cases h
      · simp [Command.endsInElse]
  | assign x c ih =>
    simp only [execute] at h ⊢
    split at h
    · rename_i value hv
      simpa [Context.bind, Command.endsInElse] using ih hv
    · cases h
  | ifLine c ih =>
    simp only [execute] at h ⊢
    split at h
    · rename_i value hv
      simpa [Command.endsInElse] using ih hv
    · cases h
  | elseLine => simp [execute, Command.endsInElse]
  | endifLine =>
    simp only [execute] at h ⊢
    split at h
    · cases h
    · rename_i s hs
      simp [Command.endsInElse, SkipStack.bottom_of_pop? hs]

/-- A command whose chain ends in `else` calls no function and pops no frame, so it cannot
fail. -/
theorem execute_ok_of_endsInElse (h : c.endsInElse = true) :
    ∃ v, (reg.execute c ctx).result = .ok v := by
  induction c with
  | call f args => cases h
  | assign x c ih =>
    obtain ⟨v, hv⟩ := ih h
    exact ⟨v, by simp [execute, hv]⟩
  | ifLine c ih =>
    obtain ⟨v, hv⟩ := ih h
    exact ⟨"", by simp [execute, hv]⟩
  | elseLine => exact ⟨"", rfl⟩
  | endifLine => cases h

end Registry

namespace Runner

variable {r r₁ r₂ : Runner} {c : Command} {cs : List Command}

/-- A step that fails ran a command that does not end in `else`: such a command cannot fail. -/
theorem endsInElse_of_step_error {e : ExecutionError} (h : (r.step c).result = .error e) :
    c.endsInElse = false := by
  rw [step_eq_stepWith] at h
  have hexec := (stepWith_eq_error h).2.2.1
  cases hel : c.endsInElse with
  | false => rfl
  | true =>
    obtain ⟨v, hv⟩ : ∃ v, (r.registry.execute c r.context.advance).result = .ok v :=
      Registry.execute_ok_of_endsInElse hel
    rw [hv] at hexec
    cases hexec

-- ----------------------------------------------------------------------------
-- Depth
-- ----------------------------------------------------------------------------

/-- A step that goes through moves the depth by the frames its command opens and closes,
whether it ran the command or skipped it, provided skipping it loses no frame. -/
theorem step_depth_of_ok (hc : c.SkipSafe) (h : (r.step c).result = .ok ()) :
    (r.step c).runner.context.skips.depth + c.closes = r.context.skips.depth + c.opens := by
  rw [step_eq_stepWith] at h ⊢
  rcases stepWith_eq_ok h with ⟨hruns, hr⟩ | ⟨-, v, hv, hr⟩
  · -- a skipped command is no block line, so it opens and closes nothing
    have hblock : c.isBlockLine = false := by
      simp only [Command.runsIn, Bool.or_eq_false_iff] at hruns
      exact hruns.1
    obtain ⟨ho, hcl⟩ := hc hblock
    rw [hr, ho, hcl]
    rfl
  · rw [hr]
    simpa using Registry.execute_depth hv

/-- Whether each step through `cs` went through, in order, going on past failures as
`stepEach` does. -/
def outcomes (r : Runner) : List Command → List Bool
  | [] => []
  | c :: cs => (r.step c).result.isOk :: (r.step c).runner.clearStop.outcomes cs

/-- The depth after stepping through commands that skipping cannot unbalance is fixed by the
depth before and by which steps failed: two runners at the same depth whose steps fail at the
same places end at the same depth, whatever their conditions gave. -/
theorem depth_stepEach_eq (hcs : ∀ c ∈ cs, c.SkipSafe)
    (hd : r₁.context.skips.depth = r₂.context.skips.depth) (ho : r₁.outcomes cs = r₂.outcomes cs) :
    (r₁.stepEach cs).context.skips.depth = (r₂.stepEach cs).context.skips.depth := by
  induction cs generalizing r₁ r₂ with
  | nil => exact hd
  | cons c cs ih =>
    simp only [outcomes, List.cons.injEq] at ho
    obtain ⟨hok, hrest⟩ := ho
    simp only [stepEach_cons]
    refine ih (fun c' hc' => hcs c' (List.mem_cons_of_mem _ hc')) ?_ hrest
    simp only [clearStop_skips]
    -- both steps went through, or both failed
    cases h₁ : (r₁.step c).result with
    | ok u =>
      have h₂ : (r₂.step c).result = .ok () := by
        cases h : (r₂.step c).result <;> simp_all [Except.isOk, Except.toBool]
      have e₁ := step_depth_of_ok (hcs c List.mem_cons_self) h₁
      have e₂ := step_depth_of_ok (hcs c List.mem_cons_self) h₂
      omega
    | error e =>
      obtain ⟨e', h₂⟩ : ∃ e', (r₂.step c).result = .error e' := by
        cases h : (r₂.step c).result <;> simp_all [Except.isOk, Except.toBool]
      rw [step_runner_of_error h₁, step_runner_of_error h₂]
      exact hd

/-- Nesting depth, along lines skipping cannot unbalance, depends on the conditions only
through which steps fail. Two runs of the same script from new runners, over any registries,
have the same depth after the `k`-th step whenever the first `k` lines are such lines and the
first `k` steps failed at the same places, in particular when neither failed; the lines after
the `k`-th do not matter. A run is the steps a driver takes that calls `run` again whatever it
returned (`run_runner_eq_stepEach`). -/
theorem depth_after_steps_eq (script : Script) (reg₁ reg₂ : Registry) (k : Nat)
    (hs : ∀ c ∈ script.commands.take k, c.SkipSafe)
    (ho : (Runner.new reg₁ script).outcomes (script.commands.take k) =
      (Runner.new reg₂ script).outcomes (script.commands.take k)) :
    ((Runner.new reg₁ script).stepEach (script.commands.take k)).context.skips.depth =
      ((Runner.new reg₂ script).stepEach (script.commands.take k)).context.skips.depth :=
  depth_stepEach_eq hs rfl ho

/-- Two runs of `if c`, `if id x`, `endif`, `x = endif`, where `c` gives `1` in one and `0`
in the other: the second `if` runs in both, skipped branch or not, and after three steps that
all went through both runs are two frames deep. The fourth line, which skipping can
unbalance, is not reached. -/
theorem depth_after_steps_eq_nested :
    let f₁ : Function := fun _ _ => .ok "1"
    let f₂ : Function := fun _ _ => .ok "0"
    let reg₁ := Registry.builtins.insert "c" f₁
    let reg₂ := Registry.builtins.insert "c" f₂
    let script : Script :=
      ⟨[.ifLine (.call "c" []), .ifLine (.call "id" [.literal "x"]), .endifLine,
        .assign "x" .endifLine]⟩
    (∀ c ∈ script.commands.take 3, c.SkipSafe) ∧
      (Runner.new reg₁ script).outcomes (script.commands.take 3) =
        (Runner.new reg₂ script).outcomes (script.commands.take 3) ∧
      ((Runner.new reg₁ script).stepEach (script.commands.take 3)).context.skips.depth =
        ((Runner.new reg₂ script).stepEach (script.commands.take 3)).context.skips.depth := by
  intro f₁ f₂ reg₁ reg₂ script
  have hs : ∀ c ∈ script.commands.take 3, c.SkipSafe := by
    intro c hc
    simp only [script, List.take_succ_cons, List.take_zero, List.mem_cons, List.not_mem_nil,
      or_false] at hc
    rcases hc with rfl | rfl | rfl <;> intro h <;> cases h
  have ho : (Runner.new reg₁ script).outcomes (script.commands.take 3) =
      (Runner.new reg₂ script).outcomes (script.commands.take 3) := by decide
  exact ⟨hs, ho, depth_after_steps_eq script reg₁ reg₂ 3 hs ho⟩

/-- The depth is not fixed by the script alone. Two registries with the one name `c`, whose
functions never fail nor ask for a stop and give `1` and the empty text: after `if c` and
`x = endif`, the first run has closed the block (the assignment ran) and the second has not
(the assignment was skipped). -/
theorem depth_depends_on_conditions :
    let f₁ : Function := fun _ _ => .ok "1"
    let f₂ : Function := fun _ _ => .ok ""
    let reg₁ := Registry.empty.insert "c" f₁
    let reg₂ := Registry.empty.insert "c" f₂
    let script : Script := ⟨[.ifLine (.call "c" []), .assign "x" .endifLine]⟩
    reg₁.names = ["c"] ∧ reg₂.names = ["c"] ∧
      ((Runner.new reg₁ script).stepEach script.commands).context.skips.depth = 1 ∧
      ((Runner.new reg₂ script).stepEach script.commands).context.skips.depth = 2 := by
  intro f₁ f₂ reg₁ reg₂ script
  exact ⟨rfl, rfl, by decide, by decide⟩

/-- Skip-safe lines alone do not fix the depth: the steps must also fail at the same places.
In `if c`, `x = id 1`, `endif`, `if id $x`, every line is skip-safe; where `c` gives `1` the
block binds `x` and the last `if` opens a frame, where `c` gives `0` the block is skipped, `x`
stays unbound and the last `if` fails and is rolled back. The runs end two and one frames
deep. -/
theorem depth_depends_on_failures :
    let f₁ : Function := fun _ _ => .ok "1"
    let f₂ : Function := fun _ _ => .ok "0"
    let reg₁ := Registry.builtins.insert "c" f₁
    let reg₂ := Registry.builtins.insert "c" f₂
    let script : Script :=
      ⟨[.ifLine (.call "c" []), .assign "x" (.call "id" [.literal "1"]), .endifLine,
        .ifLine (.call "id" [.var "x"])]⟩
    (∀ c ∈ script.commands, c.SkipSafe) ∧
      (Runner.new reg₁ script).outcomes script.commands = [true, true, true, true] ∧
      (Runner.new reg₂ script).outcomes script.commands = [true, true, true, false] ∧
      ((Runner.new reg₁ script).stepEach script.commands).context.skips.depth = 2 ∧
      ((Runner.new reg₂ script).stepEach script.commands).context.skips.depth = 1 := by
  intro f₁ f₂ reg₁ reg₂ script
  have hs : ∀ c ∈ script.commands, c.SkipSafe := by
    intro c hc
    simp only [script, List.mem_cons, List.not_mem_nil, or_false] at hc
    -- the assignment wraps a call, which opens and closes nothing
    rcases hc with rfl | rfl | rfl | rfl <;> intro h
    · cases h
    · exact ⟨rfl, rfl⟩
    · cases h
    · cases h
  exact ⟨hs, by decide, by decide, by decide, by decide⟩

-- ----------------------------------------------------------------------------
-- The bottom frame
-- ----------------------------------------------------------------------------

/-- Whether stepping `c` flips the bottom frame: it runs a command ending in `else` while no
block is open. -/
def flipsBottom (r : Runner) (c : Command) : Bool :=
  c.endsInElse && c.runsIn r.context.skips && r.context.skips.above.isEmpty

/-- Only an `else` run with no block open touches the bottom frame, and it flips it: a step
keeps the bottom frame unless it runs a command ending in `else` while the stack holds the
bottom frame alone. -/
theorem step_bottom (r : Runner) (c : Command) :
    (r.step c).runner.context.skips.bottom = (r.context.skips.bottom != r.flipsBottom c) := by
  cases hres : (r.step c).result with
  | error e =>
    -- a failed step puts the stack back, and its command ends in no `else`
    rw [step_runner_of_error hres, flipsBottom, endsInElse_of_step_error hres]
    simp
  | ok u =>
    rw [step_eq_stepWith] at hres ⊢
    rcases stepWith_eq_ok hres with ⟨hruns, hr⟩ | ⟨hruns, v, hv, hr⟩
    · -- a skipped command touches no frame
      rw [hr, flipsBottom, hruns]
      simp
    · rw [hr, Registry.execute_bottom hv, flipsBottom, hruns]
      simp

/-- Along steps none of which runs an `else` with no block open, the bottom frame stays as
it was. -/
theorem stepEach_bottom
    (h : ∀ i (hi : i < cs.length), (r.stepEach (cs.take i)).flipsBottom cs[i] = false) :
    (r.stepEach cs).context.skips.bottom = r.context.skips.bottom := by
  induction cs generalizing r with
  | nil => rfl
  | cons c cs ih =>
    have h0 := h 0 (by simp)
    simp only [List.take_zero, stepEach_nil, List.getElem_cons_zero] at h0
    rw [stepEach_cons, ih, clearStop_skips, step_bottom, h0]
    · simp
    · intro i hi
      have hnext := h (i + 1) (by simp [hi])
      rwa [List.take_succ_cons, stepEach_cons, List.getElem_cons_succ] at hnext

/-- The bottom frame does not stay unset. After `else` at top level the bottom frame is set:
the stack has one frame and skips, so the assignment after it does not run. -/
theorem topLevel_else_skips :
    let r := (Runner.new Registry.builtins
      ⟨[.elseLine, .assign "x" (.call "id" [.literal "1"])]⟩).run.runner
    r.context.skips.depth = 1 ∧ r.context.skips.isSkipping = true ∧
      r.context.vars.get? "x" = none := by
  intro r
  simp only [r]
  rw [run_cons_next rfl rfl rfl, run_cons_next rfl rfl rfl, run_of_remaining_nil rfl]
  decide

end Runner

end LineScript
