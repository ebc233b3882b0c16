import LineScript.Proofs.Stepping

/-! ## Sessions: what a host can do to a runner

A host holds a runner and may run it, bind a variable in it, keep a copy of it and later go
back to a copy it kept (`Session`). Every runner a session holds, in use or kept, is sound
(`Runner.Sound`): its skip stack has a frame, its cursor lies within the script and no stop
is pending. A run takes out every stop it returns, and a failed command puts back a context
that had none.

A run calls functions only where its script says: the function a command names, on a context
whose cursor stands just past that command and with no stop pending (`Script.Calls`). This is
stated as locality: a registry that agrees with the runner's own on such calls gives the same
run (`Runner.run_congr`), so nothing a function would do on any other context is ever seen.

Runs are read through `Runner.stepEach`, the runners a driver passes through that calls `run`
again whatever it returned: a run ends where stepping some of the commands at the cursor ends
(`run_runner_eq_stepEach`).
-/

namespace LineScript

theorem SkipStack.one_le_depth (s : SkipStack) : 1 ≤ s.depth := Nat.le_add_left 1 _

namespace Runner

variable {r : Runner} {c : Command} {cs : List Command}

@[simp] theorem step_registry (r : Runner) (c : Command) :
    (r.step c).runner.registry = r.registry :=
  stepWith_registry

@[simp] theorem setVar_registry (r : Runner) (k v : String) : (r.setVar k v).registry = r.registry :=
  rfl
@[simp] theorem setVar_script (r : Runner) (k v : String) : (r.setVar k v).script = r.script := rfl
@[simp] theorem setVar_skips (r : Runner) (k v : String) :
    (r.setVar k v).context.skips = r.context.skips := rfl
@[simp] theorem setVar_cursor (r : Runner) (k v : String) :
    (r.setVar k v).context.cursor = r.context.cursor := rfl
@[simp] theorem setVar_pendingStop (r : Runner) (k v : String) :
    (r.setVar k v).context.pendingStop = r.context.pendingStop := rfl

/-- A step that fails keeps nothing but the moved cursor. -/
theorem step_runner_of_error {e : ExecutionError} (h : (r.step c).result = .error e) :
    (r.step c).runner = { r with context := r.context.advance } := by
  rw [step_eq_stepWith] at h ⊢
  exact (stepWith_eq_error h).2.2.2

-- ----------------------------------------------------------------------------
-- Stepping past failures
-- ----------------------------------------------------------------------------

/-- Steps through `cs` in order, taking out the stop pending after each step and going on past
failures: the runners a driver passes through that calls `run` again whatever it returned. -/
def stepEach (r : Runner) : List Command → Runner
  | [] => r
  | c :: cs => (r.step c).runner.clearStop.stepEach cs

@[simp] theorem stepEach_nil (r : Runner) : r.stepEach [] = r := rfl

@[simp] theorem stepEach_cons (r : Runner) (c : Command) (cs : List Command) :
    r.stepEach (c :: cs) = (r.step c).runner.clearStop.stepEach cs := rfl

theorem stepEach_append (r : Runner) (cs ds : List Command) :
    r.stepEach (cs ++ ds) = (r.stepEach cs).stepEach ds := by
  induction cs generalizing r with
  | nil => rfl
  | cons c cs ih => exact ih _

@[simp] theorem stepEach_registry (r : Runner) (cs : List Command) :
    (r.stepEach cs).registry = r.registry := by
  induction cs generalizing r with
  | nil => rfl
  | cons c cs ih => simp [ih]

@[simp] theorem stepEach_script (r : Runner) (cs : List Command) :
    (r.stepEach cs).script = r.script := by
  induction cs generalizing r with
  | nil => rfl
  | cons c cs ih => simp [ih]

@[simp] theorem stepEach_cursor (r : Runner) (cs : List Command) :
    (r.stepEach cs).context.cursor = r.context.cursor + cs.length := by
  induction cs generalizing r with
  | nil => rfl
  | cons c cs ih =>
    simp only [stepEach_cons, ih, clearStop_cursor, step_cursor, List.length_cons]
    omega

/-- Every step's stop is taken out, so none is left after stepping from a runner without one. -/
theorem stepEach_pendingStop (h : r.context.pendingStop = none) (cs : List Command) :
    (r.stepEach cs).context.pendingStop = none := by
  induction cs generalizing r with
  | nil => exact h
  | cons c cs ih => exact ih (clearStop_pendingStop _)

/-- A run from a runner without a pending stop steps some of the commands at the cursor, one
after another, and ends where stepping them ends: the commands it stepped without a stop, and
the one that failed or left a stop, if one did. -/
theorem run_runner_eq_stepEach (h : r.context.pendingStop = none) :
    ∃ n, r.run.runner = r.stepEach (r.remaining.take n) := by
  generalize hl : r.remaining = l
  induction l generalizing r with
  | nil => exact ⟨0, by rw [run_of_remaining_nil hl]; rfl⟩
  | cons c cs ih =>
    cases he : (r.step c).result with
    | error e =>
      -- the failed step put back a context without a stop, so taking it out changes nothing
      have hnone : (r.step c).runner.context.pendingStop = none := by
        rw [step_runner_of_error he]
        exact h
      exact ⟨1, by rw [run_cons_error hl he]; simp [clearStop_of_none hnone]⟩
    | ok u =>
      cases ht : (r.step c).runner.context.pendingStop with
      | some t => exact ⟨1, by rw [run_cons_stop hl he ht]; simp⟩
      | none =>
        obtain ⟨n, hn⟩ := ih ht (remaining_step hl c)
        exact ⟨n + 1, by rw [run_cons_next hl he ht, hn]; simp [clearStop_of_none ht]⟩

/-- What every step keeps, and taking out a stop keeps, a run keeps. -/
theorem run_preserves (P : Runner → Prop) (hstep : ∀ r c, P r → P (r.step c).runner)
    (hclear : ∀ r, P r → P r.clearStop) (h : P r) : P r.run.runner := by
  generalize hl : r.remaining = l
  induction l generalizing r with
  | nil => rwa [run_of_remaining_nil hl]
  | cons c cs ih =>
    cases he : (r.step c).result with
    | error e =>
      rw [run_cons_error hl he]
      exact hstep r c h
    | ok u =>
      cases ht : (r.step c).runner.context.pendingStop with
      | some t =>
        rw [run_cons_stop hl he ht]
        exact hclear _ (hstep r c h)
      | none =>
        rw [run_cons_next hl he ht]
        exact ih (hstep r c h) (remaining_step hl c)

@[simp] theorem run_registry (r : Runner) : r.run.runner.registry = r.registry :=
  run_preserves (fun r' => r'.registry = r.registry) (fun _ _ h => by rw [step_registry, h])
    (fun _ h => h) rfl

@[simp] theorem run_script (r : Runner) : r.run.runner.script = r.script :=
  run_preserves (fun r' => r'.script = r.script) (fun _ _ h => by rw [step_script, h])
    (fun _ h => h) rfl

-- ----------------------------------------------------------------------------
-- The representation invariant
-- ----------------------------------------------------------------------------

/-- The representation invariant of a runner between calls: the skip stack has a frame, the
cursor lies within the script, and no stop is pending. -/
structure Sound (r : Runner) : Prop where
  one_le_depth : 1 ≤ r.context.skips.depth
  cursor_le : r.context.cursor ≤ r.script.size
  no_stop : r.context.pendingStop = none

theorem sound_new (registry : Registry) (script : Script) : (Runner.new registry script).Sound :=
  ⟨SkipStack.one_le_depth _, Nat.zero_le _, rfl⟩

theorem Sound.setVar (h : r.Sound) (k v : String) : (r.setVar k v).Sound :=
  ⟨SkipStack.one_le_depth _, by simpa using h.cursor_le, by simpa using h.no_stop⟩

/-- A run keeps a runner sound: it steps no further than the end of the script, and takes out
the stop of the step it ends at. -/
theorem Sound.run (h : r.Sound) : r.run.runner.Sound := by
  obtain ⟨n, hn⟩ := run_runner_eq_stepEach h.no_stop
  have hlen : (r.remaining.take n).length ≤ r.script.size - r.context.cursor := by
    simp only [remaining, List.length_take, List.length_drop, Script.size]
    exact Nat.min_le_right _ _
  refine ⟨SkipStack.one_le_depth _, ?_, ?_⟩
  · rw [hn, stepEach_cursor, stepEach_script]
    have := h.cursor_le
    omega
  · rw [hn]
    exact stepEach_pendingStop h.no_stop _

end Runner

-- ----------------------------------------------------------------------------
-- Which functions a run calls, and where
-- ----------------------------------------------------------------------------

/-- The function a command calls: the one its call names, at the end of its chain of `if`s
and assignments. `else` and `endif` call none. -/
def Command.callee : Command → Option String
  | .call f _ => some f
  | .assign _ c => c.callee
  | .ifLine c => c.callee
  | .elseLine | .endifLine => none

/-- The calls a script makes: the function a command names, on a context with no stop pending
whose cursor is that command's 1-based position. -/
def Script.Calls (script : Script) (name : String) (ctx : Context) : Prop :=
  ctx.pendingStop = none ∧
    ∃ i c, ctx.cursor = i + 1 ∧ script.get? i = some c ∧ c.callee = some name

/-- Two registries agree on the calls `P` admits: they hold the same names, and under each
name functions that give the same reply to every call whose context `P` admits. -/
def Registry.AgreeOn (P : String → Context → Prop) (reg reg' : Registry) : Prop :=
  ∀ name, Option.Rel (fun f f' => ∀ args ctx, P name ctx → f args ctx = f' args ctx)
    (reg.get? name) (reg'.get? name)

namespace Registry

variable {P Q : String → Context → Prop} {reg reg' : Registry}

theorem AgreeOn.refl (P : String → Context → Prop) (reg : Registry) : reg.AgreeOn P reg := by
  intro name
  cases reg.get? name with
  | none => exact .none
  | some f => exact .some fun _ _ _ => rfl

theorem AgreeOn.mono (h : reg.AgreeOn P reg') (hQ : ∀ name ctx, Q name ctx → P name ctx) :
    reg.AgreeOn Q reg' := by
  intro name
  have hn := h name
  generalize reg.get? name = o at hn ⊢
  generalize reg'.get? name = o' at hn ⊢
  cases hn with
  | none => exact .none
  | some hf => exact .some fun args ctx hq => hf args ctx (hQ name ctx hq)

/-- Running a command calls at most the function it names, and on the context it is given:
registries that agree on that one call run it alike. -/
theorem execute_congr (c : Command) (ctx : Context)
    (h : reg.AgreeOn (fun name ctx' => c.callee = some name ∧ ctx' = ctx) reg') :
    reg.execute c ctx = reg'.execute c ctx := by
  induction c with
  | call f args =>
    have hf := h f
    simp only [execute]
    generalize reg.get? f = o at hf ⊢
    generalize reg'.get? f = o' at hf ⊢
    cases hf with
    | none => rfl
    | some hfn =>
      have hcall : ∀ vals, _ := fun vals => hfn vals ctx ⟨rfl, rfl⟩
      simp only [hcall]
  | assign v c ih => simp only [execute, ih h]
  | ifLine c ih => simp only [execute, ih h]
  | elseLine | endifLine => rfl

end Registry

namespace Runner

variable {r : Runner} {reg' : Registry}

/-- A step calls at most the function its command names, on the context after the move. -/
theorem step_congr (r : Runner) (c : Command)
    (h : r.registry.AgreeOn (fun name ctx => c.callee = some name ∧ ctx = r.context.advance)
      reg') :
    ({ r with registry := reg' }).step c =
      ⟨{ (r.step c).runner with registry := reg' }, (r.step c).printed, (r.step c).result⟩ := by
  have he := Registry.execute_congr c r.context.advance h
  simp only [step_eq_stepWith, stepWith]
  split
  · rw [← he]
    split <;> rfl
  · rfl

/-- A run calls functions only where its script says (`Script.Calls`): a runner without a
pending stop runs alike with any registry that agrees with its own on those calls. -/
theorem run_congr (hs : r.context.pendingStop = none)
    (h : r.registry.AgreeOn r.script.Calls reg') :
    ({ r with registry := reg' }).run =
      ⟨{ r.run.runner with registry := reg' }, r.run.printed, r.run.result⟩ := by
  generalize hl : r.remaining = l
  induction l generalizing r with
  | nil =>
    have hl' : ({ r with registry := reg' }).remaining = [] := hl
    rw [run_of_remaining_nil hl, run_of_remaining_nil hl']
  | cons c cs ih =>
    -- the command at the cursor calls its function on the context after the move
    have hget : r.script.get? r.context.cursor = some c := by rw [get?_cursor, hl]; rfl
    have hc := h.mono fun name ctx (hcall : c.callee = some name ∧ ctx = r.context.advance) =>
      ⟨by rw [hcall.2]; exact hs, r.context.cursor, c, by rw [hcall.2]; rfl, hget, hcall.1⟩
    have hstep := step_congr r c hc
    have hl' : ({ r with registry := reg' }).remaining = c :: cs := hl
    cases he : (r.step c).result with
    | error e =>
      rw [run_cons_error hl' (by rw [hstep]; exact he), run_cons_error hl he, hstep]
    | ok u =>
      cases ht : (r.step c).runner.context.pendingStop with
      | some t =>
        rw [run_cons_stop hl' (by rw [hstep]; exact he) (by rw [hstep]; exact ht),
          run_cons_stop hl he ht, hstep]
        rfl
      | none =>
        rw [run_cons_next hl' (by rw [hstep]; exact he) (by rw [hstep]; exact ht),
          run_cons_next hl he ht, hstep]
        -- the rest of the run goes on from the runner after the step, as before
        have hrest := ih ht (by simpa using h) (remaining_step hl c)
        simp only at hrest ⊢
        rw [hrest]

end Runner

-- ----------------------------------------------------------------------------
-- Sessions
-- ----------------------------------------------------------------------------

/-- What a host does with a runner: run it, bind a variable, keep a copy of it, or go back to
the `i`-th copy it kept. -/
inductive HostOp where
  | run
  | setVar (name value : String)
  | snapshot
  | restore (i : Nat)
  deriving DecidableEq, Repr

/-- A runner in use and the copies a host kept of it, oldest first. -/
structure Session where
  current : Runner
  kept : List Runner

namespace Session

/-- A session on a new runner, with no copies kept. -/
def start (registry : Registry) (script : Script) : Session := ⟨.new registry script, []⟩

/-- The session after one thing the host does; going back to a copy never kept does nothing. -/
def perform (s : Session) : HostOp → Session
  | .run => { s with current := s.current.run.runner }
  | .setVar k v => { s with current := s.current.setVar k v }
  | .snapshot => { s with kept := s.kept ++ [s.current] }
  | .restore i =>
    match s.kept[i]? with
    | some r => { s with current := r }
    | none => s

/-- The session after things done in order. -/
def performAll (s : Session) (ops : List HostOp) : Session := ops.foldl perform s

/-- The runners of a session: the one in use and the copies kept. -/
def runners (s : Session) : List Runner := s.current :: s.kept

/-- Every runner of a session is a sound runner of `registry` and `script`. -/
def Sound (registry : Registry) (script : Script) (s : Session) : Prop :=
  ∀ r ∈ s.runners, r.registry = registry ∧ r.script = script ∧ r.Sound

variable {registry : Registry} {script : Script} {s : Session}

theorem sound_start (registry : Registry) (script : Script) :
    (start registry script).Sound registry script := by
  intro r hr
  simp only [start, runners, List.mem_singleton] at hr
  subst hr
  exact ⟨rfl, rfl, Runner.sound_new registry script⟩

/-- What one thing a host does leaves in a session: the runners it had, or the runner in use
after a run or a binding. -/
theorem mem_runners_perform {r : Runner} {op : HostOp} (hr : r ∈ (s.perform op).runners) :
    r ∈ s.runners ∨ (op = .run ∧ r = s.current.run.runner) ∨
      ∃ k v, op = .setVar k v ∧ r = s.current.setVar k v := by
  cases op with
  | run =>
    simp only [perform, runners, List.mem_cons] at hr
    rcases hr with rfl | hr
    · exact .inr (.inl ⟨rfl, rfl⟩)
    · exact .inl (List.mem_cons_of_mem _ hr)
  | setVar k v =>
    simp only [perform, runners, List.mem_cons] at hr
    rcases hr with rfl | hr
    · exact .inr (.inr ⟨k, v, rfl, rfl⟩)
    · exact .inl (List.mem_cons_of_mem _ hr)
  | snapshot =>
    simp only [perform, runners, List.mem_cons, List.mem_append, List.not_mem_nil, or_false] at hr
    rcases hr with rfl | hr | rfl
    · exact .inl List.mem_cons_self
    · exact .inl (List.mem_cons_of_mem _ hr)
    · exact .inl List.mem_cons_self
  | restore i =>
    cases hk : s.kept[i]? with
    | none =>
      simp only [perform, hk] at hr
      exact .inl hr
    | some r' =>
      simp only [perform, hk, runners, List.mem_cons] at hr
      -- the copy gone back to is one of those kept
      rcases hr with rfl | hr
      · exact .inl (List.mem_cons_of_mem _ (List.mem_of_getElem? hk))
      · exact .inl (List.mem_cons_of_mem _ hr)

/-- One thing a host does keeps every runner of the session sound: a run and a binding keep
the runner in use sound, and a copy or a return to one only moves sound runners around. -/
theorem Sound.perform (h : s.Sound registry script) (op : HostOp) :
    (s.perform op).Sound registry script := by
  have hcur := h s.current List.mem_cons_self
  intro r hr
  rcases mem_runners_perform hr with hr | ⟨-, rfl⟩ | ⟨k, v, -, rfl⟩
  · exact h r hr
  · exact ⟨by rw [Runner.run_registry, hcur.1], by rw [Runner.run_script, hcur.2.1],
      hcur.2.2.run⟩
  · exact ⟨hcur.1, hcur.2.1, hcur.2.2.setVar k v⟩

theorem Sound.performAll (h : s.Sound registry script) (ops : List HostOp) :
    (s.performAll ops).Sound registry script := by
  induction ops generalizing s with
  | nil => exact h
  | cons op ops ih => exact ih (h.perform op)

/-- The runner keeps its representation invariant. In every runner a host can reach from a new
one, by runs (failed ones included), bindings, copies and returns to copies, the skip stack has
a frame, the cursor lies within the script and no stop is pending. Its next run calls a
function only on a context with no stop pending whose cursor is the 1-based position of the
command that calls it: a registry that agrees with the runner's own on those calls runs it
alike. -/
theorem runners_sound (registry : Registry) (script : Script) (ops : List HostOp) :
    ∀ r ∈ ((start registry script).performAll ops).runners,
      1 ≤ r.context.skips.depth ∧ r.context.cursor ≤ script.size ∧
        r.context.pendingStop = none ∧
        ∀ reg', registry.AgreeOn script.Calls reg' →
          ({ r with registry := reg' }).run =
            ⟨{ r.run.runner with registry := reg' }, r.run.printed, r.run.result⟩ := by
  intro r hr
  obtain ⟨hreg, hscript, hsound⟩ := (sound_start registry script).performAll ops r hr
  refine ⟨hsound.one_le_depth, hscript ▸ hsound.cursor_le, hsound.no_stop, fun reg' h => ?_⟩
  subst hreg hscript
  exact Runner.run_congr hsound.no_stop h

/-- A host runs a script that pauses, keeps a copy at the pause, binds a variable, runs to the
end and goes back to the copy: the copy it is back at is sound, and its next run calls only
where the script says. -/
theorem runners_sound_pauseAndRestore :
    let registry := Registry.builtins.insert "pause" (Function.ofActions [.requestStop "frame"])
    let script : Script := ⟨[.call "pause" [], .assign "y" (.call "id" [.literal "2"])]⟩
    let ops := [HostOp.run, .snapshot, .setVar "x" "1", .run, .restore 0]
    let r := ((start registry script).performAll ops).current
    r ∈ ((start registry script).performAll ops).runners ∧ registry.AgreeOn script.Calls registry ∧
      1 ≤ r.context.skips.depth ∧ r.context.cursor ≤ script.size ∧
        r.context.pendingStop = none ∧
        ∀ reg', registry.AgreeOn script.Calls reg' →
          ({ r with registry := reg' }).run =
            ⟨{ r.run.runner with registry := reg' }, r.run.printed, r.run.result⟩ := by
  intro registry script ops r
  have hr : r ∈ ((start registry script).performAll ops).runners := List.mem_cons_self
  exact ⟨hr, Registry.AgreeOn.refl _ _, runners_sound registry script ops r hr⟩

end Session

end LineScript
