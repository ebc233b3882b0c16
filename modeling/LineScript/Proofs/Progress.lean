import Mathlib.Logic.Function.Iterate
import LineScript.Proofs.Resume
import LineScript.Proofs.Session

/-! ## Every run makes progress

A run on a runner whose cursor stands at the end of the script ends at once and changes
nothing. Any other run steps at least one command, whatever it returns, and stops at the end
of the script at the latest. The commands left to step are the measure of every driver that
calls `run` again after a result other than the end: calling it again after a stop, as the
executor's resume loop does, or after a failure, as a driver that skips failing commands does,
reaches the end within one call more than there are commands left (`Runner.run_iterate_finished`),
and the executor never runs out of the runs it allows itself (`Executor.drive_fuel_eq`).
-/

namespace LineScript

namespace Runner

variable {r : Runner}

theorem remaining_length (r : Runner) :
    r.remaining.length = r.script.size - r.context.cursor := by
  simp [remaining, Script.size]

theorem remaining_eq_nil_iff : r.remaining = [] ↔ r.script.size ≤ r.context.cursor := by
  rw [← List.length_eq_zero_iff, remaining_length]
  omega

/-- A run at or past the end of the script ends at once and leaves the runner as it was. -/
theorem run_of_size_le (h : r.script.size ≤ r.context.cursor) : r.run = ⟨r, "", .ok .finished⟩ :=
  run_of_remaining_nil (remaining_eq_nil_iff.mpr h)

/-- A run never moves the cursor back. -/
theorem cursor_le_run (r : Runner) : r.context.cursor ≤ r.run.runner.context.cursor :=
  run_preserves (fun r' => r.context.cursor ≤ r'.context.cursor)
    (fun r' c h => by rw [step_cursor]; omega) (fun _ h => h) (Nat.le_refl _)

/-- A run with commands left steps at least one of them, whatever it returns. -/
theorem cursor_lt_run (h : r.context.cursor < r.script.size) :
    r.context.cursor < r.run.runner.context.cursor := by
  have hne : r.remaining ≠ [] := fun hnil => by
    have := remaining_eq_nil_iff.mp hnil
    omega
  obtain ⟨c, cs, hl⟩ := List.exists_cons_of_ne_nil hne
  have hstep : r.context.cursor < (r.step c).runner.context.cursor := by
    rw [step_cursor]
    exact Nat.lt_succ_self _
  cases he : (r.step c).result with
  | error e =>
    rw [run_cons_error hl he]
    exact hstep
  | ok u =>
    cases ht : (r.step c).runner.context.pendingStop with
    | some t =>
      rw [run_cons_stop hl he ht, clearStop_cursor]
      exact hstep
    | none =>
      -- the run goes on from the runner after the step, and goes on no further back
      rw [run_cons_next hl he ht]
      exact Nat.lt_of_lt_of_le hstep (cursor_le_run _)

/-- A run that starts within the script ends within it: it steps only while commands are left. -/
theorem run_cursor_le_size (h : r.context.cursor ≤ r.script.size) :
    r.run.runner.context.cursor ≤ r.script.size := by
  generalize hl : r.remaining = l
  induction l generalizing r with
  | nil =>
    rw [run_of_remaining_nil hl]
    exact h
  | cons c cs ih =>
    have hlt : r.context.cursor < r.script.size := by
      have := congrArg List.length hl
      rw [remaining_length, List.length_cons] at this
      omega
    have hstep : (r.step c).runner.context.cursor ≤ r.script.size := by
      rw [step_cursor]
      exact hlt
    cases he : (r.step c).result with
    | error e =>
      rw [run_cons_error hl he]
      exact hstep
    | ok u =>
      cases ht : (r.step c).runner.context.pendingStop with
      | some t =>
        rw [run_cons_stop hl he ht, clearStop_cursor]
        exact hstep
      | none =>
        rw [run_cons_next hl he ht]
        have := ih (by rwa [step_script]) (remaining_step hl c)
        rwa [step_script] at this

/-- Calling `run` again whatever it returned reaches the end: once as many calls as there are
commands left have been made, the next one returns `end`. The commands left go down by at
least one on every call until none is left. -/
theorem run_iterate_finished (r : Runner) {n : Nat} (hn : r.script.size - r.context.cursor ≤ n) :
    ((fun r : Runner => r.run.runner)^[n] r).run.result = .ok .finished := by
  induction n generalizing r with
  | zero =>
    rw [Function.iterate_zero_apply, run_of_size_le (by omega)]
  | succ n ih =>
    rw [Function.iterate_succ_apply]
    apply ih
    rw [run_script]
    rcases Nat.lt_or_ge r.context.cursor r.script.size with h | h
    · have := cursor_lt_run h
      omega
    · have := cursor_le_run r
      omega

end Runner

namespace Executor

/-- The resume loop needs no more runs than one more than the commands left: with that many or
more it ends the same way, so the bound it sets itself is never what stops it. -/
theorem drive_fuel_eq (r : Runner) (pauses : Nat) {fuel : Nat}
    (h : r.script.size - r.context.cursor < fuel) :
    drive true pauses fuel r = drive true pauses (r.script.size - r.context.cursor + 1) r := by
  rw [drive_eq_resume r pauses fuel (by rwa [Runner.remaining_length]),
    drive_eq_resume r pauses _ (by rw [Runner.remaining_length]; exact Nat.lt_succ_self _)]

end Executor

namespace Session

/-- Every run makes progress. For every runner a host can reach: a run at the end of the script
returns `end` and leaves the runner as it was; any other run moves the cursor forward, whatever
it returns, and not past the end. So a driver that calls `run` again after every stop or
failure gets `end` from call `n + 1` at the latest, `n` being the number of commands left, and
the executor's resume loop ends before the bound on its runs. -/
theorem run_progress (registry : Registry) (script : Script) (ops : List HostOp) :
    ∀ r ∈ ((start registry script).performAll ops).runners,
      (r.context.cursor = script.size → r.run = ⟨r, "", .ok .finished⟩) ∧
      (r.context.cursor ≠ script.size →
        r.context.cursor < r.run.runner.context.cursor ∧
          r.run.runner.context.cursor ≤ script.size) ∧
      ((fun r : Runner => r.run.runner)^[script.size - r.context.cursor] r).run.result =
        .ok .finished ∧
      ∀ pauses fuel, script.size - r.context.cursor < fuel →
        Executor.drive true pauses fuel r =
          Executor.drive true pauses (script.size - r.context.cursor + 1) r := by
  intro r hr
  obtain ⟨-, rfl, hsound⟩ := (sound_start registry script).performAll ops r hr
  refine ⟨fun h => Runner.run_of_size_le (Nat.le_of_eq h.symm), fun h => ?_, Runner.run_iterate_finished r (Nat.le_refl _),
    fun pauses fuel h => Executor.drive_fuel_eq r pauses h⟩
  have hlt : r.context.cursor < r.script.size := Nat.lt_of_le_of_ne hsound.cursor_le h
  exact ⟨Runner.cursor_lt_run hlt, Runner.run_cursor_le_size hsound.cursor_le⟩

/-- A host runs a script that pauses after its first command: the runner it holds has one
command left, whose run moves the cursor to the end, and the run after that returns `end`. -/
theorem run_progress_afterPause :
    let registry := Registry.builtins.insert "pause" (Function.ofActions [.requestStop "frame"])
    let script : Script := ⟨[.call "pause" [], .assign "y" (.call "id" [.literal "2"])]⟩
    let ops := [HostOp.run]
    let r := ((start registry script).performAll ops).current
    r ∈ ((start registry script).performAll ops).runners ∧
      (r.context.cursor = script.size → r.run = ⟨r, "", .ok .finished⟩) ∧
      (r.context.cursor ≠ script.size →
        r.context.cursor < r.run.runner.context.cursor ∧
          r.run.runner.context.cursor ≤ script.size) ∧
      ((fun r : Runner => r.run.runner)^[script.size - r.context.cursor] r).run.result =
        .ok .finished ∧
      ∀ pauses fuel, script.size - r.context.cursor < fuel →
        Executor.drive true pauses fuel r =
          Executor.drive true pauses (script.size - r.context.cursor + 1) r := by
  intro registry script ops r
  have hr : r ∈ ((start registry script).performAll ops).runners := List.mem_cons_self
  exact ⟨hr, run_progress registry script ops r hr⟩

end Session

end LineScript
