import LineScript.Proofs.Stepping
import LineScript.Host.Executor

/-! ## Pausing is transparent

A driver that calls `run` again after every stop, until the script ends or a run fails,
does what one loop without stops does: step every command from the cursor to the end,
take out the stop pending after each step, and halt at the first failure. The runner,
the output, the outcome and the stop tokens, in order, are the same
(`resume_eq_stepAll`). The executor's resume loop is such a driver, whose fuel is always
enough, so it finishes after as many pauses as there were stops (`drive_eq_resume`).
-/

namespace LineScript

namespace Runner

variable {r : Runner}

/-- Runs again after every stop until the script ends or a run fails: the runner, all that
was printed, the tokens of the stops in the order the runs returned them, and the failure
that ended the last run, if one did. -/
def resume (r : Runner) : Stepped :=
  match _h : r.run.result with
  | .error e => ⟨r.run.runner, r.run.printed, [], .error e⟩
  | .ok .finished => ⟨r.run.runner, r.run.printed, [], .ok ()⟩
  | .ok (.requested t) =>
    let rest := r.run.runner.resume
    ⟨rest.runner, r.run.printed ++ rest.printed, t :: rest.tokens, rest.result⟩
termination_by r.remaining.length
decreasing_by exact remaining_run_lt _h

theorem resume_of_error {e : ExecutionError} (h : r.run.result = .error e) :
    r.resume = ⟨r.run.runner, r.run.printed, [], .error e⟩ := by
  rw [resume]
  split <;> simp_all

theorem resume_of_finished (h : r.run.result = .ok .finished) :
    r.resume = ⟨r.run.runner, r.run.printed, [], .ok ()⟩ := by
  rw [resume]
  split <;> simp_all

theorem resume_of_requested {t : String} (h : r.run.result = .ok (.requested t)) :
    r.resume = ⟨r.run.runner.resume.runner, r.run.printed ++ r.run.runner.resume.printed,
      t :: r.run.runner.resume.tokens, r.run.runner.resume.result⟩ := by
  rw [resume]
  split <;> simp_all

/-- Resuming sees a run only through what it returns: a run that is another runner's run
with more printed in front resumes as that runner does, with the same in front. -/
theorem resume_of_run_eq {r' : Runner} {p : String}
    (h : r.run = ⟨r'.run.runner, p ++ r'.run.printed, r'.run.result⟩) :
    r.resume =
      ⟨r'.resume.runner, p ++ r'.resume.printed, r'.resume.tokens, r'.resume.result⟩ := by
  cases hr : r'.run.result with
  | error e =>
    have he : r.run.result = .error e := by rw [h, hr]
    rw [resume_of_error he, resume_of_error hr, h]
  | ok reason =>
    cases reason with
    | finished =>
      have hf : r.run.result = .ok .finished := by rw [h, hr]
      rw [resume_of_finished hf, resume_of_finished hr, h]
    | requested t =>
      have ht : r.run.result = .ok (.requested t) := by rw [h, hr]
      rw [resume_of_requested ht, resume_of_requested hr, h]
      simp [String.append_assoc]

/-- Calling `run` again after every stop is the loop without stops over the commands left:
same runner, same output, same outcome, and the stops' tokens in the same order. -/
theorem resume_eq_stepAll (r : Runner) : r.resume = r.stepAll r.remaining := by
  generalize hl : r.remaining = l
  induction l generalizing r with
  | nil =>
    rw [resume_of_finished (by rw [run_of_remaining_nil hl]), run_of_remaining_nil hl]
    rfl
  | cons c cs ih =>
    have hrest : (r.step c).runner.remaining = cs := remaining_step hl c
    cases he : (r.step c).result with
    | error e =>
      rw [resume_of_error (by rw [run_cons_error hl he]), run_cons_error hl he]
      simp only [stepAll, he]
    | ok u =>
      cases ht : (r.step c).runner.context.pendingStop with
      | some t =>
        -- the run stops after this command and the next one resumes after it
        rw [resume_of_requested (by rw [run_cons_stop hl he ht]), run_cons_stop hl he ht]
        dsimp only
        rw [ih _ (by rw [remaining_clearStop, hrest])]
        simp only [stepAll, he, ht, Option.toList_some, List.singleton_append]
      | none =>
        -- the run goes on past this command as the loop does
        rw [resume_of_run_eq (run_cons_next hl he ht), ih _ hrest, stepAll_cons_of_none he ht]

end Runner

namespace Executor

/-- With fuel to spare, the executor's resume loop is `Runner.resume`: it ends as the last
run does, counting one pause per stop. -/
theorem drive_eq_resume (r : Runner) (pauses fuel : Nat) (h : r.remaining.length < fuel) :
    drive true pauses fuel r =
      ⟨r.resume.runner, r.resume.printed,
        r.resume.result.map fun _ => .finished (pauses + r.resume.tokens.length)⟩ := by
  induction fuel generalizing r pauses with
  | zero => omega
  | succ fuel ih =>
    cases hr : r.run.result with
    | error e =>
      rw [Runner.resume_of_error hr]
      simp [drive, hr, Except.map]
    | ok reason =>
      cases reason with
      | finished =>
        rw [Runner.resume_of_finished hr]
        simp [drive, hr, Except.map]
      | requested t =>
        -- the run stepped at least one command, so the fuel left still suffices
        have hlt : r.run.runner.remaining.length < fuel := by
          have := Runner.remaining_run_lt hr
          omega
        rw [Runner.resume_of_requested hr]
        simp only [drive, hr, ↓reduceIte, ih r.run.runner (pauses + 1) hlt, List.length_cons]
        rw [Nat.add_right_comm, Nat.add_assoc]

/-- Pausing is transparent. Calling `run` again after every stop is the loop without stops
over the commands left: the same runner, output and outcome, and the tokens of the stops in
the order the steps left them. An executor that resumes ends as that loop does: it finishes
after one pause per token, or fails with the loop's error. -/
theorem resume_transparent (r : Runner) :
    r.resume = r.stepAll r.remaining ∧
      execute ⟨r, true⟩ =
        (⟨(r.stepAll r.remaining).runner, true⟩, (r.stepAll r.remaining).printed,
          (r.stepAll r.remaining).result.map fun _ =>
            .finished (r.stepAll r.remaining).tokens.length) := by
  have hs := Runner.resume_eq_stepAll r
  have hfuel : r.remaining.length < r.script.size - r.context.cursor + 1 := by
    simp [Runner.remaining, Script.size]
  refine ⟨hs, ?_⟩
  simp only [execute, drive_eq_resume r 0 _ hfuel, hs, Nat.zero_add]

end Executor

end LineScript
