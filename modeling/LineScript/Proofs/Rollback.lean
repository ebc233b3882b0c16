import LineScript.Proofs.Stepping

/-! ## A failed command is rolled back

When a run fails, the failing command leaves nothing behind but the moved cursor: whatever
it did before failing (bindings and stop requests of a host function, bindings of the
assignments around it, the frame an `if` would have pushed) is gone, while the commands the
same run stepped before it keep their effects. The error names the failing command by its
1-based number, which is where the cursor stands, so the next run goes on with the command
after it.
-/

namespace LineScript

namespace Runner

variable {r : Runner}

/-- A failed run rolls its failing command back. The run stepped `done` without a stop,
reaching `before`; then it ran `c`, the command the error names, which failed with the
error's cause. The runner is `before` with only its cursor moved past `c`, and what is left
to step is what follows `c`. -/
theorem run_error_rolls_back {e : ExecutionError} (h : r.run.result = .error e) :
    ∃ (done : List Command) (c : Command) (before : Runner),
      r.remaining = done ++ c :: r.run.runner.remaining ∧
      r.script.get? (e.command - 1) = some c ∧
      (r.stepAll done).runner = before ∧ (r.stepAll done).tokens = [] ∧
      (r.stepAll done).result = .ok () ∧
      e.command = before.context.cursor + 1 ∧ r.run.runner.context.cursor = e.command ∧
      c.runsIn before.context.skips = true ∧
      (before.registry.execute c before.context.advance).result = .error e.cause ∧
      r.run.runner = { before with context := { before.context with cursor := e.command } } := by
  generalize hl : r.remaining = l
  induction l generalizing r with
  | nil => simp [run_of_remaining_nil hl] at h
  | cons c cs ih =>
    have hrest : (r.step c).runner.remaining = cs := remaining_step hl c
    cases he : (r.step c).result with
    | error e' =>
      -- the command at the cursor is the one that failed
      rw [run_cons_error hl he] at h ⊢
      cases h
      rw [step_eq_stepWith] at he
      obtain ⟨hruns, hcmd, hexec, hrunner⟩ := stepWith_eq_error he
      rw [← step_eq_stepWith] at hrunner
      have hget : r.script.get? (e.command - 1) = some c := by
        rw [hcmd, Nat.add_sub_cancel, get?_cursor, hl]
        rfl
      refine ⟨[], c, r, by rw [hrest]; rfl, hget, rfl, rfl, rfl, hcmd, ?_, hruns, hexec, ?_⟩
      · rw [hrunner, hcmd]
        rfl
      · rw [hrunner, hcmd]
        rfl
    | ok u =>
      cases ht : (r.step c).runner.context.pendingStop with
      | some t => simp [run_cons_stop hl he ht] at h
      | none =>
        -- the command at the cursor went through; the failure lies further on
        rw [run_cons_next hl he ht] at h ⊢
        obtain ⟨done, c', before, hrem, hget, hrun, htok, hres, hcmd, hcur, hruns, hexec,
          hback⟩ := ih h hrest
        refine ⟨c :: done, c', before, ?_, ?_, ?_, ?_, ?_, hcmd, hcur, hruns, hexec, hback⟩
        · rw [List.cons_append, ← hrem]
        · rwa [step_script] at hget
        · rw [stepAll_cons_of_none he ht, hrun]
        · rw [stepAll_cons_of_none he ht, htok]
        · rw [stepAll_cons_of_none he ht, hres]

/-- The failure of the runner's own test: the second of four commands calls a host function
that asks for a stop and binds `leaked` before it fails. -/
theorem run_error_rolls_back_haltThenFail :
    let r := Runner.new
      (Registry.builtins.insert "halt_then_fail"
        (Function.ofActions [.requestStop "stale", .bind "leaked" "yes", .fail "boom"]))
      ⟨[.assign "x" (.call "id" [.literal "kept"]), .call "halt_then_fail" [], .call "nop" [],
        .call "nop" []]⟩
    let e : ExecutionError := ⟨2, .host (.other "boom")⟩
    r.run.result = .error e ∧
      ∃ (done : List Command) (c : Command) (before : Runner),
        r.remaining = done ++ c :: r.run.runner.remaining ∧
        r.script.get? (e.command - 1) = some c ∧
        (r.stepAll done).runner = before ∧ (r.stepAll done).tokens = [] ∧
        (r.stepAll done).result = .ok () ∧
        e.command = before.context.cursor + 1 ∧ r.run.runner.context.cursor = e.command ∧
        c.runsIn before.context.skips = true ∧
        (before.registry.execute c before.context.advance).result = .error e.cause ∧
        r.run.runner = { before with context := { before.context with cursor := e.command } } := by
  intro r e
  have h : r.run.result = .error e := by
    rw [run_cons_next rfl rfl rfl, run_cons_error rfl rfl]
    rfl
  exact ⟨h, run_error_rolls_back h⟩

end Runner

end LineScript
