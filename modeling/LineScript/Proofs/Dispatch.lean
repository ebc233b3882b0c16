import LineScript.Proofs.Session

/-! ## Running one command: which function, which failure, which values

A command is a chain of assignments and `if`s around a call, an `else` or an `endif`
(`Command.core`), and the chain's links (`Command.layers`, innermost first) only pass on the
value of what they wrap: an assignment binds its target to it and passes it on, an `if` opens a
frame from it and gives the empty text (`Layer.wrap`). So running a command is running its core
and then folding the links over the value (`Registry.execute_eq_through`).

Running a call looks its function up before anything else, then reads the arguments from left to
right and fails at the first unbound variable (`Context.evaluate_eq_error_iff`), and only then
calls the function, once, with the arguments' values read from the context as it stood before
the command (`Registry.execute_dispatch`). The links bind after the function's own effects, so a
chain of assignments binds every target to the function's result, whatever the function bound
under those names.
-/

namespace LineScript

-- ----------------------------------------------------------------------------
-- Bindings
-- ----------------------------------------------------------------------------

namespace Bindings

@[simp] theorem get?_insert_self (b : Bindings) (k v : String) : (b.insert k v).get? k = some v := by
  obtain ⟨entries⟩ := b
  simp only [insert, get?]
  induction entries with
  | nil => simp [insertEntry]
  | cons e rest ih =>
    obtain ⟨k', v'⟩ := e
    unfold insertEntry
    split
    · simp
    · split
      · simp
      · rename_i hne
        rw [List.find?_cons_of_neg (by simpa using Ne.symm hne)]
        exact ih

theorem get?_insert_of_ne (b : Bindings) {k k' : String} (v : String) (h : k ≠ k') :
    (b.insert k v).get? k' = b.get? k' := by
  obtain ⟨entries⟩ := b
  simp only [insert, get?]
  induction entries with
  | nil => simp [insertEntry, h]
  | cons e rest ih =>
    obtain ⟨k'', v'⟩ := e
    unfold insertEntry
    split
    · simp [h]
    · split
      · -- the entry replaced has the name `k`, which is not the one looked up
        subst k''
        simp [h]
      · by_cases hk : k'' = k' <;> simp [hk, ih]

end Bindings

-- ----------------------------------------------------------------------------
-- Arguments
-- ----------------------------------------------------------------------------

/-- The value of an argument in a context: a literal's text, or the value bound to a variable. -/
def Context.value? (ctx : Context) : Argument → Option String
  | .literal v => some v
  | .var n => ctx.vars.get? n

namespace Context

variable {ctx : Context} {args : List Argument}

/-- Arguments evaluate to their values, in order, exactly when every one of them has a value. -/
theorem evaluate_eq_ok_iff {vals : List String} :
    ctx.evaluate args = .ok vals ↔ args.map ctx.value? = vals.map some := by
  induction args generalizing vals with
  | nil => cases vals <;> simp [evaluate]
  | cons a rest ih =>
    cases vals with
    | nil =>
      cases a with
      | literal v => cases h : ctx.evaluate rest <;> simp [evaluate, h, Except.map]
      | var n =>
        cases hn : ctx.vars.get? n with
        | none => simp [evaluate, hn]
        | some v => cases h : ctx.evaluate rest <;> simp [evaluate, hn, h, Except.map]
    | cons v vs =>
      -- the rest evaluates to `vs` exactly when its values are `vs`
      simp only [List.map_cons, List.cons.injEq, ← ih]
      cases a with
      | literal w =>
        simp only [evaluate, value?]
        cases ctx.evaluate rest <;> simp [Except.map]
      | var n =>
        cases hn : ctx.vars.get? n with
        | none => simp [evaluate, value?, hn]
        | some w =>
          simp only [evaluate, value?, hn]
          cases ctx.evaluate rest <;> simp [Except.map]

/-- Arguments fail to evaluate exactly at the leftmost variable without a value: every argument
before it has one, and the failure names it. -/
theorem evaluate_eq_error_iff {e : CommandError} :
    ctx.evaluate args = .error e ↔
      ∃ before n after, args = before ++ .var n :: after ∧
        (∀ a ∈ before, (ctx.value? a).isSome) ∧ ctx.vars.get? n = none ∧
        e = .noSuchVariable n := by
  induction args with
  | nil =>
    simp only [evaluate, reduceCtorEq, false_iff, not_exists, not_and]
    intro before n after h
    cases before <;> cases h
  | cons a rest ih =>
    simp only [List.cons_eq_append_iff]
    constructor
    · intro h
      cases a with
      | literal v =>
        -- a literal has its value; the failure lies further on
        cases hr : ctx.evaluate rest with
        | ok vs => simp [evaluate, hr, Except.map] at h
        | error e' =>
          simp only [evaluate, hr, Except.map, Except.error.injEq] at h
          subst h
          obtain ⟨before, n, after, hsplit, hbefore, hn, he⟩ := ih.mp hr
          refine ⟨.literal v :: before, n, after, .inr ⟨before, rfl, hsplit⟩, ?_, hn, he⟩
          intro a ha
          rcases List.mem_cons.mp ha with rfl | ha
          · rfl
          · exact hbefore a ha
      | var m =>
        cases hm : ctx.vars.get? m with
        | none =>
          -- the first argument is the unbound variable
          simp only [evaluate, hm, Except.error.injEq] at h
          exact ⟨[], m, rest, .inl ⟨rfl, rfl⟩, by simp, hm, h.symm⟩
        | some w =>
          cases hr : ctx.evaluate rest with
          | ok vs => simp [evaluate, hm, hr, Except.map] at h
          | error e' =>
            simp only [evaluate, hm, hr, Except.map, Except.error.injEq] at h
            subst h
            obtain ⟨before, n, after, hsplit, hbefore, hn, he⟩ := ih.mp hr
            refine ⟨.var m :: before, n, after, .inr ⟨before, rfl, hsplit⟩, ?_, hn, he⟩
            intro a ha
            rcases List.mem_cons.mp ha with rfl | ha
            · simp [value?, hm]
            · exact hbefore a ha
    · rintro ⟨before, n, after, ⟨rfl, hsplit⟩ | ⟨before', rfl, hsplit⟩, hbefore, hn, rfl⟩
      · -- the unbound variable comes first
        cases hsplit
        simp [evaluate, hn]
      · have hrest := ih.mpr ⟨before', n, after, hsplit, fun a ha => hbefore a (by simp [ha]),
          hn, rfl⟩
        have ha := hbefore a List.mem_cons_self
        cases a with
        | literal v => simp [evaluate, hrest, Except.map]
        | var m =>
          obtain ⟨w, hw⟩ := Option.isSome_iff_exists.mp ha
          simp only [value?] at hw
          simp [evaluate, hw, hrest, Except.map]

end Context

-- ----------------------------------------------------------------------------
-- Chains of assignments and `if`s
-- ----------------------------------------------------------------------------

/-- A link of a command's chain: an assignment to a target, or an `if`. -/
inductive Layer where
  | assign (target : String)
  | ifLine
  deriving DecidableEq, Repr

/-- What a link does with the context and the value of the command it wraps: an assignment
binds its target to the value and passes it on; an `if` opens a frame that skips its first
branch unless the value holds, and gives the empty text. -/
def Layer.wrap : Context × String → Layer → Context × String
  | (ctx, v), .assign x => (ctx.bind x v, v)
  | (ctx, v), .ifLine => ({ ctx with skips := ctx.skips.push (!holds v) }, "")

namespace Layer

/-- Links that do not assign `x` leave its binding alone. -/
theorem foldl_wrap_keeps {ls : List Layer} {x : String} (hx : assign x ∉ ls)
    (p : Context × String) : (ls.foldl wrap p).1.vars.get? x = p.1.vars.get? x := by
  induction ls generalizing p with
  | nil => rfl
  | cons l ls ih =>
    obtain ⟨ctx, v⟩ := p
    simp only [List.mem_cons, not_or] at hx
    rw [List.foldl_cons, ih hx.2]
    cases l with
    | assign y => exact Bindings.get?_insert_of_ne _ _ fun h => hx.1 (h ▸ rfl)
    | ifLine => rfl

/-- A chain of assignments binds every target to the value of the command at its end, after
whatever that command bound itself, and passes the value on. -/
theorem foldl_wrap_assign {ls : List Layer} (hls : ifLine ∉ ls) (ctx : Context) (v : String) :
    (ls.foldl wrap (ctx, v)).2 = v ∧
      ∀ x, .assign x ∈ ls → (ls.foldl wrap (ctx, v)).1.vars.get? x = some v := by
  induction ls generalizing ctx with
  | nil => simp
  | cons l ls ih =>
    cases l with
    | ifLine => simp at hls
    | assign y =>
      have hrest := ih (by simpa using hls) (ctx.bind y v)
      refine ⟨hrest.1, fun x hx => ?_⟩
      rcases List.mem_cons.mp hx with hx | hx
      · -- the target bound here keeps its value unless a later link binds it again, to `v`
        by_cases hlater : assign x ∈ ls
        · exact hrest.2 x hlater
        · rw [assign.inj hx] at hlater ⊢
          simp only [List.foldl_cons, wrap]
          rw [foldl_wrap_keeps hlater]
          exact Bindings.get?_insert_self _ _ _
      · exact hrest.2 x hx

end Layer

namespace Command

/-- The links of a command's chain, innermost first. -/
def layers : Command → List Layer
  | .assign x c => c.layers ++ [.assign x]
  | .ifLine c => c.layers ++ [.ifLine]
  | .call _ _ | .elseLine | .endifLine => []

/-- The command at the end of a command's chain: a call, an `else` or an `endif`. -/
def core : Command → Command
  | .assign _ c => c.core
  | .ifLine c => c.core
  | c => c

theorem callee_eq_none_iff {c : Command} : c.callee = none ↔ c.core = .elseLine ∨ c.core = .endifLine := by
  induction c with
  | call f args => simp [callee, core]
  | assign x c ih => exact ih
  | ifLine c ih => exact ih
  | elseLine | endifLine => simp [callee, core]

end Command

/-- A command's outcome passed through links: on success each link in turn wraps the context
and the value; a failure passes through untouched. -/
def Executed.through (e : Executed) (ls : List Layer) : Executed :=
  match e.result with
  | .ok v =>
    let p := ls.foldl Layer.wrap (e.context, v)
    ⟨p.1, e.printed, .ok p.2⟩
  | .error _ => e

namespace Executed

theorem through_of_error {e : Executed} {err : CommandError} (h : e.result = .error err)
    (ls : List Layer) : e.through ls = e := by
  simp [through, h]

theorem through_of_ok {e : Executed} {v : String} (h : e.result = .ok v) (ls : List Layer) :
    e.through ls = ⟨(ls.foldl Layer.wrap (e.context, v)).1, e.printed,
      .ok (ls.foldl Layer.wrap (e.context, v)).2⟩ := by
  simp [through, h]

@[simp] theorem through_nil (e : Executed) : e.through [] = e := by
  cases h : e.result with
  | ok v => rw [through_of_ok h]; simp [← h]
  | error err => exact through_of_error h []

theorem through_append (e : Executed) (ls ls' : List Layer) :
    e.through (ls ++ ls') = (e.through ls).through ls' := by
  cases h : e.result with
  | ok v =>
    rw [through_of_ok h, through_of_ok h, through_of_ok rfl, List.foldl_append]
  | error err => rw [through_of_error h, through_of_error h, through_of_error h]

end Executed

namespace Registry

variable {reg : Registry} {c : Command} {ctx : Context}

/-- An assignment is the link that binds its target, around the command it assigns. -/
theorem execute_assign (reg : Registry) (x : String) (c : Command) (ctx : Context) :
    reg.execute (.assign x c) ctx = (reg.execute c ctx).through [.assign x] := by
  simp only [execute]
  cases h : (reg.execute c ctx).result with
  | ok v => simp [Executed.through, Layer.wrap, h]
  | error err =>
    rw [Executed.through_of_error h]
    simp only
    rw [← h]

/-- An `if` is the link that opens a frame, around its condition. -/
theorem execute_ifLine (reg : Registry) (c : Command) (ctx : Context) :
    reg.execute (.ifLine c) ctx = (reg.execute c ctx).through [.ifLine] := by
  simp only [execute]
  cases h : (reg.execute c ctx).result with
  | ok v => simp [Executed.through, Layer.wrap, h]
  | error err =>
    rw [Executed.through_of_error h]
    simp only
    rw [← h]

/-- Running a command is running the command at the end of its chain, then passing the outcome
through the chain's links. -/
theorem execute_eq_through (reg : Registry) (c : Command) (ctx : Context) :
    reg.execute c ctx = (reg.execute c.core ctx).through c.layers := by
  induction c with
  | call f args | elseLine | endifLine => simp [Command.core, Command.layers]
  | assign x c ih =>
    rw [execute_assign, ih, Command.core, Command.layers, Executed.through_append]
  | ifLine c ih =>
    rw [execute_ifLine, ih, Command.core, Command.layers, Executed.through_append]

/-- A call, once its function is found and its arguments have values: the function's reply,
with its effects applied to the context the call was given. -/
theorem execute_call_of_values {f : String} {args : List Argument} {fn : Function}
    {vals : List String} (hf : reg.get? f = some fn) (hv : args.map ctx.value? = vals.map some) :
    reg.execute (.call f args) ctx =
      ⟨ctx.applyAll (fn vals ctx).effects, (fn vals ctx).printed, (fn vals ctx).result⟩ := by
  simp [execute, hf, Context.evaluate_eq_ok_iff.mpr hv]

/-- Dispatch and failure precedence of one command. A chain that ends in `else` or `endif`
calls no function, so every registry runs it alike. A chain that ends in a call of `f` looks
`f` up first and fails if it is missing, before any argument is read. Then it fails at the
leftmost argument that is a variable without a value, calling nothing. Otherwise its outcome is
that of one call of the function, with the arguments' values in order, on the context as it
stood before the command, passed through the chain's links: each assignment binds its target to
the value of the command it wraps, after the function's own bindings, and each `if` opens one
frame from that value. A chain of assignments thus binds all its targets to the function's
result. -/
theorem execute_dispatch (reg : Registry) (c : Command) (ctx : Context) :
    (c.callee = none → ∀ reg' : Registry, reg'.execute c ctx = reg.execute c ctx) ∧
    ∀ f args, c.core = .call f args →
      (reg.get? f = none → reg.execute c ctx = ⟨ctx, "", .error (.noSuchFunction f)⟩) ∧
      ∀ fn, reg.get? f = some fn →
        (∀ before n after, args = before ++ .var n :: after →
          (∀ a ∈ before, (ctx.value? a).isSome) → ctx.vars.get? n = none →
          reg.execute c ctx = ⟨ctx, "", .error (.noSuchVariable n)⟩) ∧
        ∀ vals, args.map ctx.value? = vals.map some →
          reg.execute c ctx =
            (⟨ctx.applyAll (fn vals ctx).effects, (fn vals ctx).printed, (fn vals ctx).result⟩ :
              Executed).through c.layers ∧
          ∀ v, (fn vals ctx).result = .ok v → Layer.ifLine ∉ c.layers →
            (reg.execute c ctx).result = .ok v ∧
              ∀ x, .assign x ∈ c.layers → (reg.execute c ctx).context.vars.get? x = some v := by
  refine ⟨fun hnone reg' => ?_, fun f args hcore => ⟨fun hf => ?_, fun fn hf => ⟨?_, ?_⟩⟩⟩
  · -- `else` and `endif` do not look at the registry
    rw [execute_eq_through reg', execute_eq_through reg]
    rcases Command.callee_eq_none_iff.mp hnone with h | h <;> rw [h] <;> rfl
  · rw [execute_eq_through, hcore]
    simp [execute, hf, Executed.through]
  · intro before n after hsplit hbefore hn
    have herr : ctx.evaluate args = .error (.noSuchVariable n) :=
      Context.evaluate_eq_error_iff.mpr ⟨before, n, after, hsplit, hbefore, hn, rfl⟩
    rw [execute_eq_through, hcore]
    simp [execute, hf, herr, Executed.through]
  · intro vals hv
    have hcall : reg.execute c ctx =
        (⟨ctx.applyAll (fn vals ctx).effects, (fn vals ctx).printed, (fn vals ctx).result⟩ :
          Executed).through c.layers := by
      rw [execute_eq_through, hcore, execute_call_of_values hf hv]
    refine ⟨hcall, fun v hres hif => ?_⟩
    obtain ⟨hval, hbound⟩ := Layer.foldl_wrap_assign hif (ctx.applyAll (fn vals ctx).effects) v
    rw [hcall, Executed.through_of_ok hres]
    exact ⟨by rw [hval], hbound⟩

end Registry

end LineScript
