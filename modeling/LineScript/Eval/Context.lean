import LineScript.Eval.Bindings

/-! ## The execution context

What a running script carries from one command to the next: the variable bindings, the skip
stack, the cursor (how many commands have been stepped, which is the 0-based position of the
next one) and a stop that a function asked for during the current command.

The skip stack has a bottom frame for the script outside all blocks and one frame per open
`if` block above it; a frame is `true` when the branch it governs is being skipped. The
script is skipping when any frame is. `else` flips the top frame, which at top level is the
bottom one, and `endif` fails when only the bottom frame is left.
-/

namespace LineScript

/-- The skip stack: the bottom frame and the frames of the open blocks, innermost first. -/
structure SkipStack where
  bottom : Bool
  above : List Bool
  deriving DecidableEq, Repr

namespace SkipStack

/-- The stack of a script that has not started: one frame, not skipping. -/
def initial : SkipStack := ⟨false, []⟩

/-- The number of frames, the bottom one included. -/
def depth (s : SkipStack) : Nat := s.above.length + 1

/-- Whether any frame skips. -/
def isSkipping (s : SkipStack) : Bool := s.bottom || s.above.any id

/-- Opens a block whose first branch is skipped when `skip` holds. -/
def push (s : SkipStack) (skip : Bool) : SkipStack := { s with above := skip :: s.above }

/-- Switches the innermost frame (the bottom one at top level) between its branches. -/
def flip (s : SkipStack) : SkipStack :=
  match s.above with
  | [] => { s with bottom := !s.bottom }
  | top :: rest => { s with above := (!top) :: rest }

/-- Closes the innermost block; none when only the bottom frame is left. -/
def pop? (s : SkipStack) : Option SkipStack :=
  match s.above with
  | [] => none
  | _ :: rest => some { s with above := rest }

end SkipStack

/-- What a function may do to the context: bind a variable, or ask the runner to stop
once the current command is done (a later request replaces an earlier one). -/
inductive Effect where
  | bind (name value : String)
  | requestStop (token : String)
  deriving DecidableEq, Repr

/-- The state a running script carries between commands. -/
structure Context where
  vars : Bindings
  skips : SkipStack
  cursor : Nat
  pendingStop : Option String
  deriving DecidableEq, Repr

namespace Context

/-- The context before the first command: no bindings, one frame, nothing stepped. -/
def initial : Context := ⟨.empty, .initial, 0, none⟩

/-- Binds a variable. -/
def bind (ctx : Context) (k v : String) : Context := { ctx with vars := ctx.vars.insert k v }

/-- Asks for a stop after the current command. -/
def requestStop (ctx : Context) (t : String) : Context := { ctx with pendingStop := some t }

/-- The context after one effect. -/
def apply (ctx : Context) : Effect → Context
  | .bind k v => ctx.bind k v
  | .requestStop t => ctx.requestStop t

/-- The context after effects in order. -/
def applyAll (ctx : Context) (es : List Effect) : Context := es.foldl Context.apply ctx

@[simp] theorem apply_cursor (ctx : Context) (e : Effect) : (ctx.apply e).cursor = ctx.cursor := by
  cases e <;> rfl

@[simp] theorem applyAll_cursor (ctx : Context) (es : List Effect) :
    (ctx.applyAll es).cursor = ctx.cursor := by
  induction es generalizing ctx with
  | nil => rfl
  | cons e es ih => simp [applyAll, List.foldl] at ih ⊢; rw [ih]; simp

end Context

end LineScript
