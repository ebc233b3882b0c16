import LineScript.Eval.Function

/-! ## Registries

A registry maps names to functions. It is kept sorted by name (code point order) with one
entry per name; registering a name that is present replaces its function, and `replace`
gives the replaced function back. The built-in registry holds `nop`, `id`, `==` and `!=`.
-/

namespace LineScript

/-- Named functions, sorted by name, one per name. -/
structure Registry where
  entries : List (String × Function)

namespace Registry

/-- The registry without any function. -/
def empty : Registry := ⟨[]⟩

/-- Puts a named function into a sorted list, replacing the entry of the same name. -/
def insertEntry (k : String) (f : Function) : List (String × Function) → List (String × Function)
  | [] => [(k, f)]
  | (k', g) :: rest =>
    if k < k' then (k, f) :: (k', g) :: rest
    else if k = k' then (k, f) :: rest
    else (k', g) :: insertEntry k f rest

/-- Registers `f` under `name`, replacing any function of that name. -/
def insert (r : Registry) (name : String) (f : Function) : Registry :=
  ⟨insertEntry name f r.entries⟩

/-- The function `insertEntry k` overwrites: the list is walked as `insertEntry` walks it, and
the entry named `k` found where the new one goes is the one replaced. -/
def replacedEntry (k : String) : List (String × Function) → Option Function
  | [] => none
  | (k', g) :: rest =>
    if k < k' then none
    else if k = k' then some g
    else replacedEntry k rest

/-- Registers `f` under `name` and gives back the function it replaces, if any. -/
def replace (r : Registry) (name : String) (f : Function) : Option Function × Registry :=
  (replacedEntry name r.entries, r.insert name f)

/-- The function registered under `name`, if any. -/
def get? (r : Registry) (name : String) : Option Function :=
  (r.entries.find? fun e => e.1 = name).map Prod.snd

/-- The registered names in order. -/
def names (r : Registry) : List String := r.entries.map Prod.fst

/-- Whether a function is registered under `name`. -/
def contains (r : Registry) (name : String) : Bool := r.names.contains name

/-- The number of registered functions. -/
def size (r : Registry) : Nat := r.entries.length

/-- The registry of the four built-ins. -/
def builtins : Registry :=
  (((empty.insert "nop" Function.nop).insert "id" Function.id).insert "==" Function.equals).insert
    "!=" Function.differs

/-- The registry described by its names: `Registry { functions: [...] }` with each name as
escaped text. -/
def describe (r : Registry) : String :=
  "Registry \x7b functions: [" ++ ", ".intercalate (r.names.map Text.escaped) ++ "] \x7d"

end Registry

end LineScript
