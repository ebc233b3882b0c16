/-! ## Variable bindings

A finite map from variable names to values, kept as a list sorted by name (code point order)
with one entry per name. Since every binding goes through `Bindings.insert`, two binding
maps with the same contents are the same list, so equality of bindings is equality of maps.
-/

namespace LineScript

/-- Variable bindings: pairs of name and value, sorted by name, one per name. -/
structure Bindings where
  entries : List (String × String)
  deriving DecidableEq, Repr

namespace Bindings

/-- No bindings. -/
def empty : Bindings := ⟨[]⟩

/-- Puts a binding into a sorted list, replacing the entry of the same name. -/
def insertEntry (k v : String) : List (String × String) → List (String × String)
  | [] => [(k, v)]
  | (k', v') :: rest =>
    if k < k' then (k, v) :: (k', v') :: rest
    else if k = k' then (k, v) :: rest
    else (k', v') :: insertEntry k v rest

/-- Binds `k` to `v`, replacing any earlier value. -/
def insert (b : Bindings) (k v : String) : Bindings := ⟨insertEntry k v b.entries⟩

/-- The value bound to `k`, if any. -/
def get? (b : Bindings) (k : String) : Option String :=
  (b.entries.find? fun e => e.1 = k).map Prod.snd

/-- The number of bound names. -/
def size (b : Bindings) : Nat := b.entries.length

/-- The bindings sorted by name. -/
def toList (b : Bindings) : List (String × String) := b.entries

end Bindings

end LineScript
