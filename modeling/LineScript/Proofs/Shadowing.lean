import LineScript.Eval.Registry

/-! ## Registries as finite maps

A registry is built by registering functions one after another, from the empty registry or
from the built-ins (`Registry.insertAll`); `replace` changes the registry exactly as `insert`
does, so every sequence of registrations is such a list of names and functions. Whatever the
order, and however often a name comes back (a built-in's included), the registry is a finite
map from names to functions:

* its names are strictly increasing in code point order, so each is listed once
  (`sorted_insertAll`);
* a name is listed exactly when it was registered or is a starting name (`mem_names_insertAll`);
* a name looks up the function it was last registered with, else the starting one
  (`get?_insertAll`);
* `replace` gives a function back exactly when the name was listed, and that function is the
  one the name looked up (`replace_fst_eq_get?`).

Listing and lookup after one registration hold of any list of entries (`mem_names_insert`,
`get?_insert`). `replace` walks the list as `insertEntry` does and stops where the new entry
goes, so that it finds the replaced entry needs the names sorted.
-/

namespace LineScript

namespace Registry

/-- Registers the functions of `ops` one after another. -/
def insertAll (r : Registry) (ops : List (String × Function)) : Registry :=
  ops.foldl (fun r p => r.insert p.1 p.2) r

/-- The registry's invariant: its names are strictly increasing. -/
def Sorted (r : Registry) : Prop := r.names.Pairwise (· < ·)

@[simp] theorem insertAll_nil (r : Registry) : r.insertAll [] = r := rfl

@[simp] theorem insertAll_cons (r : Registry) (p : String × Function)
    (ops : List (String × Function)) : r.insertAll (p :: ops) = (r.insert p.1 p.2).insertAll ops :=
  rfl

@[simp] theorem replace_snd (r : Registry) (name : String) (f : Function) :
    (r.replace name f).2 = r.insert name f := rfl

/-- The built-in registry is the empty one after four registrations. -/
theorem builtins_eq_insertAll :
    builtins = empty.insertAll
      [("nop", Function.nop), ("id", Function.id), ("==", Function.equals), ("!=", Function.differs)] :=
  rfl

theorem size_eq_length_names (r : Registry) : r.size = r.names.length := by
  simp [size, names]

theorem contains_iff_mem_names (r : Registry) (n : String) : r.contains n = true ↔ n ∈ r.names := by
  simp [contains]

/-- A name looks something up exactly when it is listed. -/
theorem isSome_get?_iff (r : Registry) (n : String) : (r.get? n).isSome ↔ n ∈ r.names := by
  simp [get?, names, List.find?_isSome]

-- ----------------------------------------------------------------------------
-- One registration
-- ----------------------------------------------------------------------------

section Entries

variable {k n : String} {f : Function} {l : List (String × Function)}

theorem mem_map_fst_insertEntry :
    n ∈ (insertEntry k f l).map Prod.fst ↔ n = k ∨ n ∈ l.map Prod.fst := by
  induction l with
  | nil => simp [insertEntry]
  | cons e rest ih =>
    obtain ⟨k', g⟩ := e
    unfold insertEntry
    split
    · simp
    · split
      · next heq =>
        subst heq
        simp
      · simp only [List.map_cons, List.mem_cons, ih]
        grind

theorem find?_insertEntry :
    (insertEntry k f l).find? (fun e => e.1 = n) =
      if k = n then some (k, f) else l.find? (fun e => e.1 = n) := by
  induction l with
  | nil => by_cases hkn : k = n <;> simp [insertEntry, hkn]
  | cons e rest ih =>
    obtain ⟨k', g⟩ := e
    unfold insertEntry
    split
    · by_cases hkn : k = n <;> simp [List.find?_cons, hkn]
    · split
      · next heq =>
        subst heq
        by_cases hkn : k = n <;> simp [hkn]
      · next heq =>
        -- the walk passes `k'`, which is not `k`, and goes on
        by_cases hkn : k = n
        · subst hkn
          simp [Ne.symm heq, ih]
        · simp [List.find?_cons, hkn, ih]

/-- A name below every listed name is not listed. -/
theorem find?_eq_none_of_lt (hl : ∀ a ∈ l.map Prod.fst, k < a) : l.find? (fun e => e.1 = k) = none := by
  rw [List.find?_eq_none]
  intro e he hek
  have hlt : k < e.1 := hl e.1 (List.mem_map_of_mem he)
  rw [of_decide_eq_true hek] at hlt
  exact String.lt_irrefl k hlt

/-- Registration keeps the names strictly increasing. -/
theorem pairwise_insertEntry (hl : (l.map Prod.fst).Pairwise (· < ·)) :
    ((insertEntry k f l).map Prod.fst).Pairwise (· < ·) := by
  induction l with
  | nil => simp [insertEntry]
  | cons e rest ih =>
    obtain ⟨k', g⟩ := e
    rw [List.map_cons, List.pairwise_cons] at hl
    obtain ⟨hk', hrest⟩ := hl
    unfold insertEntry
    split
    · next hlt =>
      -- the new name goes first: below `k'`, so below every later name
      have hbelow : ∀ a ∈ rest.map Prod.fst, k < a := fun a ha => String.lt_trans hlt (hk' a ha)
      simp only [List.map_cons, List.pairwise_cons, List.mem_cons]
      exact ⟨fun a ha => ha.elim (· ▸ hlt) (hbelow a), hk', hrest⟩
    · next hlt =>
      split
      · next heq =>
        subst heq
        simp only [List.map_cons, List.pairwise_cons]
        exact ⟨hk', hrest⟩
      · next heq =>
        -- the new name goes after `k'`, which is below it
        have hgt : k' < k := Std.lt_of_le_of_ne (String.not_lt.mp hlt) (Ne.symm heq)
        simp only [List.map_cons, List.pairwise_cons]
        refine ⟨fun a ha => ?_, ih hrest⟩
        rcases mem_map_fst_insertEntry.mp ha with rfl | ha
        · exact hgt
        · exact hk' a ha

/-- On a sorted list, the entry `insertEntry` overwrites is the one lookup finds. -/
theorem replacedEntry_eq_find? (hl : (l.map Prod.fst).Pairwise (· < ·)) :
    replacedEntry k l = (l.find? (fun e => e.1 = k)).map Prod.snd := by
  induction l with
  | nil => rfl
  | cons e rest ih =>
    obtain ⟨k', g⟩ := e
    rw [List.map_cons, List.pairwise_cons] at hl
    obtain ⟨hk', hrest⟩ := hl
    unfold replacedEntry
    split
    · next hlt =>
      -- `k` is below `k'` and so below every listed name: the walk stops with nothing
      have hbelow : ∀ a ∈ ((k', g) :: rest).map Prod.fst, k < a := by
        simp only [List.map_cons, List.mem_cons]
        exact fun a ha => ha.elim (· ▸ hlt) (fun ha => String.lt_trans hlt (hk' a ha))
      rw [find?_eq_none_of_lt hbelow]
      rfl
    · split
      · next heq =>
        subst heq
        simp
      · next heq => simp [Ne.symm heq, ih hrest]

end Entries

-- ----------------------------------------------------------------------------
-- Registrations one after another
-- ----------------------------------------------------------------------------

variable {r : Registry} {n : String}

theorem mem_names_insert {k : String} {f : Function} : n ∈ (r.insert k f).names ↔ n = k ∨ n ∈ r.names :=
  mem_map_fst_insertEntry

theorem get?_insert (r : Registry) (k : String) (f : Function) (n : String) :
    (r.insert k f).get? n = if n = k then some f else r.get? n := by
  simp only [get?, insert, find?_insertEntry]
  by_cases hnk : n = k
  · simp [hnk]
  · simp [hnk, Ne.symm hnk]

theorem Sorted.insert (h : r.Sorted) (k : String) (f : Function) : (r.insert k f).Sorted :=
  pairwise_insertEntry h

theorem sorted_empty : empty.Sorted := List.Pairwise.nil

theorem sorted_insertAll (h : r.Sorted) (ops : List (String × Function)) : (r.insertAll ops).Sorted := by
  induction ops generalizing r with
  | nil => exact h
  | cons p ops ih => exact ih (h.insert p.1 p.2)

theorem sorted_builtins : builtins.Sorted := by
  rw [builtins_eq_insertAll]
  exact sorted_insertAll sorted_empty _

theorem mem_names_insertAll (ops : List (String × Function)) :
    n ∈ (r.insertAll ops).names ↔ n ∈ ops.map Prod.fst ∨ n ∈ r.names := by
  induction ops generalizing r with
  | nil => simp
  | cons p ops ih =>
    rw [insertAll_cons, ih, mem_names_insert, List.map_cons, List.mem_cons]
    grind

/-- The built-in registry lists exactly the four built-ins. -/
theorem mem_names_builtins (n : String) : n ∈ builtins.names ↔ n ∈ ["nop", "id", "==", "!="] := by
  rw [builtins_eq_insertAll, mem_names_insertAll]
  simp [names, empty]

theorem empty_ne_builtins : empty ≠ builtins := by
  intro h
  have hnop : "nop" ∈ builtins.names := (mem_names_builtins "nop").mpr (by simp)
  rw [← h] at hnop
  simp [names, empty] at hnop

/-- Lookup finds the function a name was last registered with, else the one it started with. -/
theorem get?_insertAll (r : Registry) (ops : List (String × Function)) (n : String) :
    (r.insertAll ops).get? n = (ops.reverse.lookup n).or (r.get? n) := by
  induction ops generalizing r with
  | nil => simp
  | cons p ops ih =>
    obtain ⟨k, f⟩ := p
    -- the first registration is the last one in the reversed list
    rw [insertAll_cons, ih, get?_insert, List.reverse_cons, List.lookup_append, Option.or_assoc]
    congr 1
    by_cases hn : n = k
    · simp [hn]
    · simp [List.lookup_cons, hn, beq_false_of_ne hn]

/-- On a sorted registry, `replace` gives back what the name looked up before. -/
theorem replace_fst_eq_get? (h : r.Sorted) (n : String) (f : Function) :
    (r.replace n f).1 = r.get? n :=
  replacedEntry_eq_find? h

/-- Registries built by registrations from the empty or the built-in registry are finite maps:
strictly increasing names, listing exactly what was registered (and the four built-ins when
starting from them), as many entries as names, lookup of the last registration or else the
built-in, and `replace` giving a function back exactly when the name was listed. -/
theorem insertAll_finite_map {start : Registry} (hstart : start = empty ∨ start = builtins)
    (ops : List (String × Function)) :
    let r := start.insertAll ops
    r.names.Pairwise (· < ·) ∧
    (∀ n, n ∈ r.names ↔ n ∈ ops.map Prod.fst ∨ (start = builtins ∧ n ∈ ["nop", "id", "==", "!="])) ∧
    r.size = r.names.length ∧
    (∀ n, r.contains n = true ↔ n ∈ r.names) ∧
    (∀ n, r.get? n = (ops.reverse.lookup n).or (start.get? n)) ∧
    (∀ n f, (r.replace n f).1 = r.get? n ∧ ((r.replace n f).1.isSome ↔ n ∈ r.names)) := by
  intro r
  have hsorted : r.Sorted :=
    sorted_insertAll (hstart.elim (· ▸ sorted_empty) (· ▸ sorted_builtins)) ops
  -- the starting names: none, or the four built-ins
  have hstartNames : ∀ n, n ∈ start.names ↔ start = builtins ∧ n ∈ ["nop", "id", "==", "!="] := by
    rcases hstart with rfl | rfl
    · intro n
      constructor
      · intro h
        simp [names, empty] at h
      · rintro ⟨h, -⟩
        exact absurd h empty_ne_builtins
    · intro n
      rw [mem_names_builtins, and_iff_right rfl]
  refine ⟨hsorted, fun n => ?_, size_eq_length_names r, contains_iff_mem_names r, get?_insertAll start ops,
    fun n f => ⟨replace_fst_eq_get? hsorted n f, ?_⟩⟩
  · rw [mem_names_insertAll, hstartNames]
  · rw [replace_fst_eq_get? hsorted n f, isSome_get?_iff]

/-- From the built-ins, `id` is shadowed, a new name is registered, and `id` is shadowed again. -/
theorem insertAll_finite_map_idTwice :
    let ops := [("id", Function.nop), ("shout", Function.id), ("id", Function.differs)]
    let r := builtins.insertAll ops
    (builtins = empty ∨ builtins = builtins) ∧
    r.names.Pairwise (· < ·) ∧
    (∀ n, n ∈ r.names ↔ n ∈ ops.map Prod.fst ∨ (builtins = builtins ∧ n ∈ ["nop", "id", "==", "!="])) ∧
    r.size = r.names.length ∧
    (∀ n, r.contains n = true ↔ n ∈ r.names) ∧
    (∀ n, r.get? n = (ops.reverse.lookup n).or (builtins.get? n)) ∧
    (∀ n f, (r.replace n f).1 = r.get? n ∧ ((r.replace n f).1.isSome ↔ n ∈ r.names)) := by
  intro ops r
  exact ⟨Or.inr rfl, insertAll_finite_map (Or.inr rfl) ops⟩

end Registry

end LineScript
