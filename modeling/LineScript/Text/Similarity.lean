/-! ## Jaro similarity

The Jaro similarity of two texts, between 0 and 1: characters of the first are matched with
equal, not yet matched characters of the second at most `max(|a|, |b|) / 2 - 1` positions
away, searching from the left; with `m` matches and `t` half the number of matched pairs out
of order, the similarity is `(m/|a| + m/|b| + (m - t)/m) / 3`, computed in double precision.
Two empty texts are fully similar; one empty text is not similar at all.
-/

namespace LineScript.Text

/-- Marks the first unmatched position of `b` within `[lo, hi)` holding `c`, if any. -/
def matchAt (b : List Char) (taken : List Bool) (c : Char) (lo hi : Nat) : Option (List Bool) :=
  let candidates := (List.range hi).filter fun j => lo ≤ j && b[j]? = some c && taken[j]? = some false
  match candidates.head? with
  | some j => some (taken.set j true)
  | none => none

/-- The Jaro similarity of two texts. -/
def jaro (a b : String) : Float :=
  let xs := a.toList
  let ys := b.toList
  if xs.isEmpty && ys.isEmpty then 1.0
  else if xs.isEmpty || ys.isEmpty then 0.0
  else
    let range := max xs.length ys.length / 2 - 1
    let (aFlags, bFlags) := (xs.zipIdx).foldl (fun (acc : List Bool × List Bool) (c, i) =>
      let lo := i - range
      let hi := min ys.length (i + range + 1)
      match matchAt ys acc.2 c (if i > range then lo else 0) hi with
      | some taken => (acc.1 ++ [true], taken)
      | none => (acc.1 ++ [false], acc.2)) ([], List.replicate ys.length false)
    let matchedA := (xs.zip aFlags).filterMap fun (c, f) => if f then some c else none
    let matchedB := (ys.zip bFlags).filterMap fun (c, f) => if f then some c else none
    let m := matchedA.length
    if m = 0 then 0.0
    else
      let t := ((matchedA.zip matchedB).filter fun (p, q) => p ≠ q).length / 2
      let mf := m.toFloat
      (mf / xs.length.toFloat + mf / ys.length.toFloat + (m - t).toFloat / mf) / 3.0

/-- The candidates similar to `v` (similarity above 0.7), least similar first; candidates of
equal similarity keep their order. -/
def similar (v : String) (candidates : List String) : List String :=
  let scored := candidates.filterMap fun c => let s := jaro v c; if s > 0.7 then some (s, c) else none
  (scored.mergeSort fun p q => p.1 ≤ q.1).map Prod.snd

end LineScript.Text
