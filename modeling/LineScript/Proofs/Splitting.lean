import LineScript.Proofs.RoundTrip

/-! ## Lines joined at a blank

Besides the words it has finished, the scan that splits a line keeps only where it stands:
outside quotes with the word read so far, or inside a quote. Two laws follow.

* The finished words are passed along and never looked at (`scan_append_done`): a scan that
  starts after some words gives those words, then its own.
* A part of a line that splits without fault leaves the scan outside every quote, with no escape
  pending (`scan_append_of_ok`): whatever follows is read as it is after a bare word.

So a line made of two lines that split, joined at a blank, splits into the words of the first
followed by those of the second (`split_append_blank`): the blank ends the last word of the
first, and the second is read as it is on its own.
-/

namespace LineScript

namespace Word

/-- The words finished before a scan are kept in front of the words it gives. -/
theorem scan_append_done (pre done : List (List Char)) (cur : Cursor) (input : List Char) :
    scan (pre ++ done) cur input = (scan done cur input).map (pre ++ ·) := by
  fun_induction scan done cur input <;>
    simp_all +zetaDelta [scan, scan_bare_blank, scan_bare_plain_char, scan_double_char, isSpecial,
      Except.map]

/-- A scan that reads its input without fault ends outside quotes, having finished `done'` and
started `w`; it reads any longer input as the rest after a bare word. -/
theorem scan_append_of_ok {done : List (List Char)} {cur : Cursor} {input : List Char}
    {ws : List (List Char)} (h : scan done cur input = .ok ws) :
    ∃ done' w, ws = done' ++ w.toList ∧
      ∀ rest, scan done cur (input ++ rest) = scan done' (.bare w) rest := by
  fun_induction scan done cur input
  case case1 done cur =>
    -- the input ends outside quotes: `cur` is the word started
    cases h
    exact ⟨done, cur, rfl, fun _ => rfl⟩
  -- every other step that does not fail reads the same characters whatever follows them
  all_goals
    simp_all +zetaDelta [scan, scan_bare_blank, scan_bare_plain_char, scan_double_char, isSpecial]

theorem split_eq_ok_iff {line : String} {ws : List String} :
    split line = .ok ws ↔ ∃ raw, scan [] (.bare none) line.toList = .ok raw ∧ ws = raw.map String.ofList := by
  unfold split
  cases scan [] (.bare none) line.toList with
  | error e => simp
  | ok raw => simp [eq_comm]

/-- Two lines that split, joined at a blank, split into the words of the first followed by the
words of the second. -/
theorem split_append_blank {a b : String} {c : Char} {ta tb : List String}
    (ha : split a = .ok ta) (hb : split b = .ok tb) (hc : isBlank c = true) :
    split (a ++ String.singleton c ++ b) = .ok (ta ++ tb) := by
  obtain ⟨ra, hra, rfl⟩ := split_eq_ok_iff.mp ha
  obtain ⟨rb, hrb, rfl⟩ := split_eq_ok_iff.mp hb
  obtain ⟨done', w, hws, hrest⟩ := scan_append_of_ok hra
  refine split_eq_ok_iff.mpr ⟨ra ++ rb, ?_, by simp⟩
  calc scan [] (.bare none) (a ++ String.singleton c ++ b).toList
      = scan [] (.bare none) (a.toList ++ c :: b.toList) := by simp [String.toList_append]
    _ = scan done' (.bare w) (c :: b.toList) := hrest _
    _ = scan (ra ++ []) (.bare none) b.toList := by rw [scan_bare_blank w hc, hws, List.append_nil]
    _ = .ok (ra ++ rb) := by rw [scan_append_done, hrb]; rfl

/-- A line that ends in a quoted word run together with an empty pair of quotes, joined at a
line feed to a line that starts with an empty quoted word. -/
theorem split_append_blank_quoted :
    split "say 'a b'\"\"" = .ok ["say", "a b"] ∧ split "'' \\'" = .ok ["", "'"] ∧
      isBlank '\n' = true ∧
      split ("say 'a b'\"\"" ++ String.singleton '\n' ++ "'' \\'") = .ok (["say", "a b"] ++ ["", "'"]) := by
  have ha : split "say 'a b'\"\"" = .ok ["say", "a b"] := Except.eq_ok_of_toOption_eq (by decide +kernel)
  have hb : split "'' \\'" = .ok ["", "'"] := Except.eq_ok_of_toOption_eq (by decide +kernel)
  exact ⟨ha, hb, rfl, split_append_blank ha hb rfl⟩

end Word

end LineScript
