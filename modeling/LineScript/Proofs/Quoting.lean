import LineScript.Syntax.Word

/-! ## Quoted words read back

`Word.quote` writes a word so that the word splitter reads it back as that one word: as it
is when it holds no blank, quote or backslash and is not empty, otherwise in single quotes
with every single quote inside written as `'"'"'` (close, a quote in double quotes, open).
Here the scan is followed through each form (`scan_quote`), and then through quoted words
joined by spaces (`scan_quoted_words`): the splitter gives back exactly the words.

The scan works on characters, so everything here is said of `String.toList`.
-/

namespace LineScript

namespace Word

/-- A character that makes a word need quotes: a blank, a quote or a backslash. -/
def isSpecial (c : Char) : Bool := isBlank c || c = '\'' || c = '"' || c = '\\'

theorem needsQuotes_eq (w : String) :
    needsQuotes w = (w.toList.isEmpty || w.toList.any isSpecial) := by
  have hany : (w.any fun c => isBlank c || c = '\'' || c = '"' || c = '\\') =
      w.toList.any isSpecial := by
    rw [show (w.any fun c => isBlank c || c = '\'' || c = '"' || c = '\\') =
      w.contains (fun c => isBlank c || c = '\'' || c = '"' || c = '\\') from rfl,
      String.contains_bool_eq]
    rfl
  have hempty : w.isEmpty = w.toList.isEmpty := by
    cases h : w.isEmpty with
    | false =>
      cases h' : w.toList with
      | nil => exact absurd (String.toList_eq_nil_iff.mp h') (String.isEmpty_eq_false_iff.mp h)
      | cons _ _ => rfl
    | true => rw [String.isEmpty_iff.mp h]; rfl
  rw [needsQuotes, hany, hempty]

/-- A word that needs no quotes is written as it is. -/
theorem quote_of_needsQuotes_false {w : String} (h : needsQuotes w = false) : quote w = w := by
  simp [quote, h]

theorem toList_quote_of_needsQuotes {w : String} (h : needsQuotes w = true) :
    (quote w).toList = '\'' :: (w.toList.flatMap (fun c => (quoteChar c).toList) ++ ['\'']) := by
  simp [quote, h, String.toList_join, List.flatMap_map]

-- ----------------------------------------------------------------------------
-- One character of the scan
-- ----------------------------------------------------------------------------

variable {done : List (List Char)} {rest : List Char}

@[simp] theorem scan_bare_nil (cur : Option (List Char)) :
    scan done (.bare cur) [] = .ok (done ++ cur.toList) := by
  rw [scan.eq_def]

theorem scan_bare_blank {c : Char} (cur : Option (List Char)) (h : isBlank c = true) :
    scan done (.bare cur) (c :: rest) = scan (done ++ cur.toList) (.bare none) rest := by
  rw [scan.eq_def]
  simp [h]

theorem scan_bare_plain_char {c : Char} (cur : Option (List Char)) (h : isSpecial c = false) :
    scan done (.bare cur) (c :: rest) = scan done (.bare (some (cur.getD [] ++ [c]))) rest := by
  simp only [isSpecial, Bool.or_eq_false_iff, decide_eq_false_iff_not] at h
  obtain ⟨⟨⟨hblank, hq⟩, hdq⟩, hbs⟩ := h
  rw [scan.eq_def]
  simp [hblank, hq, hdq, hbs]

@[simp] theorem scan_bare_single (cur : Option (List Char)) :
    scan done (.bare cur) ('\'' :: rest) = scan done (.single (cur.getD [])) rest := by
  rw [scan.eq_def]
  simp [isBlank]

@[simp] theorem scan_bare_double (cur : Option (List Char)) :
    scan done (.bare cur) ('"' :: rest) = scan done (.double (cur.getD [])) rest := by
  rw [scan.eq_def]
  simp [isBlank]

@[simp] theorem scan_single_close (w : List Char) :
    scan done (.single w) ('\'' :: rest) = scan done (.bare (some w)) rest := by
  rw [scan.eq_def]
  simp

theorem scan_single_char {c : Char} (w : List Char) (h : c ≠ '\'') :
    scan done (.single w) (c :: rest) = scan done (.single (w ++ [c])) rest := by
  rw [scan.eq_def]
  simp [h]

@[simp] theorem scan_double_close (w : List Char) :
    scan done (.double w) ('"' :: rest) = scan done (.bare (some w)) rest := by
  rw [scan.eq_def]
  simp

theorem scan_double_char {c : Char} (w : List Char) (h : c ≠ '"') (h' : c ≠ '\\') :
    scan done (.double w) (c :: rest) = scan done (.double (w ++ [c])) rest := by
  rw [scan.eq_def]
  simp [h, h']

-- ----------------------------------------------------------------------------
-- The scan through one quoted word
-- ----------------------------------------------------------------------------

/-- A run of characters that need no quotes extends the bare word being read. -/
theorem scan_bare_plain (acc w tail : List Char) (hw : ∀ c ∈ w, isSpecial c = false) :
    scan done (.bare (some acc)) (w ++ tail) = scan done (.bare (some (acc ++ w))) tail := by
  induction w generalizing acc with
  | nil => simp
  | cons c w ih =>
    rw [List.cons_append, scan_bare_plain_char _ (hw c (by simp)), Option.getD_some,
      ih _ (fun d hd => hw d (by simp [hd]))]
    simp

/-- Inside single quotes, the written form of each character adds that character. -/
theorem scan_single_quoted (acc w tail : List Char) :
    scan done (.single acc) (w.flatMap (fun c => (quoteChar c).toList) ++ tail) =
      scan done (.single (acc ++ w)) tail := by
  induction w generalizing acc with
  | nil => simp
  | cons c w ih =>
    rw [List.flatMap_cons, List.append_assoc]
    by_cases hc : c = '\''
    · -- `'"'"'`: close, a quote in double quotes, open again
      subst hc
      have hq : (quoteChar '\'').toList = ['\'', '"', '\'', '"', '\''] := by simp [quoteChar]
      rw [hq]
      simp only [List.cons_append, List.nil_append, scan_single_close, scan_bare_double,
        Option.getD_some]
      rw [scan_double_char _ (by decide) (by decide), scan_double_close, scan_bare_single,
        Option.getD_some, ih]
      simp
    · have hq : (quoteChar c).toList = [c] := by simp [quoteChar, hc]
      rw [hq, List.singleton_append, scan_single_char _ hc, ih]
      simp

/-- A quoted word, read from outside any word, leaves that word started. -/
theorem scan_quote (w : String) (tail : List Char) :
    scan done (.bare none) ((quote w).toList ++ tail) = scan done (.bare (some w.toList)) tail := by
  cases hq : needsQuotes w with
  | true =>
    rw [toList_quote_of_needsQuotes hq, List.cons_append, List.append_assoc, scan_bare_single,
      Option.getD_none, scan_single_quoted, List.singleton_append, scan_single_close,
      List.nil_append]
  | false =>
    rw [quote_of_needsQuotes_false hq]
    -- a word that needs no quotes is not empty and holds no special character
    rw [needsQuotes_eq, Bool.or_eq_false_iff, List.isEmpty_eq_false_iff, List.any_eq_false] at hq
    obtain ⟨hne, hplain⟩ := hq
    have hplain' : ∀ c ∈ w.toList, isSpecial c = false := fun c hc => by simpa using hplain c hc
    obtain ⟨c, cs, hcs⟩ := List.exists_cons_of_ne_nil hne
    rw [hcs] at hplain' ⊢
    rw [List.cons_append, scan_bare_plain_char _ (hplain' c (by simp)), Option.getD_none,
      List.nil_append, scan_bare_plain _ _ _ (fun d hd => hplain' d (by simp [hd]))]
    simp

/-- Quoted words joined by spaces read back as those words, after the words already read. -/
theorem scan_quoted_words (ws : List String) (hws : ws ≠ []) :
    scan done (.bare none) (" ".intercalate (ws.map quote)).toList =
      .ok (done ++ ws.map String.toList) := by
  induction ws generalizing done with
  | nil => contradiction
  | cons w ws ih =>
    cases ws with
    | nil =>
      rw [List.map_singleton, String.intercalate_singleton, ← List.append_nil (quote w).toList,
        scan_quote, scan_bare_nil]
      simp
    | cons w' ws' =>
      -- the word, a space that ends it, then the remaining words
      rw [List.map_cons, List.map_cons, String.intercalate_cons_cons, String.toList_append,
        String.toList_append, List.append_assoc, scan_quote,
        show (" " : String).toList = [' '] from rfl, List.singleton_append,
        scan_bare_blank _ (by decide), ← List.map_cons, ih (List.cons_ne_nil _ _)]
      simp

/-- Any list of words, quoted and joined by spaces, splits back into exactly those words. -/
theorem split_join_quote (ws : List String) : Word.split (" ".intercalate (ws.map quote)) = .ok ws := by
  cases ws with
  | nil => rfl
  | cons w ws =>
    rw [Word.split, scan_quoted_words _ (List.cons_ne_nil w ws)]
    simp

end Word

-- ----------------------------------------------------------------------------
-- Where the characters of the words come from
-- ----------------------------------------------------------------------------

/-- The characters of the word being read, if one has started. -/
def Cursor.word : Cursor → List Char
  | .bare w => w.getD []
  | .single w | .double w => w

namespace Word

variable {done : List (List Char)}

/-- The scan makes up no character: a property of every character of the words read so
far, of the word being read and of the rest of the line holds of every character of every
word it gives. -/
theorem scan_forall_chars {p : Char → Prop} {cur : Cursor} {input : List Char}
    {ws : List (List Char)} (h : scan done cur input = .ok ws)
    (hdone : ∀ d ∈ done, ∀ ch ∈ d, p ch) (hcur : ∀ ch ∈ cur.word, p ch)
    (hin : ∀ ch ∈ input, p ch) : ∀ w ∈ ws, ∀ ch ∈ w, p ch := by
  fun_induction scan done cur input <;> simp_all [Cursor.word] <;> grind

end Word

end LineScript
