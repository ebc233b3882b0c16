import LineScript.Proofs.RoundTrip

/-! ## How words and lines are read

A command is read from its words by peeling its prefix off the front: an `if` alone, or a name
and `=` where the name is not a keyword (`Command.peel`). What is left decides the reading
(`Command.ofWords_cases`): nothing left is an empty command; `else` or `endif` followed by more
words is a misused keyword; anything else reads as a command whose words are exactly the words
read, so no two word lists read as the same command.

A script is read line by line, cutting the text at line feeds only (`Script.lines`): it reads
when every line does, as the commands of its lines in order, and otherwise fails at its first
bad line, with that line's error and its 1-based number. A line feed at the end adds an empty
last line, which reads as `nop`; a line reads as `nop` when it has no words, or when its only
word is `nop`.
-/

namespace LineScript

-- ----------------------------------------------------------------------------
-- Commands from words
-- ----------------------------------------------------------------------------

/-- Every word is the written form of the argument it stands for. -/
@[simp] theorem Argument.word_ofWord (w : String) : (Argument.ofWord w).word = w := by
  unfold ofWord
  split
  · -- `$$x` is the literal `$x`, written with its `$` doubled
    rename_i h2
    obtain ⟨rest, hrest⟩ := String.startsWith_string_iff.mp h2
    have hw : w.toList = '$' :: '$' :: rest := by rw [← hrest]; rfl
    have hlit : (String.ofList (w.toList.drop 1)).startsWith "$" = true := by
      rw [String.startsWith_string_iff]
      exact ⟨rest, by simp [hw]⟩
    rw [word, if_pos hlit]
    apply String.toList_injective
    simp [hw]
  · split
    · rename_i _ h1
      obtain ⟨rest, hrest⟩ := String.startsWith_string_iff.mp h1
      apply String.toList_injective
      simp [word, ← hrest]
    · rename_i _ h1
      simp [word, h1]

namespace Command

/-- The words left once the prefix of a command is peeled off: every leading `if`, and every
leading name and `=` whose name is not a keyword. -/
def peel : List String → List String
  | [] => []
  | w :: rest =>
    if w = "if" then peel rest
    else if isKeyword w then w :: rest
    else
      match rest with
      | "=" :: more => peel more
      | _ => w :: rest

theorem peel_if (rest : List String) : peel ("if" :: rest) = peel rest := by
  rw [peel.eq_def]
  simp

theorem peel_keyword {k : String} (hk : k = "else" ∨ k = "endif") (rest : List String) :
    peel (k :: rest) = k :: rest := by
  rw [peel.eq_def]
  rcases hk with rfl | rfl <;> simp [isKeyword]

theorem peel_assign {w : String} (hw : isKeyword w = false) (more : List String) :
    peel (w :: "=" :: more) = peel more := by
  have hif : w ≠ "if" := (isKeyword_eq_false_iff.mp hw).1
  rw [peel.eq_def]
  simp [hif, hw]

theorem peel_call {w : String} {rest : List String} (hw : isKeyword w = false)
    (hnot : ∀ more, rest = "=" :: more → False) : peel (w :: rest) = w :: rest := by
  have hif : w ≠ "if" := (isKeyword_eq_false_iff.mp hw).1
  rw [peel.eq_def]
  simp only [hif, hw, ↓reduceIte, Bool.false_eq_true]

/-- How a word list reads, decided by what is left after peeling: an empty command when
nothing is left; a misused keyword when `else` or `endif` is left with more words after it;
otherwise a command whose words are the words read. -/
def ReadsByPeel (ts : List String) : Prop :=
  (peel ts = [] ∧ ofWords ts = .error .emptyCommand) ∨
    (∃ k t more, (k = "else" ∨ k = "endif") ∧ peel ts = k :: t :: more ∧
      ofWords ts = .error (.misusedKeyword k)) ∨
    (peel ts ≠ [] ∧ (∀ k t more, (k = "else" ∨ k = "endif") → peel ts ≠ k :: t :: more) ∧
      ∃ c, ofWords ts = .ok c ∧ c.words = ts)

/-- A peeled prefix keeps the reading: when `ts'` is `ts` behind a prefix that peels off and
whose command wraps the one `ts` reads as, `ts'` reads as `ts` does, wrapped. -/
theorem ReadsByPeel.wrap {ts ts' : List String} (pre : List String) (wrap : Command → Command)
    (hpeel : peel ts' = peel ts) (hread : ofWords ts' = (ofWords ts).map wrap)
    (hts : ts' = pre ++ ts) (hwords : ∀ c, (wrap c).words = pre ++ c.words)
    (h : ReadsByPeel ts) : ReadsByPeel ts' := by
  rcases h with ⟨hp, he⟩ | ⟨k, t, more, hk, hp, he⟩ | ⟨hp, hnk, c, hc, hw⟩
  · exact .inl ⟨hpeel ▸ hp, by rw [hread, he]; rfl⟩
  · exact .inr (.inl ⟨k, t, more, hk, hpeel ▸ hp, by rw [hread, he]; rfl⟩)
  · refine .inr (.inr ⟨hpeel ▸ hp, hpeel ▸ hnk, wrap c, by rw [hread, hc]; rfl, ?_⟩)
    rw [hwords, hw, hts]

/-- Every word list reads as peeling decides. -/
theorem ofWords_cases (ts : List String) : ReadsByPeel ts := by
  fun_induction ofWords ts with
  | case1 => exact .inl ⟨rfl, rfl⟩
  | case2 rest ih =>
    refine ih.wrap ["if"] .ifLine (peel_if rest) ?_ rfl fun c => rfl
    rw [ofWords.eq_def]
    simp
  | case3 rest hempty _ =>
    -- `else` alone
    obtain rfl : rest = [] := List.isEmpty_iff.mp hempty
    refine .inr (.inr ⟨by simp [peel_keyword], ?_, .elseLine, by simp [ofWords], rfl⟩)
    intro k t more _ hp
    simp [peel_keyword] at hp
  | case4 rest hempty _ =>
    cases rest with
    | nil => simp at hempty
    | cons t more =>
      refine .inr (.inl ⟨"else", t, more, .inl rfl, peel_keyword (.inl rfl) _, ?_⟩)
      rw [ofWords.eq_def]
      simp
  | case5 rest hempty _ _ =>
    obtain rfl : rest = [] := List.isEmpty_iff.mp hempty
    refine .inr (.inr ⟨by simp [peel_keyword], ?_, .endifLine, by simp [ofWords], rfl⟩)
    intro k t more _ hp
    simp [peel_keyword] at hp
  | case6 rest hempty _ _ =>
    cases rest with
    | nil => simp at hempty
    | cons t more =>
      refine .inr (.inl ⟨"endif", t, more, .inr rfl, peel_keyword (.inr rfl) _, ?_⟩)
      rw [ofWords.eq_def]
      simp
  | case7 head hif helse hendif more ih =>
    -- a name that is not a keyword, then `=`: an assignment of what follows
    have hkw : isKeyword head = false := isKeyword_eq_false_iff.mpr ⟨hif, helse, hendif⟩
    refine ih.wrap [head, "="] (.assign head) (peel_assign hkw more) ?_ rfl fun c => rfl
    rw [ofWords.eq_def]
    simp [hif, helse, hendif]
  | case8 head rest hif helse hendif hnot =>
    -- a call: its name, then one argument per word; `hnot` settles the match on the rest
    have hkw : isKeyword head = false := isKeyword_eq_false_iff.mpr ⟨hif, helse, hendif⟩
    have hpeel : peel (head :: rest) = head :: rest := peel_call hkw hnot
    have hread : ofWords (head :: rest) = .ok (.call head (rest.map Argument.ofWord)) := by
      rw [ofWords.eq_def]
      simp only [hif, helse, hendif, ↓reduceIte]
    refine .inr (.inr ⟨by simp [hpeel], ?_, _, hread, by simp [words, Function.comp_def]⟩)
    intro k t more hk hp
    rw [hpeel, List.cons.injEq] at hp
    rcases hk with rfl | rfl
    · exact helse hp.1
    · exact hendif hp.1

/-- A command read from words is written as exactly those words. -/
theorem words_of_ofWords {ts : List String} {c : Command} (h : ofWords ts = .ok c) :
    c.words = ts := by
  rcases ofWords_cases ts with ⟨-, he⟩ | ⟨k, t, more, -, -, he⟩ | ⟨-, -, c', hc', hw⟩
  · rw [he] at h
    cases h
  · rw [he] at h
    cases h
  · rw [hc'] at h
    cases h
    exact hw

/-- Commands read from words follow the grammar and lose nothing. A word list fails as an empty
command exactly when peeling its prefix leaves nothing, and as a misused keyword `k` exactly when
what is left is `else` or `endif` with more words after it; in every other case it reads as a
command. A command read from words is written as exactly those words, so two word lists that
read as the same command are the same. -/
theorem ofWords_grammar (ts : List String) :
    (ofWords ts = .error .emptyCommand ↔ peel ts = []) ∧
    (∀ k, ofWords ts = .error (.misusedKeyword k) ↔
      (k = "else" ∨ k = "endif") ∧ ∃ t more, peel ts = k :: t :: more) ∧
    (peel ts ≠ [] → (∀ k t more, (k = "else" ∨ k = "endif") → peel ts ≠ k :: t :: more) →
      ∃ c, ofWords ts = .ok c) ∧
    (∀ c, ofWords ts = .ok c → c.words = ts) ∧
    (∀ ts' c, ofWords ts = .ok c → ofWords ts' = .ok c → ts' = ts) := by
  refine ⟨?_, fun k => ?_, fun hne hnk => ?_, fun c => words_of_ofWords, fun ts' c h h' => ?_⟩
  · rcases ofWords_cases ts with ⟨hp, he⟩ | ⟨k, t, more, -, hp, he⟩ | ⟨hp, -, c, hc, -⟩
    · exact ⟨fun _ => hp, fun _ => he⟩
    · simp [he, hp]
    · simp [hc, hp]
  · rcases ofWords_cases ts with ⟨hp, he⟩ | ⟨k', t, more, hk', hp, he⟩ | ⟨hp, hnk, c, hc, -⟩
    · simp [he, hp]
    · -- the keyword named is the one left at the front
      rw [he, hp]
      constructor
      · intro h
        cases h
        exact ⟨hk', t, more, rfl⟩
      · rintro ⟨-, t', more', h⟩
        cases h
        rfl
    · rw [hc]
      simp only [reduceCtorEq, false_iff, not_and, not_exists]
      exact fun hk t more => hnk k t more hk
  · rcases ofWords_cases ts with ⟨hp, -⟩ | ⟨k, t, more, hk, hp, -⟩ | ⟨-, -, c, hc, -⟩
    · exact absurd hp hne
    · exact absurd hp (hnk k t more hk)
    · exact ⟨c, hc⟩
  · rw [← words_of_ofWords h', words_of_ofWords h]

end Command

-- ----------------------------------------------------------------------------
-- Scripts from lines
-- ----------------------------------------------------------------------------

namespace Command

/-- An empty line reads as `nop`. -/
theorem ofLine_empty : ofLine "" = .ok .nop := rfl

/-- A line reads as `nop` exactly when it has no words, or its only word is `nop`. -/
theorem ofLine_eq_nop_iff (line : String) :
    ofLine line = .ok .nop ↔ Word.split line = .ok [] ∨ Word.split line = .ok ["nop"] := by
  unfold ofLine
  cases hs : Word.split line with
  | error e => simp
  | ok ws =>
    cases ws with
    | nil => simp
    | cons w ws =>
      -- a command read from words is written as those words, and `nop` is written `nop`
      simp only [false_or, Except.ok.injEq, List.cons_ne_nil]
      constructor
      · intro h
        simpa [words, nop] using (words_of_ofWords h).symm
      · intro h
        rw [h]
        rfl

/-- The line `nop` reads as `nop` and still has a word: having no words is not what makes a
line `nop`. -/
theorem nop_line_has_word : ¬(ofLine "nop" = .ok .nop ↔ Word.split "nop" = .ok []) := by
  have hread : ofLine "nop" = .ok .nop := rfl
  have hsplit : Word.split "nop" ≠ .ok [] := by
    intro h
    cases h
  exact fun hiff => hsplit (hiff.mp hread)

end Command

/-- The lines of a text: the pieces between its line feeds. -/
def Script.lines (source : String) : List String :=
  (source.toList.splitOn '\n').map String.ofList

namespace Script

/-- Reading numbered lines fails exactly at the first line that does not read: every line
before it reads, and the error is that line's, numbered by its place. -/
theorem readLines_eq_error_iff {n : Nat} {ls : List String} {e : ParseError} :
    readLines n ls = .error e ↔
      ∃ before l after, ls = before ++ l :: after ∧
        (∀ l' ∈ before, ∃ c, Command.ofLine l' = .ok c) ∧
        Command.ofLine l = .error e.cause ∧ e.line = n + before.length := by
  constructor
  · intro h
    induction ls generalizing n with
    | nil => cases h
    | cons l ls ih =>
      cases hl : Command.ofLine l with
      | error cause =>
        -- the first line is the bad one
        simp only [readLines, hl, Except.error.injEq] at h
        subst h
        exact ⟨[], l, ls, rfl, by simp, hl, by simp⟩
      | ok c =>
        cases hrest : readLines (n + 1) ls with
        | ok cs => simp [readLines, hl, hrest, Except.map] at h
        | error e' =>
          simp only [readLines, hl, hrest, Except.map, Except.error.injEq] at h
          subst h
          obtain ⟨before, l', after, hsplit, hbefore, hl', hline⟩ := ih hrest
          refine ⟨l :: before, l', after, by rw [hsplit, List.cons_append], ?_, hl', ?_⟩
          · intro l'' h''
            rcases List.mem_cons.mp h'' with rfl | h''
            · exact ⟨c, hl⟩
            · exact hbefore l'' h''
          · rw [hline, List.length_cons]
            omega
  · rintro ⟨before, l, after, rfl, hbefore, hl, hline⟩
    induction before generalizing n with
    | nil =>
      obtain ⟨line, cause⟩ := e
      simp only [List.length_nil, Nat.add_zero] at hline hl
      simp [readLines, hl, hline]
    | cons b before ih =>
      -- the lines before the bad one read, so the error comes from further on
      obtain ⟨c, hb⟩ := hbefore b List.mem_cons_self
      have hrest := ih (n := n + 1) (fun l' h' => hbefore l' (List.mem_cons_of_mem _ h'))
        (by rw [hline, List.length_cons]; omega)
      simp [readLines, hb, hrest, Except.map]

/-- A line feed at the end of a text adds an empty last line. -/
theorem lines_append_newline (source : String) :
    lines (source ++ "\n") = lines source ++ [""] := by
  simp [lines, String.toList_append, List.splitOn_append_cons_self]

/-- An empty last line adds `nop` to what the lines read as. -/
theorem readLines_append_empty (n : Nat) (ls : List String) :
    readLines n (ls ++ [""]) = (readLines n ls).map (· ++ [.nop]) := by
  induction ls generalizing n with
  | nil => simp [readLines, Command.ofLine_empty, Except.map]
  | cons l ls ih =>
    simp only [List.cons_append, readLines, ih]
    cases Command.ofLine l with
    | error cause => rfl
    | ok c => cases readLines (n + 1) ls <;> rfl

/-- Scripts are read line by line and fail fast. A text reads as a script exactly when each of
its lines reads as a command, and then the script has one command per line, the command its line
reads as. Otherwise reading fails at the first line that does not read, with that line's error
and its 1-based number. A line feed at the end adds a last `nop`, and a line reads as `nop`
exactly when it has no words or its only word is `nop`. -/
theorem parse_by_lines (source : String) :
    (∀ sc, parse source = .ok sc ↔
      List.Forall₂ (fun l c => Command.ofLine l = .ok c) (lines source) sc.commands) ∧
    (∀ sc, parse source = .ok sc → sc.size = (lines source).length) ∧
    (∀ e, parse source = .error e ↔
      ∃ before l after, lines source = before ++ l :: after ∧
        (∀ l' ∈ before, ∃ c, Command.ofLine l' = .ok c) ∧
        Command.ofLine l = .error e.cause ∧ e.line = before.length + 1) ∧
    parse (source ++ "\n") = (parse source).map (fun sc => ⟨sc.commands ++ [.nop]⟩) ∧
    (∀ line, Command.ofLine line = .ok .nop ↔
      Word.split line = .ok [] ∨ Word.split line = .ok ["nop"]) := by
  have hok : ∀ sc, parse source = .ok sc ↔
      List.Forall₂ (fun l c => Command.ofLine l = .ok c) (lines source) sc.commands := by
    intro sc
    rw [parse, Except.map_eq_ok]
    constructor
    · rintro ⟨cs, hcs, rfl⟩
      exact readLines_eq_ok_iff.mp hcs
    · intro h
      exact ⟨sc.commands, readLines_eq_ok_iff.mpr h, rfl⟩
  refine ⟨hok, fun sc h => ((hok sc).mp h).length_eq.symm, fun e => ?_, ?_, Command.ofLine_eq_nop_iff⟩
  · -- a failure is the failure of reading the lines, numbered from 1
    have hmap : parse source = .error e ↔ readLines 1 (lines source) = .error e := by
      show (readLines 1 (lines source)).map Script.mk = .error e ↔ _
      cases readLines 1 (lines source) <;> simp [Except.map]
    rw [hmap, readLines_eq_error_iff]
    simp only [Nat.add_comm 1]
  · rw [parse, parse, ← lines, ← lines, lines_append_newline, readLines_append_empty]
    cases readLines 1 (lines source) <;> rfl

end Script

end LineScript
