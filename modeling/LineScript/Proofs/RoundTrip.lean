import Mathlib.Data.List.Forall2
import LineScript.Proofs.Quoting
import LineScript.Syntax.Parse

/-! ## Rendered scripts read back

A script that was read from a text renders to a text that reads back as the same script
(`Script.parse_render`).

A command is written as its words (`Command.words`), each quoted and joined by spaces, so
the word splitter gives the words back. The words read back as the command when the
command is well formed (`Command.WellFormed`): no line feed anywhere, no keyword where a
function name or an assignment target stands, no `=` as the first argument of a call, no
variable name that starts with `$`. Every command read from a line is well formed, and a
script read from a text has at least one line, so its rendering splits back into the lines
of its commands. The two conditions are all it takes: a script however built reads back from
its rendering exactly when it has a command and all its commands are well formed
(`Script.parse_render_iff`).
-/

namespace LineScript

-- ----------------------------------------------------------------------------
-- The words of a command
-- ----------------------------------------------------------------------------

/-- The word an argument is written as, before quoting: a literal that starts with `$` gets
one more `$` in front, and a variable reference is `$` and its name. -/
def Argument.word : Argument → String
  | .literal v => if v.startsWith "$" then "$" ++ v else v
  | .var n => "$" ++ n

/-- The words a command is written as, before quoting. -/
def Command.words : Command → List String
  | .call f args => f :: args.map Argument.word
  | .assign v c => v :: "=" :: c.words
  | .ifLine c => "if" :: c.words
  | .elseLine => ["else"]
  | .endifLine => ["endif"]

theorem Command.words_ne_nil (c : Command) : c.words ≠ [] := by
  cases c <;> simp [words]

/-- Whether a word is a keyword of the block lines. -/
def isKeyword (w : String) : Bool := w = "if" || w = "else" || w = "endif"

theorem isKeyword_eq_false_iff {w : String} :
    isKeyword w = false ↔ w ≠ "if" ∧ w ≠ "else" ∧ w ≠ "endif" := by
  simp [isKeyword, and_assoc]

/-- The words of the commands' own syntax are written as they are. -/
theorem Word.quote_syntax (w : String) (h : w ∈ ["=", "if", "else", "endif"]) : quote w = w := by
  simp only [List.mem_cons, List.not_mem_nil, or_false] at h
  rcases h with rfl | rfl | rfl | rfl <;>
    exact quote_of_needsQuotes_false (by rw [needsQuotes_eq]; decide)

theorem Argument.render_eq (a : Argument) : a.render = Word.quote a.word := by
  cases a with
  | literal v =>
    simp only [render, word]
    split <;> rfl
  | var n => rfl

/-- Joining with a separator written in front of every word but the first. -/
theorem String.intercalate_cons_eq_join (sep x : String) (l : List String) :
    sep.intercalate (x :: l) = x ++ String.join (l.map (sep ++ ·)) := by
  induction l generalizing x with
  | nil => simp
  | cons y l ih =>
    rw [String.intercalate_cons_cons, ih y, List.map_cons, String.join_cons]
    simp [String.append_assoc]

/-- A command's line is its words, quoted and joined by spaces. -/
theorem Command.render_eq (c : Command) : c.render = " ".intercalate (c.words.map Word.quote) := by
  induction c with
  | call f args =>
    simp [render, words, String.intercalate_cons_eq_join, Argument.render_eq, Function.comp_def]
  | assign v c ih =>
    rw [render, ih, words, List.map_cons, List.map_cons, String.intercalate_cons_cons,
      Word.quote_syntax "=" (by simp),
      String.intercalate_cons_of_ne_nil (by simpa using c.words_ne_nil),
      show (" = " : String) = " " ++ ("=" ++ " ") by decide]
    simp only [String.append_assoc]
  | ifLine c ih =>
    rw [render, ih, words, List.map_cons, Word.quote_syntax "if" (by simp),
      String.intercalate_cons_of_ne_nil (by simpa using c.words_ne_nil),
      show ("if " : String) = "if" ++ " " by decide]
  | elseLine => simp [render, words, Word.quote_syntax "else" (by simp)]
  | endifLine => simp [render, words, Word.quote_syntax "endif" (by simp)]

/-- The words of a command's line are the command's words. -/
theorem Command.split_render (c : Command) : Word.split c.render = .ok c.words := by
  rw [Word.split, render_eq, Word.scan_quoted_words _ (by simpa using c.words_ne_nil)]
  simp [List.map_map]

-- ----------------------------------------------------------------------------
-- Well-formed commands read back from their words
-- ----------------------------------------------------------------------------

/-- An argument that reads back from its word: no line feed, and a variable's name does not
start with `$`. -/
def Argument.WellFormed : Argument → Prop
  | .literal v => '\n' ∉ v.toList
  | .var n => '\n' ∉ n.toList ∧ n.startsWith "$" = false

/-- A command that reads back from its line: no line feed in any name or argument, no
keyword as a function name or an assignment target, no `=` as the first argument of a call,
and every argument well formed. -/
def Command.WellFormed : Command → Prop
  | .call f args =>
    '\n' ∉ f.toList ∧ isKeyword f = false ∧ (∀ a ∈ args, a.WellFormed) ∧
      args.head? ≠ some (.literal "=")
  | .assign v c => '\n' ∉ v.toList ∧ isKeyword v = false ∧ c.WellFormed
  | .ifLine c => c.WellFormed
  | .elseLine | .endifLine => True

theorem startsWith_dollar_append (v : String) : ("$" ++ v).startsWith "$$" = v.startsWith "$" := by
  rw [Bool.eq_iff_iff, String.startsWith_string_iff, String.startsWith_string_iff]
  simp

/-- A well-formed argument reads back from its word. -/
theorem Argument.ofWord_word {a : Argument} (h : a.WellFormed) : Argument.ofWord a.word = a := by
  cases a with
  | literal v =>
    by_cases hv : v.startsWith "$"
    · simp [word, hv, ofWord, startsWith_dollar_append]
    · -- a literal that does not start with `$` does not start with `$$` either
      have hvv : v.startsWith "$$" = false := by
        have hv' : v.startsWith "$" = false := by simpa using hv
        rw [String.startsWith_string_eq_false_iff] at hv' ⊢
        exact fun h' => hv' (List.IsPrefix.trans (by simp) h')
      simp [word, hv, ofWord, hvv]
  | var n =>
    have hn := h.2
    simp [word, ofWord, startsWith_dollar_append, hn]

/-- The only argument written as the word `=` is the literal `=`. -/
theorem Argument.word_eq_eq {a : Argument} (h : a.word = "=") : a = .literal "=" := by
  cases a with
  | literal v =>
    simp only [word] at h
    split at h
    · have := congrArg String.toList h
      simp at this
    · rw [h]
  | var n =>
    have := congrArg String.toList h
    simp [word] at this

/-- A well-formed command reads back from its words. -/
theorem Command.ofWords_words {c : Command} (h : c.WellFormed) :
    Command.ofWords c.words = .ok c := by
  induction c with
  | call f args =>
    obtain ⟨-, hkw, hargs, hfirst⟩ := h
    obtain ⟨hif, helse, hendif⟩ := isKeyword_eq_false_iff.mp hkw
    -- the first argument is not written `=`, so the words are no assignment
    have hnot : ∀ more, args.map Argument.word ≠ "=" :: more := by
      intro more hm
      cases args with
      | nil => simp at hm
      | cons a rest =>
        simp only [List.map_cons, List.cons.injEq] at hm
        exact hfirst (by simp [Argument.word_eq_eq hm.1])
    have hback : (args.map Argument.word).map Argument.ofWord = args := by
      rw [List.map_map]
      exact (List.map_congr_left fun a ha => Argument.ofWord_word (hargs a ha)).trans
        (List.map_id' args)
    rw [words, ofWords.eq_def]
    -- the match on the words after the name takes its last branch by `hnot`
    simp only [hif, helse, hendif, ↓reduceIte]
    rw [hback]
  | assign v c ih =>
    obtain ⟨-, hkw, hc⟩ := h
    obtain ⟨hif, helse, hendif⟩ := isKeyword_eq_false_iff.mp hkw
    rw [words, ofWords.eq_def]
    simp [hif, helse, hendif, ih hc, Except.map]
  | ifLine c ih =>
    rw [words, ofWords.eq_def]
    simp [ih h, Except.map]
  | elseLine => rfl
  | endifLine => rfl

/-- A well-formed command's line reads back as the command. -/
theorem Command.ofLine_render {c : Command} (h : c.WellFormed) :
    Command.ofLine c.render = .ok c := by
  obtain ⟨w, ws, hws⟩ := List.exists_cons_of_ne_nil c.words_ne_nil
  rw [ofLine, split_render, hws]
  dsimp only
  rw [← hws, ofWords_words h]

-- ----------------------------------------------------------------------------
-- Commands read from a line are well formed
-- ----------------------------------------------------------------------------

theorem Except.map_eq_ok {ε α β : Type} {f : α → β} {x : Except ε α} {b : β} :
    x.map f = .ok b ↔ ∃ a, x = .ok a ∧ f a = b := by
  cases x <;> simp [Except.map]

/-- After a `$` that is not doubled, the rest of a word does not start with `$`. -/
theorem startsWith_dollar_drop {w : String} (h1 : w.startsWith "$" = true)
    (h2 : w.startsWith "$$" = false) :
    (String.ofList (w.toList.drop 1)).startsWith "$" = false := by
  rw [String.startsWith_string_iff] at h1
  rw [String.startsWith_string_eq_false_iff] at h2 ⊢
  obtain ⟨rest, hrest⟩ := h1
  intro hp
  apply h2
  rw [← hrest] at hp ⊢
  simpa using hp

/-- A word without a line feed stands for a well-formed argument. -/
theorem Argument.wellFormed_ofWord {w : String} (hw : '\n' ∉ w.toList) :
    (Argument.ofWord w).WellFormed := by
  have hdrop : '\n' ∉ w.toList.drop 1 := fun h => hw (List.mem_of_mem_drop h)
  unfold ofWord
  split
  · simpa [WellFormed] using hdrop
  · split
    · rename_i h2 h1
      exact ⟨by simpa using hdrop, startsWith_dollar_drop h1 (by simpa using h2)⟩
    · exact hw

/-- The only word that stands for the literal `=` is `=`. -/
theorem Argument.eq_of_ofWord_eq {w : String} (h : Argument.ofWord w = .literal "=") : w = "=" := by
  unfold ofWord at h
  split at h
  · -- a word that starts with `$$` keeps a `$` in front of its literal
    rename_i h2
    rw [String.startsWith_string_iff] at h2
    obtain ⟨rest, hrest⟩ := h2
    have hl := congrArg String.toList (Argument.literal.inj h)
    rw [← hrest] at hl
    simp at hl
  · split at h
    · cases h
    · cases h
      rfl

/-- The command made of words without line feeds is well formed. -/
theorem Command.wellFormed_of_ofWords {ws : List String} {c : Command}
    (h : Command.ofWords ws = .ok c) (hws : ∀ w ∈ ws, '\n' ∉ w.toList) : c.WellFormed := by
  fun_induction Command.ofWords ws generalizing c with
  | case1 => cases h
  | case2 rest ih =>
    obtain ⟨c', hc', rfl⟩ := Except.map_eq_ok.mp h
    show c'.WellFormed
    exact ih hc' fun w hw => hws w (List.mem_cons_of_mem _ hw)
  | case3 | case5 =>
    cases h
    trivial
  | case4 | case6 => cases h
  | case7 head hif helse hendif more ih =>
    obtain ⟨c', hc', rfl⟩ := Except.map_eq_ok.mp h
    exact ⟨hws head (by simp), isKeyword_eq_false_iff.mpr ⟨hif, helse, hendif⟩,
      ih hc' fun w hw => hws w (by simp [hw])⟩
  | case8 head rest hif helse hendif hnot =>
    cases h
    refine ⟨hws head (by simp), isKeyword_eq_false_iff.mpr ⟨hif, helse, hendif⟩, ?_, ?_⟩
    · intro a ha
      obtain ⟨w, hw, rfl⟩ := List.mem_map.mp ha
      exact Argument.wellFormed_ofWord (hws w (by simp [hw]))
    · -- the first argument is not `=`, or the words would have been an assignment
      cases rest with
      | nil => simp
      | cons w ws =>
        intro hw
        simp only [List.map_cons, List.head?_cons, Option.some.injEq] at hw
        exact hnot ws (by rw [Argument.eq_of_ofWord_eq hw])

/-- The command read from a line without a line feed is well formed. -/
theorem Command.wellFormed_of_ofLine {line : String} {c : Command}
    (h : Command.ofLine line = .ok c) (hl : '\n' ∉ line.toList) : c.WellFormed := by
  unfold ofLine Word.split at h
  cases hs : Word.scan [] (.bare none) line.toList with
  | error e => simp [hs] at h
  | ok ws =>
    -- the words take their characters from the line
    have hws : ∀ w ∈ ws, ∀ ch ∈ w, ch ≠ '\n' :=
      Word.scan_forall_chars hs (by simp) (by simp [Cursor.word]) fun ch hch he => hl (he ▸ hch)
    rw [hs] at h
    cases ws with
    | nil =>
      cases h
      exact ⟨by decide, by decide, by simp, by simp⟩
    | cons w ws =>
      refine wellFormed_of_ofWords h fun v hv hn => ?_
      obtain ⟨u, hu, rfl⟩ := List.mem_map.mp hv
      exact hws u hu '\n' (by simpa using hn) rfl

/-- Commands read from lines without line feeds are well formed. -/
theorem Command.forall_wellFormed {ls : List String} {cs : List Command}
    (h : List.Forall₂ (fun l c => Command.ofLine l = .ok c) ls cs)
    (hls : ∀ l ∈ ls, '\n' ∉ l.toList) : ∀ c ∈ cs, c.WellFormed := by
  induction h with
  | nil => simp
  | @cons l c ls cs hlc _ ih =>
    intro c' hc'
    rcases List.mem_cons.mp hc' with rfl | hc'
    · exact wellFormed_of_ofLine hlc (hls l (by simp))
    · exact ih (fun l' hl' => hls l' (by simp [hl'])) c' hc'

-- ----------------------------------------------------------------------------
-- Scripts
-- ----------------------------------------------------------------------------

/-- Reading numbered lines succeeds exactly when every line reads as a command. -/
theorem Script.readLines_eq_ok_iff {n : Nat} {ls : List String} {cs : List Command} :
    Script.readLines n ls = .ok cs ↔
      List.Forall₂ (fun l c => Command.ofLine l = .ok c) ls cs := by
  induction ls generalizing n cs with
  | nil => cases cs <;> simp [readLines]
  | cons l ls ih =>
    cases cs with
    | nil => cases hl : Command.ofLine l <;> simp [readLines, hl, Except.map_eq_ok]
    | cons c cs =>
      rw [List.forall₂_cons]
      cases hl : Command.ofLine l <;> simp [readLines, hl, Except.map_eq_ok, ih, and_comm]

/-- Quoting adds only quote characters. -/
theorem Word.mem_quote {ch : Char} {w : String} (h : ch ∈ (quote w).toList) :
    ch ∈ w.toList ∨ ch = '\'' ∨ ch = '"' := by
  cases hq : needsQuotes w with
  | false =>
    rw [quote_of_needsQuotes_false hq] at h
    exact .inl h
  | true =>
    rw [toList_quote_of_needsQuotes hq] at h
    simp only [List.mem_cons, List.mem_append, List.mem_flatMap, List.not_mem_nil, or_false] at h
    rcases h with h | ⟨c, hc, hch⟩ | h
    · exact .inr (.inl h)
    · -- a character stands for itself, a single quote for quotes only
      by_cases hc' : c = '\''
      · simp only [quoteChar, hc', ↓reduceIte] at hch
        simp at hch
        rcases hch with h | h | h | h | h <;> simp [h]
      · simp [quoteChar, hc'] at hch
        exact .inl (hch ▸ hc)
    · exact .inr (.inl h)

theorem Word.newline_not_mem_quote {w : String} (h : '\n' ∉ w.toList) :
    '\n' ∉ (quote w).toList :=
  fun hm => by rcases mem_quote hm with hm | hm | hm <;> simp_all

theorem Argument.newline_not_mem_render {a : Argument} (h : a.WellFormed) :
    '\n' ∉ a.render.toList := by
  rw [render_eq]
  apply Word.newline_not_mem_quote
  cases a with
  | literal v =>
    simp only [word]
    split <;> simpa [WellFormed] using h
  | var n => simpa [word, WellFormed] using h.1

/-- A well-formed command is written on one line. -/
theorem Command.newline_not_mem_render {c : Command} (h : c.WellFormed) :
    '\n' ∉ c.render.toList := by
  induction c with
  | call f args =>
    obtain ⟨hf, -, hargs, -⟩ := h
    simp only [render, String.toList_append, String.toList_join, List.mem_append, not_or]
    refine ⟨Word.newline_not_mem_quote hf, fun hm => ?_⟩
    obtain ⟨_, hs, hm⟩ := List.mem_flatMap.mp hm
    obtain ⟨a, ha, rfl⟩ := List.mem_map.mp hs
    rw [String.toList_append, List.mem_append] at hm
    rcases hm with hm | hm
    · simp at hm
    · exact Argument.newline_not_mem_render (hargs a ha) hm
  | assign v c ih =>
    obtain ⟨hv, -, hc⟩ := h
    simp only [render, String.toList_append, List.mem_append, not_or]
    exact ⟨⟨Word.newline_not_mem_quote hv, by decide⟩, ih hc⟩
  | ifLine c ih =>
    simp only [render, String.toList_append, List.mem_append, not_or]
    exact ⟨by decide, ih h⟩
  | elseLine | endifLine => decide

/-- No piece of a list split at `a` holds `a`. -/
theorem List.not_mem_of_mem_splitOn {α : Type} [BEq α] [LawfulBEq α] {a : α} {xs l : List α}
    (h : l ∈ xs.splitOn a) : a ∉ l := by
  induction xs generalizing l with
  | nil =>
    simp at h
    simp [h]
  | cons x xs ih =>
    rw [List.splitOn_cons_eq_if_modifyHead] at h
    split at h
    · rcases List.mem_cons.mp h with rfl | h
      · simp
      · exact ih h
    · rename_i hx
      obtain ⟨m, ms, hms⟩ := List.exists_cons_of_ne_nil (List.splitOn_ne_nil a xs)
      rw [hms, List.modifyHead_cons] at h
      rcases List.mem_cons.mp h with rfl | h
      · -- the piece that grew by `x`, which is not `a`
        simp only [List.mem_cons, not_or]
        exact ⟨fun hax => hx (by simp [hax]), ih (by simp [hms])⟩
      · exact ih (by simp [hms, h])

/-- A script read from a text has a command, and every command of it is well formed: the
text's lines hold no line feed, and there is at least one line. -/
theorem Script.wellFormed_of_parse {source : String} {sc : Script}
    (h : Script.parse source = .ok sc) :
    (∀ c ∈ sc.commands, c.WellFormed) ∧ sc.commands ≠ [] := by
  obtain ⟨cs, hcs, rfl⟩ := Except.map_eq_ok.mp h
  have hread := readLines_eq_ok_iff.mp hcs
  constructor
  · refine Command.forall_wellFormed hread fun l hl => ?_
    obtain ⟨piece, hp, rfl⟩ := List.mem_map.mp hl
    simpa using List.not_mem_of_mem_splitOn hp
  · rintro (rfl : cs = [])
    have hlen := hread.length_eq
    simp [List.splitOn_ne_nil] at hlen

/-- A script of well-formed commands, with at least one, reads back from its rendering: the
rendering splits at line feeds into its commands' lines, and each line reads back. -/
theorem Script.parse_render_of_wellFormed {cs : List Command} (hwf : ∀ c ∈ cs, c.WellFormed)
    (hne : cs ≠ []) : Script.parse (Script.render ⟨cs⟩) = .ok ⟨cs⟩ := by
  have hlines : (render ⟨cs⟩).toList.splitOn '\n' = cs.map fun c => c.render.toList := by
    rw [render, String.toList_intercalate, List.map_map,
      show ("\n" : String).toList = ['\n'] from rfl]
    refine List.splitOn_intercalate '\n' ?_ (by simpa using hne)
    simpa using fun c hc => Command.newline_not_mem_render (hwf c hc)
  rw [parse, hlines, List.map_map]
  simp only [Function.comp_def, String.ofList_toList]
  rw [readLines_eq_ok_iff.mpr]
  · rfl
  · exact List.forall₂_map_left_iff.mpr
      (List.forall₂_same.mpr fun c hc => Command.ofLine_render (hwf c hc))

/-- A script read from a text renders to a text that reads back as the same script. -/
theorem Script.parse_render {source : String} {sc : Script} (h : Script.parse source = .ok sc) :
    Script.parse sc.render = .ok sc := by
  obtain ⟨hwf, hne⟩ := wellFormed_of_parse h
  exact parse_render_of_wellFormed hwf hne

/-- Exactly the scripts that have a command and whose commands are all well formed read back
from their rendering: any other script renders to a text that fails to read, or that reads as
another script. -/
theorem Script.parse_render_iff (sc : Script) :
    Script.parse sc.render = .ok sc ↔ sc.commands ≠ [] ∧ ∀ c ∈ sc.commands, c.WellFormed := by
  constructor
  · intro h
    obtain ⟨hwf, hne⟩ := wellFormed_of_parse h
    exact ⟨hne, hwf⟩
  · rintro ⟨hne, hwf⟩
    exact parse_render_of_wellFormed hwf hne

/-- A result known through its option is known: what the kernel evaluates as an option,
whose equality is decidable, is the result. -/
theorem Except.eq_ok_of_toOption_eq {ε α : Type} {x : Except ε α} {a : α}
    (h : x.toOption = some a) : x = .ok a := by
  cases x <;> simp_all [Except.toOption]

/-- A script with an assignment, a block, a quoted word and a doubled `$` reads back from
its rendering. -/
theorem Script.parse_render_block :
    let source := "x = id 'a b'\nif holds $x\necho $$5\nelse\nendif"
    let sc : Script := ⟨[.assign "x" (.call "id" [.literal "a b"]),
      .ifLine (.call "holds" [.var "x"]), .call "echo" [.literal "$5"], .elseLine, .endifLine]⟩
    Script.parse source = .ok sc ∧ Script.parse sc.render = .ok sc := by
  intro source sc
  have h : Script.parse source = .ok sc := Except.eq_ok_of_toOption_eq (by decide +kernel)
  exact ⟨h, Script.parse_render h⟩

end LineScript
