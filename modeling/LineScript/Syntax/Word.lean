import LineScript.Text.Escaped

/-! ## Words of a line

A line is split into words the way a shell does it. Blanks (space, tab, carriage return,
line feed) separate words. Single quotes keep everything up to the next single quote.
Double quotes keep everything except `\"` and `\\`, which stand for `"` and `\`; a
backslash before any other character stays. Outside quotes a backslash takes the next
character as it is. Quoted and bare runs that touch form one word, and an empty pair of
quotes is an empty word.

`Word.split` is a scan over the characters with a `Cursor` that says whether a word has
started and whether a quote is open.
-/

namespace LineScript

/-- The characters that separate words. -/
def isBlank (c : Char) : Bool :=
  c = ' ' || c = '\t' || c = '\r' || c = '\n'

/-- Why a line cannot be split into words. -/
inductive WordFault where
  /-- A quote was opened and the line ended before it closed. -/
  | unclosedQuote (quote : Char)
  /-- The line ended right after a backslash outside quotes. -/
  | danglingEscape
  deriving DecidableEq, Repr

/-- The text of a fault, without the line. -/
def WordFault.message : WordFault → String
  | .unclosedQuote q => "no closing quotation (" ++ q.toString ++ ")"
  | .danglingEscape => "no escaped character"

/-- A fault together with the whole line it was found in. -/
structure WordError where
  fault : WordFault
  line : String
  deriving DecidableEq, Repr

/-- The text of a word error: the fault, then the line as escaped text. -/
def WordError.message (e : WordError) : String :=
  e.fault.message ++ " in line " ++ Text.escaped e.line

/-- Where the scan stands: outside quotes, with the word read so far if one has started
(an empty pair of quotes starts a word), or inside single or double quotes. -/
inductive Cursor where
  | bare (word : Option (List Char))
  | single (word : List Char)
  | double (word : List Char)
  deriving DecidableEq, Repr

namespace Word

/-- Splits the rest of a line. `done` holds the finished words in order. -/
def scan (done : List (List Char)) : Cursor → List Char → Except WordFault (List (List Char))
  | .bare cur, [] => .ok (done ++ cur.toList)
  | .single _, [] => .error (.unclosedQuote '\'')
  | .double _, [] => .error (.unclosedQuote '"')
  | .bare cur, c :: rest =>
    let w := cur.getD []
    if isBlank c then scan (done ++ cur.toList) (.bare none) rest
    else if c = '\'' then scan done (.single w) rest
    else if c = '"' then scan done (.double w) rest
    else if c = '\\' then
      match rest with
      | [] => .error .danglingEscape
      | d :: rest' => scan done (.bare (some (w ++ [d]))) rest'
    else scan done (.bare (some (w ++ [c]))) rest
  | .single w, c :: rest =>
    if c = '\'' then scan done (.bare (some w)) rest else scan done (.single (w ++ [c])) rest
  | .double w, c :: rest =>
    if c = '"' then scan done (.bare (some w)) rest
    else if c = '\\' then
      match rest with
      | [] => .error (.unclosedQuote '"')
      | d :: rest' =>
        if d = '"' || d = '\\' then scan done (.double (w ++ [d])) rest'
        else scan done (.double (w ++ ['\\', d])) rest'
    else scan done (.double (w ++ [c])) rest

end Word

/-- The words of a line, or the fault that stops the split. -/
def Word.split (line : String) : Except WordError (List String) :=
  match Word.scan [] (.bare none) line.toList with
  | .ok ws => .ok (ws.map String.ofList)
  | .error fault => .error { fault, line }

/-- Whether a word must stand in quotes to be read back as itself: it is empty, or it holds
a blank, a quote or a backslash. -/
def Word.needsQuotes (w : String) : Bool :=
  w.isEmpty || w.any fun c => isBlank c || c = '\'' || c = '"' || c = '\\'

/-- How one character is written inside single quotes: a single quote closes the quotes,
stands in double quotes and opens them again. -/
def Word.quoteChar (c : Char) : String :=
  if c = '\'' then "'\"'\"'" else c.toString

/-- A word written so that `Word.split` reads it back as that one word: as it is when
that is safe, otherwise in single quotes. -/
def Word.quote (w : String) : String :=
  if Word.needsQuotes w then "'" ++ String.join (w.toList.map Word.quoteChar) ++ "'" else w

end LineScript
