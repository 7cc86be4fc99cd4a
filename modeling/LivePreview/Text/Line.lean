import LivePreview.Text.Utf8
/-!
# LivePreview.Text.Line

**Lines with their ends.** A line keeps its content apart from its end: the line feed and the
carriage returns before it. Putting contents and ends together again gives the text back, so
a scanner that works on lines never has to guess what stood between two of them.
-/

namespace LivePreview.Text

/-- One line of a text. -/
structure Line where
  /-- The characters before the end. -/
  content : List Char
  /-- Carriage returns and at most one line feed. -/
  ending : List Char
  deriving Repr, DecidableEq

namespace Line

/-- The whole line. -/
def text (line : Line) : List Char :=
  line.content ++ line.ending

/-- The line that `raw` is: carriage returns and a line feed at its end are the line's end. -/
def ofRaw (raw : List Char) : Line :=
  let back := raw.reverse
  let feed := back.takeWhile (· == '\n')
  let more := back.dropWhile (· == '\n')
  ⟨(more.dropWhile (· == '\r')).reverse, (more.takeWhile (· == '\r')).reverse ++ feed.reverse⟩

@[simp] theorem text_ofRaw (raw : List Char) : (ofRaw raw).text = raw := by
  simp only [ofRaw, text]
  rw [← List.append_assoc, ← List.reverse_append, List.takeWhile_append_dropWhile,
    ← List.reverse_append, List.takeWhile_append_dropWhile, List.reverse_reverse]

end Line

/-- The pieces of a text, each up to and with a line feed; the last one may lack it. -/
def rawLines : List Char → List (List Char)
  | [] => []
  | c :: rest =>
    if c = '\n' then ['\n'] :: rawLines rest
    else
      match rawLines rest with
      | [] => [[c]]
      | first :: others => (c :: first) :: others

@[simp] theorem flatten_rawLines (text : List Char) : (rawLines text).flatten = text := by
  induction text with
  | nil => rfl
  | cons c rest ih =>
    simp only [rawLines]
    split
    · next h => simp [ih, h]
    · split
      · next h => rw [h] at ih; simp at ih; simp [ih]
      · next h => rw [h] at ih; simp at ih; simp [ih]

/-- The lines of a text. -/
def lines (text : List Char) : List Line :=
  (rawLines text).map Line.ofRaw

/-- The lines make up the text. -/
theorem flatMap_text_lines (text : List Char) : (lines text).flatMap Line.text = text := by
  simp [lines, List.flatMap_def, Function.comp_def]

/-- The lines without their ends: the line feed goes, and with it one carriage return. -/
def lineContents (text : List Char) : List (List Char) :=
  (rawLines text).map fun raw =>
    match raw.reverse with
    | '\n' :: '\r' :: back => back.reverse
    | '\n' :: back => back.reverse
    | back => back.reverse

end LivePreview.Text
