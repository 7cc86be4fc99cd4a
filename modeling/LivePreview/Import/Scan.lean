import LivePreview.Code.Reading
import LivePreview.Import.Statement
import LivePreview.Text.Line
/-!
# LivePreview.Import.Scan

The **line scan** finds import statements without parsing the component. A statement starts on
a line that opens with `import`; it ends behind its first semicolon outside literals and
comments, or where a quoted module name ends the line, and it goes on over following lines only
while they look like a continuation. What follows a statement on its last line may be another
one.

Design points:

* The scan works on lines that keep their ends, so each **cut** is a stretch of the source by
  construction, and its byte range is computed from what was walked over.
* Where a statement ends is decided character by character by a reader (`Code.Reading`) whose
  state is carried from line to line, so the end always lies on the last line of the statement.
* A cut is made whether or not the statement has one of the known shapes; the sweep of lines
  that still open an import (`sweep`) therefore has work to do only behind other scanners.
-/

namespace LivePreview

open Text
open Code (Reading)

namespace ImportScan

/-! ### Opening and continuing lines -/

/-- Does this trimmed line open an import statement? -/
def opensImport (line : List Char) : Bool :=
  match dropLead? "import".toList line with
  | some [] => true
  | some (c :: _) => isBlank c || c == '{' || c == '*' || c == '"' || c == '\''
  | none => false

/-- Does this trimmed line look like a further line of a statement? -/
def continues (line : List Char) : Bool :=
  startsWith "from".toList line || startsWith "//".toList line || startsWith "/*".toList line ||
  match line with
  | c :: _ => c == ',' || c == '{' || c == '}' || c == '*' || isLetter c || c == '_' || c == '$'
  | [] => false

/-! ### The end of a statement -/

/-- The text through the first semicolon outside literals and comments, and the text behind. -/
def cutTerminator? : Reading → List Char → Option (List Char × List Char)
  | _, [] => none
  | state, c :: rest =>
    if state.isCode && c = ';' then some ([';'], rest)
    else (cutTerminator? (state.step true c) rest).map fun (upTo, after) => (c :: upTo, after)

/-- A cut loses nothing. -/
theorem cutTerminator?_append {state : Reading} {text upTo after : List Char}
    (h : cutTerminator? state text = some (upTo, after)) : upTo ++ after = text := by
  induction text generalizing state upTo with
  | nil => simp [cutTerminator?] at h
  | cons c rest ih =>
    simp only [cutTerminator?] at h
    split at h
    · next hc =>
      simp only [Bool.and_eq_true, decide_eq_true_eq] at hc
      simp only [Option.some.injEq, Prod.mk.injEq] at h
      obtain ⟨rfl, rfl⟩ := h
      simp [hc.2]
    · obtain ⟨⟨u, a⟩, hu, he⟩ := Option.map_eq_some_iff.1 h
      simp only [Prod.mk.injEq] at he
      obtain ⟨rfl, rfl⟩ := he
      simp [ih hu]

/-- A cut takes the semicolon at least. -/
theorem length_lt_of_cutTerminator? {state : Reading} {text upTo after : List Char}
    (h : cutTerminator? state text = some (upTo, after)) : after.length < text.length := by
  have hne : upTo ≠ [] := by
    cases text with
    | nil => simp [cutTerminator?] at h
    | cons c rest =>
      simp only [cutTerminator?] at h
      split at h
      · simp only [Option.some.injEq, Prod.mk.injEq] at h
        simp [← h.1]
      · obtain ⟨⟨u, a⟩, _, he⟩ := Option.map_eq_some_iff.1 h
        simp only [Prod.mk.injEq] at he
        simp [← he.1]
  have hl := congrArg List.length (cutTerminator?_append h)
  have hp := List.length_pos_iff.2 hne
  simp only [List.length_append] at hl
  omega

/-- Does the text, apart from comments and blanks at its end, end with a quoted module name
behind `from`, or is it `import` and a quoted name? The name holds no line end. -/
def closesModule (text : List Char) : Bool :=
  match (trimEnd (ImportStatement.withoutComments text)).reverse with
  | [] => false
  | quote :: back =>
    let inName := fun c => c != quote && c != '\n'
    (quote == '"' || quote == '\'') &&
    match back.dropWhile inName with
    | [] => false
    | opening :: before =>
      opening == quote &&
      let lead := trimStart before
      match dropLead? "morf".toList lead, dropLead? "tropmi".toList lead with
      | some [], _ => true
      | some (c :: _), _ => !isWord c
      | none, some front => allBlank front
      | none, none => false

/-- How far a statement reaches. -/
structure Extent where
  /-- The text of the statement, from its start on. -/
  statement : List Char
  /-- What is left of the content of its last line. -/
  tail : List Char
  /-- The end of its last line. -/
  ending : List Char
  /-- The lines behind. -/
  later : List Line
  deriving Repr

/-- Follows a statement. `state` and `taken` tell what was read of it before `line`. -/
def Extent.find (state : Reading) (taken : List Char) (line : Line) (later : List Line) :
    Extent :=
  match cutTerminator? state line.content with
  | some (upTo, after) => ⟨taken ++ upTo, after, line.ending, later⟩
  | none =>
    let read := taken ++ line.content
    if closesModule read then ⟨read, [], line.ending, later⟩
    else
      match later with
      | [] => ⟨read, [], line.ending, []⟩
      | next :: others =>
        let trimmed := trim next.content
        if opensImport trimmed || !continues trimmed then ⟨read, [], line.ending, next :: others⟩
        else Extent.find (line.text.foldl (Reading.step true) state) (taken ++ line.text) next others

/-- A statement ends behind a semicolon or with the content of a line, or goes on with the next line. -/
theorem Extent.find_induction {motive : Reading → List Char → Line → List Line → Prop}
    (terminated : ∀ state taken line later upTo after,
      cutTerminator? state line.content = some (upTo, after) →
      Extent.find state taken line later = ⟨taken ++ upTo, after, line.ending, later⟩ →
      motive state taken line later)
    (ended : ∀ state taken line later,
      Extent.find state taken line later = ⟨taken ++ line.content, [], line.ending, later⟩ →
      motive state taken line later)
    (goesOn : ∀ state taken line next others,
      Extent.find state taken line (next :: others) =
        Extent.find (line.text.foldl (Reading.step true) state) (taken ++ line.text) next others →
      motive (line.text.foldl (Reading.step true) state) (taken ++ line.text) next others →
      motive state taken line (next :: others))
    (state : Reading) (taken : List Char) (line : Line) (later : List Line) :
    motive state taken line later := by
  induction later generalizing state taken line with
  | nil =>
    cases hc : cutTerminator? state line.content with
    | some found =>
      refine terminated state taken line [] found.1 found.2 hc ?_
      rw [Extent.find, hc]
    | none =>
      refine ended state taken line [] ?_
      rw [Extent.find, hc]
      exact ite_self _
  | cons next others ih =>
    have hfind := Extent.find.eq_def state taken line (next :: others)
    split at hfind
    · next upTo after hc => exact terminated state taken line _ upTo after hc hfind
    · dsimp only at hfind
      split at hfind
      · exact ended state taken line _ hfind
      · split at hfind
        · exact ended state taken line _ hfind
        · exact goesOn state taken line next others hfind (ih _ _ next)

/-- Following a statement never goes back, and unless it goes on to a later line, something is
left of the line only behind a semicolon. -/
theorem Extent.find_shrinks (state : Reading) (taken : List Char) (line : Line)
    (later : List Line) :
    (Extent.find state taken line later).later.length ≤ later.length ∧
    ((Extent.find state taken line later).tail ≠ [] →
      (Extent.find state taken line later).later.length < later.length ∨
      (Extent.find state taken line later).tail.length < line.content.length) := by
  induction state, taken, line, later using Extent.find_induction with
  | terminated state taken line later upTo after hc hfind =>
    rw [hfind]
    exact ⟨Nat.le_refl _, fun _ => .inr (length_lt_of_cutTerminator? hc)⟩
  | ended state taken line later hfind =>
    rw [hfind]
    exact ⟨Nat.le_refl _, fun h => absurd rfl h⟩
  | goesOn state taken line next others hfind ih =>
    rw [hfind, List.length_cons]
    exact ⟨Nat.le_succ_of_le ih.1, fun _ => .inl (Nat.lt_succ_of_le ih.1)⟩

/-- Statement, tail, line end and later lines make up what was walked over. -/
theorem Extent.find_append (state : Reading) (taken : List Char) (line : Line)
    (later : List Line) :
    let extent := Extent.find state taken line later
    extent.statement ++ (extent.tail ++ (extent.ending ++ extent.later.flatMap Line.text)) =
      taken ++ (line.text ++ later.flatMap Line.text) := by
  dsimp only
  induction state, taken, line, later using Extent.find_induction with
  | terminated state taken line later upTo after hc hfind =>
    simp [hfind, ← cutTerminator?_append hc, Line.text]
  | ended state taken line later hfind => simp [hfind, Line.text]
  | goesOn state taken line next others hfind ih => simpa [hfind] using ih

/-! ### Cuts -/

/-- A statement that is taken out of the source. -/
structure Cut where
  /-- The bytes to remove. -/
  span : SourceSpan
  /-- The text of the statement. -/
  statement : List Char
  deriving Repr

/-- The record of a cut, if the statement has a known shape. -/
def Cut.record? (cut : Cut) : Option ImportRecord :=
  ImportStatement.parse? cut.span cut.statement

set_option linter.unusedVariables false in
/-- The cuts from byte `offset` on, where `line` and `later` are still to be read. At the start
of a line only an opening line begins a statement; within a line one begins at once. -/
def cutsFrom (offset : Nat) (atStart : Bool) (line : Line) (later : List Line) : List Cut :=
  if atStart && !opensImport (trim line.content) then
    match later with
    | [] => []
    | next :: others => cutsFrom (offset + byteSize line.text) true next others
  else
    let extent := Extent.find .code [] line later
    let statementEnd := offset + byteSize extent.statement
    let lineEnd := statementEnd + byteSize extent.tail + byteSize extent.ending
    let closes := allBlank extent.tail
    let cut : Cut := ⟨⟨offset, if closes then lineEnd else statementEnd⟩, extent.statement⟩
    cut ::
      if h : extent.tail ≠ [] ∧ closes = false ∧ opensImport (trim extent.tail) = true then
        let tail := trimStart extent.tail
        cutsFrom (statementEnd + byteSize (extent.tail.takeWhile isBlank)) false
          ⟨tail, extent.ending⟩ extent.later
      else
        match hl : extent.later with
        | [] => []
        | next :: others => cutsFrom lineEnd true next others
termination_by (later.length, line.content.length)
decreasing_by
  · simp only [Prod.lex_def, List.length_cons]
    omega
  · have hs := Extent.find_shrinks .code [] line later
    have ht : (trimStart (Extent.find .code [] line later).tail).length ≤
        (Extent.find .code [] line later).tail.length := by
      unfold trimStart
      exact (List.dropWhile_suffix _).length_le
    simp only [Prod.lex_def]
    rcases hs.2 h.1 with h1 | h1
    · exact .inl h1
    · rcases Nat.lt_or_eq_of_le hs.1 with h2 | h2
      · exact .inl h2
      · exact .inr ⟨h2, by omega⟩
  · have hs := (Extent.find_shrinks .code [] line later).1
    have hn : (Extent.find .code [] line later).later.length = others.length + 1 := by
      simpa using congrArg List.length hl
    simp only [Prod.lex_def]
    omega

/-- The cuts of a source, in order. -/
def cuts (source : List Char) : List Cut :=
  match lines source with
  | [] => []
  | line :: later => cutsFrom 0 true line later

/-! ### Removing ranges -/

/-- The text from byte `cursor` on without the ranges, which are in ascending order; a range
that begins before the cursor is passed over. -/
def removeSpans.go (cursor : Nat) (text : List Char) : List SourceSpan → List Char
  | [] => text
  | span :: rest =>
    if span.start < cursor then removeSpans.go cursor text rest
    else
      takeBytes (span.start - cursor) text ++
        removeSpans.go span.stop (dropBytes (span.stop - cursor) text) rest

/-- The text without the ranges, which are in ascending order. -/
def removeSpans (text : List Char) (spans : List SourceSpan) : List Char :=
  removeSpans.go 0 text spans

/-- The text without the lines that still open an import. -/
def sweep (text : List Char) : List Char :=
  ((rawLines text).filter fun line => !opensImport (trim line)).flatten

end ImportScan

/-! ### The result of a scan -/

/-- What a scan for imports finds. -/
structure ImportScan where
  /-- The statements of a known shape, in source order. -/
  records : List ImportRecord
  /-- The source without import statements. -/
  stripped : String
  /-- The statements of no known shape. -/
  dropped : List String
  deriving Repr, DecidableEq

/-- The line scan of a source. -/
def ImportScan.ofLines (source : String) : ImportScan :=
  let text := source.toList
  let found := cuts text
  { records := found.filterMap Cut.record?
    stripped := String.ofList (sweep (removeSpans text (found.map Cut.span)))
    dropped := (found.filter (·.record?.isNone)).map fun cut =>
      String.ofList (trim cut.statement) }

end LivePreview
