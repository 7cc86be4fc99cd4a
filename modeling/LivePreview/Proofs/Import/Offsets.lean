import LivePreview.Proofs.Code.TypeOffsets
import LivePreview.Proofs.Import.Strict
/-!
# LivePreview.Proofs.Import.Offsets

**The scan for imports by byte positions.** The line scan can also be carried out on positions alone: where
lines begin and end, where a statement ends and where the next one begins are numbers, and whatever is read
is a slice of the source (`cutsAt?`). Every slice is in bounds, and the cuts are those of the scan over
lines (`cutsAt?_eq`). The same holds when the ranges are taken out (`removeSpansAt?_eq`), so both scans of a
source come to their result in this way (`ofSourceAt?_eq`), and the removal of type declarations to its own
(`slices_inBounds`).

What carries the proof is that the scan stands in front of lines which are all that is left of the text
(`StandsAt`): from there on, slices that meet make up the statement and what follows it.
-/

namespace LivePreview.ImportScan

open Text
open Code (Reading byteScan byteScan_induction Follows ne_of_high)

/-! ### The end of a statement -/

section Terminator

variable {state place : Reading} {text mid a b : List Char}

/-- A byte of code ends a statement if it is a semicolon. -/
def overByte (_ : Unit) (i : Nat) (c : Char) : Unit ⊕ Option Nat :=
  if c = ';' then .inr (some i) else .inl ()

/-- The position of the first semicolon outside literals and comments. -/
def terminator? (text : List Char) : Option Nat :=
  byteScan true overByte none (encode text) 0 none ()

/-- Where no semicolon ends it, a text is read over. -/
theorem cutTerminator?_append_of_none (h : cutTerminator? state a = none) (b : List Char) :
    cutTerminator? state (a ++ b) =
      (cutTerminator? (a.foldl (Reading.step true) state) b).map fun cut => (a ++ cut.1, cut.2) := by
  induction a generalizing state with
  | nil => simp
  | cons c a ih =>
    rw [cutTerminator?] at h
    split at h
    · cases h
    · next hc =>
      rw [List.cons_append, cutTerminator?, if_neg hc, ih (Option.map_eq_none_iff.1 h), Option.map_map]
      rfl

theorem cutTerminator?_of_not_mem (h : ';' ∉ text) (state : Reading) :
    cutTerminator? state text = none := by
  induction text generalizing state with
  | nil => rfl
  | cons c text ih =>
    rw [List.mem_cons, not_or] at h
    rw [cutTerminator?, if_neg (by simp [Ne.symm h.1]), ih h.2]
    rfl

/-- Where a reader passes, no semicolon ends a statement. -/
theorem cutTerminator?_of_passes (h : Reading.Passes true place mid) : cutTerminator? place mid = none := by
  induction mid generalizing place with
  | nil => rfl
  | cons c mid ih =>
    obtain ⟨hcode, -, hmid⟩ := h
    have hc : ¬(place.isCode && c = ';') = true := by
      intro hc
      simp only [Bool.and_eq_true, decide_eq_true_eq] at hc
      obtain ⟨hp, rfl⟩ := hc
      exact absurd (hcode hp) (by decide)
    rw [cutTerminator?, if_neg hc, ih hmid]
    rfl

theorem cutTerminator?_cons_of_ne {c : Char} (hc : c ≠ ';') (text : List Char) :
    cutTerminator? place (c :: text) =
      (cutTerminator? (place.step true c) text).map fun cut => (c :: cut.1, cut.2) := by
  rw [cutTerminator?, if_neg (by simp [hc])]

/-- The scan finds the position of the semicolon that the reader finds. -/
def FindsTerminator (front : List Char) (place : Reading) (_ : Unit) (text : List Char)
    (result : Option Nat) : Prop :=
  result.map (· + 1) = (cutTerminator? place text).map fun cut => byteSize front + byteSize cut.1

theorem follows_overByte (source : List Char) : Follows true overByte none source FindsTerminator where
  high s i c h := if_neg (ne_of_high h (by decide))
  finish front place s := rfl
  pass := by
    intro front place s r mid text hpasses hrest
    rw [FindsTerminator, cutTerminator?_append_of_none (cutTerminator?_of_passes hpasses), hrest,
      Option.map_map]
    simp only [Function.comp_def, byteSize_append, Nat.add_assoc]
  idle := by
    intro front place s c text r hhigh hrest
    rw [FindsTerminator, cutTerminator?_cons_of_ne (ne_of_high hhigh (by decide)), hrest, Option.map_map]
    simp only [Function.comp_def, byteSize_append, byteSize_cons, byteSize_nil, Nat.add_assoc, Nat.add_zero]
  goOn := by
    intro front place s c text s' r _ _ hcode hrest
    have hc : c ≠ ';' := by
      intro hc
      rw [overByte, if_pos hc] at hcode
      cases hcode
    rw [FindsTerminator, cutTerminator?_cons_of_ne hc, hrest, Option.map_map]
    simp only [Function.comp_def, byteSize_append, byteSize_cons, byteSize_nil, Nat.add_assoc, Nat.add_zero]
  stop := by
    intro front place s c text r _ hreads hcode
    rw [overByte] at hcode
    split at hcode
    · next hc =>
      subst hc
      cases hcode
      have hp : place.isCode = true := hreads.resolve_right fun h => absurd h.2 (by decide)
      rw [FindsTerminator, cutTerminator?, hp]
      rfl
    · cases hcode

/-- **The semicolon** is where a reader of the text finds it. -/
theorem terminator?_eq (text : List Char) :
    (terminator? text).map (· + 1) = (cutTerminator? .code text).map fun cut => byteSize cut.1 := by
  have h : FindsTerminator [] .code () text (terminator? text) :=
    byteScan_induction (follows_overByte text) [] text rfl (.code text)
  simpa only [FindsTerminator, byteSize_nil, Nat.zero_add] using h

end Terminator

/-! ### The scan -/

/-- Where a line stands in the source. -/
structure LinePlace where
  start : Nat
  /-- The end of its content. -/
  contentEnd : Nat
  /-- The end of the line. -/
  stop : Nat

/-- The places of lines that stand from the position `offset` on. -/
def linePlaces (offset : Nat) : List Line → List LinePlace
  | [] => []
  | line :: later =>
    ⟨offset, offset + byteSize line.content, offset + byteSize line.content + byteSize line.ending⟩ ::
      linePlaces (offset + byteSize line.content + byteSize line.ending) later

/-- How far a statement reaches. -/
structure Reach where
  last : LinePlace
  later : List LinePlace
  /-- The position behind its semicolon. -/
  terminator : Option Nat

/-- Follows the statement from the position `start` on over the lines. -/
def follow? (text : List Char) (start : Nat) (last : LinePlace) (later : List LinePlace) :
    Option Reach := do
  let read ← slice? text start last.contentEnd
  match terminator? read with
  | some semicolon => return ⟨last, later, some (start + semicolon + 1)⟩
  | none =>
    if closesModule read then return ⟨last, later, none⟩
    else
      match later with
      | [] => return ⟨last, [], none⟩
      | next :: others =>
        let content ← slice? text next.start next.contentEnd
        if opensImport (trim content) || !continues (trim content) then
          return ⟨last, next :: others, none⟩
        else follow? text start next others

/-- A statement that was found, and where the scan goes on: on its last line or behind. -/
structure Found where
  cut : Cut
  resume : Option Nat
  last : LinePlace
  later : List LinePlace

/-- The statement from the position `start` on. -/
def statement? (text : List Char) (start : Nat) (place : LinePlace) (later : List LinePlace) :
    Option Found := do
  let reach ← follow? text start place later
  let statementEnd := reach.terminator.getD reach.last.contentEnd
  let behind ← slice? text statementEnd reach.last.stop
  let stop := if allBlank behind then reach.last.stop else statementEnd
  let statement ← slice? text start statementEnd
  let tail ← slice? text statementEnd reach.last.contentEnd
  let trimmed := trimStart tail
  let resume :=
    if stop = statementEnd ∧ opensImport (trimEnd trimmed) = true then
      some (statementEnd + (byteSize tail - byteSize trimmed))
    else none
  return ⟨⟨⟨start, stop⟩, statement⟩, resume, reach.last, reach.later⟩

/-- Where the next statement begins: where the last one was left, or at the start of an opening line. -/
def opening? (text : List Char) (place : LinePlace) : Option Nat → Option (Option Nat)
  | some offset => some (some offset)
  | none => do
    let content ← slice? text place.start place.contentEnd
    return if opensImport (trim content) then some place.start else none

section Forward

variable {text : List Char} {start : Nat} {place : LinePlace} {later : List LinePlace} {found : Found}

theorem follow?_forward {reach : Reach} (h : follow? text start place later = some reach) :
    reach.later.length ≤ later.length ∧ ∀ stop ∈ reach.terminator, start < stop := by
  have hend : ∀ {last : LinePlace} {behind lines : List LinePlace},
      reach = ⟨last, behind, none⟩ → behind.length ≤ lines.length →
      reach.later.length ≤ lines.length ∧ ∀ stop ∈ reach.terminator, start < stop := by
    rintro last behind lines rfl hle
    exact ⟨hle, fun stop hs => by cases hs⟩
  induction later generalizing place with
  | nil =>
    rw [follow?] at h
    simp only [Option.bind_eq_bind, Option.bind_eq_some_iff] at h
    obtain ⟨read, -, h⟩ := h
    split at h
    · cases h
      exact ⟨Nat.le_refl _, fun stop hs => by cases hs; omega⟩
    · split at h <;> cases h <;> exact hend rfl (Nat.le_refl _)
  | cons next others ih =>
    rw [follow?] at h
    simp only [Option.bind_eq_bind, Option.bind_eq_some_iff] at h
    obtain ⟨read, -, h⟩ := h
    split at h
    · cases h
      exact ⟨Nat.le_refl _, fun stop hs => by cases hs; omega⟩
    · split at h
      · cases h
        exact hend rfl (Nat.le_refl _)
      · simp only [Option.bind_eq_some_iff] at h
        obtain ⟨content, -, h⟩ := h
        split at h
        · cases h
          exact hend rfl (Nat.le_refl _)
        · obtain ⟨hle, hstop⟩ := ih h
          exact ⟨Nat.le_succ_of_le hle, hstop⟩

/-- The scan goes on behind the start of the statement. -/
theorem statement?_forward (h : statement? text start place later = some found) :
    found.later.length ≤ later.length ∧
      ∀ offset ∈ found.resume, start < offset ∧ offset ≤ byteSize text := by
  simp only [statement?, Option.bind_eq_bind, Option.bind_eq_some_iff] at h
  obtain ⟨reach, hreach, behind, -, statement, -, tail, htail, h⟩ := h
  obtain ⟨hle, hstop⟩ := follow?_forward hreach
  cases h
  refine ⟨hle, fun offset hoffset => ?_⟩
  obtain ⟨⟨-, hopens⟩, hsome⟩ := Option.ite_none_right_eq_some.1 hoffset
  cases hsome
  obtain ⟨front, rest, htext, hstart, hend⟩ := slice?_eq_some_iff.1 htail
  have hsize := congrArg byteSize htext
  simp only [byteSize_append] at hsize
  cases hterminator : reach.terminator with
  | some stop =>
    have hless := hstop stop hterminator
    rw [hterminator, Option.getD_some] at hstart
    rw [Option.getD_some]
    omega
  | none =>
    -- Without a semicolon the statement takes the whole line, and nothing is left to go on with.
    rw [hterminator, Option.getD_none] at hstart
    have hnil : tail = [] := by
      have hlength := length_le_byteSize tail
      exact List.eq_nil_of_length_eq_zero (by omega)
    rw [hnil] at hopens
    exact absurd hopens (by decide)

theorem opening?_forward {resume : Option Nat} (h : opening? text place resume = some (some start)) :
    resume.getD 0 ≤ start := by
  cases resume with
  | none => exact Nat.zero_le _
  | some offset =>
    cases h
    exact Nat.le_refl _

end Forward

set_option linter.unusedVariables false in
/-- The cuts from the line at `place` on, or from the position on it where the last statement was left. -/
def cutsFromAt? (text : List Char) (resume : Option Nat) (place : LinePlace) (later : List LinePlace) :
    Option (List Cut) :=
  match ho : opening? text place resume with
  | none => none
  | some none =>
    match later with
    | [] => some []
    | next :: others => cutsFromAt? text none next others
  | some (some start) =>
    match hs : statement? text start place later with
    | none => none
    | some found =>
      match hr : found.resume with
      | some offset => (cutsFromAt? text (some offset) found.last found.later).map (found.cut :: ·)
      | none =>
        match hl : found.later with
        | [] => some [found.cut]
        | next :: others => (cutsFromAt? text none next others).map (found.cut :: ·)
termination_by (later.length, byteSize text - resume.getD 0)
decreasing_by
  · simp only [Prod.lex_def, List.length_cons]
    omega
  · have hforward := statement?_forward hs
    have hoffset := hforward.2 offset hr
    have hopening := opening?_forward ho
    simp only [Prod.lex_def, Option.getD_some]
    omega
  · have hforward := (statement?_forward hs).1
    rw [hl, List.length_cons] at hforward
    simp only [Prod.lex_def]
    omega

/-! ### Statements -/

/-- From the position `offset` on, what is left of the text are these lines, the first of which is at
`place`. -/
structure StandsAt (text : List Char) (offset : Nat) (place : LinePlace) (line : Line) (later : List Line) :
    Prop where
  rest : slice? text offset (byteSize text) = some (line.text ++ later.flatMap Line.text)
  contentEnd : place.contentEnd = offset + byteSize line.content
  stop : place.stop = place.contentEnd + byteSize line.ending
  areLines : AreLines (line :: later)

namespace StandsAt

variable {text upTo after : List Char} {offset : Nat} {place : LinePlace} {line next : Line}
  {later others : List Line}

theorem slice?_content (h : StandsAt text offset place line later) :
    slice? text offset place.contentEnd = some line.content := by
  have hrest := h.rest
  rw [Line.text, List.append_assoc] at hrest
  rw [h.contentEnd]
  exact slice?_left hrest

theorem stop_eq (h : StandsAt text offset place line later) : place.stop = offset + byteSize line.text := by
  rw [h.stop, h.contentEnd, Line.text, byteSize_append, Nat.add_assoc]

theorem slice?_line (h : StandsAt text offset place line later) :
    slice? text offset place.stop = some line.text := by
  rw [h.stop_eq]
  exact slice?_left h.rest

/-- Behind a part of its content stands the line without this part. -/
theorem behind (h : StandsAt text offset place line later) (hcontent : upTo ++ after = line.content) :
    StandsAt text (offset + byteSize upTo) place ⟨after, line.ending⟩ later where
  rest := by
    have hrest := h.rest
    rw [Line.text, ← hcontent, List.append_assoc upTo, List.append_assoc upTo] at hrest
    exact slice?_right hrest
  contentEnd := by rw [h.contentEnd, ← hcontent, byteSize_append, Nat.add_assoc]
  stop := h.stop
  areLines := h.areLines.withContent fun hm =>
    h.areLines.not_mem_content (hcontent ▸ List.mem_append_right upTo hm)

/-- Behind a line stands the next one. -/
theorem nextLine (h : StandsAt text offset place line (next :: others)) :
    StandsAt text place.stop ⟨place.stop, place.stop + byteSize next.content,
      place.stop + byteSize next.content + byteSize next.ending⟩ next others where
  rest := by
    rw [h.stop_eq]
    exact slice?_right h.rest
  contentEnd := rfl
  stop := rfl
  areLines := h.areLines.tail

end StandsAt

/-- The positions are those of a statement that begins at the position `start`. -/
structure Reach.Holds (text : List Char) (start : Nat) (reach : Reach) (extent : Extent) : Prop where
  statement : slice? text start (reach.terminator.getD reach.last.contentEnd) = some extent.statement
  last : StandsAt text (reach.terminator.getD reach.last.contentEnd) reach.last
    ⟨extent.tail, extent.ending⟩ extent.later
  later : reach.later = linePlaces reach.last.stop extent.later

section Follow

variable {text taken : List Char} {start offset : Nat} {place : LinePlace} {line : Line} {later : List Line}

/-- A statement that goes through the end of the content of a line. -/
theorem Reach.Holds.of_contentEnd (htaken : slice? text start offset = some taken)
    (h : StandsAt text offset place line later) :
    Reach.Holds text start ⟨place, linePlaces place.stop later, none⟩
      ⟨taken ++ line.content, [], line.ending, later⟩ where
  statement := slice?_trans htaken h.slice?_content
  last := by
    have hbehind := h.behind (List.append_nil line.content)
    rwa [← h.contentEnd] at hbehind
  later := rfl

/-- A statement that ends behind a semicolon of the content of a line. -/
theorem Reach.Holds.of_terminator (htaken : slice? text start offset = some taken)
    (h : StandsAt text offset place line later) {semicolon : Nat} {upTo after : List Char}
    (hcut : upTo ++ after = line.content) (hsize : semicolon + 1 = byteSize (taken ++ upTo)) :
    Reach.Holds text start ⟨place, linePlaces place.stop later, some (start + semicolon + 1)⟩
      ⟨taken ++ upTo, after, line.ending, later⟩ := by
  have hend : start + semicolon + 1 = offset + byteSize upTo := by
    rw [Nat.add_assoc, hsize, byteSize_append, ← Nat.add_assoc, add_byteSize_of_slice? htaken]
  have hupTo : slice? text offset (offset + byteSize upTo) = some upTo := by
    have hcontent := h.slice?_content
    rw [← hcut] at hcontent
    exact slice?_left hcontent
  constructor
  · rw [Option.getD_some, hend]
    exact slice?_trans htaken hupTo
  · rw [Option.getD_some, hend]
    exact h.behind hcut
  · rfl

theorem terminator?_eq_none {read : List Char} (h : cutTerminator? .code read = none) :
    terminator? read = none := by
  have heq := terminator?_eq read
  rw [h] at heq
  exact Option.map_eq_none_iff.1 heq

theorem exists_terminator? {read upTo after : List Char}
    (h : cutTerminator? .code read = some (upTo, after)) :
    ∃ semicolon, terminator? read = some semicolon ∧ semicolon + 1 = byteSize upTo := by
  have heq := terminator?_eq read
  rw [h] at heq
  exact Option.map_eq_some_iff.1 heq

/-- A line end ends no statement. -/
theorem cutTerminator?_line {lines : List Line} (h : AreLines (line :: lines))
    (hread : cutTerminator? .code (taken ++ line.content) = none) :
    cutTerminator? .code (taken ++ line.text) = none := by
  have hending : ';' ∉ line.ending := fun hm =>
    absurd (allBlank_iff.1 h.allBlank_ending _ hm) (by decide)
  rw [Line.text, ← List.append_assoc, cutTerminator?_append_of_none hread,
    cutTerminator?_of_not_mem hending]
  rfl

/-- **A statement is followed** by positions as it is over the lines. -/
theorem exists_follow? (taken : List Char) (offset : Nat) (place : LinePlace) (line : Line)
    (later : List Line) (htaken : slice? text start offset = some taken)
    (hcode : cutTerminator? .code taken = none) (h : StandsAt text offset place line later) :
    ∃ reach, follow? text start place (linePlaces place.stop later) = some reach ∧
      reach.Holds text start
        (Extent.find (taken.foldl (Reading.step true) .code) taken line later) := by
  have hcut := cutTerminator?_append_of_none hcode line.content
  rw [follow?.eq_def, slice?_trans htaken h.slice?_content, Option.bind_eq_bind, Option.bind_some]
  unfold Extent.find
  cases hc : cutTerminator? (taken.foldl (Reading.step true) .code) line.content with
  | some cut =>
    rw [hc] at hcut
    obtain ⟨semicolon, hsemicolon, hsize⟩ := exists_terminator? hcut
    rw [hsemicolon]
    exact ⟨_, rfl, .of_terminator htaken h (cutTerminator?_append hc) hsize⟩
  | none =>
    rw [hc] at hcut
    rw [terminator?_eq_none hcut]
    dsimp only
    split
    · exact ⟨_, rfl, .of_contentEnd htaken h⟩
    · cases later with
      | nil => exact ⟨_, rfl, .of_contentEnd htaken h⟩
      | cons next others =>
        rw [linePlaces]
        dsimp only
        rw [h.nextLine.slice?_content, Option.bind_some]
        split
        · exact ⟨_, rfl, .of_contentEnd htaken h⟩
        · have hrec := exists_follow? (taken ++ line.text) place.stop _ next others
            (slice?_trans htaken h.slice?_line) (cutTerminator?_line h.areLines hcut) h.nextLine
          rwa [List.foldl_append] at hrec
termination_by later.length

end Follow

section Statement

variable {text : List Char} {offset : Nat} {place : LinePlace} {line : Line} {later : List Line}

/-- A statement is found where it is found over the lines, and so is where the next one begins. -/
theorem exists_statement? (h : StandsAt text offset place line later) :
    ∃ found, statement? text offset place (linePlaces place.stop later) = some found ∧
      let extent := Extent.find .code [] line later
      let tailStart := offset + byteSize extent.statement
      found.cut = extent.cut offset ∧
        found.resume = (if opensImport (trim extent.tail) = true then
          some (tailStart + byteSize (extent.tail.takeWhile isBlank)) else none) ∧
        StandsAt text tailStart found.last ⟨extent.tail, extent.ending⟩ extent.later ∧
        found.later = linePlaces found.last.stop extent.later := by
  have hstart : slice? text offset offset = some [] := slice?_left (x := []) h.slice?_line
  obtain ⟨reach, hreach, hholds⟩ := exists_follow? [] offset place line later hstart rfl h
  rw [List.foldl_nil] at hholds
  generalize Extent.find .code [] line later = extent at hholds ⊢
  obtain ⟨hstatement, hlast, hlater⟩ := hholds
  have hend := add_byteSize_of_slice? hstatement
  rw [← hend] at hstatement hlast
  rw [statement?]
  simp only [Option.bind_eq_bind, hreach, Option.bind_some, ← hend, hlast.slice?_line, hstatement,
    hlast.slice?_content]
  have hblank : allBlank (Line.text ⟨extent.tail, extent.ending⟩) = allBlank extent.tail := by
    rw [Line.text, allBlank_append, hlast.areLines.allBlank_ending, Bool.and_true]
  have hlead : byteSize extent.tail - byteSize (trimStart extent.tail) =
      byteSize (extent.tail.takeWhile isBlank) := by
    rw [← congrArg byteSize (takeWhile_append_trimStart extent.tail), byteSize_append,
      Nat.add_sub_cancel]
  rw [hblank, hlead]
  refine ⟨_, rfl, ?_, ?_, hlast, hlater⟩
  · rw [Extent.cut, Extent.lineEnd, hlast.stop, hlast.contentEnd]
  · by_cases ho : opensImport (trim extent.tail) = true
    · rw [if_pos ho, not_allBlank_of_opens ho, if_neg Bool.false_ne_true, if_pos ⟨rfl, ho⟩]
    · rw [if_neg ho]
      exact if_neg fun h => ho h.2

theorem opening?_line (h : StandsAt text offset place line later) (hstart : place.start = offset) :
    opening? text place none = some (if opensImport (trim line.content) then some offset else none) := by
  rw [opening?, hstart, h.slice?_content]
  rfl

/-- The cuts of lines that are read from their starts. -/
def cutsOfAt? (text : List Char) : List LinePlace → Option (List Cut)
  | [] => some []
  | place :: later => cutsFromAt? text none place later

section Equations

variable {resume : Option Nat} {places : List LinePlace} {start : Nat} {found : Found}

theorem cutsFromAt?_of_closed (h : opening? text place resume = some none) :
    cutsFromAt? text resume place places = cutsOfAt? text places := by
  rw [cutsFromAt?.eq_def]
  split
  · next he =>
    rw [h] at he
    cases he
  · cases places <;> rfl
  · next he =>
    rw [h] at he
    cases he

theorem cutsFromAt?_of_opens (h : opening? text place resume = some (some start))
    (hfound : statement? text start place places = some found) :
    cutsFromAt? text resume place places =
      (match found.resume with
        | some offset => cutsFromAt? text (some offset) found.last found.later
        | none => cutsOfAt? text found.later).map (found.cut :: ·) := by
  rw [cutsFromAt?.eq_def]
  split
  · next he =>
    rw [h] at he
    cases he
  · next he =>
    rw [h] at he
    cases he
  · next he =>
    rw [h] at he
    cases he
    split
    · next he =>
      rw [hfound] at he
      cases he
    · next he =>
      rw [hfound] at he
      cases he
      split
      · next hr => rw [hr]
      · next hr =>
        rw [hr]
        split <;> next hl => rw [hl]; rfl

end Equations

/-- **The cuts by positions** are those over the lines, from every place of the walk on. -/
theorem cutsFromAt?_eq (offset : Nat) (atStart : Bool) (line : Line) (later : List Line)
    (place : LinePlace) (h : StandsAt text offset place line later)
    (hstart : if atStart then place.start = offset else opensImport (trim line.content) = true) :
    cutsFromAt? text (if atStart then none else some offset) place (linePlaces place.stop later) =
      some (cutsFrom offset atStart line later) := by
  -- The cases are those of the walk over the lines: a line without statement at the end or not, and a
  -- statement.
  induction offset, atStart, line, later using cutsFrom.induct generalizing place with
  | case1 offset atStart line hc =>
    rw [Bool.and_eq_true, Bool.not_eq_true'] at hc
    obtain ⟨rfl, hc⟩ := hc
    have hopening := opening?_line h hstart
    rw [hc, if_neg Bool.false_ne_true] at hopening
    rw [if_pos rfl, cutsFromAt?_of_closed hopening, cutsFrom_of_closed hc]
    rfl
  | case2 offset atStart line hc next others ih =>
    rw [Bool.and_eq_true, Bool.not_eq_true'] at hc
    obtain ⟨rfl, hc⟩ := hc
    have hopening := opening?_line h hstart
    rw [hc, if_neg Bool.false_ne_true] at hopening
    rw [if_pos rfl, cutsFromAt?_of_closed hopening, cutsFrom_of_closed hc]
    have hnext := h.nextLine
    rw [h.stop_eq] at hnext
    rw [h.stop_eq]
    exact ih _ hnext rfl
  | case3 offset atStart line later hc extent statementEnd lineEnd closes ihTail ihLater =>
    have ho : opensImport (trim line.content) = true := by
      cases atStart with
      | false => exact hstart
      | true => simpa using hc
    have hopening : opening? text place (if atStart then none else some offset) = some (some offset) := by
      cases atStart with
      | false => rfl
      | true => rw [if_pos rfl, opening?_line h hstart, ho, if_pos rfl]
    obtain ⟨found, hfound, hcut, hresume, hlast, hlater⟩ := exists_statement? h
    rw [cutsFromAt?_of_opens hopening hfound, cutsFrom_of_opens ho, hcut, hresume, hlater]
    by_cases hr : opensImport (trim extent.tail) = true
    · -- What is left of the line opens the next statement.
      have hb := not_allBlank_of_opens hr
      have htail : extent.tail ≠ [] := fun hnil => by
        rw [hnil] at hb
        exact absurd hb (by decide)
      have htrimmed : opensImport (trim (trimStart extent.tail)) = true := by
        rw [trim, trimStart_trimStart]
        exact hr
      have hrest := ihTail ⟨htail, hb, hr⟩ found.last
        (hlast.behind (takeWhile_append_trimStart extent.tail)) htrimmed
      rw [if_neg Bool.false_ne_true] at hrest
      rw [if_pos hr, if_pos hr]
      exact congrArg (Option.map _) hrest
    · have hstop : found.last.stop = lineEnd := by rw [hlast.stop, hlast.contentEnd]
      have hrest : cutsOfAt? text (linePlaces found.last.stop extent.later) =
          some (cutsOf (extent.lineEnd offset) extent.later) := by
        cases hl : extent.later with
        | nil => rfl
        | cons next others =>
          have hnext := (hl ▸ hlast).nextLine
          rw [hstop] at hnext ⊢
          exact ihLater next others hl _ hnext rfl
      rw [if_neg hr, if_neg hr]
      exact congrArg (Option.map _) hrest

/-- The cuts of a source, by positions. -/
def cutsAt? (text : List Char) : Option (List Cut) :=
  cutsOfAt? text (linePlaces 0 (lines text))

theorem cutsAt?_eq (text : List Char) : cutsAt? text = some (cuts text) := by
  have hlines := areLines_lines text
  have hsource := flatMap_text_lines text
  rw [cutsAt?, cuts_eq_cutsOf]
  cases hl : lines text with
  | nil => rfl
  | cons line later =>
    rw [hl] at hlines hsource
    have hrest : slice? text 0 (byteSize text) = some (line.text ++ later.flatMap Line.text) := by
      rw [slice?_all]
      exact congrArg some hsource.symm
    exact cutsFromAt?_eq 0 true line later _ ⟨hrest, rfl, rfl, hlines⟩ rfl

end Statement

/-! ### Removing ranges -/

/-- What is left in slices when the ranges are removed; a range that begins before the cursor is passed
over. -/
def removeSpansAt?.go (text : List Char) (cursor : Nat) : List SourceSpan → Option (List Char)
  | [] => slice? text cursor (byteSize text)
  | span :: spans =>
    if span.start < cursor then removeSpansAt?.go text cursor spans
    else do
      let kept ← slice? text cursor span.start
      let others ← removeSpansAt?.go text span.stop spans
      return kept ++ others

/-- The text without the ranges, put together from slices, the range that begins first being removed first. -/
def removeSpansAt? (text : List Char) (spans : List SourceSpan) : Option (List Char) :=
  removeSpansAt?.go text 0 (spans.mergeSort fun s t => s.start ≤ t.start)

section Removal

variable {text rest kept : List Char} {spans : List SourceSpan} {offset : Nat}

/-- Ranges that split a text begin in order. -/
theorem Sections.mergeSort_eq (h : Sections offset text spans kept) :
    (spans.mergeSort fun s t => s.start ≤ t.start) = spans := by
  refine List.mergeSort_of_pairwise ?_
  induction h with
  | rest => exact List.Pairwise.nil
  | range hspan hrest ih =>
    refine List.pairwise_cons.2 ⟨fun next hnext => ?_, ih⟩
    have hle := hrest.offset_le next hnext
    rw [hspan] at hle ⊢
    dsimp only at hle ⊢
    simp only [decide_eq_true_eq]
    omega

theorem Sections.removeSpansAt?_go_eq (h : Sections offset rest spans kept)
    (hrest : slice? text offset (byteSize text) = some rest) :
    removeSpansAt?.go text offset spans = some kept := by
  induction h with
  | rest offset rest => exact hrest
  | @range offset before range after kept span spans hspan hafter ih =>
    have hstart : span.start = offset + byteSize before := by rw [hspan]
    have hstop : span.stop = offset + byteSize before + byteSize range := by rw [hspan]
    have hothers : slice? text span.stop (byteSize text) = some after := by
      rw [hstop]
      exact slice?_right (slice?_right hrest)
    rw [removeSpansAt?.go, if_neg (by omega), hstart, slice?_left hrest, Option.bind_eq_bind,
      Option.bind_some, ih hothers]
    rfl

/-- **Ranges are removed by positions** wherever they split the text. -/
theorem removeSpansAt?_eq (h : Sections 0 text spans kept) :
    removeSpansAt? text spans = some (removeSpans text spans) := by
  rw [removeSpansAt?, h.mergeSort_eq, removeSpans, h.removeSpans_eq]
  exact h.removeSpansAt?_go_eq (slice?_all text)

end Removal

/-! ### The result of a scan -/

/-- The line scan of a source, by positions. -/
def ofLinesAt? (source : String) : Option ImportScan := do
  let text := source.toList
  let found ← cutsAt? text
  let kept ← removeSpansAt? text (found.map Cut.span)
  return {
    records := found.filterMap Cut.record?
    stripped := String.ofList (sweep kept)
    dropped := (found.filter (·.record?.isNone)).map fun cut => String.ofList (trim cut.statement) }

/-- The scan of a source by its declarations, the ranges being removed by positions. -/
def ofDeclarationsAt? (source : String) (declarations : List Script.ImportDeclaration) :
    Option ImportScan := do
  let text := source.toList
  let records := declarations.map (recordOf text)
  let kept ← removeSpansAt? text (records.map (·.span))
  return { records, stripped := String.ofList (sweep kept), dropped := [] }

/-- The scan of a source in a mode, by positions. -/
def ofSourceAt? (mode : ScanMode) (source : String) : Option ImportScan :=
  match mode with
  | .heuristic => ofLinesAt? source
  | .strict =>
    match Script.importDeclarations? source.toList with
    | some declarations => ofDeclarationsAt? source declarations
    | none => ofLinesAt? source

theorem ofLinesAt?_eq (source : String) : ofLinesAt? source = some (ofLines source) := by
  obtain ⟨kept, hkept⟩ := cuts_leavesUnopened source.toList
  simp only [ofLinesAt?, cutsAt?_eq, removeSpansAt?_eq hkept.dissects.sections, Option.bind_eq_bind,
    Option.bind_some]
  rfl

theorem ofDeclarationsAt?_eq {source : String} {ds : List Script.ImportDeclaration}
    (h : Script.Placed 0 source.toList ds) :
    ofDeclarationsAt? source ds = some (ofDeclarations source ds) := by
  have hspans : (ds.map (recordOf source.toList)).map (·.span) = ds.map (widen source.toList) := by
    rw [List.map_map]
    exact List.map_congr_left fun d _ => recordOf_span source.toList d
  have hbounded : Bounded [] := fun _ hc => nomatch hc
  obtain ⟨kept, hkept⟩ := exists_sections (List.nil_append source.toList) (.inl hbounded) h
  rw [byteSize_nil, ← hspans] at hkept
  simp only [ofDeclarationsAt?, removeSpansAt?_eq hkept, Option.bind_eq_bind, Option.bind_some]
  rfl

/-- **No scan slices out of bounds**, and by positions it finds what it finds over the lines. -/
theorem ofSourceAt?_eq (mode : ScanMode) (source : String) :
    ofSourceAt? mode source = some (ofSource mode source) := by
  cases mode with
  | heuristic => exact ofLinesAt?_eq source
  | strict =>
    rw [ofSourceAt?, ofSource, ofSourceBy]
    cases h : Script.importDeclarations? source.toList with
    | none => exact ofLinesAt?_eq source
    | some ds => exact ofDeclarationsAt?_eq (Script.placed_importDeclarations h)

/-- **No slice is out of bounds**, neither when the imports of a source are found and taken out, nor when
type declarations are removed: every position is one between two characters of the text, or at its ends. -/
theorem slices_inBounds (mode : ScanMode) (source : String) :
    ofSourceAt? mode source = some (ofSource mode source) ∧
      Code.stripTypesAt? source.toList = some (Code.stripTypes source.toList) :=
  ⟨ofSourceAt?_eq mode source, Code.stripTypesAt?_eq source.toList⟩

end LivePreview.ImportScan
