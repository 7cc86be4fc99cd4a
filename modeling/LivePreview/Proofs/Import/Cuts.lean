import LivePreview.Proofs.Import.Removal
/-!
# LivePreview.Proofs.Import.Cuts

**What the line scan cuts out.** A statement begins where a text opens an import, and wherever it
ends, the text taken still opens one (`opensImport_trim_terminated`, `opensImport_trim_append`).
From this and from the shape of an extent, one induction along the walk splits the source into the
ranges of the cuts and what is kept (`cutsFrom_leavesUnopened`), and shows that no line of what is kept
opens an import.

Blanks in front of a statement that begins within a line stay in the text, and when that statement
takes the end of the line with it, they end up in front of the next line. The induction therefore
carries blanks that are already there.
-/

namespace LivePreview.ImportScan

open Text
open Code (Reading)

variable {a b text rest : List Char}

/-! ### Opening an import -/

/-- May `c` follow the word that opens an import? -/
def bordersImport (c : Char) : Bool :=
  isBlank c || c == '{' || c == '*' || c == '"' || c == '\''

theorem opensImport_iff :
    opensImport text = true ↔
      ∃ rest, text = "import".toList ++ rest ∧ ∀ c ∈ rest.head?, bordersImport c = true := by
  unfold opensImport
  constructor
  · intro h
    split at h
    · next he => exact ⟨[], dropLead?_eq_some_iff.1 he, by simp⟩
    · next c r he => exact ⟨c :: r, dropLead?_eq_some_iff.1 he, by simpa [bordersImport] using h⟩
    · exact absurd h (by decide)
  · rintro ⟨rest, rfl, hr⟩
    rw [dropLead?_append]
    cases rest with
    | nil => rfl
    | cons c r => simpa [bordersImport] using hr

/-- Blanks at the end do not decide whether a text opens an import. -/
theorem opensImport_trimEnd : opensImport (trimEnd text) = opensImport text := by
  obtain ⟨blanks, hb, he⟩ := exists_trimEnd_append text
  rw [Bool.eq_iff_iff, opensImport_iff, opensImport_iff]
  constructor
  · rintro ⟨rest, hr, hc⟩
    refine ⟨rest ++ blanks, by rw [← List.append_assoc, ← hr, he], ?_⟩
    cases rest with
    | nil =>
      cases blanks with
      | nil => simp
      | cons d blanks =>
        rw [allBlank_cons, Bool.and_eq_true] at hb
        simp [bordersImport, hb.1]
    | cons c r => simpa using hc
  · rintro ⟨rest, rfl, hc⟩
    cases hr : allBlank rest with
    | true => exact ⟨[], by rw [trimEnd_append_of_allBlank _ hr]; decide, by simp⟩
    | false =>
      refine ⟨trimEnd rest, trimEnd_append_of_not_allBlank _ hr, fun c hm => ?_⟩
      obtain ⟨blanks, _, he⟩ := exists_trimEnd_append rest
      refine hc c ?_
      rw [← he, List.head?_append_of_ne_nil]
      · exact hm
      · intro hnil
        rw [hnil] at hm
        exact absurd hm (by simp)

theorem opensImport_trim : opensImport (trim text) = opensImport (trimStart text) :=
  opensImport_trimEnd

/-- A text that opens an import is not blank. -/
theorem not_allBlank_of_opens (h : opensImport (trim text) = true) : allBlank text = false := by
  cases hb : allBlank text with
  | false => rfl
  | true => rw [trim_eq_nil_of_allBlank hb] at h; exact absurd h (by decide)

/-- What follows behind a blank does not take the opening away. -/
theorem opensImport_trim_append (h : opensImport (trim a) = true)
    (hb : ∀ c ∈ b.head?, isBlank c = true) : opensImport (trim (a ++ b)) = true := by
  have hne := not_allBlank_of_opens h
  rw [opensImport_trim] at h ⊢
  rw [trimStart_append_of_not_allBlank hne]
  obtain ⟨rest, hr, hc⟩ := opensImport_iff.1 h
  refine opensImport_iff.2 ⟨rest ++ b, by rw [hr, List.append_assoc], ?_⟩
  cases rest with
  | nil =>
    intro c hm
    simp [bordersImport, hb c (by simpa using hm)]
  | cons c r => simpa using hc

/-- A text that opens an import still does so when it is cut off behind a semicolon. -/
theorem opensImport_trim_terminated (h : opensImport (trim (a ++ ';' :: b)) = true) :
    opensImport (trim (a ++ [';'])) = true := by
  have hs : allBlank (a ++ [';']) = false :=
    not_allBlank_of_mem (c := ';') (by simp) (by decide)
  have hm : ';' ∈ trimStart (a ++ [';']) := by
    obtain ⟨c, hc, -⟩ := exists_of_not_allBlank hs
    have he := takeWhile_append_trimStart (a ++ [';'])
    have hin : ';' ∈ (a ++ [';']).takeWhile isBlank ++ trimStart (a ++ [';']) := by
      rw [he]
      simp
    rcases List.mem_append.1 hin with hin | hin
    · exact absurd (List.mem_takeWhile_imp hin) (by decide)
    · exact hin
  rw [show a ++ ';' :: b = (a ++ [';']) ++ b by simp, opensImport_trim,
    trimStart_append_of_not_allBlank hs] at h
  obtain ⟨rest, hr, hc⟩ := opensImport_iff.1 h
  rw [opensImport_trim, opensImport_iff]
  -- The semicolon lies behind the word, so the cut leaves the word and what follows it.
  rcases List.append_eq_append_iff.1 hr with ⟨as, has, -⟩ | ⟨bs, hbs, rfl⟩
  · have : ';' ∈ "import".toList := by
      rw [has]
      exact List.mem_append_left _ hm
    exact absurd this (by decide)
  · refine ⟨bs, hbs, ?_⟩
    cases bs with
    | nil =>
      rw [hbs] at hm
      exact absurd hm (by decide)
    | cons c r => simpa using hc

/-! ### Texts without an opening line -/

/-- No line of the text opens an import. -/
def Unopened (text : List Char) : Prop :=
  ∀ raw ∈ rawLines text, opensImport (trim raw) = false

instance (text : List Char) : Decidable (Unopened text) :=
  List.decidableBAll (fun raw => opensImport (trim raw) = false) (rawLines text)

theorem unopened_nil : Unopened [] := by
  intro raw hr
  exact absurd hr (by simp [rawLines])

theorem unopened_append_feed (h : '\n' ∉ a) :
    Unopened (a ++ '\n' :: rest) ↔ opensImport (trim a) = false ∧ Unopened rest := by
  simp only [Unopened, rawLines_append_feed h, List.forall_mem_cons]
  rw [trim_append_right a (by decide : allBlank ['\n'] = true)]

theorem unopened_of_not_mem (h : '\n' ∉ a) : Unopened a ↔ opensImport (trim a) = false := by
  cases a with
  | nil => exact ⟨fun _ => rfl, fun _ => unopened_nil⟩
  | cons c a => simp [Unopened, rawLines_of_not_mem h (List.cons_ne_nil c a)]

/-- The sweep leaves a text without an opening line as it is. -/
theorem sweep_eq_of_unopened (h : Unopened text) : sweep text = text := by
  have hf : (rawLines text).filter (fun line => !opensImport (trim line)) = rawLines text :=
    List.filter_eq_self.2 fun raw hr => by rw [h raw hr]; rfl
  rw [sweep, hf, flatten_rawLines]

/-- In a text without an opening line, no line begins a statement. -/
theorem opensImport_content_of_unopened (h : Unopened text) {line : Line}
    (hl : line ∈ lines text) : opensImport (trim line.content) = false := by
  induction text using piecewise_induction with
  | last a ha =>
    cases a with
    | nil => exact absurd hl (by simp [lines, rawLines])
    | cons c a =>
      have ho := (unopened_of_not_mem ha).1 h
      rw [lines, rawLines_of_not_mem ha (List.cons_ne_nil c a), List.map_singleton,
        List.mem_singleton, Line.ofRaw_of_not_mem ha] at hl
      rw [← dropEndWhile_append (· == '\r') (c :: a),
        trim_append_right _ (allBlank_takeWhile_return _)] at ho
      rw [hl]
      exact ho
  | feed a rest ha ih =>
    obtain ⟨ho, hr⟩ := (unopened_append_feed ha).1 h
    rw [lines, rawLines_append_feed ha, List.map_cons, List.mem_cons,
      Line.ofRaw_append_feed ha] at hl
    rcases hl with rfl | hl
    · rw [← dropEndWhile_append (· == '\r') a,
        trim_append_right _ (allBlank_takeWhile_return _)] at ho
      exact ho
    · exact ih hr hl

/-! ### The shape of an extent -/

section Extent

variable {state : Reading} {taken : List Char} {line : Line} {later : List Line}

/-- What is cut off ends with the semicolon. -/
theorem cutTerminator?_concat {upTo after : List Char}
    (h : cutTerminator? state text = some (upTo, after)) : ∃ u, upTo = u ++ [';'] := by
  induction text generalizing state upTo with
  | nil => simp [cutTerminator?] at h
  | cons c rest ih =>
    simp only [cutTerminator?] at h
    split at h
    · simp only [Option.some.injEq, Prod.mk.injEq] at h
      exact ⟨[], h.1.symm⟩
    · obtain ⟨⟨u, a⟩, hu, he⟩ := Option.map_eq_some_iff.1 h
      simp only [Prod.mk.injEq] at he
      obtain ⟨rfl, rfl⟩ := he
      obtain ⟨v, rfl⟩ := ih hu
      exact ⟨c :: v, rfl⟩

/-- A statement goes on from what was read of it. -/
theorem Extent.find_statement_eq (state : Reading) (taken : List Char) (line : Line)
    (later : List Line) : ∃ more, (Extent.find state taken line later).statement = taken ++ more := by
  induction state, taken, line, later using Extent.find_induction with
  | terminated state taken line later upTo after hc hfind => exact ⟨upTo, by rw [hfind]⟩
  | ended state taken line later hfind => exact ⟨line.content, by rw [hfind]⟩
  | goesOn state taken line next others hfind ih =>
    obtain ⟨more, he⟩ := ih
    exact ⟨line.text ++ more, by rw [hfind, he, List.append_assoc]⟩

/-- A statement ends behind a semicolon of its first line, or it takes the content of that line
and what follows there begins with a blank. -/
theorem Extent.find_statement_cases (state : Reading) (taken : List Char)
    (h : AreLines (line :: later)) :
    (∃ u after, line.content = u ++ ';' :: after ∧
        (Extent.find state taken line later).statement = taken ++ (u ++ [';'])) ∨
      ∃ more, (∀ c ∈ more.head?, isBlank c = true) ∧
        (Extent.find state taken line later).statement = taken ++ (line.content ++ more) := by
  induction state, taken, line, later using Extent.find_induction with
  | terminated state taken line later upTo after hc hfind =>
    obtain ⟨u, rfl⟩ := cutTerminator?_concat hc
    refine .inl ⟨u, after, ?_, by rw [hfind]⟩
    simpa using (cutTerminator?_append hc).symm
  | ended state taken line later hfind =>
    exact .inr ⟨[], (fun c hc => nomatch hc), by rw [hfind, List.append_nil]⟩
  | goesOn state taken line next others hfind =>
    obtain ⟨more, he⟩ := Extent.find_statement_eq (line.text.foldl (Reading.step true) state)
      (taken ++ line.text) next others
    refine .inr ⟨line.ending ++ more, ?_, by rw [hfind, he, Line.text]; simp only [List.append_assoc]⟩
    -- A line in front of another one has an end, and the end is blank.
    have hb := h.allBlank_ending
    have hne : line.ending ≠ [] := by
      rcases h.ending_cases with ⟨hl, -⟩ | ⟨blanks, he, -, -⟩
      · exact absurd hl (List.cons_ne_nil _ _)
      · simp [he]
    cases hending : line.ending with
    | nil => exact absurd hending hne
    | cons c r =>
      rw [hending, allBlank_cons, Bool.and_eq_true] at hb
      simp [hb.1]

/-- The statement of an opening line opens an import. -/
theorem Extent.opensImport_statement (h : AreLines (line :: later))
    (ho : opensImport (trim line.content) = true) :
    opensImport (trim (Extent.find state [] line later).statement) = true := by
  rcases Extent.find_statement_cases state [] h with
    ⟨u, after, hl, hs⟩ | ⟨more, hm, hs⟩
  · rw [hl] at ho
    rw [hs]
    exact opensImport_trim_terminated ho
  · rw [hs, List.nil_append]
    exact opensImport_trim_append ho hm

/-- What is left of the last line, its end and the lines behind are lines again. -/
theorem Extent.areLines_find (h : AreLines (line :: later)) :
    AreLines (⟨(Extent.find state taken line later).tail,
      (Extent.find state taken line later).ending⟩ :: (Extent.find state taken line later).later) := by
  induction state, taken, line, later using Extent.find_induction with
  | terminated state taken line later upTo after hc hfind =>
    rw [hfind]
    refine h.withContent fun hm => h.not_mem_content ?_
    rw [← cutTerminator?_append hc]
    exact List.mem_append_right _ hm
  | ended state taken line later hfind =>
    rw [hfind]
    exact h.withContent List.not_mem_nil
  | goesOn state taken line next others hfind ih =>
    rw [hfind]
    exact ih h.tail

end Extent

/-! ### One cut at a time -/

/-- The cuts of lines that are read from their starts. -/
def cutsOf (offset : Nat) : List Line → List Cut
  | [] => []
  | line :: later => cutsFrom offset true line later

theorem cuts_eq_cutsOf (source : List Char) : cuts source = cutsOf 0 (lines source) := by
  unfold cuts
  cases lines source <;> rfl

/-- The byte behind the line on which a statement from `offset` on ends. -/
def Extent.lineEnd (extent : Extent) (offset : Nat) : Nat :=
  offset + byteSize extent.statement + byteSize extent.tail + byteSize extent.ending

/-- The cut of a statement from `offset` on: it takes the end of its last line with it if only
blanks are left there. -/
def Extent.cut (extent : Extent) (offset : Nat) : Cut :=
  ⟨⟨offset, if allBlank extent.tail then extent.lineEnd offset
    else offset + byteSize extent.statement⟩, extent.statement⟩

section Equations

variable {offset : Nat} {atStart : Bool} {line : Line} {later : List Line}

/-- A line that does not open an import is passed over. -/
theorem cutsFrom_of_closed (h : opensImport (trim line.content) = false) :
    cutsFrom offset true line later = cutsOf (offset + byteSize line.text) later := by
  unfold cutsFrom
  rw [h]
  cases later <;> rfl

/-- A text that opens an import is cut, and what is left of its last line opens the next statement
or is passed over. -/
theorem cutsFrom_of_opens (h : opensImport (trim line.content) = true) :
    cutsFrom offset atStart line later =
      (Extent.find .code [] line later).cut offset ::
        if opensImport (trim (Extent.find .code [] line later).tail) = true then
          cutsFrom (offset + byteSize (Extent.find .code [] line later).statement +
              byteSize ((Extent.find .code [] line later).tail.takeWhile isBlank)) false
            ⟨trimStart (Extent.find .code [] line later).tail,
              (Extent.find .code [] line later).ending⟩ (Extent.find .code [] line later).later
        else
          cutsOf ((Extent.find .code [] line later).lineEnd offset)
            (Extent.find .code [] line later).later := by
  have hstart : (atStart && !opensImport (trim line.content)) = false := by
    rw [h]
    exact Bool.and_false atStart
  rw [cutsFrom.eq_def, if_neg (by rw [hstart]; decide)]
  dsimp only
  refine congrArg₂ List.cons rfl ?_
  by_cases ho : opensImport (trim (Extent.find .code [] line later).tail) = true
  · have hne := not_allBlank_of_opens ho
    have htail : (Extent.find .code [] line later).tail ≠ [] := by
      intro hnil
      rw [hnil] at hne
      exact absurd hne (by decide)
    rw [dif_pos ⟨htail, hne, ho⟩, if_pos ho]
  · rw [dif_neg fun hc => ho hc.2.2, if_neg ho]
    split <;> next hl => rw [hl]; rfl

end Equations

/-! ### What the cuts leave -/

/-- The text is split by the cuts, and what stands between them has no opening line, also with
blanks in front. -/
structure LeavesUnopened (offset : Nat) (text : List Char) (found : List Cut) (kept : List Char) :
    Prop where
  dissects : Dissects offset text found kept
  unopened : ∀ lead, allBlank lead = true → '\n' ∉ lead → Unopened (lead ++ kept)

namespace LeavesUnopened

variable {offset : Nat} {line : Line} {later : List Line} {found : List Cut} {cut : Cut}
  {kept range after blanks : List Char}

theorem nil (offset : Nat) : LeavesUnopened offset [] [] [] := by
  refine ⟨.rest offset [], fun lead hb hn => ?_⟩
  rw [List.append_nil, unopened_of_not_mem hn, trim_eq_nil_of_allBlank hb]
  rfl

/-- A line that does not open an import is kept. -/
theorem keepLine (hl : AreLines (line :: later)) (hc : opensImport (trim line.content) = false)
    (h : LeavesUnopened (offset + byteSize line.text) (later.flatMap Line.text) found kept) :
    LeavesUnopened offset (line.text ++ later.flatMap Line.text) found (line.text ++ kept) := by
  refine ⟨h.dissects.keep line.text, fun lead hb hn => ?_⟩
  rcases hl.ending_cases with ⟨rfl, hne⟩ | ⟨blanks, he, hne, hblanks⟩
  · -- Without a line feed it is the last line, so nothing is kept behind it.
    have hk : kept = [] := h.dissects.kept_eq_nil rfl
    have hm : '\n' ∉ lead ++ (line.content ++ line.ending) := by
      simp only [List.mem_append, not_or]
      exact ⟨hn, hl.not_mem_content, hne⟩
    rw [hk, List.append_nil, Line.text, unopened_of_not_mem hm, trim_append_left hb,
      trim_append_right _ hl.allBlank_ending, hc]
  · have hm : '\n' ∉ lead ++ (line.content ++ blanks) := by
      simp only [List.mem_append, not_or]
      exact ⟨hn, hl.not_mem_content, hne⟩
    have htext : lead ++ (line.text ++ kept) = (lead ++ (line.content ++ blanks)) ++ '\n' :: kept := by
      simp [Line.text, he]
    rw [htext, unopened_append_feed hm, trim_append_left hb, trim_append_right _ hblanks]
    exact ⟨hc, h.unopened [] rfl List.not_mem_nil⟩

/-- Blanks in front of a statement are kept. -/
theorem keepBlanks (hb : allBlank blanks = true) (hn : '\n' ∉ blanks)
    (h : LeavesUnopened (offset + byteSize blanks) text found kept) :
    LeavesUnopened offset (blanks ++ text) found (blanks ++ kept) := by
  refine ⟨h.dissects.keep blanks, fun lead hlead hlead' => ?_⟩
  rw [← List.append_assoc]
  refine h.unopened (lead ++ blanks) ?_ ?_
  · rw [allBlank_append, hlead, hb]
    rfl
  · simp only [List.mem_append, not_or]
    exact ⟨hlead', hn⟩

/-- A range is taken. -/
theorem take (hs : cut.span = ⟨offset, offset + byteSize range⟩) (ht : cut.Takes range after)
    (h : LeavesUnopened (offset + byteSize range) after found kept) :
    LeavesUnopened offset (range ++ after) (cut :: found) kept := by
  have hd : Dissects offset ([] ++ (range ++ after)) (cut :: found) ([] ++ kept) :=
    .cut hs ht h.dissects
  exact ⟨hd, h.unopened⟩

end LeavesUnopened

/-- The text from an opening line on, up to the first line feed, opens an import. -/
theorem opensImport_takeWhile {line : Line} {later : List Line} (h : AreLines (line :: later))
    (ho : opensImport (trim line.content) = true) :
    opensImport (trim ((line.text ++ later.flatMap Line.text).takeWhile (· != '\n'))) = true := by
  have hpos : ∀ {t : List Char}, '\n' ∉ t → ∀ c ∈ t, (c != '\n') = true := by
    intro t ht c hc
    rw [bne_iff_ne]
    rintro rfl
    exact ht hc
  rcases h.ending_cases with ⟨rfl, hne⟩ | ⟨blanks, he, hne, hblanks⟩
  · have hm : '\n' ∉ line.content ++ line.ending := by
      simp only [List.mem_append, not_or]
      exact ⟨h.not_mem_content, hne⟩
    rw [List.flatMap_nil, Line.text, List.takeWhile_append_of_pos (hpos hm), List.takeWhile_nil,
      List.append_nil, trim_append_right _ h.allBlank_ending, ho]
  · have hm : '\n' ∉ line.content ++ blanks := by
      simp only [List.mem_append, not_or]
      exact ⟨h.not_mem_content, hne⟩
    have htext : line.text ++ later.flatMap Line.text =
        (line.content ++ blanks) ++ ('\n' :: later.flatMap Line.text) := by
      simp [Line.text, he]
    have hstop : ('\n' :: later.flatMap Line.text).takeWhile (· != '\n') = [] := rfl
    rw [htext, List.takeWhile_append_of_pos (hpos hm), hstop, List.append_nil,
      trim_append_right _ hblanks, ho]

/-- What was walked over from the start of a statement on. -/
def Extent.walked (extent : Extent) : List Char :=
  extent.statement ++ (extent.tail ++ (extent.ending ++ extent.later.flatMap Line.text))

/-- The extent of a statement that opens an import. -/
structure Extent.Opening (extent : Extent) : Prop where
  areLines : AreLines (⟨extent.tail, extent.ending⟩ :: extent.later)
  opens : opensImport (trim extent.statement) = true
  opensLine : opensImport (trim (extent.walked.takeWhile (· != '\n'))) = true

theorem Extent.walked_find (line : Line) (later : List Line) :
    (Extent.find .code [] line later).walked = line.text ++ later.flatMap Line.text :=
  Extent.find_append .code [] line later

theorem Extent.opening_find {line : Line} {later : List Line} (h : AreLines (line :: later))
    (ho : opensImport (trim line.content) = true) : (Extent.find .code [] line later).Opening where
  areLines := Extent.areLines_find h
  opens := Extent.opensImport_statement h ho
  opensLine := by
    rw [Extent.walked_find]
    exact opensImport_takeWhile h ho

namespace Extent.Opening

variable {extent : Extent} {offset : Nat} {found : List Cut} {kept : List Char}

/-- A statement with only blanks behind it takes the end of its line with it. -/
theorem closes (h : extent.Opening) (hb : allBlank extent.tail = true)
    (hk : LeavesUnopened (extent.lineEnd offset) (extent.later.flatMap Line.text) found kept) :
    LeavesUnopened offset extent.walked (extent.cut offset :: found) kept := by
  have hrest : allBlank (extent.tail ++ extent.ending) = true := by
    rw [allBlank_append, hb, h.areLines.allBlank_ending]
    rfl
  have hend : extent.lineEnd offset =
      offset + byteSize (extent.statement ++ (extent.tail ++ extent.ending)) := by
    simp only [Extent.lineEnd, byteSize_append, Nat.add_assoc]
  have htext : extent.walked =
      (extent.statement ++ (extent.tail ++ extent.ending)) ++ extent.later.flatMap Line.text := by
    simp only [Extent.walked, List.append_assoc]
  have hline := h.opensLine
  rw [htext] at hline ⊢
  rw [hend] at hk
  refine .take ?_ ⟨⟨_, hrest, rfl⟩, ?_, hline⟩ hk
  · simp only [Extent.cut, hb, if_true, hend]
  · rw [trim_append_right _ hrest, h.opens]

/-- A statement with more than blanks behind it takes nothing but itself. -/
theorem takes (h : extent.Opening) :
    (extent.cut offset).Takes extent.statement
      (extent.tail ++ (extent.ending ++ extent.later.flatMap Line.text)) :=
  ⟨⟨[], rfl, (List.append_nil _).symm⟩, h.opens, h.opensLine⟩

theorem span_cut (hb : allBlank extent.tail = false) :
    (extent.cut offset).span = ⟨offset, offset + byteSize extent.statement⟩ := by
  simp only [Extent.cut, hb, Bool.false_eq_true, if_false]

/-- Where another statement begins on the last line, the blanks in front of it stay. -/
theorem resumes (h : extent.Opening) (hb : allBlank extent.tail = false)
    (hk : LeavesUnopened
      (offset + byteSize extent.statement + byteSize (extent.tail.takeWhile isBlank))
      (Line.text ⟨trimStart extent.tail, extent.ending⟩ ++ extent.later.flatMap Line.text)
      found kept) :
    LeavesUnopened offset extent.walked (extent.cut offset :: found)
      (extent.tail.takeWhile isBlank ++ kept) := by
  have hlead : '\n' ∉ extent.tail.takeWhile isBlank := fun hm => h.areLines.not_mem_content <|
    (List.takeWhile_prefix isBlank).mem hm
  have hsplit : extent.tail ++ (extent.ending ++ extent.later.flatMap Line.text) =
      extent.tail.takeWhile isBlank ++
        (Line.text ⟨trimStart extent.tail, extent.ending⟩ ++ extent.later.flatMap Line.text) := by
    simp only [Line.text, ← List.append_assoc, takeWhile_append_trimStart]
  have htakes : (extent.cut offset).Takes extent.statement _ := h.takes
  rw [Extent.walked]
  rw [hsplit] at htakes ⊢
  exact .take (span_cut hb) htakes (.keepBlanks (allBlank_takeWhile _) hlead hk)

/-- What else follows a statement on its last line stays, with the end of the line. -/
theorem stays (h : extent.Opening) (hb : allBlank extent.tail = false)
    (hc : opensImport (trim extent.tail) = false)
    (hk : LeavesUnopened (extent.lineEnd offset) (extent.later.flatMap Line.text) found kept) :
    LeavesUnopened offset extent.walked (extent.cut offset :: found)
      (Line.text ⟨extent.tail, extent.ending⟩ ++ kept) := by
  have hend : extent.lineEnd offset = offset + byteSize extent.statement +
      byteSize (Line.text ⟨extent.tail, extent.ending⟩) := by
    simp only [Extent.lineEnd, Line.text, byteSize_append, Nat.add_assoc]
  rw [hend] at hk
  refine .take (span_cut hb) h.takes ?_
  have hkeep := LeavesUnopened.keepLine h.areLines hc hk
  simpa only [Line.text, List.append_assoc] using hkeep

end Extent.Opening

/-- From every place of the walk on, the cuts split the text, and no line of what they leave opens
an import. -/
theorem cutsFrom_leavesUnopened (offset : Nat) (atStart : Bool) (line : Line) (later : List Line)
    (hl : AreLines (line :: later))
    (hs : atStart = false → opensImport (trim line.content) = true) :
    ∃ kept, LeavesUnopened offset (line.text ++ later.flatMap Line.text)
      (cutsFrom offset atStart line later) kept := by
  -- The cases are those of the walk: a line without statement at the end or not, and a statement.
  induction offset, atStart, line, later using cutsFrom.induct with
  | case1 offset atStart line hc =>
    rw [Bool.and_eq_true, Bool.not_eq_true'] at hc
    obtain ⟨rfl, hc⟩ := hc
    rw [cutsFrom_of_closed hc]
    exact ⟨_, .keepLine hl hc (.nil _)⟩
  | case2 offset atStart line hc next others ih =>
    rw [Bool.and_eq_true, Bool.not_eq_true'] at hc
    obtain ⟨rfl, hc⟩ := hc
    rw [cutsFrom_of_closed hc]
    obtain ⟨kept, hk⟩ := ih hl.tail (fun h => absurd h (by decide))
    exact ⟨_, .keepLine hl hc hk⟩
  | case3 offset atStart line later hc extent statementEnd lineEnd closes ihTail ihLater =>
    have ho : opensImport (trim line.content) = true := by
      cases atStart with
      | false => exact hs rfl
      | true => simpa using hc
    have hopening : extent.Opening := Extent.opening_find hl ho
    have hlater : ∃ kept, LeavesUnopened lineEnd (extent.later.flatMap Line.text)
        (cutsOf lineEnd extent.later) kept := by
      cases hlt : extent.later with
      | nil => exact ⟨[], .nil _⟩
      | cons next others =>
        exact ihLater next others hlt (hlt ▸ hopening.areLines.tail) fun h => absurd h (by decide)
    rw [cutsFrom_of_opens ho, ← Extent.walked_find]
    by_cases hr : opensImport (trim extent.tail) = true
    · -- What is left of the line opens the next statement, and the walk goes on within the line.
      have hb := not_allBlank_of_opens hr
      have htail : extent.tail ≠ [] := fun hnil => by
        rw [hnil] at hb
        exact absurd hb (by decide)
      have hstart : '\n' ∉ trimStart extent.tail := fun hm =>
        hopening.areLines.not_mem_content ((List.dropWhile_suffix isBlank).mem hm)
      obtain ⟨kept, hk⟩ := ihTail ⟨htail, hb, hr⟩ (hopening.areLines.withContent hstart)
        fun _ => by rw [trim, trimStart_trimStart]; exact hr
      rw [if_pos hr]
      exact ⟨_, hopening.resumes hb hk⟩
    · obtain ⟨kept, hk⟩ := hlater
      rw [if_neg hr]
      cases hb : allBlank extent.tail with
      | true => exact ⟨_, hopening.closes hb hk⟩
      | false => exact ⟨_, hopening.stays hb (Bool.eq_false_iff.2 hr) hk⟩

/-- The cuts of a source split it, and no line of what they leave opens an import. -/
theorem cuts_leavesUnopened (source : List Char) :
    ∃ kept, LeavesUnopened 0 source (cuts source) kept := by
  rw [cuts_eq_cutsOf]
  have hl := areLines_lines source
  have hs := flatMap_text_lines source
  cases hls : lines source with
  | nil =>
    rw [hls] at hs
    rw [← hs]
    exact ⟨[], .nil 0⟩
  | cons line later =>
    rw [hls] at hl hs
    rw [← hs]
    exact cutsFrom_leavesUnopened 0 true line later hl fun h => absurd h (by decide)

/-- A text without an opening line is not cut. -/
theorem cutsOf_of_closed {offset : Nat} {ls : List Line}
    (h : ∀ line ∈ ls, opensImport (trim line.content) = false) : cutsOf offset ls = [] := by
  induction ls generalizing offset with
  | nil => rfl
  | cons line later ih =>
    rw [cutsOf, cutsFrom_of_closed (h line List.mem_cons_self)]
    exact ih fun l hl => h l (List.mem_cons_of_mem line hl)

theorem cuts_of_unopened (h : Unopened text) : cuts text = [] := by
  rw [cuts_eq_cutsOf]
  exact cutsOf_of_closed fun _ hl => opensImport_content_of_unopened h hl

end LivePreview.ImportScan
