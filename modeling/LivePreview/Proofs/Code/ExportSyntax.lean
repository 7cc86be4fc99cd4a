import LivePreview.Code.Exports
import LivePreview.Proofs.Code.LineSweep
import LivePreview.Proofs.Text.Readers
import Mathlib.Data.Bool.AllAny
/-!
# LivePreview.Proofs.Code.ExportSyntax

**Where export syntax can begin.** Every reader of export syntax waits for the word `export` behind
spaces, with a blank or a brace behind it (`opensExport`, `ReadsExports`). So blanks, names and marks that
stand between the parts of a statement are passed over by every sweep, however many lines they take.
-/

namespace LivePreview.Code

open Text

variable {α : Type} {reader : List Char → Option (Hit α)} {gap line text rest : List Char}

/-! ### The word in front -/

/-- Can the line begin with export syntax? Behind spaces stands the word `export`, and behind the word a
blank or a brace. -/
def opensExport (line : List Char) : Bool :=
  match word? "export" (skipSpaces line) with
  | some (c :: _) => isBlank c || c == '\x7b'
  | _ => false

/-- The reader recognises nothing where no export syntax can begin. -/
def ReadsExports (reader : List Char → Option (Hit α)) : Prop :=
  ∀ text, opensExport text = false → reader text = none

theorem exportGap?_of_not_opensExport (h : opensExport text = false) : exportGap? text = none := by
  rw [exportGap?, wordGap?]
  unfold opensExport at h
  split at h
  · next c behind hw =>
    rw [Bool.or_eq_false_iff] at h
    rw [hw, Option.bind_some, gap?, h.1]
    rfl
  · next hw =>
    cases hbehind : word? "export" (skipSpaces text) with
    | none => rfl
    | some behind =>
      cases behind with
      | nil => rfl
      | cons c behind => exact absurd hbehind (hw c behind)

theorem readsExports_starReexport : ReadsExports starReexport? := by
  intro text h
  rw [starReexport?, exportGap?_of_not_opensExport h]
  rfl

theorem readsExports_listReexport : ReadsExports listReexport? := by
  intro text h
  rw [listReexport?, exportGap?_of_not_opensExport h]
  rfl

theorem readsExports_typeList : ReadsExports typeList? := by
  intro text h
  rw [typeList?, exportGap?_of_not_opensExport h]
  rfl

/-- A list may follow the word without a gap. -/
theorem readsExports_exportList : ReadsExports exportList? := by
  intro text h
  rw [exportList?]
  unfold opensExport at h
  split at h
  · next c behind hw =>
    simp only [Bool.or_eq_false_iff, beq_eq_false_iff_ne] at h
    have hbrace : between? '\x7b' '\x7d' (trimStart (c :: behind)) = none := by
      rw [trimStart_cons h.1]
      exact between?_eq_none (forall_head_cons (p := (· ≠ '\x7b')) h.2 behind)
    simp only [hw, Option.bind_eq_bind, Option.bind_some, hbrace, Option.bind_none]
  · next hw =>
    cases hbehind : word? "export" (skipSpaces text) with
    | none => rfl
    | some behind =>
      cases behind with
      | nil => rfl
      | cons c behind => exact absurd hbehind (hw c behind)

theorem readsExports_exportedDeclaration : ReadsExports exportedDeclaration? := by
  intro text h
  rw [exportedDeclaration?, exportGap?_of_not_opensExport h]
  rfl

theorem readsExports_exportKeyword : ReadsExports exportKeyword? := by
  intro text h
  rw [exportKeyword?, exportGap?_of_not_opensExport h]
  rfl

/-- `export default` and the gap behind it. -/
def defaultKeyword? (line : List Char) : Option (Hit Unit) := do
  let rest ← wordGap? "default" (← exportGap? line)
  return ⟨(), [], rest⟩

theorem readsExports_defaultKeyword : ReadsExports defaultKeyword? := by
  intro text h
  rw [defaultKeyword?, exportGap?_of_not_opensExport h]
  rfl

/-- The first default export is what a search for the words finds. -/
theorem cutDefault?_eq (text : List Char) :
    cutDefault? text = (firstHit? defaultKeyword? true text).map fun (before, hit) =>
      (before, (text.drop before.length).takeWhile isSpaceOrTab, hit.rest) := by
  show (firstHit? defaultKeyword? true text).bind _ = _
  cases firstHit? defaultKeyword? true text <;> rfl

/-! ### Where no export syntax begins -/

theorem opensExport_of_head (h : ∀ c ∈ (skipSpaces text).head?, c ≠ 'e') :
    opensExport text = false := by
  rw [opensExport, word?_eq_none (by decide) h]

theorem isSpaceOrTab_of_not_isBlank {c : Char} (h : isBlank c = false) : isSpaceOrTab c = false := by
  refine Bool.eq_false_iff.2 fun hs => ?_
  simp only [isSpaceOrTab, Bool.or_eq_true, beq_iff_eq] at hs
  rcases hs with rfl | rfl <;> exact absurd h (by decide)

/-- Neither a mark nor a name that begins otherwise opens export syntax. -/
theorem opensExport_cons {c : Char} (hb : isBlank c = false) (he : c ≠ 'e') (text : List Char) :
    opensExport (c :: text) = false := by
  have hs := isSpaceOrTab_of_not_isBlank hb
  have hskip : skipSpaces (c :: text) = c :: text := List.dropWhile_cons_of_neg (by simp [hs])
  refine opensExport_of_head ?_
  rw [hskip]
  exact forall_head_cons (p := (· ≠ 'e')) he text

/-- Blanks in front of something that opens no export syntax open none. -/
theorem opensExport_gap (hb : allBlank gap = true) (h : opensExport text = false) :
    opensExport (gap ++ text) = false := by
  induction gap with
  | nil => exact h
  | cons c gap ih =>
    rw [allBlank_cons, Bool.and_eq_true] at hb
    cases hc : isSpaceOrTab c with
    | true =>
      have hskip : skipSpaces (c :: gap ++ text) = skipSpaces (gap ++ text) :=
        List.dropWhile_cons_of_pos hc
      rw [opensExport, hskip]
      exact ih hb.2
    | false =>
      -- Another blank than a space ends the indentation.
      have hskip : skipSpaces (c :: gap ++ text) = c :: (gap ++ text) :=
        List.dropWhile_cons_of_neg (by simp [hc])
      refine opensExport_of_head ?_
      rw [hskip]
      refine forall_head_cons (p := (· ≠ 'e')) ?_ _
      rintro rfl
      exact absurd hb.1 (by decide)

/-- Whether export syntax begins is decided in front of a stop. -/
theorem opensExport_stop {stop : Char} (hb : isBlank stop = false) (he : stop ≠ '\x7b')
    (hw : stop ∉ "export".toList) (line rest : List Char) :
    opensExport (line ++ stop :: rest) = opensExport line := by
  rw [opensExport, opensExport, skipSpaces_stop (isSpaceOrTab_of_not_isBlank hb), word?, word?, dropLead?_stop hw]
  cases dropLead? "export".toList (skipSpaces line) with
  | none => rfl
  | some behind =>
    cases behind with
    | nil => simp [hb, he]
    | cons c behind => rfl

theorem atLines_gap (hb : allBlank gap = true) (h : opensExport rest = false) (atStart : Bool) :
    AtLines (opensExport · = false) atStart gap rest :=
  .of_suffixes fun _ _ hline =>
    opensExport_gap (allBlank_iff.2 fun c hc => allBlank_iff.1 hb c (hline.subset hc)) h

theorem atLines_mark {c : Char} (hb : isBlank c = false) (he : c ≠ 'e') (atStart : Bool) :
    AtLines (opensExport · = false) atStart [c] rest := by
  have hfeed : c ≠ '\n' := by
    rintro rfl
    exact absurd hb (by decide)
  exact .within (by simpa using Ne.symm hfeed) fun _ => opensExport_cons hb he rest

/-- A reader of export syntax recognises nothing where none begins. -/
theorem ReadsExports.atLines {atStart : Bool} (hr : ReadsExports reader)
    (h : AtLines (opensExport · = false) atStart text rest) :
    AtLines (reader · = none) atStart text rest :=
  h.imp fun _ hline => hr _ hline

/-! ### What stands behind the word -/

/-- Does the line begin like a re-export of everything? -/
def opensStar (line : List Char) : Bool :=
  match exportGap? line with
  | some behind => (skipWordGap "type" behind).head? == some '*'
  | none => false

theorem starReexport?_of_not_opensStar {line : List Char} (h : opensStar line = false) :
    starReexport? line = none := by
  rw [starReexport?]
  unfold opensStar at h
  split at h
  · next behind hgap =>
    have hstar : word? "*" (skipWordGap "type" behind) = none := by
      refine word?_eq_none (c := '*') (by decide) ?_
      rintro c hc rfl
      rw [Option.mem_def.1 hc] at h
      exact absurd h (by decide)
    simp only [hgap, Option.bind_eq_bind, Option.bind_some, hstar, Option.bind_none]
  · next hgap =>
    rw [hgap]
    rfl

/-- A brace behind a line does not make it a re-export of everything. -/
theorem opensStar_stop (line rest : List Char) : opensStar (line ++ '\x7d' :: rest) = opensStar line := by
  have hgap : ∀ w : String, '\x7d' ∉ w.toList → ∀ a, wordGap? w (a ++ '\x7d' :: rest) =
      (wordGap? w a).map (· ++ '\x7d' :: rest) := fun w hw a => wordGap?_stop hw (by decide) a rest
  rw [opensStar, opensStar, exportGap?, exportGap?, skipSpaces_stop (by decide), hgap "export" (by decide)]
  cases wordGap? "export" (skipSpaces line) with
  | none => rfl
  | some behind =>
    simp only [Option.map_some, skipWordGap, hgap "type" (by decide)]
    cases wordGap? "type" behind with
    | none => cases behind <;> rfl
    | some typed => cases typed <;> rfl

section Behind

variable {behind : List Char} (hg : exportGap? text = some behind)

include hg

theorem starReexport?_eq_none (h : ∀ c ∈ behind.head?, c ≠ 't' ∧ c ≠ '*') : starReexport? text = none := by
  have htype : skipWordGap "type" behind = behind :=
    skipWordGap_of_none (wordGap?_eq_none (by decide) fun c hc => (h c hc).1)
  refine starReexport?_of_not_opensStar ?_
  rw [opensStar, hg]
  dsimp only
  rw [htype]
  exact beq_eq_false_iff_ne.2 fun hs => (h '*' hs).2 rfl

theorem typeList?_eq_none (h : ∀ c ∈ behind.head?, c ≠ 't') : typeList? text = none := by
  rw [typeList?, hg]
  simp only [Option.bind_eq_bind, Option.bind_some,
    wordGap?_eq_none (w := "type") (by decide) h, Option.bind_none]

theorem listReexport?_eq (h : ∀ c ∈ behind.head?, c ≠ 't') :
    listReexport? text = (between? '\x7b' '\x7d' behind).bind fun list =>
      (fromName? (trimStart list.2)).map (remove ()) := by
  have htype : skipWordGap "type" behind = behind :=
    skipWordGap_of_none (wordGap?_eq_none (by decide) h)
  rw [listReexport?, hg]
  simp only [Option.bind_eq_bind, Option.bind_some, htype]
  cases between? '\x7b' '\x7d' behind with
  | none => rfl
  | some list =>
    obtain ⟨list, rest⟩ := list
    cases hfrom : fromName? (trimStart rest) <;> simp [hfrom]

theorem exportList?_eq :
    exportList? text = (between? '\x7b' '\x7d' behind).map fun list =>
      remove (exportItems list.1) list.2 := by
  obtain ⟨attached, hword, hgap⟩ := Option.bind_eq_some_iff.1 hg
  have htrim : trimStart attached = behind := by
    cases attached with
    | nil => cases hgap
    | cons c attached =>
      rw [gap?] at hgap
      split at hgap
      · next hb => exact (List.dropWhile_cons_of_pos hb).trans (Option.some.inj hgap)
      · cases hgap
  rw [exportList?, hword]
  simp only [Option.bind_eq_bind, Option.bind_some, htrim]
  cases between? '\x7b' '\x7d' behind <;> rfl

end Behind

/-! ### The end of a statement -/

/-- What stands behind a statement on its last line. -/
structure LineTail where
  /-- Spaces in front of the semicolon and behind it. -/
  before : List Char
  semicolon : Bool
  behind : List Char
  ending : List Char

namespace LineTail

variable {tail : LineTail}

def written (tail : LineTail) : List Char :=
  tail.before ++ ((if tail.semicolon then [';'] else []) ++ (tail.behind ++ tail.ending))

/-- There is nothing else on the line, and only the end of the text ends it without a line feed. -/
structure Ends (tail : LineTail) (rest : List Char) : Prop where
  before : ∀ c ∈ tail.before, isSpaceOrTab c = true
  behind : ∀ c ∈ tail.behind, isSpaceOrTab c = true
  ending : tail.ending = ['\n'] ∨ tail.ending = ['\r', '\n'] ∨ tail.ending = [] ∧ rest = []

/-- The end of a line is no space and no semicolon. -/
theorem Ends.head_ending (h : tail.Ends rest) :
    ∀ c ∈ (tail.ending ++ rest).head?, isSpaceOrTab c = false ∧ c ≠ ';' := by
  rcases h.ending with he | he | ⟨he, rfl⟩ <;> rw [he]
  · exact forall_head_cons (by decide) _
  · exact forall_head_cons (by decide) _
  · exact fun _ hc => nomatch hc

/-- The whole of it is passed over. -/
theorem Ends.skipLineEnd_append (h : tail.Ends rest) : skipLineEnd (tail.written ++ rest) = rest := by
  have hspaces : skipSpaces (skipChar ';' (skipSpaces (tail.written ++ rest))) = tail.ending ++ rest := by
    have hend : skipSpaces (tail.behind ++ (tail.ending ++ rest)) = tail.ending ++ rest :=
      skipSpaces_append h.behind fun c hc => (h.head_ending c hc).1
    rw [written, List.append_assoc, List.append_assoc, List.append_assoc]
    cases tail.semicolon with
    | true =>
      have hsemicolon : ∀ c ∈ (';' :: (tail.behind ++ (tail.ending ++ rest))).head?,
          isSpaceOrTab c = false := forall_head_cons (by decide) _
      rw [if_pos rfl, List.singleton_append, skipSpaces_append h.before hsemicolon, skipChar_self, hend]
    | false =>
      have hboth : ∀ c ∈ tail.before ++ tail.behind, isSpaceOrTab c = true := fun c hc =>
        (List.mem_append.1 hc).elim (h.before c) (h.behind c)
      have hend' := skipSpaces_append hboth fun c hc => (h.head_ending c hc).1
      rw [List.append_assoc] at hend'
      rw [if_neg Bool.false_ne_true, List.nil_append, hend',
        skipChar_eq_self fun c hc => (h.head_ending c hc).2]
      exact skipSpaces_append (List.forall_mem_nil _) fun c hc => (h.head_ending c hc).1
  rw [skipLineEnd, hspaces]
  rcases h.ending with he | he | ⟨he, rfl⟩ <;> rw [he] <;> rfl

/-- Behind the statement, a line starts or nothing is left. -/
theorem Ends.startsBehind_written (h : tail.Ends rest) (atStart : Bool) :
    startsBehind atStart tail.written = true ∨ rest = [] := by
  rcases h.ending with he | he | ⟨-, rfl⟩
  · left
    simp [written, he]
  · left
    simp [written, he]
  · exact .inr rfl

/-- No line starts in what ends a line. -/
theorem Ends.atLines_false (h : tail.Ends rest) (p : List Char → Prop) :
    AtLines p false tail.written rest := by
  have hspaces : ∀ spaces : List Char, (∀ c ∈ spaces, isSpaceOrTab c = true) → '\n' ∉ spaces :=
    fun _ hs => not_mem_of_forall_class hs (by decide)
  have hfront : '\n' ∉ tail.before ++ ((if tail.semicolon then [';'] else []) ++ tail.behind) := by
    simp only [List.mem_append, not_or]
    refine ⟨hspaces _ h.before, ?_, hspaces _ h.behind⟩
    split <;> decide
  have htext : tail.written =
      tail.before ++ ((if tail.semicolon then [';'] else []) ++ tail.behind) ++ tail.ending := by
    rw [written, List.append_assoc, List.append_assoc]
  rw [htext]
  rcases h.ending with he | he | ⟨he, -⟩ <;> rw [he]
  · exact .line hfront fun hs => absurd hs Bool.false_ne_true
  · rw [List.append_cons]
    exact .line (by simpa using hfront) fun hs => absurd hs Bool.false_ne_true
  · rw [List.append_nil]
    exact .inside hfront rest

/-- Behind the statement, a sweep is at the start of a line or at the end of the text. -/
theorem Ends.sweep_behind (h : tail.Ends rest) (atStart : Bool) (front : List Char) :
    sweep reader (startsBehind atStart (front ++ tail.written)) rest = sweep reader true rest := by
  rw [startsBehind_append]
  rcases h.startsBehind_written (startsBehind atStart front) with hs | rfl
  · rw [hs]
  · rw [sweep, sweep]

/-- A sweep that takes the statement goes on with the next line. -/
theorem Ends.sweep_hit {result : α} {front : List Char} (h : tail.Ends rest) (hne : front ≠ [])
    (hr : reader (front ++ (tail.written ++ rest)) = some ⟨result, [], rest⟩) :
    sweep reader true (front ++ (tail.written ++ rest)) =
      (result :: (sweep reader true rest).1, (sweep reader true rest).2) := by
  rw [← List.append_assoc] at hr ⊢
  rw [Code.sweep_hit (List.append_ne_nil_of_left_ne_nil hne _) hr, h.sweep_behind]
  rfl

/-- A sweep within a line in which nothing more is recognised goes on with the next line. -/
theorem Ends.sweep_inside {front : List Char} (h : tail.Ends rest) (hn : '\n' ∉ front) :
    sweep reader false (front ++ (tail.written ++ rest)) =
      ((sweep reader true rest).1, front ++ (tail.written ++ (sweep reader true rest).2)) := by
  have hflag : startsBehind false front = false := by
    cases front with
    | nil => rfl
    | cons c front => exact startsBehind_of_not_mem hn (List.cons_ne_nil c front) false
  have hline : AtLines (reader · = none) false (front ++ tail.written) rest := by
    refine .append (.inside hn _) ?_
    rw [hflag]
    exact h.atLines_false _
  have hsweep := hline.sweep_append
  rw [h.sweep_behind] at hsweep
  simpa only [List.append_assoc] using hsweep

/-- Another end of the source may take the place of the first one, unless it comes from nothing. -/
theorem Ends.of_imp {other : List Char} (h : tail.Ends rest) (hr : rest = [] → other = []) :
    tail.Ends other := by
  refine { h with ending := ?_ }
  rcases h.ending with he | he | ⟨he, hnil⟩
  · exact .inl he
  · exact .inr (.inl he)
  · exact .inr (.inr ⟨he, hr hnil⟩)

end LineTail

/-! ### Statements on lines of their own -/

/-- A statement on a line of its own. -/
structure StatementLine where
  content : List Char
  tail : LineTail

namespace StatementLine

def written (line : StatementLine) : List Char :=
  line.content ++ line.tail.written

/-- Each statement is written on one line, and a line ends where the next one begins. -/
def AreLaid : List StatementLine → Prop
  | [] => True
  | line :: later =>
    line.content ≠ [] ∧ '\n' ∉ line.content ∧ line.tail.Ends (later.flatMap written) ∧ AreLaid later

variable {line : StatementLine} {lines : List StatementLine}

/-- A line in which nothing is recognised stays as it is. -/
theorem sweep_keep (hne : line.content ≠ []) (hn : '\n' ∉ line.content) (he : line.tail.Ends rest)
    (hr : reader (line.written ++ rest) = none) :
    sweep reader true (line.written ++ rest) =
      ((sweep reader true rest).1, line.written ++ (sweep reader true rest).2) := by
  obtain ⟨c, content, hcontent⟩ := List.exists_cons_of_ne_nil hne
  have hc : (c == '\n') = false := by
    refine beq_eq_false_iff_ne.2 fun hfeed => hn ?_
    rw [hcontent, hfeed]
    exact List.mem_cons_self
  have hinside : Code.sweep reader false (content ++ (line.tail.written ++ rest)) =
      ((Code.sweep reader true rest).1, content ++ (line.tail.written ++ (Code.sweep reader true rest).2)) :=
    he.sweep_inside fun hm => hn (hcontent ▸ List.mem_cons_of_mem c hm)
  rw [written, List.append_assoc, hcontent, List.cons_append] at hr ⊢
  rw [Code.sweep_keep fun _ => hr, hc, hinside]
  simp only [List.cons_append, List.append_assoc]

/-- A sweep over lines does to each of them what it does to the line in front of any source. -/
theorem AreLaid.sweep {ι : Type} {items : List ι} {lineOf : ι → StatementLine} {results : ι → List α}
    {left : ι → List Char} (h : AreLaid (items.map lineOf))
    (hstep : ∀ i ∈ items, (lineOf i).content ≠ [] → '\n' ∉ (lineOf i).content → ∀ rest,
      (lineOf i).tail.Ends rest → sweep reader true ((lineOf i).written ++ rest) =
        (results i ++ (sweep reader true rest).1, left i ++ (sweep reader true rest).2)) :
    sweep reader true ((items.map lineOf).flatMap written) = (items.flatMap results, items.flatMap left) := by
  induction items with
  | nil => rw [List.map_nil, List.flatMap_nil, Code.sweep]; rfl
  | cons i later ih =>
    obtain ⟨hne, hn, he, hlater⟩ := h
    have hrest := ih hlater fun l hl => hstep l (List.mem_cons_of_mem i hl)
    simp only [List.map_cons, List.flatMap_cons, hstep i List.mem_cons_self hne hn _ he, hrest]

/-- No line starts within a statement. -/
theorem AreLaid.atLines {p : List Char → Prop} (h : AreLaid lines)
    (hp : ∀ line ∈ lines, ∀ rest, p (line.written ++ rest)) :
    AtLines p true (lines.flatMap written) [] := by
  induction lines with
  | nil => trivial
  | cons line later ih =>
    obtain ⟨hne, hn, he, hlater⟩ := h
    have hline : AtLines p true line.written (later.flatMap written) := by
      refine .append (.within hn fun _ => ?_) ?_
      · simpa [written] using hp line List.mem_cons_self (later.flatMap written)
      · rw [startsBehind_of_not_mem hn hne]
        exact he.atLines_false p
    have hrest := ih hlater fun l hl => hp l (List.mem_cons_of_mem line hl)
    rw [List.flatMap_cons]
    refine .append (by simpa using hline) ?_
    rcases he.startsBehind_written (startsBehind true line.content) with hs | hnil
    · rw [written, startsBehind_append, hs]
      exact hrest
    · rw [hnil]
      trivial

/-- A sweep keeps lines in which nothing is recognised. -/
theorem AreLaid.sweep_eq_self (h : AreLaid lines)
    (hr : ∀ line ∈ lines, ∀ rest, reader (line.written ++ rest) = none) :
    Code.sweep reader true (lines.flatMap written) = ([], lines.flatMap written) := by
  have hsweep := (h.atLines hr).sweep_append
  rwa [Code.sweep, List.append_nil] at hsweep

/-- A search finds nothing in lines in which nothing is recognised. -/
theorem AreLaid.firstHit?_eq_none (h : AreLaid lines)
    (hr : ∀ line ∈ lines, ∀ rest, reader (line.written ++ rest) = none) :
    firstHit? reader true (lines.flatMap written) = none := by
  have hsearch := (h.atLines hr).firstHit?_append
  rwa [firstHit?, List.append_nil, Option.map_none] at hsearch

end StatementLine

end LivePreview.Code
