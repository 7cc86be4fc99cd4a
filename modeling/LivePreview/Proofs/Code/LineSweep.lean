import LivePreview.Code.LineSweep
import LivePreview.Proofs.Text.Lines
import LivePreview.Proofs.Text.Occurrence
/-!
# LivePreview.Proofs.Code.LineSweep

**Lines in front of a sweep.** A reader sees a text only from the starts of its lines on; `AtLines` says
that what is seen there has a property. A text in which the reader recognises nothing at any of its line
starts is passed over, and changes nothing about what is found behind it (`AtLines.sweep_append`,
`AtLines.firstHit?_append`).

What readers recognise begins with a word, behind blanks or spaces. `Clear` says that no line of a text
begins with one of some words; a reader that waits for these words recognises none of the lines.
-/

namespace LivePreview.Code

open Text

variable {α : Type} {reader : List Char → Option (Hit α)} {a text rest : List Char} {atStart : Bool}

/-! ### One character -/

/-- Where nothing is recognised, a sweep keeps a character. -/
theorem sweep_keep {c : Char} (h : atStart = true → reader (c :: rest) = none) :
    sweep reader atStart (c :: rest) =
      ((sweep reader (c == '\n') rest).1, c :: (sweep reader (c == '\n') rest).2) := by
  rw [sweep]
  dsimp only
  split
  · next hs => rw [h hs]
  · rfl

/-- Where nothing is recognised, a search goes on. -/
theorem firstHit?_keep {c : Char} (h : atStart = true → reader (c :: rest) = none) :
    firstHit? reader atStart (c :: rest) =
      (firstHit? reader (c == '\n') rest).map fun (before, hit) => (c :: before, hit) := by
  have hnone : (if atStart then reader (c :: rest) else none) = none := by
    split
    · next hs => exact h hs
    · rfl
  rw [firstHit?, hnone]

/-! ### The line starts of a text -/

/-- Is the place behind a text the start of a line? The flag says so of the place in front of it. -/
def startsBehind (atStart : Bool) (text : List Char) : Bool :=
  text.foldl (fun _ c => c == '\n') atStart

@[simp] theorem startsBehind_nil (atStart : Bool) : startsBehind atStart [] = atStart :=
  rfl

@[simp] theorem startsBehind_cons (atStart : Bool) (c : Char) (text : List Char) :
    startsBehind atStart (c :: text) = startsBehind (c == '\n') text :=
  rfl

@[simp] theorem startsBehind_append (atStart : Bool) (a b : List Char) :
    startsBehind atStart (a ++ b) = startsBehind (startsBehind atStart a) b :=
  List.foldl_append

/-- Behind the last character of a text, it alone counts. -/
theorem startsBehind_of_ne_nil (hne : text ≠ []) (atStart : Bool) :
    startsBehind atStart text = (text.getLast? == some '\n') := by
  rw [← List.dropLast_append_getLast hne, startsBehind_append, List.getLast?_concat]
  simp

/-- Behind a text without line feed, no line starts. -/
theorem startsBehind_of_not_mem (hn : '\n' ∉ text) (hne : text ≠ []) (atStart : Bool) :
    startsBehind atStart text = false := by
  rw [startsBehind_of_ne_nil hne]
  exact beq_eq_false_iff_ne.2 fun hl => hn (List.mem_of_getLast? hl)

/-- Behind a hit that takes something, the sweep is at the start of a line if what was taken ends with a
line feed. -/
theorem startsLine_eq_startsBehind (hne : a ≠ []) (atStart : Bool) (rest : List Char) :
    startsLine (a ++ rest) rest = startsBehind atStart a := by
  rw [startsLine, List.length_append, Nat.add_sub_cancel, List.take_left,
    startsBehind_of_ne_nil hne]

/-- What is seen from each line start in a text, with `rest` behind the text, has the property. -/
def AtLines (p : List Char → Prop) : Bool → List Char → List Char → Prop
  | _, [], _ => True
  | atStart, c :: text, rest =>
    (atStart = true → p (c :: (text ++ rest))) ∧ AtLines p (c == '\n') text rest

instance AtLines.decidable (p : List Char → Prop) [DecidablePred p] :
    (atStart : Bool) → (text rest : List Char) → Decidable (AtLines p atStart text rest)
  | _, [], _ => .isTrue trivial
  | atStart, c :: text, rest =>
    have := AtLines.decidable p (c == '\n') text rest
    inferInstanceAs (Decidable ((atStart = true → p (c :: (text ++ rest))) ∧
      AtLines p (c == '\n') text rest))

namespace AtLines

variable {p q : List Char → Prop} {b : List Char}

theorem append_iff :
    AtLines p atStart (a ++ b) rest ↔
      AtLines p atStart a (b ++ rest) ∧ AtLines p (startsBehind atStart a) b rest := by
  induction a generalizing atStart with
  | nil => simp [AtLines]
  | cons c a ih => simp [AtLines, ih, and_assoc]

theorem append (ha : AtLines p atStart a (b ++ rest))
    (hb : AtLines p (startsBehind atStart a) b rest) : AtLines p atStart (a ++ b) rest :=
  append_iff.2 ⟨ha, hb⟩

/-- A property may give way to another one, and what is behind the text to something else. -/
theorem imp {other : List Char} (h : AtLines p atStart text rest)
    (hpq : ∀ line, p (line ++ rest) → q (line ++ other)) : AtLines q atStart text other := by
  induction text generalizing atStart with
  | nil => trivial
  | cons c text ih => exact ⟨fun hs => hpq (c :: text) (h.1 hs), ih h.2⟩

/-- A property of every end of the text is one of what is seen from its line starts. -/
theorem of_suffixes (h : ∀ line, line ≠ [] → line <:+ text → p (line ++ rest)) :
    AtLines p atStart text rest := by
  induction text generalizing atStart with
  | nil => trivial
  | cons c text ih =>
    exact ⟨fun _ => h _ (List.cons_ne_nil c text) (List.suffix_refl _),
      ih fun line hne hline => h line hne (hline.trans (List.suffix_cons c text))⟩

/-- Inside a line, no line starts. -/
theorem inside (hn : '\n' ∉ text) (rest : List Char) : AtLines p false text rest := by
  induction text with
  | nil => trivial
  | cons c text ih =>
    rw [List.mem_cons, not_or] at hn
    have hc : (c == '\n') = false := by simpa using Ne.symm hn.1
    refine ⟨fun hs => absurd hs Bool.false_ne_true, ?_⟩
    rw [hc]
    exact ih hn.2

/-- In a text without line feed, a line starts in front at most. -/
theorem within (hn : '\n' ∉ text) (h : atStart = true → p (text ++ rest)) :
    AtLines p atStart text rest := by
  cases text with
  | nil => trivial
  | cons c text =>
    rw [List.mem_cons, not_or] at hn
    have hc : (c == '\n') = false := by simpa using Ne.symm hn.1
    refine ⟨h, ?_⟩
    rw [hc]
    exact inside hn.2 rest

theorem line (hn : '\n' ∉ a) (h : atStart = true → p (a ++ '\n' :: rest)) :
    AtLines p atStart (a ++ ['\n']) rest := by
  cases a with
  | nil => exact ⟨h, trivial⟩
  | cons c a =>
    -- The line feed itself begins no line.
    have ha : AtLines p atStart (c :: a) (['\n'] ++ rest) := within hn h
    have hend := startsBehind_of_not_mem hn (List.cons_ne_nil c a) atStart
    exact ha.append ⟨fun hs => absurd (hend.symm.trans hs) Bool.false_ne_true, trivial⟩

/-- A sweep keeps a text in which nothing is recognised, and goes on behind it. -/
theorem sweep_append (h : AtLines (reader · = none) atStart text rest) :
    sweep reader atStart (text ++ rest) =
      ((sweep reader (startsBehind atStart text) rest).1,
        text ++ (sweep reader (startsBehind atStart text) rest).2) := by
  induction text generalizing atStart with
  | nil => rfl
  | cons c text ih => rw [List.cons_append, sweep_keep h.1, ih h.2, startsBehind_cons, List.cons_append]

/-- A search passes over a text in which nothing is recognised. -/
theorem firstHit?_append (h : AtLines (reader · = none) atStart text rest) :
    firstHit? reader atStart (text ++ rest) =
      (firstHit? reader (startsBehind atStart text) rest).map
        fun (before, hit) => (text ++ before, hit) := by
  induction text generalizing atStart with
  | nil => exact Option.map_id'.symm
  | cons c text ih =>
    rw [List.cons_append, firstHit?_keep h.1, ih h.2, startsBehind_cons, Option.map_map]
    rfl

end AtLines

/-- What a reader takes at the start of a line goes from the text, and the sweep goes on behind it. -/
theorem sweep_hit {result : α} {replacement : List Char} (hne : a ≠ [])
    (h : reader (a ++ rest) = some ⟨result, replacement, rest⟩) :
    sweep reader true (a ++ rest) =
      (result :: (sweep reader (startsBehind true a) rest).1,
        replacement ++ (sweep reader (startsBehind true a) rest).2) := by
  have hline := startsLine_eq_startsBehind hne true rest
  cases a with
  | nil => exact absurd rfl hne
  | cons c a =>
    have hlen : rest.length < (a ++ rest).length + 1 := by
      rw [List.length_append]
      omega
    rw [List.cons_append] at h hline ⊢
    rw [sweep]
    simp only [h, if_pos hlen, hline, if_true]

/-- A search goes on behind a line that the reader does not recognise. -/
theorem firstHit?_line (ha : '\n' ∉ a) (h : atStart = true → reader (a ++ '\n' :: rest) = none) :
    firstHit? reader atStart (a ++ '\n' :: rest) =
      (firstHit? reader true rest).map fun (before, hit) => (a ++ '\n' :: before, hit) := by
  simpa using (AtLines.line ha h).firstHit?_append

/-! ### Lines that begin with none of some words -/

/-- No line of the text begins with one of the words, behind characters that are skipped. -/
def Clear (skips : Char → Bool) (words : List String) (text : List Char) : Prop :=
  ∀ raw ∈ rawLines text, ∀ w ∈ words, startsWith w.toList (raw.dropWhile skips) = false

instance (skips : Char → Bool) (words : List String) (text : List Char) :
    Decidable (Clear skips words text) :=
  inferInstanceAs (Decidable (∀ raw ∈ rawLines text, ∀ w ∈ words,
    startsWith w.toList (raw.dropWhile skips) = false))

/-- Each of the words begins with a character that is not blank, and holds no line feed. -/
def AreHeads (words : List String) : Prop :=
  ∀ w ∈ words, (∃ c lead, w.toList = c :: lead ∧ isBlank c = false) ∧ '\n' ∉ w.toList

/-- The reader recognises nothing unless the text begins with one of the words, behind spaces. -/
def WaitsFor (words : List String) (reader : List Char → Option (Hit α)) : Prop :=
  ∀ text, (∀ w ∈ words, startsWith w.toList (skipSpaces text) = false) → reader text = none

variable {skips : Char → Bool} {words : List String}

theorem clear_append_feed (ha : '\n' ∉ a) :
    Clear skips words (a ++ '\n' :: rest) ↔
      (∀ w ∈ words, startsWith w.toList ((a ++ ['\n']).dropWhile skips) = false) ∧
        Clear skips words rest := by
  simp only [Clear, rawLines_append_feed ha, List.forall_mem_cons]

theorem Clear.mono {fewer : List String} (h : Clear skips words text)
    (hw : ∀ w ∈ fewer, w ∈ words) : Clear skips fewer text :=
  fun raw hraw w hm => h raw hraw w (hw w hm)

/-- A word that begins a text and shares no character with its end begins what is in front of it. -/
theorem startsWith_dropWhile_append {w more : List Char} (hne : w ≠ []) (hw : ∀ c ∈ more, c ∉ w)
    (h : startsWith w ((a ++ more).dropWhile skips) = true) :
    startsWith w (a.dropWhile skips) = true := by
  rw [startsWith_iff] at h ⊢
  rw [List.dropWhile_append] at h
  split at h
  · obtain ⟨c, w, rfl⟩ := List.exists_cons_of_ne_nil hne
    have hc : c ∈ more := (List.dropWhile_sublist _).mem (h.mem List.mem_cons_self)
    exact absurd List.mem_cons_self (hw c hc)
  · rcases List.prefix_or_prefix_of_prefix h (List.prefix_append _ more) with h' | ⟨behind, rfl⟩
    · exact h'
    · rw [List.prefix_append_right_inj] at h
      cases behind with
      | nil => exact (List.append_nil _).symm ▸ List.prefix_refl _
      | cons c behind => exact absurd (by simp) (hw c (h.mem List.mem_cons_self))

/-- What ends the last line of a text begins no line with a word that it shares no character with. -/
theorem Clear.append_ending {ending : List Char} (h : Clear skips words text) (hw : AreHeads words)
    (he : ∀ w ∈ words, ∀ c ∈ ending, c ∉ w.toList) (hfeed : '\n' ∉ ending) :
    Clear skips words (text ++ (ending ++ ['\n'])) := by
  have hmore : ∀ w ∈ words, w.toList ≠ [] ∧ ∀ c ∈ ending ++ ['\n'], c ∉ w.toList := by
    intro w hm
    obtain ⟨⟨c, lead, hlead, -⟩, hfeed⟩ := hw w hm
    refine ⟨hlead ▸ List.cons_ne_nil c lead, fun d hd => ?_⟩
    rcases List.mem_append.1 hd with hd | hd
    · exact he w hm d hd
    · rw [List.mem_singleton.1 hd]
      exact hfeed
  induction text using piecewise_induction with
  | last a ha =>
    rw [← List.append_assoc]
    refine (clear_append_feed (by simp [ha, hfeed])).2 ⟨fun w hm => ?_, fun raw hraw => ?_⟩
    · refine Bool.eq_false_iff.2 fun hs => ?_
      rw [List.append_assoc] at hs
      have hs := startsWith_dropWhile_append (hmore w hm).1 (hmore w hm).2 hs
      cases a with
      | nil => exact (hmore w hm).1 (List.prefix_nil.1 (startsWith_iff.1 hs))
      | cons c a =>
        rw [Clear, rawLines_of_not_mem ha (List.cons_ne_nil c a)] at h
        rw [h _ List.mem_cons_self w hm] at hs
        cases hs
    · exact absurd hraw (by simp [rawLines])
  | feed a rest ha ih =>
    obtain ⟨hline, hrest⟩ := (clear_append_feed ha).1 h
    rw [List.append_assoc, List.cons_append]
    exact (clear_append_feed ha).2 ⟨hline, ih hrest⟩

/-- Where no line begins with a word behind blanks, none does behind spaces. -/
theorem Clear.spaces (hw : AreHeads words) (h : Clear isBlank words text) :
    Clear isSpaceOrTab words text := by
  intro raw hraw w hm
  obtain ⟨c, lead, hlead, hc⟩ := (hw w hm).1
  have hblank := h raw hraw w hm
  rw [← Bool.not_eq_true, startsWith_iff, hlead] at hblank ⊢
  rintro ⟨behind, hbehind⟩
  refine hblank ⟨behind, ?_⟩
  have hspaces : allBlank (raw.takeWhile isSpaceOrTab) = true := by
    refine allBlank_iff.2 fun d hd => ?_
    have hd := List.mem_takeWhile_imp hd
    simp only [isSpaceOrTab, Bool.or_eq_true, beq_iff_eq] at hd
    rcases hd with rfl | rfl <;> decide
  have hraw : raw = raw.takeWhile isSpaceOrTab ++ c :: (lead ++ behind) := by
    rw [← List.cons_append, hbehind, List.takeWhile_append_dropWhile]
  rw [hraw]
  show _ = trimStart _
  rw [trimStart_append_of_allBlank hspaces, trimStart_cons hc, List.cons_append]

/-- A word that begins a text begins every longer text. -/
theorem startsWith_skipSpaces_append {w : List Char} (hne : w ≠ [])
    (h : startsWith w (skipSpaces text) = true) (more : List Char) :
    startsWith w (skipSpaces (text ++ more)) = true := by
  rw [startsWith_iff] at h ⊢
  unfold skipSpaces at h ⊢
  rw [List.dropWhile_append]
  split
  · next he =>
    rw [List.isEmpty_iff.1 he] at h
    exact absurd (List.prefix_nil.1 h) hne
  · exact h.trans (List.prefix_append _ more)

/-- A word begins a text if it begins its first line. -/
theorem startsWith_line {w : List Char} (hw : '\n' ∉ w) :
    startsWith w (skipSpaces (a ++ '\n' :: rest)) = startsWith w (skipSpaces (a ++ ['\n'])) := by
  -- What is skipped ends in front of the line feed at the latest.
  have hskip : ∀ more, skipSpaces (a ++ '\n' :: more) = skipSpaces a ++ '\n' :: more := by
    intro more
    unfold skipSpaces
    rw [List.dropWhile_append]
    split
    · next he => rw [List.isEmpty_iff.1 he]; rfl
    · rfl
  rw [hskip, hskip, Bool.eq_iff_iff, startsWith_iff, startsWith_iff]
  constructor
  · intro h
    rw [List.append_cons] at h
    rcases List.prefix_or_prefix_of_prefix h (List.prefix_append _ rest) with h | h
    · exact h
    · exact absurd (h.mem (by simp)) hw
  · intro h
    exact h.trans ⟨rest, by simp⟩

/-- A reader does not recognise a line that begins with none of its words. -/
theorem WaitsFor.line (hr : WaitsFor words reader) (hw : AreHeads words)
    (h : ∀ w ∈ words, startsWith w.toList (skipSpaces (a ++ ['\n'])) = false) (rest : List Char) :
    reader (a ++ '\n' :: rest) = none := by
  refine hr _ fun w hm => ?_
  rw [startsWith_line (hw w hm).2]
  exact h w hm

/-- Where a line begins with none of the words, as seen from its start on, no line of the text does. -/
theorem AtLines.clear (hw : AreHeads words)
    (h : AtLines (fun line => ∀ w ∈ words, startsWith w.toList (skipSpaces line) = false) true text []) :
    Clear isSpaceOrTab words text := by
  induction text using piecewise_induction with
  | last a ha =>
    intro raw hraw
    cases a with
    | nil => exact absurd hraw List.not_mem_nil
    | cons c a =>
      rw [rawLines_of_not_mem ha (List.cons_ne_nil c a), List.mem_singleton] at hraw
      have hfirst := h.1 rfl
      rw [List.append_nil] at hfirst
      rw [hraw]
      exact hfirst
  | feed a more ha ih =>
    rw [List.append_cons, append_iff] at h
    obtain ⟨hline, hmore⟩ := h
    have hfirst : ∀ w ∈ words, startsWith w.toList (skipSpaces (a ++ '\n' :: more)) = false := by
      cases a with
      | nil => simpa using hline.1 rfl
      | cons c a => simpa using hline.1 rfl
    refine (clear_append_feed ha).2 ⟨fun w hm => ?_, ih (by simpa using hmore)⟩
    exact (startsWith_line (hw w hm).2).symm.trans (hfirst w hm)

/-! ### Whole lines -/

/-- Behind whole lines, a line starts. -/
theorem startsBehind_of_endsLine (he : EndsLine text) : startsBehind true text = true := by
  rcases he with rfl | hlast
  · rfl
  · have hne : text ≠ [] := by
      rintro rfl
      cases hlast
    rw [startsBehind_of_ne_nil hne, hlast]
    rfl

/-- Where no line begins with one of the words, none does as seen from its start on, whatever is behind. -/
theorem AtLines.of_clear (hw : AreHeads words) (hc : Clear isSpaceOrTab words text) (he : EndsLine text)
    (rest : List Char) :
    AtLines (fun line => ∀ w ∈ words, startsWith w.toList (skipSpaces line) = false) true text rest := by
  induction text, he using EndsLine.induction with
  | nil => trivial
  | line a more ha _ ih =>
    obtain ⟨hline, hmore⟩ := (clear_append_feed ha).1 hc
    rw [List.append_cons]
    refine .append (.line ha fun _ w hm => ?_) ?_
    · rw [startsWith_line (hw w hm).2]
      exact hline w hm
    · rw [startsBehind_append]
      exact ih hmore

/-- A sweep keeps the lines in front that begin with none of its reader's words. -/
theorem WaitsFor.sweep_append (hr : WaitsFor words reader) (hw : AreHeads words)
    (hc : Clear isSpaceOrTab words text) (he : EndsLine text) (rest : List Char) :
    sweep reader true (text ++ rest) =
      ((sweep reader true rest).1, text ++ (sweep reader true rest).2) := by
  have hlines : AtLines (reader · = none) true text rest :=
    (AtLines.of_clear hw hc he rest).imp fun _ hline => hr _ hline
  rw [hlines.sweep_append, startsBehind_of_endsLine he]

/-- A search goes on behind the lines in front that begin with none of its reader's words. -/
theorem WaitsFor.firstHit?_append (hr : WaitsFor words reader) (hw : AreHeads words)
    (hc : Clear isSpaceOrTab words text) (he : EndsLine text) (rest : List Char) :
    firstHit? reader true (text ++ rest) =
      (firstHit? reader true rest).map fun (before, hit) => (text ++ before, hit) := by
  have hlines : AtLines (reader · = none) true text rest :=
    (AtLines.of_clear hw hc he rest).imp fun _ hline => hr _ hline
  rw [hlines.firstHit?_append, startsBehind_of_endsLine he]

end LivePreview.Code
