import LivePreview.Proofs.Text.Trim
import LivePreview.Text.Line
/-!
# LivePreview.Proofs.Text.Lines

**How a text falls into lines.** The pieces of a text are read off from the front: up to the first
line feed, or the whole text if there is none. `AreLines` says what is known of the lines that come
out, and is all that a walk over lines has to keep.
-/

namespace LivePreview.Text

variable {a text rest : List Char}

/-! ### Pieces -/

/-- The first piece ends with the first line feed. -/
theorem rawLines_append_feed (h : '\n' ∉ a) (rest : List Char) :
    rawLines (a ++ '\n' :: rest) = (a ++ ['\n']) :: rawLines rest := by
  induction a with
  | nil => simp [rawLines]
  | cons c a ih =>
    rw [List.mem_cons, not_or] at h
    simp only [List.cons_append, rawLines, if_neg (Ne.symm h.1), ih h.2]

/-- A text without line feed is one piece. -/
theorem rawLines_of_not_mem (h : '\n' ∉ a) (hne : a ≠ []) : rawLines a = [a] := by
  induction a with
  | nil => exact absurd rfl hne
  | cons c a ih =>
    rw [List.mem_cons, not_or] at h
    simp only [rawLines, if_neg (Ne.symm h.1)]
    cases a with
    | nil => rfl
    | cons d a => rw [ih h.2 (List.cons_ne_nil d a)]

/-- The induction along the pieces of a text: from the text behind a line feed to the text with one
more piece in front. -/
theorem piecewise_induction {motive : List Char → Prop}
    (last : ∀ a, '\n' ∉ a → motive a)
    (feed : ∀ a rest, '\n' ∉ a → motive rest → motive (a ++ '\n' :: rest)) (text : List Char) :
    motive text := by
  induction h : text.length using Nat.strongRecOn generalizing text with
  | _ n ih =>
    by_cases hm : '\n' ∈ text
    · obtain ⟨a, rest, rfl, ha⟩ := List.eq_append_cons_of_mem hm
      refine feed a rest ha (ih rest.length ?_ rest rfl)
      rw [← h, List.length_append, List.length_cons]
      omega
    · exact last text hm

/-! ### Texts of whole lines -/

/-- The text is empty or ends with a line feed. -/
def EndsLine (text : List Char) : Prop :=
  text = [] ∨ text.getLast? = some '\n'

instance (text : List Char) : Decidable (EndsLine text) :=
  inferInstanceAs (Decidable (text = [] ∨ text.getLast? = some '\n'))

theorem endsLine_append_feed : EndsLine (a ++ '\n' :: rest) ↔ EndsLine rest := by
  cases rest with
  | nil => simp [EndsLine]
  | cons c rest => simp [EndsLine, List.getLast?_append, List.getLast?_cons_cons]

theorem endsLine_nil : EndsLine [] :=
  .inl rfl

/-- The induction along the lines of a text that ends with its last line. -/
theorem EndsLine.induction {motive : (text : List Char) → EndsLine text → Prop}
    (nil : motive [] endsLine_nil)
    (line : ∀ a rest (_ : '\n' ∉ a) (h : EndsLine rest), motive rest h →
      motive (a ++ '\n' :: rest) (endsLine_append_feed.2 h))
    (text : List Char) (h : EndsLine text) : motive text h := by
  induction text using piecewise_induction with
  | last a ha =>
    rcases h with rfl | hl
    · exact nil
    · exact absurd (List.mem_of_getLast? hl) ha
  | feed a rest ha ih =>
    have hrest := endsLine_append_feed.1 h
    exact line a rest ha hrest (ih hrest)

/-- Whole lines in front of a text fall into pieces of their own. -/
theorem EndsLine.rawLines_append (h : EndsLine text) (rest : List Char) :
    rawLines (text ++ rest) = rawLines text ++ rawLines rest := by
  induction text, h using EndsLine.induction with
  | nil => rfl
  | line a more ha _ ih =>
    rw [List.append_assoc, List.cons_append, rawLines_append_feed ha, rawLines_append_feed ha, ih,
      List.cons_append]

/-! ### Lines -/

namespace Line

/-- A piece that ends with a line feed is a line whose end goes back over carriage returns. -/
theorem ofRaw_append_feed (h : '\n' ∉ a) :
    ofRaw (a ++ ['\n']) =
      ⟨dropEndWhile (· == '\r') a, (a.reverse.takeWhile (· == '\r')).reverse ++ ['\n']⟩ := by
  have hr : '\n' ∉ a.reverse := by simpa using h
  cases hb : a.reverse with
  | nil => simp [ofRaw, dropEndWhile, hb]
  | cons c back =>
    rw [hb, List.mem_cons, not_or] at hr
    have hc : (c == '\n') = false := by simpa using Ne.symm hr.1
    simp [ofRaw, dropEndWhile, hb, hc]

/-- A piece without line feed. -/
theorem ofRaw_of_not_mem (h : '\n' ∉ a) :
    ofRaw a = ⟨dropEndWhile (· == '\r') a, (a.reverse.takeWhile (· == '\r')).reverse⟩ := by
  have hr : '\n' ∉ a.reverse := by simpa using h
  cases hb : a.reverse with
  | nil => simp [ofRaw, dropEndWhile, hb]
  | cons c back =>
    rw [hb, List.mem_cons, not_or] at hr
    have hc : (c == '\n') = false := by simpa using Ne.symm hr.1
    simp [ofRaw, dropEndWhile, hb, hc]

end Line

/-- Lines as a text falls into them: no content holds a line feed, ends are blank, and only the
last line may lack the line feed at its end. -/
inductive AreLines : List Line → Prop
  | nil : AreLines []
  | last {line : Line} : '\n' ∉ line.content → '\n' ∉ line.ending → allBlank line.ending = true →
      AreLines [line]
  | cons {line : Line} {blanks : List Char} {later : List Line} : '\n' ∉ line.content →
      line.ending = blanks ++ ['\n'] → '\n' ∉ blanks → allBlank blanks = true → AreLines later →
      AreLines (line :: later)

namespace AreLines

variable {line : Line} {later : List Line} {content : List Char}

theorem tail (h : AreLines (line :: later)) : AreLines later := by
  cases h with
  | last _ _ _ => exact .nil
  | cons _ _ _ _ hl => exact hl

theorem not_mem_content (h : AreLines (line :: later)) : '\n' ∉ line.content := by
  cases h with
  | last hc _ _ => exact hc
  | cons hc _ _ _ _ => exact hc

theorem allBlank_ending (h : AreLines (line :: later)) : allBlank line.ending = true := by
  cases h with
  | last _ _ hb => exact hb
  | cons _ he _ hb _ =>
    rw [he, allBlank_append, hb]
    rfl

/-- Another content without line feed may take the place of the first one. -/
theorem withContent (h : AreLines (line :: later)) (hc : '\n' ∉ content) :
    AreLines (⟨content, line.ending⟩ :: later) := by
  cases h with
  | last _ hn hb => exact .last hc hn hb
  | cons _ he hn hb hl => exact .cons hc he hn hb hl

/-- Either nothing stands behind the first line, or it ends with a line feed. -/
theorem ending_cases (h : AreLines (line :: later)) :
    (later = [] ∧ '\n' ∉ line.ending) ∨
      ∃ blanks, line.ending = blanks ++ ['\n'] ∧ '\n' ∉ blanks ∧ allBlank blanks = true := by
  cases h with
  | last _ hn _ => exact .inl ⟨rfl, hn⟩
  | cons _ he hn hb _ => exact .inr ⟨_, he, hn, hb⟩

end AreLines

theorem not_mem_takeWhile_return (a : List Char) : '\n' ∉ a.takeWhile (· == '\r') := by
  intro h
  have := List.mem_takeWhile_imp h
  exact absurd this (by decide)

theorem allBlank_takeWhile_return (a : List Char) :
    allBlank (a.takeWhile (· == '\r')).reverse = true := by
  refine allBlank_iff.2 fun c hc => ?_
  have hr := List.mem_takeWhile_imp (List.mem_reverse.1 hc)
  rw [eq_of_beq hr]
  decide

theorem not_mem_dropEndWhile {p : Char → Bool} {c : Char} (h : c ∉ a) : c ∉ dropEndWhile p a := by
  intro hc
  refine h ?_
  rw [← dropEndWhile_append p a]
  exact List.mem_append_left _ hc

theorem areLines_lines (text : List Char) : AreLines (lines text) := by
  induction text using piecewise_induction with
  | last a ha =>
    cases a with
    | nil => exact .nil
    | cons c a =>
      rw [lines, rawLines_of_not_mem ha (List.cons_ne_nil c a), List.map_singleton,
        Line.ofRaw_of_not_mem ha]
      exact .last (not_mem_dropEndWhile ha)
        (by simpa using not_mem_takeWhile_return (c :: a).reverse) (allBlank_takeWhile_return _)
  | feed a rest ha ih =>
    rw [lines, rawLines_append_feed ha, List.map_cons, Line.ofRaw_append_feed ha]
    exact .cons (not_mem_dropEndWhile ha) rfl
      (by simpa using not_mem_takeWhile_return a.reverse) (allBlank_takeWhile_return _) ih

/-- A line that a text falls into as it is: it ends with a line feed, with one carriage return before
it or with none, and its content ends with neither. -/
structure Line.Whole (line : Line) : Prop where
  content : '\n' ∉ line.content
  last : line.content.getLast? ≠ some '\r'
  ending : line.ending = ['\n'] ∨ line.ending = ['\r', '\n']

theorem dropEndWhile_of_last {p : Char → Bool} (h : ∀ c ∈ a.getLast?, p c = false) :
    dropEndWhile p a = a ∧ (a.reverse.takeWhile p).reverse = [] := by
  rw [← List.head?_reverse] at h
  cases hr : a.reverse with
  | nil => simp [dropEndWhile, List.reverse_eq_nil_iff.1 hr]
  | cons c back =>
    rw [hr] at h
    have hc := h c rfl
    rw [dropEndWhile, hr, List.dropWhile_cons, hc, List.takeWhile_cons, hc]
    exact ⟨by rw [if_neg Bool.false_ne_true, ← hr, List.reverse_reverse], rfl⟩

theorem Line.Whole.ofRaw_text {line : Line} (h : line.Whole) :
    ∃ front, line.text = front ++ ['\n'] ∧ '\n' ∉ front ∧ Line.ofRaw (front ++ ['\n']) = line := by
  obtain ⟨content, ending⟩ := line
  obtain ⟨hc, hl, he⟩ := h
  have hlast : ∀ c ∈ content.getLast?, (c == '\r') = false := by
    intro c hm
    cases hb : c == '\r' with
    | false => rfl
    | true => exact absurd (eq_of_beq hb ▸ hm) hl
  obtain ⟨hdrop, htake⟩ := dropEndWhile_of_last hlast
  rcases he with he | he
  · subst he
    refine ⟨content, rfl, hc, ?_⟩
    rw [Line.ofRaw_append_feed hc, hdrop, htake]
    rfl
  · subst he
    have hc' : '\n' ∉ content ++ ['\r'] := by simpa using hc
    refine ⟨content ++ ['\r'], by simp [Line.text], hc', ?_⟩
    have hrev : (content ++ ['\r']).reverse = '\r' :: content.reverse := by simp
    have htake' : content.reverse.takeWhile (· == '\r') = [] := by simpa using htake
    rw [Line.ofRaw_append_feed hc', dropEndWhile, hrev]
    have hdrop' : (content.reverse.dropWhile (· == '\r')).reverse = content := hdrop
    simp [htake', hdrop']

/-- Whole lines in front of a text are the first lines of both together. -/
theorem lines_append {ls : List Line} (h : ∀ line ∈ ls, line.Whole) (rest : List Char) :
    lines (ls.flatMap Line.text ++ rest) = ls ++ lines rest := by
  induction ls with
  | nil => rfl
  | cons line ls ih =>
    obtain ⟨front, ht, hn, hline⟩ := (h line List.mem_cons_self).ofRaw_text
    have hls := ih fun l hl => h l (List.mem_cons_of_mem line hl)
    rw [List.flatMap_cons, ht, List.append_assoc, List.append_assoc, List.singleton_append, lines,
      rawLines_append_feed hn, List.map_cons, hline, List.cons_append]
    rw [lines] at hls
    rw [hls]

end LivePreview.Text
