import LivePreview.Import.Scan
import LivePreview.Proofs.Text.Lines
/-!
# LivePreview.Proofs.Import.Removal

**Cutting ranges out of a text.** `outside` says what is left without any cursor: the characters
whose bytes lie in no range. `Sections` follows a text from its start and splits it into ranges and
what stands between them; a text that is split in this way has its ranges in order, side by side
and within bounds, and both `outside` and the cursor of `removeSpans` leave what stands between.
`Dissects` splits a text by cuts, and tells what each of them takes.
-/

namespace LivePreview.ImportScan

open Text

/-! ### What is left -/

/-- Does the byte at `offset` lie in one of the ranges? -/
def inSpans (spans : List SourceSpan) (offset : Nat) : Bool :=
  spans.any fun span => span.start ≤ offset && offset < span.stop

/-- The characters whose bytes lie in no range, where the text begins at byte `offset`. -/
def outside (spans : List SourceSpan) : Nat → List Char → List Char
  | _, [] => []
  | offset, c :: rest =>
    let left := outside spans (offset + charBytes c) rest
    if inSpans spans offset then left else c :: left

variable {span : SourceSpan} {spans : List SourceSpan} {offset : Nat} {a text : List Char}

/-- In front of all ranges everything is left. -/
theorem outside_append_of_le (h : ∀ span ∈ spans, offset + byteSize a ≤ span.start)
    (text : List Char) :
    outside spans offset (a ++ text) = a ++ outside spans (offset + byteSize a) text := by
  induction a generalizing offset with
  | nil => rfl
  | cons c a ih =>
    have hc := charBytes_pos c
    have hout : inSpans spans offset = false := by
      refine List.any_eq_false.2 fun span hs => ?_
      have := h span hs
      rw [byteSize_cons] at this
      simp only [Bool.and_eq_true, decide_eq_true_eq]
      omega
    have hrest : ∀ span ∈ spans, offset + charBytes c + byteSize a ≤ span.start := by
      intro span hs
      have := h span hs
      rw [byteSize_cons] at this
      omega
    simp only [List.cons_append, outside, hout, Bool.false_eq_true, if_false, ih hrest,
      byteSize_cons, Nat.add_assoc]

/-- Within the first range nothing is left. -/
theorem outside_append_of_mem (hl : span.start ≤ offset) (hr : offset + byteSize a ≤ span.stop)
    (text : List Char) :
    outside (span :: spans) offset (a ++ text) =
      outside (span :: spans) (offset + byteSize a) text := by
  induction a generalizing offset with
  | nil => rfl
  | cons c a ih =>
    have hc := charBytes_pos c
    rw [byteSize_cons] at hr
    have hin : inSpans (span :: spans) offset = true := by
      simp only [inSpans, List.any_cons, Bool.or_eq_true, Bool.and_eq_true, decide_eq_true_eq]
      exact .inl ⟨hl, by omega⟩
    simp only [List.cons_append, outside, hin, if_true, byteSize_cons]
    rw [ih (by omega) (by omega), Nat.add_assoc]

/-- Behind a range it does not count any more. -/
theorem outside_cons_of_le (h : span.stop ≤ offset) (text : List Char) :
    outside (span :: spans) offset text = outside spans offset text := by
  induction text generalizing offset with
  | nil => rfl
  | cons c text ih =>
    have hin : inSpans (span :: spans) offset = inSpans spans offset := by
      have : decide (offset < span.stop) = false := by simpa using h
      simp [inSpans, this]
    simp only [outside, hin, ih (show span.stop ≤ offset + charBytes c by omega)]

/-- Without ranges everything is left. -/
theorem outside_nil (offset : Nat) (text : List Char) : outside [] offset text = text := by
  have h : outside [] offset (text ++ []) = text ++ outside [] (offset + byteSize text) [] :=
    outside_append_of_le (fun span hs => absurd hs List.not_mem_nil) []
  simpa [outside] using h

/-! ### Splitting a text into ranges and what stands between -/

/-- From byte `offset` on, the text is made up of the ranges, in order, and of the last argument, which
is what stands between them. -/
inductive Sections : Nat → List Char → List SourceSpan → List Char → Prop
  | rest (offset : Nat) (text : List Char) : Sections offset text [] text
  | range {offset : Nat} {before range after kept : List Char} {span : SourceSpan}
      {spans : List SourceSpan} :
      span = ⟨offset + byteSize before, offset + byteSize before + byteSize range⟩ →
      Sections span.stop after spans kept →
      Sections offset (before ++ (range ++ after)) (span :: spans) (before ++ kept)

namespace Sections

variable {kept : List Char}

/-- The ranges begin at the offset or later. -/
theorem offset_le (h : Sections offset text spans kept) : ∀ span ∈ spans, offset ≤ span.start := by
  induction h with
  | rest => simp
  | range hs _ ih =>
    intro span hspan
    rcases List.mem_cons.1 hspan with rfl | hspan
    · rw [hs]
      exact Nat.le_add_right _ _
    · have := ih span hspan
      rw [hs] at this
      dsimp only at this
      omega

/-- The ranges are in order and do not meet. -/
theorem ascending (h : Sections offset text spans kept) :
    spans.Pairwise fun s t => s.stop ≤ t.start := by
  induction h with
  | rest => exact List.Pairwise.nil
  | range _ hd ih => exact List.pairwise_cons.2 ⟨hd.offset_le, ih⟩

/-- Removing the ranges leaves what stands between them. -/
theorem removeSpans_eq (h : Sections offset text spans kept) :
    removeSpans.go offset text spans = kept := by
  induction h with
  | rest => rfl
  | @range offset before range after kept span spans hs _ ih =>
    have hle : ¬ offset + byteSize before < offset := by omega
    have hstop : offset + byteSize before + byteSize range - offset =
        byteSize (before ++ range) := by
      rw [byteSize_append]
      omega
    rw [hs] at ih
    simp only [removeSpans.go, hs, if_neg hle, Nat.add_sub_cancel_left, takeBytes_append, hstop]
    rw [← List.append_assoc, dropBytes_append, ih]

/-- What stands between the ranges is what lies outside of them. -/
theorem outside_eq (h : Sections offset text spans kept) : outside spans offset text = kept := by
  induction h with
  | rest => exact outside_nil _ _
  | @range offset before range after kept span spans hs hd ih =>
    have hstart : span.start = offset + byteSize before := by rw [hs]
    have hstop : span.stop = offset + byteSize before + byteSize range := by rw [hs]
    have hfront : ∀ later ∈ span :: spans, offset + byteSize before ≤ later.start := by
      intro later hl
      rcases List.mem_cons.1 hl with rfl | hl
      · exact hstart.ge
      · have := hd.offset_le later hl
        omega
    rw [outside_append_of_le hfront, outside_append_of_mem hstart.le hstop.ge,
      outside_cons_of_le hstop.le, ← hstop, ih]

end Sections

/-! ### Splitting a text by cuts -/

/-- The cut takes `range` out of the text, in front of `after`: the statement and blanks behind it,
and both the range and the line that it begins on open an import. -/
structure Cut.Takes (cut : Cut) (range after : List Char) : Prop where
  statement : ∃ blanks, allBlank blanks = true ∧ range = cut.statement ++ blanks
  opens : opensImport (trim range) = true
  opensLine : opensImport (trim ((range ++ after).takeWhile (· != '\n'))) = true

/-- From byte `offset` on, the text is made up of the ranges of the cuts, in order, and of the last
argument, which is what stands between them. -/
inductive Dissects : Nat → List Char → List Cut → List Char → Prop
  | rest (offset : Nat) (text : List Char) : Dissects offset text [] text
  | cut {offset : Nat} {before range after kept : List Char} {cut : Cut} {found : List Cut} :
      cut.span = ⟨offset + byteSize before, offset + byteSize before + byteSize range⟩ →
      cut.Takes range after →
      Dissects (offset + byteSize before + byteSize range) after found kept →
      Dissects offset (before ++ (range ++ after)) (cut :: found) (before ++ kept)

/-- A cut takes at least one byte. -/
theorem Cut.Takes.byteSize_pos {cut : Cut} {range after : List Char} (h : cut.Takes range after) :
    0 < byteSize range := by
  cases range with
  | nil => exact absurd h.opens (by decide)
  | cons c range =>
    have := charBytes_pos c
    rw [byteSize_cons]
    omega

namespace Dissects

variable {found : List Cut} {kept : List Char}

/-- What stands in front of a text is kept. -/
theorem keep (a : List Char) (h : Dissects (offset + byteSize a) text found kept) :
    Dissects offset (a ++ text) found (a ++ kept) := by
  cases h with
  | rest => exact .rest _ _
  | @cut _ before range after kept cut found hs ht hd =>
    rw [← List.append_assoc, ← List.append_assoc a before kept]
    refine .cut ?_ ht ?_
    · simpa only [byteSize_append, Nat.add_assoc] using hs
    · simpa only [byteSize_append, Nat.add_assoc] using hd

/-- Nothing stands between the ranges of an empty text. -/
theorem kept_eq_nil (h : Dissects offset text found kept) (ht : text = []) : kept = [] := by
  cases h with
  | rest => exact ht
  | cut _ htakes _ =>
    obtain ⟨-, hra⟩ := List.append_eq_nil_iff.1 ht
    obtain ⟨rfl, -⟩ := List.append_eq_nil_iff.1 hra
    exact absurd htakes.byteSize_pos (Nat.lt_irrefl 0)

/-- The ranges of the cuts split the text. -/
theorem sections (h : Dissects offset text found kept) :
    Sections offset text (found.map Cut.span) kept := by
  induction h with
  | rest => exact .rest _ _
  | cut hs _ _ ih => exact .range hs (by rw [hs]; exact ih)

theorem ascending (h : Dissects offset text found kept) :
    (found.map Cut.span).Pairwise fun s t => s.stop ≤ t.start :=
  h.sections.ascending

theorem removeSpans_eq (h : Dissects offset text found kept) :
    removeSpans.go offset text (found.map Cut.span) = kept :=
  h.sections.removeSpans_eq

theorem outside_eq (h : Dissects offset text found kept) :
    outside (found.map Cut.span) offset text = kept :=
  h.sections.outside_eq

/-- Each range covers a part of the text, which its cut takes. -/
theorem covers (h : Dissects offset text found kept) :
    ∀ cut ∈ found, ∃ before range after, text = before ++ (range ++ after) ∧
      cut.span = ⟨offset + byteSize before, offset + byteSize before + byteSize range⟩ ∧
      cut.Takes range after := by
  induction h with
  | rest => simp
  | @cut offset before range after kept cut found hs ht _ ih =>
    intro c hc
    rcases List.mem_cons.1 hc with rfl | hc
    · exact ⟨before, range, after, rfl, hs, ht⟩
    · obtain ⟨b, r, a, rfl, hspan, htakes⟩ := ih c hc
      refine ⟨before ++ (range ++ b), r, a, by simp only [List.append_assoc], ?_, htakes⟩
      rw [hspan]
      simp only [byteSize_append, Nat.add_assoc]

end Dissects

end LivePreview.ImportScan
