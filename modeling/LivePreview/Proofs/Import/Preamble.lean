import LivePreview.Proofs.Import.Cuts
import LivePreview.Proofs.Import.Shape
import LivePreview.Proofs.Text.Utf8
/-!
# LivePreview.Proofs.Import.Preamble

**Whole lines in front of a source that open no import move what the line scan finds, and change
nothing else.** A cut is the same wherever it is made, but for its range, and so is its record
(`cutsFrom_add`, `Cut.record?_shift`); removing ranges that were moved leaves what was in front of them
(`removeSpans_shift`).
-/

namespace LivePreview

open Text

/-- The range further on. -/
def SourceSpan.shift (n : Nat) (span : SourceSpan) : SourceSpan :=
  ⟨span.start + n, span.stop + n⟩

@[simp] theorem SourceSpan.shift_start (n : Nat) (span : SourceSpan) :
    (span.shift n).start = span.start + n := rfl

@[simp] theorem SourceSpan.shift_stop (n : Nat) (span : SourceSpan) :
    (span.shift n).stop = span.stop + n := rfl

/-- The record of the same statement further on. -/
def ImportRecord.shift (n : Nat) (record : ImportRecord) : ImportRecord :=
  { record with span := record.span.shift n }

namespace ImportScan

/-- The same cut further on. -/
def Cut.shift (n : Nat) (cut : Cut) : Cut :=
  ⟨cut.span.shift n, cut.statement⟩

theorem Cut.record?_shift (n : Nat) (cut : Cut) :
    (cut.shift n).record? = cut.record?.map (·.shift n) := by
  have hspan : ∀ r ∈ cut.record?, { r with span := cut.span.shift n } = r.shift n := by
    intro r hr
    rw [ImportRecord.shift, ImportStatement.parse?_span hr]
  unfold Cut.record? at *
  rw [Cut.shift, ImportStatement.parse?_map_span cut.span]
  exact Option.map_congr hspan

theorem Extent.cut_add (extent : Extent) (offset n : Nat) :
    extent.cut (offset + n) = (extent.cut offset).shift n := by
  unfold Extent.cut Extent.lineEnd Cut.shift SourceSpan.shift
  split <;> simp only [Cut.mk.injEq, SourceSpan.mk.injEq, and_true, true_and] <;> omega

/-- From further on in the source, the walk makes the same cuts further on. -/
theorem cutsFrom_add (n offset : Nat) (atStart : Bool) (line : Line) (later : List Line)
    (hs : atStart = false → opensImport (trim line.content) = true) :
    cutsFrom (offset + n) atStart line later = (cutsFrom offset atStart line later).map (·.shift n) := by
  induction offset, atStart, line, later using cutsFrom.induct with
  | case1 offset atStart line hc =>
    rw [Bool.and_eq_true, Bool.not_eq_true'] at hc
    obtain ⟨rfl, hc⟩ := hc
    rw [cutsFrom_of_closed hc, cutsFrom_of_closed hc]
    rfl
  | case2 offset atStart line hc next others ih =>
    rw [Bool.and_eq_true, Bool.not_eq_true'] at hc
    obtain ⟨rfl, hc⟩ := hc
    rw [cutsFrom_of_closed hc, cutsFrom_of_closed hc, Nat.add_right_comm]
    exact ih fun h => absurd h (by decide)
  | case3 offset atStart line later hc extent statementEnd lineEnd closes ihTail ihLater =>
    have ho : opensImport (trim line.content) = true := by
      cases atStart with
      | false => exact hs rfl
      | true => simpa using hc
    have hlater : cutsOf (extent.lineEnd (offset + n)) extent.later =
        (cutsOf (extent.lineEnd offset) extent.later).map (·.shift n) := by
      have hend : extent.lineEnd (offset + n) = lineEnd + n := by
        show offset + n + _ + _ + _ = offset + _ + _ + _ + n
        omega
      rw [hend]
      cases hl : extent.later with
      | nil => rfl
      | cons next others => exact ihLater next others hl fun h => absurd h (by decide)
    rw [cutsFrom_of_opens ho, cutsFrom_of_opens ho, List.map_cons, Extent.cut_add]
    refine congrArg _ ?_
    by_cases hr : opensImport (trim extent.tail) = true
    · have hb := not_allBlank_of_opens hr
      have htail : extent.tail ≠ [] := fun hnil => by
        rw [hnil] at hb
        exact absurd hb (by decide)
      rw [if_pos hr, if_pos hr, Nat.add_right_comm offset n, Nat.add_right_comm _ n]
      exact ihTail ⟨htail, hb, hr⟩ fun _ => by rw [trim, trimStart_trimStart]; exact hr
    · rw [if_neg hr, if_neg hr]
      exact hlater

/-! ### The cuts of a source with lines in front -/

variable {a : List Char}

theorem cutsOf_append {ls : List Line} (h : ∀ line ∈ ls, opensImport (trim line.content) = false)
    (offset : Nat) (later : List Line) :
    cutsOf offset (ls ++ later) = cutsOf (offset + byteSize (ls.flatMap Line.text)) later := by
  induction ls generalizing offset with
  | nil => rfl
  | cons line ls ih =>
    rw [List.cons_append, cutsOf, cutsFrom_of_closed (h line List.mem_cons_self),
      ih fun l hl => h l (List.mem_cons_of_mem line hl), List.flatMap_cons, byteSize_append,
      Nat.add_assoc]

/-- Lines in front that open no import move the cuts by their size. -/
theorem cuts_append (ho : Unopened a) (he : EndsLine a) (text : List Char) :
    cuts (a ++ text) = (cuts text).map (·.shift (byteSize a)) := by
  have hlines : lines (a ++ text) = lines a ++ lines text := by
    rw [lines, he.rawLines_append, List.map_append, lines, lines]
  rw [cuts_eq_cutsOf, cuts_eq_cutsOf, hlines,
    cutsOf_append (fun _ hl => opensImport_content_of_unopened ho hl), flatMap_text_lines]
  cases lines text with
  | nil => rfl
  | cons line later => exact cutsFrom_add _ _ _ _ _ fun h => absurd h (by decide)

/-! ### What is left -/

theorem removeSpans_go_shift (n cursor : Nat) (text : List Char) (spans : List SourceSpan) :
    removeSpans.go (cursor + n) text (spans.map (·.shift n)) = removeSpans.go cursor text spans := by
  induction spans generalizing cursor text with
  | nil => rfl
  | cons span spans ih =>
    have hless : span.start + n < cursor + n ↔ span.start < cursor := by omega
    simp only [List.map_cons, removeSpans.go, SourceSpan.shift_start, SourceSpan.shift_stop, hless,
      Nat.add_sub_add_right, ih]

/-- What is in front of ranges that were moved is left. -/
theorem removeSpans_shift (a text : List Char) (spans : List SourceSpan) :
    removeSpans (a ++ text) (spans.map (·.shift (byteSize a))) = a ++ removeSpans text spans := by
  -- Only the first range is measured from the start of the text.
  cases spans with
  | nil => rfl
  | cons span spans =>
    simp only [removeSpans, List.map_cons, removeSpans.go, SourceSpan.shift_start,
      SourceSpan.shift_stop, Nat.not_lt_zero, if_false, Nat.sub_zero, Nat.add_comm _ (byteSize a),
      takeBytes_add_append, dropBytes_add_append, List.append_assoc]
    rw [Nat.add_comm, removeSpans_go_shift]

/-- The sweep keeps lines in front that open no import. -/
theorem sweep_append (ho : Unopened a) (he : EndsLine a) (text : List Char) :
    sweep (a ++ text) = a ++ sweep text := by
  have hkept := sweep_eq_of_unopened ho
  rw [sweep] at hkept
  rw [sweep, he.rawLines_append, List.filter_append, List.flatten_append, hkept]
  rfl

/-- Whole lines in front that open no import move the records by their size and stay in front of what
is left. -/
theorem ofLines_append {front : String} (ho : Unopened front.toList) (he : EndsLine front.toList)
    (source : String) :
    ofLines (front ++ source) =
      { records := (ofLines source).records.map (·.shift (byteSize front.toList))
        stripped := front ++ (ofLines source).stripped
        dropped := (ofLines source).dropped } := by
  have hrecords : ((cuts source.toList).map (·.shift (byteSize front.toList))).filterMap Cut.record? =
      ((cuts source.toList).filterMap Cut.record?).map (·.shift (byteSize front.toList)) := by
    simp only [List.filterMap_map, List.map_filterMap, Function.comp_def, Cut.record?_shift]
  have hspans : ((cuts source.toList).map (·.shift (byteSize front.toList))).map Cut.span =
      ((cuts source.toList).map Cut.span).map (·.shift (byteSize front.toList)) := by
    rw [List.map_map, List.map_map]
    rfl
  have hdropped : (((cuts source.toList).map (·.shift (byteSize front.toList))).filter
      (·.record?.isNone)).map (fun cut => String.ofList (trim cut.statement)) =
      ((cuts source.toList).filter (·.record?.isNone)).map
        fun cut => String.ofList (trim cut.statement) := by
    rw [List.filter_map, List.map_map]
    simp only [Function.comp_def, Cut.record?_shift, Option.isNone_map]
    rfl
  simp only [ofLines, String.toList_append, cuts_append ho he, hrecords, hspans, hdropped,
    removeSpans_shift, sweep_append ho he, String.ofList_append, String.ofList_toList]

end ImportScan

end LivePreview
