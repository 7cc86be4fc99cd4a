import LivePreview.Import.Strict
import LivePreview.Proofs.Import.Cuts
import LivePreview.Proofs.Import.Shape
/-!
# LivePreview.Proofs.Import.Accounting

**The line scan accounts for every byte.** What it takes out of a source are ranges in ascending
order that do not meet, one for each record and each dropped statement; everything outside of them is
left, and left as it is. What is left holds no import, so a second scan finds nothing.
-/

namespace LivePreview.ImportScan

open Text

/-- What became of a statement that was taken out of a source. -/
inductive Finding
  /-- It has a known shape. -/
  | record (record : ImportRecord)
  /-- It has no known shape; its text is reported. -/
  | dropped (statement : String)

namespace Finding

/-- The record, if there is one. -/
def record? : Finding → Option ImportRecord
  | record r => some r
  | dropped _ => none

/-- The text of a statement of no known shape. -/
def dropped? : Finding → Option String
  | record _ => none
  | dropped s => some s

/-- Does the finding tell where it comes from: the record by its range, the dropped statement by its
text? -/
def Tells (span : SourceSpan) (range : List Char) : Finding → Prop
  | record r => r.span = span
  | dropped s => s.toList = trim range

end Finding

/-- The range of a source that begins an import: its text does, and so does the line from its start
on. -/
structure BeginsImport (source : List Char) (span : SourceSpan) (finding : Finding) : Prop where
  nonempty : span.start < span.stop
  inBounds : span.stop ≤ byteSize source
  covers : ∃ before range after, source = before ++ (range ++ after) ∧
    span = ⟨byteSize before, byteSize before + byteSize range⟩ ∧
    opensImport (trim range) = true ∧
    opensImport (trim ((range ++ after).takeWhile (· != '\n'))) = true ∧
    finding.Tells span range

/-- The result of a scan comes from taking these ranges out of the source. -/
structure Accounts (source : List Char) (scan : ImportScan) (taken : List (SourceSpan × Finding)) :
    Prop where
  /-- They are the ranges that the walk over the lines cuts. -/
  walked : taken.map (·.1) = (cuts source).map Cut.span
  ascending : (taken.map (·.1)).Pairwise fun s t => s.stop ≤ t.start
  begins : ∀ t ∈ taken, BeginsImport source t.1 t.2
  records : scan.records = taken.filterMap (·.2.record?)
  dropped : scan.dropped = taken.filterMap (·.2.dropped?)
  stripped : scan.stripped.toList = outside (taken.map (·.1)) 0 source
  /-- The sweep of opening lines finds nothing to do. -/
  unswept : sweep (removeSpans source (taken.map (·.1))) = removeSpans source (taken.map (·.1))

/-- What became of a cut. It is never unfolded in passing, which would mean to parse the statement. -/
@[irreducible] def Cut.finding (cut : Cut) : Finding :=
  match cut.record? with
  | some r => .record r
  | none => .dropped (String.ofList (trim cut.statement))

theorem Cut.record?_finding (cut : Cut) : cut.finding.record? = cut.record? := by
  unfold Cut.finding
  cases cut.record? <;> rfl

/-- The dropped statements are the texts of the cuts without a record. -/
theorem filterMap_dropped?_finding (found : List Cut) :
    found.filterMap (·.finding.dropped?) =
      (found.filter (·.record?.isNone)).map fun cut => String.ofList (trim cut.statement) := by
  induction found with
  | nil => rfl
  | cons cut found ih =>
    cases hr : cut.record? <;> simp [Cut.finding, Finding.dropped?, hr, ← ih]

theorem Cut.tells {cut : Cut} {range after : List Char} (h : cut.Takes range after) :
    cut.finding.Tells cut.span range := by
  unfold Cut.finding
  cases hr : cut.record? with
  | some r => exact ImportStatement.parse?_span hr
  | none =>
    obtain ⟨blanks, hb, rfl⟩ := h.statement
    show (String.ofList (trim cut.statement)).toList = trim (cut.statement ++ blanks)
    rw [String.toList_ofList, trim_append_right _ hb]

/-- A source that is split by cuts is accounted for by them. -/
theorem Dissects.beginsImport {source kept : List Char} {found : List Cut}
    (h : Dissects 0 source found kept) :
    ∀ cut ∈ found, BeginsImport source cut.span cut.finding := by
  intro cut hc
  obtain ⟨before, range, after, rfl, hspan, htakes⟩ := h.covers cut hc
  have hpos := htakes.byteSize_pos
  have htells := Cut.tells htakes
  rw [Nat.zero_add] at hspan
  constructor
  · rw [hspan]
    exact Nat.lt_add_of_pos_right hpos
  · rw [hspan]
    simp only [byteSize_append]
    omega
  · refine ⟨before, range, after, rfl, hspan, ?_, ?_, htells⟩
    · exact htakes.opens
    · exact htakes.opensLine

/-- **Accounting.** What the line scan reports comes from taking out ranges that lie in order within
the source and each begin an import; what is left is the source outside of these ranges, and scanning
it again takes out nothing. -/
theorem ofSource_heuristic_accounts (source : String) :
    (∃ taken, Accounts source.toList (ofSource .heuristic source) taken) ∧
      ofSource .heuristic (ofSource .heuristic source).stripped =
        { records := [], stripped := (ofSource .heuristic source).stripped, dropped := [] } := by
  obtain ⟨kept, hk⟩ := cuts_leavesUnopened source.toList
  have hfree : Unopened kept := hk.unopened [] rfl List.not_mem_nil
  have hremoved : removeSpans source.toList ((cuts source.toList).map Cut.span) = kept :=
    hk.dissects.removeSpans_eq
  have hstripped : (ofLines source).stripped = String.ofList kept := by
    show String.ofList (sweep (removeSpans _ _)) = _
    rw [hremoved, sweep_eq_of_unopened hfree]
  have hspans : ((cuts source.toList).map fun cut => (cut.span, cut.finding)).map (·.1) =
      (cuts source.toList).map Cut.span := by
    rw [List.map_map]
    rfl
  constructor
  · refine ⟨(cuts source.toList).map fun cut => (cut.span, cut.finding), ?_⟩
    constructor
    · exact hspans
    · rw [hspans]
      exact hk.dissects.ascending
    · intro t ht
      obtain ⟨cut, hc, rfl⟩ := List.mem_map.1 ht
      have hbegins := hk.dissects.beginsImport cut hc
      exact hbegins
    · -- The records are read off the cuts, and so are the findings.
      have hrecords : (cuts source.toList).filterMap Cut.record? =
          (cuts source.toList).filterMap (·.finding.record?) :=
        List.filterMap_congr fun cut _ => (Cut.record?_finding cut).symm
      rw [List.filterMap_map]
      exact hrecords
    · have hdropped := filterMap_dropped?_finding (cuts source.toList)
      rw [List.filterMap_map]
      exact hdropped.symm
    · rw [hspans, hk.dissects.outside_eq]
      show (ofLines source).stripped.toList = kept
      rw [hstripped, String.toList_ofList]
    · rw [hspans, hremoved, sweep_eq_of_unopened hfree]
  · show ofLines (ofLines source).stripped = _
    have hnone : cuts kept = [] := cuts_of_unopened hfree
    show _ = ImportScan.mk [] (ofLines source).stripped []
    rw [hstripped]
    simp only [ofLines, String.toList_ofList, hnone, List.filterMap_nil, List.filter_nil,
      List.map_nil, removeSpans, removeSpans.go, sweep_eq_of_unopened hfree]

end LivePreview.ImportScan
