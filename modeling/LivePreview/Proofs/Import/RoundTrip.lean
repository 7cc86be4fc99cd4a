import LivePreview.Import.Strict
import LivePreview.Proofs.Import.WrittenShape
/-!
# LivePreview.Proofs.Import.RoundTrip

**What is written is found.** Statements that are written one after the other are cut out one after
the other, each with the end of its last line; each cut is parsed to the record that it was written
from; and the body behind them is left as it is.
-/

namespace LivePreview

open Text

/-! ### The lines of a statement -/

theorem Layout.whole_of_spaces {layout : Layout} {content : List Char}
    (h : ∀ c ∈ content, c = ' ' ∨ isBlank c = false) :
    Line.Whole ⟨content, layout.lineEnd⟩ := by
  refine ⟨fun hm => ?_, fun hm => ?_, ?_⟩
  · exact absurd (h '\n' hm) (by decide)
  · exact absurd (h '\r' (List.mem_of_getLast? hm)) (by decide)
  · show layout.lineEnd = ['\n'] ∨ layout.lineEnd = ['\r', '\n']
    unfold Layout.lineEnd
    split
    · exact .inr rfl
    · exact .inl rfl

namespace ImportRecord.Writable

variable {r : ImportRecord} (h : r.Writable) (layout : Layout)

include h

/-- The text of a statement falls into the lines that it was written in. -/
theorem whole_writtenLines : ∀ line ∈ r.writtenLines layout, line.Whole := by
  have htame : ∀ {text : List Char}, Tame text → ∀ c ∈ text, c = ' ' ∨ isBlank c = false := by
    intro text ht c hc
    have hc := ht c hc
    simp only [isTame, Bool.and_eq_true, Bool.or_eq_true, beq_iff_eq, Bool.not_eq_true'] at hc
    exact hc.1
  have hclose : ∀ {text : List Char}, Tame text →
      Line.Whole ⟨text ++ (layout.quoted r.module ++ layout.mark), layout.lineEnd⟩ := by
    intro text ht
    refine Layout.whole_of_spaces fun c hc => ?_
    rcases List.mem_append.1 hc with hc | hc
    · exact htame ht c hc
    · exact .inr (Layout.unbroken_closing h.module layout c hc)
  cases hl : r.hasList with
  | false =>
    intro line hm
    rw [ImportRecord.writtenLines_plain hl, List.mem_singleton] at hm
    rw [hm]
    exact hclose h.tame_front
  | true =>
    cases hs : layout.spread with
    | none =>
      have hitems : Tame (writtenItems [' '] false r.named) :=
        tame_writtenItems (by decide) h.tame_items
      have hfrom : Tame " \x7d from ".toList := by decide
      intro line hm
      rw [ImportRecord.writtenLines_flat hl hs, List.mem_singleton] at hm
      have hline := hclose (h.tame_front.append (hitems.append hfrom))
      rw [List.append_assoc, List.append_assoc] at hline
      rw [hm]
      exact hline
    | some indent =>
      intro line hm
      rw [ImportRecord.writtenLines_spread hl hs, List.mem_cons, List.mem_append, List.mem_map,
        List.mem_singleton] at hm
      rcases hm with rfl | ⟨it, hi, rfl⟩ | rfl
      · exact Layout.whole_of_spaces (htame h.tame_front)
      · have hgap : Tame (List.replicate indent ' ') := by
          intro c hc
          rw [List.eq_of_mem_replicate hc]
          decide
        have hcomma : Tame [','] := by decide
        exact Layout.whole_of_spaces (htame (hgap.append ((h.tame_items it hi).append hcomma)))
      · exact hclose (by decide)

end ImportRecord.Writable

namespace ImportScan

/-- Statements one after the other. -/
def writtenAll (statements : List (Layout × ImportRecord)) : List Char :=
  statements.flatMap fun s => s.2.written s.1

/-- The records of statements that are written from byte `offset` on. The range of a record is its
statement with the end of its last line. -/
def located (offset : Nat) : List (Layout × ImportRecord) → List ImportRecord
  | [] => []
  | (layout, r) :: rest =>
    let stop := offset + byteSize (r.written layout)
    { r with span := ⟨offset, stop⟩ } :: located stop rest

/-- The cuts that take them out. -/
def writtenCuts (offset : Nat) : List (Layout × ImportRecord) → List Cut
  | [] => []
  | (layout, r) :: rest =>
    let stop := offset + byteSize (r.written layout)
    ⟨⟨offset, stop⟩, r.statement layout⟩ :: writtenCuts stop rest

variable {statements : List (Layout × ImportRecord)}

/-- One statement is one cut, and the walk goes on behind it. -/
theorem cutsOf_writtenLines {r : ImportRecord} (h : r.Writable) (layout : Layout) (offset : Nat)
    (later : List Line) :
    cutsOf offset (r.writtenLines layout ++ later) =
      ⟨⟨offset, offset + byteSize (r.written layout)⟩, r.statement layout⟩ ::
        cutsOf (offset + byteSize (r.written layout)) later := by
  obtain ⟨first, others, hlines, hopens, hfind⟩ := find_written h layout
  have hclosed : ¬ opensImport (trim []) = true := by decide
  have hstop : Extent.lineEnd ⟨r.statement layout, [], layout.lineEnd, later⟩ offset =
      offset + byteSize (r.written layout) := by
    rw [ImportRecord.written_eq, byteSize_append, ← Nat.add_assoc]
    rfl
  rw [hlines, List.cons_append, cutsOf, cutsFrom_of_opens hopens, hfind later, if_neg hclosed, hstop,
    Extent.cut, hstop]
  rfl

/-- Statements in front of lines that open nothing are cut out one by one. -/
theorem cutsOf_written (hw : ∀ s ∈ statements, s.2.Writable) {rest : List Line}
    (hr : ∀ line ∈ rest, opensImport (trim line.content) = false) (offset : Nat) :
    cutsOf offset (statements.flatMap (fun s => s.2.writtenLines s.1) ++ rest) =
      writtenCuts offset statements := by
  induction statements generalizing offset with
  | nil => exact cutsOf_of_closed hr
  | cons s statements ih =>
    obtain ⟨layout, r⟩ := s
    rw [List.flatMap_cons, List.append_assoc, cutsOf_writtenLines (hw _ List.mem_cons_self),
      ih fun s hs => hw s (List.mem_cons_of_mem _ hs)]
    rfl

/-- Each cut is parsed to the record that its statement was written from. -/
theorem record?_writtenCuts (hw : ∀ s ∈ statements, s.2.Writable) (offset : Nat) :
    (writtenCuts offset statements).map Cut.record? = (located offset statements).map some := by
  induction statements generalizing offset with
  | nil => rfl
  | cons s statements ih =>
    obtain ⟨layout, r⟩ := s
    have hparse := (hw _ List.mem_cons_self).parse?_statement layout
      ⟨offset, offset + byteSize (r.written layout)⟩
    have hrest := ih (fun s hs => hw s (List.mem_cons_of_mem _ hs))
      (offset + byteSize (r.written layout))
    simp only [writtenCuts, located, List.map_cons, hrest]
    rw [Cut.record?, hparse]

/-- Removing the cuts leaves what is behind the statements. -/
theorem removeSpans_written (statements : List (Layout × ImportRecord)) (body : List Char)
    (offset : Nat) :
    removeSpans.go offset (writtenAll statements ++ body)
      ((writtenCuts offset statements).map Cut.span) = body := by
  induction statements generalizing offset with
  | nil => rfl
  | cons s statements ih =>
    obtain ⟨layout, r⟩ := s
    have hstart : ¬ offset < offset := Nat.lt_irrefl offset
    have htext : writtenAll ((layout, r) :: statements) ++ body =
        r.written layout ++ (writtenAll statements ++ body) := by
      rw [writtenAll, List.flatMap_cons, List.append_assoc]
      rfl
    rw [htext]
    simp only [writtenCuts, List.map_cons, removeSpans.go, if_neg hstart, Nat.sub_self, takeBytes,
      Nat.add_sub_cancel_left, dropBytes_append, List.nil_append, ih]

theorem lines_written (hw : ∀ s ∈ statements, s.2.Writable) (body : List Char) :
    lines (writtenAll statements ++ body) =
      statements.flatMap (fun s => s.2.writtenLines s.1) ++ lines body := by
  have hwhole : ∀ line ∈ statements.flatMap (fun s => s.2.writtenLines s.1), line.Whole := by
    intro line hl
    obtain ⟨s, hs, hl⟩ := List.mem_flatMap.1 hl
    exact (hw s hs).whole_writtenLines s.1 line hl
  have htext : writtenAll statements =
      (statements.flatMap fun s => s.2.writtenLines s.1).flatMap Line.text := by
    rw [List.flatMap_assoc]
    rfl
  rw [htext, lines_append hwhole]

/-- **Round trip.** Statements that are written one after the other are read back in their order, each
with the range that it was written to; behind them, a text that opens no import stays as it is. -/
theorem ofSource_written (hw : ∀ s ∈ statements, s.2.Writable) {body : String}
    (hb : Unopened body.toList) :
    ofSource .heuristic (String.ofList (writtenAll statements) ++ body) =
      { records := located 0 statements, stripped := body, dropped := [] } := by
  have htext : (String.ofList (writtenAll statements) ++ body).toList =
      writtenAll statements ++ body.toList := by
    rw [String.toList_append, String.toList_ofList]
  have hcuts : cuts (writtenAll statements ++ body.toList) = writtenCuts 0 statements := by
    rw [cuts_eq_cutsOf, lines_written hw]
    exact cutsOf_written hw (fun _ hl => opensImport_content_of_unopened hb hl) 0
  have hparse := record?_writtenCuts hw 0
  have hrecords : (writtenCuts 0 statements).filterMap Cut.record? = located 0 statements := by
    have hsome := congrArg (List.filterMap id) hparse
    rw [List.filterMap_map, List.filterMap_map] at hsome
    simpa using hsome
  have hdropped : (writtenCuts 0 statements).filter (·.record?.isNone) = [] := by
    rw [List.filter_eq_nil_iff]
    intro cut hc
    have hm : cut.record? ∈ (located 0 statements).map some := by
      rw [← hparse]
      exact List.mem_map_of_mem hc
    obtain ⟨r, -, hr⟩ := List.mem_map.1 hm
    rw [← hr]
    exact Bool.false_ne_true
  show ofLines (String.ofList (writtenAll statements) ++ body) = _
  simp only [ofLines, htext, hcuts, hrecords, hdropped, removeSpans, removeSpans_written,
    sweep_eq_of_unopened hb, List.map_nil, String.ofList_toList]

/-- A default export that is bound to `from`, and types on lines of their own. -/
def twoStatements : List (Layout × ImportRecord) :=
  [(⟨true, true, false, none⟩,
      { kind := .default, module := "react", span := ⟨0, 0⟩, defaultName := some "from" }),
    (⟨false, false, true, some 2⟩,
      { kind := .named, module := "./m", span := ⟨0, 0⟩, typeOnly := true,
        named := [⟨"A", "A"⟩, ⟨"as", "typeOf"⟩] })]

theorem ofSource_written_types :
    let text := "import from from \"react\";\n" ++
      "import type \x7b\r\n  A,\r\n  as as typeOf,\r\n\x7d from './m'\r\n"
    String.ofList (writtenAll twoStatements) = text ∧
      (located 0 twoStatements).map (·.span) = [⟨0, 26⟩, ⟨26, 78⟩] ∧
      (∀ s ∈ twoStatements, s.2.Writable) ∧ Unopened "important();\n".toList ∧
      ofSource .heuristic (text ++ "important();\n") =
        { records := located 0 twoStatements, stripped := "important();\n", dropped := [] } := by
  intro text
  have htext : String.ofList (writtenAll twoStatements) = text := by decide
  have hw : ∀ s ∈ twoStatements, s.2.Writable := by
    intro s hs
    rcases List.mem_cons.1 hs with rfl | hs
    · exact ⟨.default _ _ _ _, by decide, by decide, by decide⟩
    · rw [List.mem_singleton.1 hs]
      exact ⟨.named _ _ _ _, by decide, by decide, by decide⟩
  have hb : Unopened "important();\n".toList := by decide
  refine ⟨htext, by decide, hw, hb, ?_⟩
  rw [← htext]
  exact ofSource_written hw hb

end ImportScan

end LivePreview
