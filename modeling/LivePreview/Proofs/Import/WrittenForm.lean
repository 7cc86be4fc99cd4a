import LivePreview.Proofs.Import.WrittenExtent
import LivePreview.Proofs.Text.Readers
/-!
# LivePreview.Proofs.Import.WrittenForm

**The normal form of a written statement.** Normalising brings every layout to one form: single spaces,
no semicolon, and the items of a list one after the other. What remains of the layout are the quotes
and the comma behind the last item.
-/

namespace LivePreview

open Text
open Code (Reading)

/-! ### Collapsing piece by piece -/

/-- Collapsing turns the first text into the second one, if what is behind begins with no blank. -/
def Collapses (a b : List Char) : Prop :=
  ∀ rest, (∀ c ∈ rest.head?, isBlank c = false) → collapseBlanks (a ++ rest) = b ++ collapseBlanks rest

/-- Is every blank of the text a space with no other blank behind it? -/
def singleSpaced : List Char → Bool
  | [] => true
  | c :: rest =>
    (!isBlank c || (c == ' ' && rest.head?.all fun d => !isBlank d)) && singleSpaced rest

section Collapses

variable {a b c d : List Char}

theorem collapses_of_singleSpaced (h : singleSpaced a = true) : Collapses a a := by
  intro rest hr
  induction a with
  | nil => rfl
  | cons x a ih =>
    simp only [singleSpaced, Bool.and_eq_true, Bool.or_eq_true, Bool.not_eq_true'] at h
    obtain ⟨hx, ha⟩ := h
    have hrest := ih ha
    rcases hx with hx | ⟨hx, hnext⟩
    · have hword : Unbroken [x] := by
        intro y hy
        rw [List.mem_singleton.1 hy]
        exact hx
      have hc := collapseBlanks_append hword (a ++ rest)
      rw [hrest] at hc
      exact hc
    · -- A space is a gap of its own, for no other blank is behind it.
      rw [eq_of_beq hx]
      have hhead : ∀ y ∈ (a ++ rest).head?, isBlank y = false := by
        cases a with
        | nil => exact hr
        | cons y a =>
          intro z hz
          rw [← Option.some.inj hz]
          simpa using hnext
      have hc := collapseBlanks_gap (List.cons_ne_nil ' ' []) (by decide) hhead
      rw [hrest] at hc
      exact hc

theorem Collapses.append (h : Collapses a b) (h' : Collapses c d) (hc : StartsSolid c) :
    Collapses (a ++ c) (b ++ d) := by
  intro rest hr
  rw [List.append_assoc, h _ (hc.append hr), h' rest hr, List.append_assoc]

/-- A name with a space behind it. -/
theorem Collapses.name_space {name : List Char} (h : isIdent name = true) :
    Collapses (name ++ [' ']) (name ++ [' ']) := by
  intro rest hr
  rw [List.append_assoc, collapseBlanks_append (unbroken_of_isIdent h),
    collapseBlanks_gap (List.cons_ne_nil ' ' []) (by decide) hr, List.append_assoc]
  rfl

end Collapses

/-- An item has its exported name in front. -/
theorem written_cases (it : NamedImport) :
    (it.exported = it.localName ∧ it.written = it.localName.toList) ∨
      (it.exported ≠ it.localName ∧
        it.written = it.exported.toList ++ (' ' :: ("as ".toList ++ it.localName.toList))) := by
  unfold NamedImport.written
  by_cases he : it.exported = it.localName
  · exact .inl ⟨he, if_pos he⟩
  · refine .inr ⟨he, ?_⟩
    rw [if_neg he]
    rfl

section Items

variable {it : NamedImport} (he : IsName it.exported) (hl : IsName it.localName)

include he hl

theorem collapseBlanks_written (rest : List Char) :
    collapseBlanks (it.written ++ rest) = it.written ++ collapseBlanks rest := by
  rcases written_cases it with ⟨-, hw⟩ | ⟨-, hw⟩
  · rw [hw]
    exact collapseBlanks_append (unbroken_of_isIdent hl.isIdent) rest
  · have hlocal := startsSolid_of_isIdent hl.isIdent rest
    have has : StartsSolid ("as ".toList ++ (it.localName.toList ++ rest)) :=
      StartsSolid.append (by decide) hlocal
    have htext : it.written ++ rest =
        (it.exported.toList ++ [' ']) ++ ("as ".toList ++ (it.localName.toList ++ rest)) := by
      rw [hw]
      simp only [List.append_assoc, List.cons_append, List.nil_append]
    rw [htext, Collapses.name_space he.isIdent _ has, collapses_of_singleSpaced (by decide) _ hlocal,
      collapseBlanks_append (unbroken_of_isIdent hl.isIdent), hw]
    simp only [List.append_assoc, List.cons_append, List.nil_append]

theorem startsSolid_written (rest : List Char) : StartsSolid (it.written ++ rest) := by
  rcases written_cases it with ⟨-, hw⟩ | ⟨-, hw⟩
  · rw [hw]
    exact startsSolid_of_isIdent hl.isIdent rest
  · rw [hw, List.append_assoc]
    exact startsSolid_of_isIdent he.isIdent _

end Items

/-- The items of a list, with any gap in front of each and behind the last one, collapse to the items
with single spaces. -/
theorem collapseBlanks_items {gap last tail : List Char} {trailing : Bool} {list : List NamedImport}
    (hne : gap ≠ []) (hb : allBlank gap = true) (hlne : last ≠ []) (hlb : allBlank last = true)
    (hl : ∀ it ∈ list, IsName it.exported ∧ IsName it.localName) (ht : StartsSolid tail) :
    collapseBlanks (writtenItems gap trailing list ++ (last ++ tail)) =
      writtenItems [' '] trailing list ++ (' ' :: collapseBlanks tail) := by
  have hcomma : Unbroken [','] := by decide
  induction list with
  | nil => exact collapseBlanks_gap hlne hlb ht
  | cons it rest ih =>
    obtain ⟨he, hloc⟩ := hl it List.mem_cons_self
    have hitem : ∀ x, collapseBlanks (gap ++ (it.written ++ x)) =
        ' ' :: (it.written ++ collapseBlanks x) := by
      intro x
      rw [collapseBlanks_gap hne hb (startsSolid_written he hloc x), collapseBlanks_written he hloc]
    cases rest with
    | nil =>
      have hmark : Unbroken (if trailing then [','] else []) := by
        split
        · exact hcomma
        · exact fun _ hc => absurd hc List.not_mem_nil
      simp only [writtenItems, List.append_assoc]
      rw [hitem, collapseBlanks_append hmark, collapseBlanks_gap hlne hlb ht]
      rfl
    | cons next rest =>
      have hrest := ih fun it hi => hl it (List.mem_cons_of_mem _ hi)
      simp only [writtenItems, List.append_assoc, List.cons_append] at hrest ⊢
      rw [hitem]
      have hc := collapseBlanks_append hcomma
        (writtenItems gap trailing (next :: rest) ++ (last ++ tail))
      rw [List.singleton_append] at hc
      rw [hc, hrest]
      rfl

/-! ### The normal form -/

namespace ImportRecord

/-- The list of a statement with the closing brace and `from`, on one line. -/
def flatList (trailing : Bool) (r : ImportRecord) : List Char :=
  if r.hasList then writtenItems [' '] trailing r.named ++ " \x7d from ".toList else []

theorem flatList_of_list {trailing : Bool} {r : ImportRecord} (h : r.hasList = true) :
    r.flatList trailing = writtenItems [' '] trailing r.named ++ " \x7d from ".toList :=
  if_pos h

theorem flatList_of_none {trailing : Bool} {r : ImportRecord} (h : r.hasList = false) :
    r.flatList trailing = [] :=
  if_neg (by rw [h]; decide)

/-- The text of a statement without its layout: that there is a comma behind the last item remains,
and the quotes. -/
def normalForm (layout : Layout) (r : ImportRecord) : List Char :=
  r.front ++ (r.flatList layout.spread.isSome ++ layout.quoted r.module)

namespace Writable

variable {r : ImportRecord} (h : r.Writable)

include h

/-- Collapsing leaves the beginning of a statement as it is. If no list follows, it ends with a space
or with nothing, so what is behind must not begin with a blank. -/
theorem collapseBlanks_front (rest : List Char) (hr : r.hasList = false → StartsSolid rest) :
    collapseBlanks (r.front ++ rest) = r.front ++ collapseBlanks rest := by
  have hmark : Collapses r.typeMark r.typeMark ∧ StartsSolid r.typeMark := by
    unfold typeMark
    split
    · exact ⟨collapses_of_singleSpaced (by decide), by decide⟩
    · exact ⟨collapses_of_singleSpaced (by decide), by decide⟩
  have hopening : Collapses ("import ".toList ++ r.typeMark) ("import ".toList ++ r.typeMark) :=
    (collapses_of_singleSpaced (by decide)).append hmark.1 hmark.2
  have hfrom : ∀ {x : List Char}, StartsSolid x →
      collapseBlanks (" from ".toList ++ x) = " from ".toList ++ collapseBlanks x :=
    fun hx => collapses_of_singleSpaced (by decide) _ hx
  have hname : ∀ {name : String}, IsName name → ∀ x, collapseBlanks (name.toList ++ x) =
      name.toList ++ collapseBlanks x :=
    fun hn => collapseBlanks_append (unbroken_of_isIdent hn.isIdent)
  have hbrace : StartsSolid (['\x7b'] ++ rest) ∧
      collapseBlanks (['\x7b'] ++ rest) = ['\x7b'] ++ collapseBlanks rest := by
    exact ⟨forall_head_cons (by decide) rest, collapseBlanks_append (by decide) rest⟩
  have hhead : StartsSolid (r.head ++ rest) ∧
      collapseBlanks (r.head ++ rest) = r.head ++ collapseBlanks rest := by
    cases h.shaped with
    | sideEffect => exact ⟨hr rfl, rfl⟩
    | allExports module span name =>
      have hn : IsName name := h.names name List.mem_cons_self
      have hsolid := startsSolid_of_isIdent hn.isIdent (" from ".toList ++ rest)
      have hstar := collapses_of_singleSpaced (a := "* as ".toList) (by decide) _ hsolid
      refine ⟨StartsSolid.append (StartsSolid.append (by decide) ?_) (hr rfl), ?_⟩
      · exact startsSolid_of_isIdent hn.isIdent _
      · simp only [head, Option.getD_some, List.append_assoc]
        rw [hstar, hname hn, hfrom (hr rfl)]
    | named => exact ⟨hbrace.1, hbrace.2⟩
    | default module span name =>
      have hn : IsName name := h.names name List.mem_cons_self
      refine ⟨StartsSolid.append (startsSolid_of_isIdent hn.isIdent _) (hr rfl), ?_⟩
      simp only [head, Option.getD_some, List.append_assoc]
      rw [hname hn, hfrom (hr rfl)]
    | defaultNamed module span name =>
      have hn : IsName name := h.names name List.mem_cons_self
      have hcomma : collapseBlanks (", \x7b".toList ++ rest) = ", \x7b".toList ++ collapseBlanks rest := by
        have hsplit : ", \x7b".toList = ", ".toList ++ ['\x7b'] := by decide
        rw [hsplit, List.append_assoc, collapses_of_singleSpaced (by decide) _ hbrace.1, hbrace.2,
          List.append_assoc]
      refine ⟨?_, ?_⟩
      · simp only [head, Option.getD_some, List.append_assoc]
        exact startsSolid_of_isIdent hn.isIdent _
      · simp only [head, Option.getD_some, List.append_assoc]
        rw [hname hn, hcomma]
  rw [front_eq, List.append_assoc, List.append_assoc, ← List.append_assoc, hopening _ hhead.1, hhead.2]
  simp only [List.append_assoc]

end Writable

end ImportRecord

namespace Layout

variable {layout : Layout} {module : String}

/-- A quoted module name ends with its quote, which is no blank and no semicolon. -/
theorem quoted_eq (layout : Layout) (module : String) :
    layout.quoted module = (layout.quote :: module.toList) ++ [layout.quote] := rfl

theorem startsSolid_quoted (layout : Layout) (module : String) (rest : List Char) :
    StartsSolid (layout.quoted module ++ rest) :=
  forall_head_cons layout.isBlank_quote _

theorem unbroken_closing (h : IsModule module) (layout : Layout) :
    Unbroken (layout.quoted module ++ layout.mark) := by
  have hmodule : Unbroken module.toList := fun c hc => (h.plain c hc).2.2.2
  have hquote : Unbroken [layout.quote] := by
    intro c hc
    rw [List.mem_singleton.1 hc]
    exact layout.isBlank_quote
  have hmark : Unbroken layout.mark := by
    unfold mark
    split <;> decide
  exact Unbroken.append (hquote.append (hmodule.append hquote)) hmark

/-- Cutting off semicolons and blanks leaves the quoted name at the end. -/
theorem trimEnd_closing (layout : Layout) (module : String) (text : List Char) :
    trimEnd (dropEndWhile (· == ';') (text ++ (layout.quoted module ++ layout.mark))) =
      text ++ layout.quoted module := by
  have hquote : (layout.quote == ';') = false := by
    rcases layout.quote_cases with h | h <;> rw [h] <;> decide
  have hdrop : ∀ x : List Char, dropEndWhile (· == ';') (x ++ [layout.quote]) = x ++ [layout.quote] := by
    intro x
    simp [dropEndWhile, hquote]
  have hend : ∀ x : List Char, dropEndWhile (· == ';') (x ++ [';']) = dropEndWhile (· == ';') x := by
    intro x
    simp [dropEndWhile]
  rw [quoted_eq, ← List.append_assoc, ← List.append_assoc]
  unfold mark
  split
  · rw [hend, hdrop, trimEnd_concat layout.isBlank_quote]
  · rw [List.append_nil, hdrop, trimEnd_concat layout.isBlank_quote]

end Layout

namespace ImportRecord.Writable

variable {r : ImportRecord} (h : r.Writable) (layout : Layout)

include h

theorem plain_list : Plain (r.list layout) := by
  have hend := plain_lineEnd layout
  have hgap : ∀ indent, Plain (List.replicate indent ' ') := by
    intro indent c hc
    rw [List.eq_of_mem_replicate hc]
    decide
  unfold list
  split
  · split
    · exact (plain_writtenItems (by decide) h.tame_items).append (by decide)
    · exact (plain_writtenItems (hend.append (hgap _)) h.tame_items).append
        (hend.append (by decide))
  · decide

/-- A statement has no comments. -/
theorem withoutComments_statement :
    ImportStatement.withoutComments (r.statement layout) = r.statement layout := by
  have hmark : ImportStatement.withoutComments.go .code layout.mark = layout.mark := by
    unfold Layout.mark
    split <;> simp [ImportStatement.withoutComments.go, Reading.isQuote]
  rw [ImportStatement.withoutComments, statement, withoutComments_plain h.tame_front.plain,
    withoutComments_plain (h.plain_list layout), h.module.withoutComments_quoted, hmark]

/-- A statement begins and ends with no blank. -/
theorem trim_statement : trim (r.statement layout) = r.statement layout := by
  refine trim_eq_self ?_ ?_
  · rw [statement, front_eq, List.append_assoc]
    exact StartsSolid.of_front (by decide) (by decide) _
  · intro c hc
    have hne : layout.quoted r.module ++ layout.mark ≠ [] := List.cons_ne_nil _ _
    rw [statement, ← List.append_assoc, List.getLast?_append_of_ne_nil _ hne] at hc
    refine Layout.unbroken_closing h.module layout c ?_
    exact List.mem_of_mem_getLast? hc

theorem collapseBlanks_statement :
    collapseBlanks (r.statement layout) =
      r.front ++ (r.flatList layout.spread.isSome ++ (layout.quoted r.module ++ layout.mark)) := by
  have hclosing : collapseBlanks (layout.quoted r.module ++ layout.mark) =
      layout.quoted r.module ++ layout.mark :=
    collapseBlanks_of_all (Layout.unbroken_closing h.module layout)
  have hbrace : StartsSolid ("\x7d from ".toList ++ (layout.quoted r.module ++ layout.mark)) :=
    StartsSolid.of_front (by decide) (by decide) _
  have hfrom : collapseBlanks ("\x7d from ".toList ++ (layout.quoted r.module ++ layout.mark)) =
      "\x7d from ".toList ++ (layout.quoted r.module ++ layout.mark) := by
    rw [collapses_of_singleSpaced (by decide) _ (layout.startsSolid_quoted r.module layout.mark),
      hclosing]
  have hitems : r.hasList = true → collapseBlanks (r.list layout ++
      (layout.quoted r.module ++ layout.mark)) =
        r.flatList layout.spread.isSome ++ (layout.quoted r.module ++ layout.mark) := by
    intro hl
    have hspace : " \x7d from ".toList = [' '] ++ "\x7d from ".toList := by decide
    have hend : layout.lineEnd ≠ [] ∧ allBlank layout.lineEnd = true := by
      unfold Layout.lineEnd
      split <;> decide
    rw [flatList_of_list hl, list, if_pos hl, hspace]
    cases hs : layout.spread with
    | none =>
      simp only [List.append_assoc]
      rw [collapseBlanks_items (List.cons_ne_nil ' ' []) (by decide) (List.cons_ne_nil ' ' [])
        (by decide) h.isName_items hbrace, hfrom]
      rfl
    | some indent =>
      have hgap : layout.lineEnd ++ List.replicate indent ' ' ≠ [] := by
        simp [hend.1]
      have hblank : allBlank (layout.lineEnd ++ List.replicate indent ' ') = true := by
        rw [allBlank_append, hend.2, Bool.true_and]
        refine allBlank_iff.2 fun c hc => ?_
        rw [List.eq_of_mem_replicate hc]
        decide
      simp only [List.append_assoc]
      rw [collapseBlanks_items hgap hblank hend.1 hend.2 h.isName_items hbrace, hfrom]
      rfl
  cases hl : r.hasList with
  | true =>
    rw [statement, h.collapseBlanks_front _ (fun hf => absurd (hl.symm.trans hf) (by decide)), hitems hl]
  | false =>
    have hlist : r.list layout = [] := by rw [list, hl]; rfl
    rw [statement, hlist, flatList_of_none hl, List.nil_append,
      h.collapseBlanks_front _ (fun _ => layout.startsSolid_quoted r.module layout.mark), hclosing]

/-- Normalising brings a statement to its normal form. -/
theorem normalize_statement :
    ImportStatement.normalize (r.statement layout) = r.normalForm layout := by
  rw [ImportStatement.normalize, h.withoutComments_statement, h.trim_statement,
    h.collapseBlanks_statement, ← List.append_assoc, Layout.trimEnd_closing, List.append_assoc]
  rfl

end ImportRecord.Writable

end LivePreview
