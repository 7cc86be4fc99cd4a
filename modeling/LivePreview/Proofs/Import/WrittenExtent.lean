import LivePreview.Proofs.Import.Cuts
import LivePreview.Proofs.Import.WrittenText
/-!
# LivePreview.Proofs.Import.WrittenExtent

**The scan takes a written statement for what it is.** Up to the module name nothing in a statement is
a quote, a slash or a semicolon, so the reader stays in plain code; each line but the last one ends
with a brace or a comma and the next one goes on; and the last one ends with a semicolon or with a
module name behind `from`. So the extent of a written statement is all of its lines, whatever is
behind them.
-/

namespace LivePreview

open Text
open Code (Reading)

/-! ### Where a statement ends -/

namespace ImportScan

section Extent

variable {taken a : List Char} {module : String} {layout : Layout}

/-- Does the text wait for a module name? It is `import` alone, or it ends with `from`. -/
def Introduces (text : List Char) : Prop :=
  text = "import ".toList ∨ ∃ lead, text = lead ++ " from ".toList

theorem Introduces.append (h : ∃ lead, a = lead ++ " from ".toList) (taken : List Char) :
    Introduces (taken ++ a) := by
  obtain ⟨lead, rfl⟩ := h
  exact .inr ⟨taken ++ lead, (List.append_assoc _ _ _).symm⟩

/-- A module name behind `from`, or behind `import` alone, ends a statement. -/
theorem closesModule_quoted (hm : IsModule module) (layout : Layout) (hp : Plain a)
    (hi : Introduces a) : closesModule (a ++ layout.quoted module) = true := by
  have hq := hm.quotable layout
  have hplain : ImportStatement.withoutComments (a ++ layout.quoted module) =
      a ++ layout.quoted module := by
    have hw := hm.withoutComments_quoted layout []
    rw [List.append_nil, withoutComments_nil, List.append_nil] at hw
    rw [ImportStatement.withoutComments, withoutComments_plain hp, hw]
  have htext : a ++ layout.quoted module = (a ++ layout.quote :: module.toList) ++ [layout.quote] := by
    simp [Layout.quoted]
  have hname : ∀ c ∈ module.toList.reverse, (c != layout.quote && c != '\n') = true := by
    intro c hc
    obtain ⟨hne, -, hfeed⟩ := hq.inside c (List.mem_reverse.1 hc)
    simp [hne, hfeed]
  have hback : (module.toList.reverse ++ layout.quote :: a.reverse).dropWhile
      (fun c => c != layout.quote && c != '\n') = layout.quote :: a.reverse := by
    rw [List.dropWhile_append_of_pos hname, List.dropWhile_cons_of_neg (by simp)]
  have hreverse : ((a ++ layout.quote :: module.toList) ++ [layout.quote]).reverse =
      layout.quote :: (module.toList.reverse ++ layout.quote :: a.reverse) := by
    simp
  rw [closesModule, hplain, htext, trimEnd_concat layout.isBlank_quote, hreverse]
  simp only [layout.isQuote_quote, hback, beq_self_eq_true, Bool.true_and]
  rcases hi with rfl | ⟨lead, rfl⟩
  · decide
  · have hlead : trimStart (lead ++ " from ".toList).reverse =
        "morf".toList ++ (' ' :: lead.reverse) := by
      rw [List.reverse_append]
      exact trimStart_append_of_allBlank (by decide : allBlank [' '] = true) _
    rw [hlead, dropLead?_append]
    show (!isWord ' ') = true
    decide

/-- A line that ends with a brace or a comma does not end a statement. -/
theorem closesModule_of_waits {e : Char} (hp : Plain a) (he : e = '\x7b' ∨ e = ',') :
    closesModule (a ++ [e]) = false := by
  have hpe : Plain [e] := by
    rcases he with rfl | rfl <;> decide
  have hblank : isBlank e = false := by
    rcases he with rfl | rfl <;> decide
  have hplain : ImportStatement.withoutComments (a ++ [e]) = a ++ [e] := by
    have hw := withoutComments_plain (hp.append hpe) []
    rw [List.append_nil, withoutComments_nil, List.append_nil] at hw
    rw [ImportStatement.withoutComments, hw]
  have hmark : (e == '"' || e == '\'') = false := by
    rcases he with rfl | rfl <;> decide
  rw [closesModule, hplain, trimEnd_concat hblank, List.reverse_append]
  simp [hmark]

/-- Does the line end a statement that is written up to here: with a module name behind `from`, with
or without a semicolon? -/
structure Closes (layout : Layout) (module : String) (taken content : List Char) : Prop where
  isModule : IsModule module
  plain : Plain taken
  split : ∃ lead, Plain lead ∧ Introduces (taken ++ lead) ∧
    content = lead ++ (layout.quoted module ++ layout.mark)

theorem Extent.find_of_closes {content ending : List Char} (h : Closes layout module taken content)
    (later : List Line) :
    Extent.find .code taken ⟨content, ending⟩ later = ⟨taken ++ content, [], ending, later⟩ := by
  obtain ⟨lead, hp, hi, rfl⟩ := h.split
  have hcut : cutTerminator? .code (lead ++ (layout.quoted module ++ layout.mark)) =
      if layout.semicolon then some (lead ++ (layout.quoted module ++ [';']), []) else none := by
    rw [cutTerminator?_plain hp, h.isModule.cutTerminator?_quoted, Layout.mark]
    split <;> rfl
  unfold Extent.find
  rw [hcut]
  cases hs : layout.semicolon with
  | true => simp [Layout.mark, hs]
  | false =>
    have hclose : closesModule (taken ++ (lead ++ layout.quoted module)) = true := by
      rw [← List.append_assoc]
      exact closesModule_quoted h.isModule layout (h.plain.append hp) hi
    simp [Layout.mark, hs, hclose]

/-- Does the line wait for the next one? -/
structure Waits (content : List Char) : Prop where
  plain : Plain content
  last : ∃ lead e, content = lead ++ [e] ∧ (e = '\x7b' ∨ e = ',')

/-- A line that waits is followed by one that goes on. -/
theorem Extent.find_of_waits {content ending next nextEnding : List Char} {others : List Line}
    (ht : Plain taken) (hw : Waits content) (he : Plain ending)
    (hno : opensImport (trim next) = false) (hgo : continues (trim next) = true) :
    Extent.find .code taken ⟨content, ending⟩ (⟨next, nextEnding⟩ :: others) =
      Extent.find .code (taken ++ (content ++ ending)) ⟨next, nextEnding⟩ others := by
  have hcut : cutTerminator? .code content = none := by
    have hc := cutTerminator?_plain hw.plain []
    rw [List.append_nil] at hc
    rw [hc]
    rfl
  have hclose : closesModule (taken ++ content) = false := by
    obtain ⟨lead, e, rfl, he⟩ := hw.last
    rw [← List.append_assoc]
    refine closesModule_of_waits (ht.append fun c hc => ?_) he
    exact hw.plain c (List.mem_append_left _ hc)
  have hstate : (content ++ ending).foldl (Reading.step true) .code = .code :=
    foldl_step_plain (hw.plain.append he)
  rw [Extent.find.eq_def]
  simp only [hcut, hclose, hno, hgo, Line.text, hstate, Bool.false_eq_true, if_false, Bool.not_true,
    Bool.or_self]

end Extent

/-! ### Lines that go on -/

theorem not_bordersImport {c : Char} (h : isIdentPart c = true) : bordersImport c = false := by
  cases hb : bordersImport c with
  | false => rfl
  | true =>
    simp only [bordersImport, isBlank_of_isIdentPart h, Bool.false_or, Bool.or_eq_true,
      beq_iff_eq] at hb
    rcases hb with ((rfl | rfl) | rfl) | rfl <;> exact absurd h (by decide)

/-- A name other than `import` opens nothing. -/
theorem opensImport_of_isName {name : String} {rest : List Char} (h : IsName name)
    (hr : ∀ c ∈ rest.head?, isIdentPart c = false) : opensImport (name.toList ++ rest) = false := by
  cases ho : opensImport (name.toList ++ rest) with
  | false => rfl
  | true =>
    obtain ⟨after, he, hborder⟩ := opensImport_iff.1 ho
    have hafter : ∀ c ∈ after.head?, isIdentPart c = false := by
      intro c hc
      cases hp : isIdentPart c with
      | false => rfl
      | true =>
        have hb := hborder c hc
        rw [not_bordersImport hp] at hb
        exact absurd hb Bool.false_ne_true
    have hword : ∀ c ∈ "import".toList, isIdentPart c = true := List.all_eq_true.1 (by decide)
    have hname := (eq_of_append_eq he (fun _ => isIdentPart_of_mem h.isIdent) hword hr hafter).1
    exact absurd (String.toList_inj.1 hname) h.ne_import

theorem continues_of_isIdentStart {c : Char} (h : isIdentStart c = true) (rest : List Char) :
    continues (c :: rest) = true := by
  have hc : (isLetter c || c == '_' || c == '$') = true := by
    rw [isIdentStart] at h
    cases hl : isAsciiLetter c with
    | true =>
      have hlt : c.toNat < 128 := by
        simp only [isAsciiLetter, Bool.or_eq_true, Bool.and_eq_true, decide_eq_true_eq] at hl
        omega
      simp [isLetter, hlt, hl]
    | false =>
      rw [hl, Bool.false_or] at h
      rw [Bool.or_assoc, h, Bool.or_true]
  simp only [Bool.or_eq_true] at hc
  simp only [continues, Bool.or_eq_true]
  rcases hc with (hc | hc) | hc
  · exact .inr (.inl (.inl (.inr hc)))
  · exact .inr (.inl (.inr hc))
  · exact .inr (.inr hc)

/-- A line that begins with a name goes on. -/
theorem goesOn_of_isName {name : String} {gap rest : List Char} (h : IsName name)
    (hb : allBlank gap = true) (hr : ∀ c ∈ rest.head?, isIdentPart c = false) :
    opensImport (trim (gap ++ (name.toList ++ rest))) = false ∧
      continues (trim (gap ++ (name.toList ++ rest))) = true := by
  rw [trim_append_left hb]
  have hno := opensImport_of_isName h hr
  have hident := h.isIdent
  cases hn : name.toList with
  | nil =>
    rw [hn] at hident
    exact absurd hident Bool.false_ne_true
  | cons c front =>
    rw [hn, isIdent, Bool.and_eq_true] at hident
    rw [hn] at hno
    have hc := isBlank_of_isIdentPart (isIdentPart_of_isIdentStart hident.1)
    rw [List.cons_append] at hno ⊢
    refine ⟨?_, ?_⟩
    · rw [opensImport_trim, trimStart_cons hc]
      exact hno
    · obtain ⟨t, ht⟩ := trim_cons hc (front ++ rest)
      rw [ht]
      exact continues_of_isIdentStart hident.1 t

/-- So does the line of an item. -/
theorem goesOn_item {it : NamedImport} {gap : List Char} (he : IsName it.exported)
    (hl : IsName it.localName) (hb : allBlank gap = true) :
    opensImport (trim (gap ++ (it.written ++ [',']))) = false ∧
      continues (trim (gap ++ (it.written ++ [',']))) = true := by
  unfold NamedImport.written
  split
  · exact goesOn_of_isName hl hb (forall_head_cons (by decide) [])
  · rw [List.append_assoc]
    refine goesOn_of_isName he hb ?_
    intro c hc
    have hspace : c = ' ' := (Option.some.inj hc).symm
    rw [hspace]
    decide

/-- So does the line with the closing brace. -/
theorem goesOn_brace (rest : List Char) :
    opensImport (trim ("\x7d from ".toList ++ rest)) = false ∧
      continues (trim ("\x7d from ".toList ++ rest)) = true := by
  obtain ⟨t, ht⟩ := trim_cons (by decide : isBlank '\x7d' = false) (" from ".toList ++ rest)
  have htext : trim ("\x7d from ".toList ++ rest) = '\x7d' :: t := ht
  rw [htext]
  exact ⟨rfl, rfl⟩

/-- The items of a list, each on a line of its own, go on to the line that closes the statement. -/
theorem Extent.find_items (layout : Layout) {module : String} {gap : List Char}
    {list : List NamedImport} (hgap : Tame gap) (hb : allBlank gap = true) (hm : IsModule module)
    (hitems : ∀ it ∈ list, IsName it.exported ∧ IsName it.localName) (later : List Line) :
    ∀ {taken content : List Char}, Plain taken → Waits content →
      Extent.find .code taken ⟨content, layout.lineEnd⟩
          (list.map (fun it => ⟨gap ++ (it.written ++ [',']), layout.lineEnd⟩) ++
            (⟨"\x7d from ".toList ++ (layout.quoted module ++ layout.mark), layout.lineEnd⟩ ::
              later)) =
        ⟨taken ++ (content ++ (layout.lineEnd ++
          (list.flatMap (fun it => gap ++ (it.written ++ (',' :: layout.lineEnd))) ++
            ("\x7d from ".toList ++ (layout.quoted module ++ layout.mark))))), [],
          layout.lineEnd, later⟩ := by
  -- With each line the text that was taken grows, so the induction is over it, too.
  induction list with
  | nil =>
    intro taken content ht hw
    obtain ⟨hno, hgo⟩ := goesOn_brace (layout.quoted module ++ layout.mark)
    have hend := plain_lineEnd layout
    have hplain : Plain "\x7d from ".toList := by decide
    have hi : Introduces ((taken ++ (content ++ layout.lineEnd)) ++ "\x7d from ".toList) :=
      Introduces.append ⟨['\x7d'], rfl⟩ _
    have hcloses : Closes layout module (taken ++ (content ++ layout.lineEnd))
        ("\x7d from ".toList ++ (layout.quoted module ++ layout.mark)) :=
      ⟨hm, ht.append (hw.plain.append hend), _, hplain, hi, rfl⟩
    rw [List.map_nil, List.nil_append, Extent.find_of_waits ht hw hend hno hgo,
      Extent.find_of_closes hcloses]
    simp only [List.flatMap_nil, List.nil_append, List.append_assoc]
  | cons it list ih =>
    intro taken content ht hw
    obtain ⟨he, hl⟩ := hitems it List.mem_cons_self
    obtain ⟨hno, hgo⟩ := goesOn_item he hl hb
    have hend := plain_lineEnd layout
    have hline : Waits (gap ++ (it.written ++ [','])) := by
      refine ⟨(hgap.append ((tame_written he hl).append (by decide))).plain, ?_⟩
      exact ⟨gap ++ it.written, ',', (List.append_assoc _ _ _).symm, .inr rfl⟩
    rw [List.map_cons, List.cons_append, Extent.find_of_waits ht hw hend hno hgo,
      ih (fun it hi => hitems it (List.mem_cons_of_mem _ hi)) (ht.append (hw.plain.append hend)) hline]
    simp only [List.flatMap_cons, List.append_assoc, List.cons_append, List.nil_append]

end ImportScan

/-! ### The extent of a written statement -/

namespace ImportRecord

/-- The list of a statement with the closing brace and `from`, if it has one. -/
def list (layout : Layout) (r : ImportRecord) : List Char :=
  if r.hasList then
    match layout.spread with
    | none => writtenItems [' '] false r.named ++ " \x7d from ".toList
    | some indent =>
      writtenItems (layout.lineEnd ++ List.replicate indent ' ') true r.named ++
        (layout.lineEnd ++ "\x7d from ".toList)
  else []

/-- The text of the statement without the end of its last line. -/
def statement (layout : Layout) (r : ImportRecord) : List Char :=
  r.front ++ (r.list layout ++ (layout.quoted r.module ++ layout.mark))

end ImportRecord

theorem writtenItems_trailing (gap : List Char) (it : NamedImport) (rest : List NamedImport) :
    writtenItems gap true (it :: rest) =
      gap ++ (it.written ++ (',' :: writtenItems gap true rest)) := by
  cases rest with
  | nil => rfl
  | cons next rest => rfl

/-- Items on lines of their own are items behind a line end and a gap. -/
theorem lineEnd_items (feed gap : List Char) (list : List NamedImport) :
    feed ++ list.flatMap (fun it => gap ++ (it.written ++ (',' :: feed))) =
      writtenItems (feed ++ gap) true list ++ feed := by
  induction list with
  | nil => simp [writtenItems]
  | cons it rest ih =>
    rw [writtenItems_trailing, List.flatMap_cons]
    simp only [List.append_assoc, List.cons_append]
    rw [ih]

namespace ImportRecord

theorem written_eq (layout : Layout) (r : ImportRecord) :
    r.written layout = r.statement layout ++ layout.lineEnd := by
  unfold written writtenLines statement list
  cases hl : r.hasList with
  | false => simp [Line.text]
  | true =>
    cases hs : layout.spread with
    | none => simp [Line.text]
    | some indent =>
      have hitems := lineEnd_items layout.lineEnd (List.replicate indent ' ') r.named
      simp only [if_true, List.cons_append, List.flatMap_cons, List.flatMap_append, List.flatMap_nil,
        List.flatMap_map, Line.text, List.append_assoc, List.append_nil, List.nil_append]
      rw [← List.append_assoc layout.lineEnd, hitems]
      simp only [List.append_assoc]

theorem writtenLines_plain {r : ImportRecord} {layout : Layout} (hl : r.hasList = false) :
    r.writtenLines layout =
      [⟨r.front ++ (layout.quoted r.module ++ layout.mark), layout.lineEnd⟩] := by
  simp only [writtenLines, hl, Bool.false_eq_true, if_false]

theorem writtenLines_flat {r : ImportRecord} {layout : Layout} (hl : r.hasList = true)
    (hs : layout.spread = none) :
    r.writtenLines layout =
      [⟨r.front ++ (writtenItems [' '] false r.named ++
        (" \x7d from ".toList ++ (layout.quoted r.module ++ layout.mark))), layout.lineEnd⟩] := by
  simp only [writtenLines, hl, hs, if_true]

theorem writtenLines_spread {r : ImportRecord} {layout : Layout} {indent : Nat}
    (hl : r.hasList = true) (hs : layout.spread = some indent) :
    r.writtenLines layout =
      ⟨r.front, layout.lineEnd⟩ :: (r.named.map (fun it =>
        ⟨List.replicate indent ' ' ++ (it.written ++ [',']), layout.lineEnd⟩) ++
          [⟨"\x7d from ".toList ++ (layout.quoted r.module ++ layout.mark), layout.lineEnd⟩]) := by
  simp only [writtenLines, hl, hs, if_true, List.cons_append]

theorem front_eq_append {r : ImportRecord} {a b : List Char} (h : r.head = a ++ b) :
    r.front = ("import ".toList ++ (r.typeMark ++ a)) ++ b := by
  rw [front_eq, h]
  simp only [List.append_assoc]

/-- The beginning of a statement ends with the brace of its list, or it waits for the module name. -/
theorem Shaped.front_cases {r : ImportRecord} (h : r.Shaped) :
    (r.hasList = true ∧ ∃ lead, r.front = lead ++ ['\x7b']) ∨
      (r.hasList = false ∧ ImportScan.Introduces r.front) := by
  cases h with
  | sideEffect =>
    refine .inr ⟨rfl, .inl ?_⟩
    rw [front_eq]
    rfl
  | allExports module span name typeOnly =>
    have hhead := (List.append_assoc "* as ".toList name.toList " from ".toList).symm
    exact .inr ⟨rfl, .inr ⟨_, front_eq_append hhead⟩⟩
  | named => exact .inl ⟨rfl, _, front_eq_append (List.nil_append ['\x7b']).symm⟩
  | default => exact .inr ⟨rfl, .inr ⟨_, front_eq_append rfl⟩⟩
  | defaultNamed module span name named typeOnly =>
    have hhead := (List.append_assoc name.toList ", ".toList ['\x7b']).symm
    exact .inl ⟨rfl, _, front_eq_append hhead⟩

end ImportRecord

namespace ImportScan

theorem opensImport_front (r : ImportRecord) (rest : List Char) :
    opensImport (trim (r.front ++ rest)) = true := by
  have hi : isBlank 'i' = false := by decide
  have hgap : "import ".toList = "import".toList ++ [' '] := by decide
  have hfirst : "import".toList = 'i' :: "mport".toList := by decide
  have htext : r.front ++ rest = "import".toList ++ (' ' :: ((r.typeMark ++ r.head) ++ rest)) := by
    rw [ImportRecord.front_eq, hgap]
    simp only [List.append_assoc, List.cons_append, List.nil_append]
  have htrim : trimStart (r.front ++ rest) = r.front ++ rest := by
    rw [htext, hfirst, List.cons_append]
    exact trimStart_cons hi _
  rw [opensImport_trim, htrim]
  exact opensImport_iff.2 ⟨_, htext, forall_head_cons (by decide) _⟩

/-- The scan follows a written statement to the end of its last line. -/
theorem find_written {r : ImportRecord} (h : r.Writable) (layout : Layout) :
    ∃ first others, r.writtenLines layout = first :: others ∧
      opensImport (trim first.content) = true ∧
      ∀ later, Extent.find .code [] first (others ++ later) =
        ⟨r.statement layout, [], layout.lineEnd, later⟩ := by
  have hnil : Plain [] := by decide
  have hfront := h.tame_front.plain
  rcases h.shaped.front_cases with ⟨hl, lead, hbrace⟩ | ⟨hl, hi⟩
  · cases hs : layout.spread with
    | none =>
      have hitems : Plain (writtenItems [' '] false r.named) :=
        (tame_writtenItems (by decide) h.tame_items).plain
      refine ⟨_, [], ImportRecord.writtenLines_flat hl hs, opensImport_front r _, ?_⟩
      intro later
      have hfrom : Plain " \x7d from ".toList := by decide
      have hi : Introduces ([] ++ (r.front ++ (writtenItems [' '] false r.named ++
          " \x7d from ".toList))) := by
        refine .inr ⟨r.front ++ (writtenItems [' '] false r.named ++ " \x7d".toList), ?_⟩
        simp
      have hcloses : Closes layout r.module [] (r.front ++ (writtenItems [' '] false r.named ++
          (" \x7d from ".toList ++ (layout.quoted r.module ++ layout.mark)))) := by
        refine ⟨h.module, hnil, _, hfront.append (hitems.append hfrom), hi, ?_⟩
        simp only [List.append_assoc]
      rw [List.nil_append, Extent.find_of_closes hcloses, ImportRecord.statement,
        ImportRecord.list, if_pos hl, hs]
      simp only [List.nil_append, List.append_assoc]
    | some indent =>
      have hspace : ∀ c ∈ List.replicate indent ' ', c = ' ' := fun c hc => List.eq_of_mem_replicate hc
      have hgap : Tame (List.replicate indent ' ') := by
        intro c hc
        rw [hspace c hc]
        decide
      have hblank : allBlank (List.replicate indent ' ') = true := by
        refine allBlank_iff.2 fun c hc => ?_
        rw [hspace c hc]
        decide
      have hopens := opensImport_front r []
      rw [List.append_nil] at hopens
      refine ⟨_, _, ImportRecord.writtenLines_spread hl hs, hopens, fun later => ?_⟩
      have hfind := Extent.find_items layout hgap hblank h.module h.isName_items later hnil
        ⟨hfront, lead, '\x7b', hbrace, .inl rfl⟩
      have hitems := lineEnd_items layout.lineEnd (List.replicate indent ' ') r.named
      rw [List.append_assoc, List.singleton_append, hfind, ImportRecord.statement,
        ImportRecord.list, if_pos hl, hs, List.nil_append, ← List.append_assoc layout.lineEnd, hitems]
      simp only [List.append_assoc]
  · refine ⟨_, [], ImportRecord.writtenLines_plain hl, opensImport_front r _, ?_⟩
    intro later
    have hcloses : Closes layout r.module [] (r.front ++ (layout.quoted r.module ++ layout.mark)) :=
      ⟨h.module, hnil, _, hfront, hi, rfl⟩
    rw [List.nil_append, Extent.find_of_closes hcloses, ImportRecord.statement, ImportRecord.list,
      if_neg (by rw [hl]; exact Bool.false_ne_true)]
    rfl

end ImportScan

end LivePreview
