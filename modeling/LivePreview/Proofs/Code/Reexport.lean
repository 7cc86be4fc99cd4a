import LivePreview.Proofs.Code.ExportSyntax
/-!
# LivePreview.Proofs.Code.Reexport

**A re-export disappears.** A re-export is written with any blanks between its parts. If some of them
stand behind `export`, and the module has a name, then the whole statement goes with its line and nothing
else changes: what is left of the source behind it and the names that it exports are those of the source
alone (`Reexport.stripExportLists_written`). Without a blank behind `export`, the list in braces is taken
for one of the module's own names (`Reexport.stripExportLists_attached`).
-/

namespace LivePreview.Code

open Text

variable {rest : List Char}

/-! ### Re-exports as they are written -/

/-- What a re-export passes on. -/
inductive Reexported
  /-- Everything. -/
  | all
  /-- Everything, under a name; there are gaps around `as`. -/
  | underName (beforeAs afterAs name : List Char)
  /-- The names of a list. -/
  | names (list : List Char)

def Reexported.written : Reexported → List Char
  | all => ['*']
  | underName beforeAs afterAs name => '*' :: (beforeAs ++ ("as".toList ++ (afterAs ++ name)))
  | names list => '\x7b' :: (list ++ ['\x7d'])

/-- What is passed on is written as the grammar has it, with `gap` behind it: blanks separate the words, a
list holds no braces, and none of its lines begins like a statement. -/
def Reexported.Writable (gap : List Char) : Reexported → Prop
  | all => True
  | underName beforeAs afterAs name =>
    allBlank beforeAs = true ∧ afterAs ≠ [] ∧ allBlank afterAs = true ∧ isIdent name = true ∧ gap ≠ []
  | names list =>
    '\x7b' ∉ list ∧ '\x7d' ∉ list ∧ AtLines (opensStar · = false) false list []

/-- A re-export and the gaps between its parts. -/
structure Reexport where
  afterExport : List Char
  passed : Reexported
  beforeFrom : List Char
  afterFrom : List Char
  quote : Char
  module : List Char
  tail : LineTail

namespace Reexport

variable {r : Reexport}

/-- `from` and the quoted module name. -/
def origin (r : Reexport) : List Char :=
  "from".toList ++ (r.afterFrom ++ (r.quote :: (r.module ++ [r.quote])))

/-- The statement, up to the module name. -/
def statement (r : Reexport) : List Char :=
  "export".toList ++ (r.afterExport ++ (r.passed.written ++ (r.beforeFrom ++ r.origin)))

/-- The statement with the rest of its last line. -/
def written (r : Reexport) : List Char :=
  r.statement ++ r.tail.written

/-- The statement is written as the grammar has it, alone on its lines in front of `rest`. -/
structure Writable (r : Reexport) (rest : List Char) : Prop where
  afterExport : allBlank r.afterExport = true
  passed : r.passed.Writable r.beforeFrom
  beforeFrom : allBlank r.beforeFrom = true
  afterFrom : allBlank r.afterFrom = true
  quote : r.quote = '"' ∨ r.quote = '\''
  module : ∀ c ∈ r.module, c ≠ '"' ∧ c ≠ '\'' ∧ c ≠ '\n'
  tail : r.tail.Ends rest

/-- A blank separates `export` from what is passed on, and the module has a name. -/
structure Separated (r : Reexport) : Prop where
  afterExport : r.afterExport ≠ []
  module : r.module ≠ []

theorem written_append (r : Reexport) (rest : List Char) :
    r.written ++ rest = "export".toList ++ (r.afterExport ++ (r.passed.written ++ (r.beforeFrom ++
      (r.origin ++ (r.tail.written ++ rest))))) := by
  show "export".toList ++ (r.afterExport ++ (r.passed.written ++ (r.beforeFrom ++ r.origin))) ++
    r.tail.written ++ rest = _
  simp only [List.append_assoc]

theorem statement_ne_nil (r : Reexport) : r.statement ≠ [] :=
  List.append_ne_nil_of_left_ne_nil (by decide) _

theorem origin_append (r : Reexport) (rest : List Char) :
    r.origin ++ rest =
      "from".toList ++ (r.afterFrom ++ (r.quote :: (r.module ++ r.quote :: rest))) := by
  show "from".toList ++ (r.afterFrom ++ (r.quote :: (r.module ++ [r.quote]))) ++ rest = _
  simp only [List.append_assoc, List.cons_append, List.nil_append]

/-! ### Its parts -/

theorem startsSolid_origin (r : Reexport) (rest : List Char) : StartsSolid (r.origin ++ rest) := by
  rw [origin_append]
  exact StartsSolid.of_front (by decide) (by decide) _

theorem startsSolid_passed (r : Reexport) (rest : List Char) :
    StartsSolid (r.passed.written ++ rest) := by
  cases r.passed <;> exact forall_head_cons (by decide) _

section Parts

variable (h : r.Writable rest) (hs : r.Separated)

include h hs

/-- Behind `export` stands what is passed on. -/
theorem exportGap?_written :
    exportGap? (r.written ++ rest) =
      some (r.passed.written ++ (r.beforeFrom ++ (r.origin ++ (r.tail.written ++ rest)))) := by
  have hgap := (r.startsSolid_passed (r.beforeFrom ++ (r.origin ++ (r.tail.written ++ rest)))).wordGap?_gap
    (w := "export") hs.afterExport h.afterExport
  rw [written_append]
  exact hgap

/-- The module name is read up to its closing quote. -/
theorem fromName?_origin (more : List Char) : fromName? (r.origin ++ more) = some more := by
  obtain ⟨c, name, hname⟩ := List.exists_cons_of_ne_nil hs.module
  have hquote : (r.quote == '"' || r.quote == '\'') = true := by
    rcases h.quote with hq | hq <;> rw [hq] <;> rfl
  have hsolid : StartsSolid (r.quote :: (r.module ++ r.quote :: more)) := by
    rcases h.quote with hq | hq <;> rw [hq] <;> exact forall_head_cons (by decide) _
  have hall : ∀ d ∈ r.module, (!(d == '"' || d == '\'') && d != '\n') = true := by
    intro d hd
    obtain ⟨h1, h2, h3⟩ := h.module d hd
    simp [h1, h2, h3]
  have hstop : ∀ d ∈ (r.quote :: more).head?, (!(d == '"' || d == '\'') && d != '\n') = false :=
    forall_head_cons (by rw [hquote]; rfl) more
  have hempty : r.module.isEmpty = false := by rw [hname]; rfl
  rw [origin_append, fromName?]
  simp only [word?_append, Option.bind_eq_bind, Option.bind_some, hsolid.trimStart_gap h.afterFrom, hquote,
    takeWhile_append_of_stop hall hstop, dropWhile_append_of_stop hall hstop, hempty, guard, Bool.not_false,
    if_true]
  rfl

end Parts

/-! ### Re-exports of everything -/

/-- A re-export of everything is taken with its line. -/
theorem starReexport?_written (h : r.Writable rest) (hs : r.Separated)
    (hp : ∀ list, r.passed ≠ .names list) :
    starReexport? (r.written ++ rest) = some ⟨(), [], rest⟩ := by
  have horigin := r.startsSolid_origin (r.tail.written ++ rest)
  have hpassed := h.passed
  have hgap := exportGap?_written h hs
  have hend : remove () (r.tail.written ++ rest) = ⟨(), [], rest⟩ := by
    rw [remove, h.tail.skipLineEnd_append]
  have htype : ∀ more, skipWordGap "type" ('*' :: more) = '*' :: more := fun _ => rfl
  have hstar : ∀ more, word? "*" ('*' :: more) = some more := fun _ => rfl
  rw [starReexport?, hgap]
  cases hcase : r.passed with
  | names list => exact absurd hcase (hp list)
  | all =>
    have hno : wordGap? "as" (r.origin ++ (r.tail.written ++ rest)) = none := rfl
    simp only [Reexported.written, List.cons_append, List.nil_append, Option.bind_eq_bind, Option.bind_some,
      htype, hstar, horigin.trimStart_gap h.beforeFrom, hno, fromName?_origin h hs, hend]
    rfl
  | underName beforeAs afterAs name =>
    rw [hcase] at hpassed
    obtain ⟨hbefore, hane, hafter, hname, hbne⟩ := hpassed
    have hblank : ∀ c ∈ (r.beforeFrom ++ (r.origin ++ (r.tail.written ++ rest))).head?,
        isIdentPart c = false := by
      obtain ⟨c, gap, hcons⟩ := List.exists_cons_of_ne_nil hbne
      have hc : isBlank c = true := allBlank_iff.1 h.beforeFrom c (by rw [hcons]; exact List.mem_cons_self)
      rw [hcons]
      refine forall_head_cons (p := (isIdentPart · = false)) (Bool.eq_false_iff.2 fun hpart => ?_) _
      rw [isBlank_of_isIdentPart hpart] at hc
      cases hc
    have has := (startsSolid_of_isIdent hname (r.beforeFrom ++ (r.origin ++ (r.tail.written ++ rest)))).wordGap?_gap
      (w := "as") hane hafter
    have hsolid : ∀ more, StartsSolid ("as".toList ++ more) := fun more =>
      StartsSolid.of_front (by decide) (by decide) more
    simp only [Reexported.written, List.cons_append, List.append_assoc, Option.bind_eq_bind,
      Option.bind_some, htype, hstar, (hsolid _).trimStart_gap hbefore, has,
      takeIdent?_of_isIdent hname hblank, horigin.gap?_gap hbne h.beforeFrom, fromName?_origin h hs, hend]
    rfl

/-! ### Re-exports of a list -/

section Lines

variable {list : List Char} (h : r.Writable rest)

include h

/-- No export syntax begins in front of the module name or within it. -/
theorem atLines_origin (atStart : Bool) (more : List Char) :
    AtLines (opensExport · = false) atStart r.origin more := by
  have hfrom : ∀ more, opensExport ("from".toList ++ more) = false := by
    intro more
    rw [show "from".toList = 'f' :: "rom".toList by decide]
    exact opensExport_cons (by decide) (by decide) _
  have hquote : ∀ more, opensExport (r.quote :: more) = false := fun more =>
    opensExport_cons (by rcases h.quote with hq | hq <;> rw [hq] <;> decide)
      (by rcases h.quote with hq | hq <;> rw [hq] <;> decide) more
  have hfeed : '\n' ∉ r.quote :: (r.module ++ [r.quote]) := by
    have hq : '\n' ≠ r.quote := by rcases h.quote with hq | hq <;> rw [hq] <;> decide
    have hm : '\n' ∉ r.module := fun hc => (h.module '\n' hc).2.2 rfl
    simp [hq, hm]
  refine .append (.within (by decide) fun _ => hfrom _) ?_
  exact .append (atLines_gap h.afterFrom (hquote _) _) (.within hfeed fun _ => hquote _)

/-- The quote at the end of the statement begins no line. -/
theorem startsBehind_statement (atStart : Bool) : startsBehind atStart r.statement = false := by
  have hlast : r.statement = ("export".toList ++ (r.afterExport ++ (r.passed.written ++ (r.beforeFrom ++
      ("from".toList ++ (r.afterFrom ++ r.quote :: r.module)))))) ++ [r.quote] := by
    show "export".toList ++ (r.afterExport ++ (r.passed.written ++ (r.beforeFrom ++
      ("from".toList ++ (r.afterFrom ++ (r.quote :: (r.module ++ [r.quote]))))))) = _
    simp
  rw [hlast, startsBehind_append]
  rcases h.quote with hq | hq <;> rw [hq] <;> rfl

/-- A re-export of a list is none of everything, and none begins within it. -/
theorem atLines_starReexport (hs : r.Separated) (hp : r.passed = .names list) :
    AtLines (starReexport? · = none) true r.written rest := by
  obtain ⟨-, -, hlines⟩ : Reexported.Writable r.beforeFrom (.names list) := hp ▸ h.passed
  have hfirst : starReexport? (r.written ++ rest) = none := by
    refine starReexport?_of_not_opensStar ?_
    rw [opensStar, exportGap?_written h hs, hp]
    rfl
  have hquiet : ∀ {text more : List Char} (s : Bool), AtLines (opensExport · = false) s text more →
      AtLines (starReexport? · = none) s text more := fun _ hl => readsExports_starReexport.atLines hl
  have hlist : ∀ more, AtLines (starReexport? · = none) false list ('\x7d' :: more) := fun more =>
    hlines.imp fun line hline => by
      rw [List.append_nil] at hline
      exact starReexport?_of_not_opensStar ((opensStar_stop line more).trans hline)
  have hbraces : ∀ s more, AtLines (starReexport? · = none) s r.passed.written more := by
    intro s more
    rw [hp, Reexported.written, ← List.singleton_append]
    refine .append (hquiet s (atLines_mark (by decide) (by decide) s)) (.append (hlist more) ?_)
    exact hquiet _ (atLines_mark (by decide) (by decide) _)
  have hbrace : ∀ more, opensExport (r.passed.written ++ more) = false := by
    rw [hp]
    exact fun more => opensExport_cons (by decide) (by decide) _
  have hfrom : ∀ more, opensExport (r.origin ++ more) = false := by
    intro more
    rw [origin_append, show "from".toList = 'f' :: "rom".toList by decide]
    exact opensExport_cons (by decide) (by decide) _
  -- Piece by piece: only the word in front could open a statement.
  have hstatement : AtLines (starReexport? · = none) true r.statement (r.tail.written ++ rest) := by
    refine .append (.within (by decide) fun _ => ?_) ?_
    · rw [written_append] at hfirst
      simpa only [List.append_assoc] using hfirst
    refine .append (hquiet _ (atLines_gap h.afterExport ?_ _)) (.append (hbraces _ _) ?_)
    · rw [List.append_assoc]
      exact hbrace _
    exact .append (hquiet _ (atLines_gap h.beforeFrom (hfrom _) _)) (hquiet _ (atLines_origin h _ _))
  refine .append hstatement ?_
  rw [startsBehind_statement h]
  exact h.tail.atLines_false _

end Lines

/-- A re-export of a list is taken with its line. -/
theorem listReexport?_written {list : List Char} (h : r.Writable rest) (hs : r.Separated)
    (hp : r.passed = .names list) : listReexport? (r.written ++ rest) = some ⟨(), [], rest⟩ := by
  obtain ⟨-, hclosing, -⟩ : Reexported.Writable r.beforeFrom (.names list) := hp ▸ h.passed
  have horigin := r.startsSolid_origin (r.tail.written ++ rest)
  have htype : ∀ more, skipWordGap "type" ('\x7b' :: more) = '\x7b' :: more := fun _ => rfl
  have hend : remove () (r.tail.written ++ rest) = ⟨(), [], rest⟩ := by
    rw [remove, h.tail.skipLineEnd_append]
  rw [listReexport?, exportGap?_written h hs, hp]
  simp only [Reexported.written, List.cons_append, List.append_assoc, List.nil_append, Option.bind_eq_bind,
    Option.bind_some, htype, between?_append hclosing, horigin.trimStart_gap h.beforeFrom,
    fromName?_origin h hs, hend]
  rfl

/-! ### The main result -/

/-- A sweep that takes the statement goes on with the source behind it. -/
theorem sweep_written {reader : List Char → Option (Hit Unit)} (h : r.Writable rest)
    (hr : reader (r.written ++ rest) = some ⟨(), [], rest⟩) :
    (sweep reader true (r.written ++ rest)).2 = (sweep reader true rest).2 := by
  rw [written, List.append_assoc] at hr ⊢
  rw [h.tail.sweep_hit r.statement_ne_nil hr]

/-- What is left of a source behind the statement is a source behind the statement. -/
theorem Writable.sweep {α : Type} (h : r.Writable rest) (reader : List Char → Option (Hit α)) :
    r.Writable (sweep reader true rest).2 :=
  { h with tail := h.tail.of_imp fun hnil => by rw [hnil, Code.sweep] }

/-- **A re-export disappears**: without it, the same code is left and the same names are exported. -/
theorem stripExportLists_written (h : r.Writable rest) (hs : r.Separated) :
    stripExportLists (r.written ++ rest) = stripExportLists rest := by
  unfold stripExportLists
  by_cases hp : ∃ list, r.passed = .names list
  · obtain ⟨list, hp⟩ := hp
    -- The sweep for re-exports of everything leaves it to the next one.
    have hstar := (atLines_starReexport h hs hp).sweep_append
    have hbehind : sweep starReexport? (startsBehind true r.written) rest = sweep starReexport? true rest :=
      h.tail.sweep_behind true r.statement
    rw [hbehind] at hstar
    have hlist := sweep_written (h.sweep starReexport?) (listReexport?_written (h.sweep starReexport?) hs hp)
    dsimp only
    rw [hstar, hlist]
  · have hstar := sweep_written h (starReexport?_written h hs fun list hl => hp ⟨list, hl⟩)
    dsimp only
    rw [hstar]

/-- A re-export over several lines, with no more blanks than it needs. -/
def iconReexport : Reexport where
  afterExport := "\n".toList
  passed := .names "\n  ArrowLeft,\n  type IconProps,\n  export as Export\n".toList
  beforeFrom := []
  afterFrom := []
  quote := '"'
  module := "./icons".toList
  tail := ⟨[], false, [], ['\n']⟩

theorem stripExportLists_written_icons :
    iconReexport.written =
        "export\n\x7b\n  ArrowLeft,\n  type IconProps,\n  export as Export\n\x7dfrom\"./icons\"\n".toList ∧
      iconReexport.Writable "const x = 1;\n".toList ∧ iconReexport.Separated ∧
      stripExportLists (iconReexport.written ++ "const x = 1;\n".toList) =
        stripExportLists "const x = 1;\n".toList := by
  have hwritable : iconReexport.Writable "const x = 1;\n".toList :=
    ⟨by decide, ⟨by decide, by decide, by decide⟩, by decide, by decide, by decide,
      List.all_iff_forall_prop.1 (by decide), ⟨List.all_eq_true.1 rfl, List.all_eq_true.1 rfl, by decide⟩⟩
  have hseparated : iconReexport.Separated := ⟨by decide, by decide⟩
  exact ⟨by decide, hwritable, hseparated, stripExportLists_written hwritable hseparated⟩

/-! ### Where nothing separates `export` from the list -/

/-- The same re-export of one name, without a blank behind `export`. -/
def attachedReexport : Reexport where
  afterExport := []
  passed := .names " a ".toList
  beforeFrom := [' ']
  afterFrom := [' ']
  quote := '\''
  module := "m".toList
  tail := ⟨[], true, [], ['\n']⟩

/-- The list is taken for one of the module's own names, and its origin stays in the code. -/
theorem stripExportLists_attached :
    let rest := "const x = 1;\n".toList
    attachedReexport.written = "export\x7b a \x7d from 'm';\n".toList ∧ attachedReexport.Writable rest ∧
      stripExportLists (attachedReexport.written ++ rest) =
        ("from 'm';\nconst x = 1;\n".toList, [⟨"a", "a"⟩]) ∧
      stripExportLists rest = (rest, []) := by
  intro rest
  exact ⟨by decide, ⟨by decide, ⟨by decide, by decide, by decide⟩, by decide, by decide, by decide,
    List.all_iff_forall_prop.1 (by decide), ⟨List.all_eq_true.1 rfl, List.all_eq_true.1 rfl, by decide⟩⟩,
    by decide +kernel, by decide +kernel⟩

end Reexport

end LivePreview.Code
