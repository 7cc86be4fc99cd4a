import LivePreview.Proofs.Code.ExportSyntax
import LivePreview.Proofs.Code.Exports
/-!
# LivePreview.Proofs.Code.TemplateLiteral

**Template literals survive the loss of export syntax.** What goes with export syntax holds no backticks,
apart from what stands in an export list, and none begins within a literal that has no export syntax in
it. So each such literal is still there, character by character, if no backtick goes with a list
(`TemplateLiteral.infix_stripExports`).
-/

namespace LivePreview.Code

open Text

variable {α : Type} {reader : List Char → Option (Hit α)} {a b text rest : List Char} {atStart : Bool}

/-- A template literal in which no line begins with export syntax. -/
structure TemplateLiteral where
  /-- What stands between the backticks. -/
  inner : List Char
  quiet : AtLines (opensExport · = false) false inner []

/-! ### What holds no backtick -/

/-- A stretch of the text without backticks, and `rest` behind it. -/
def Passes (text rest : List Char) : Prop :=
  ∃ taken, text = taken ++ rest ∧ '\x60' ∉ taken

namespace Passes

theorem refl (text : List Char) : Passes text text :=
  ⟨[], rfl, List.not_mem_nil⟩

theorem trans {behind : List Char} (h : Passes text behind) (h' : Passes behind rest) : Passes text rest := by
  obtain ⟨taken, rfl, htaken⟩ := h
  obtain ⟨more, rfl, hmore⟩ := h'
  exact ⟨taken ++ more, (List.append_assoc taken more rest).symm, by simp [htaken, hmore]⟩

theorem dropWhile {p : Char → Bool} (hp : p '\x60' = false) (text : List Char) :
    Passes text (text.dropWhile p) :=
  ⟨text.takeWhile p, List.takeWhile_append_dropWhile.symm,
    not_mem_of_forall_class (fun _ hc => List.mem_takeWhile_imp hc) hp⟩

theorem trimStart (text : List Char) : Passes text (trimStart text) :=
  dropWhile (by decide) text

theorem skipSpaces (text : List Char) : Passes text (skipSpaces text) :=
  dropWhile (by decide) text

theorem skipChar {c : Char} (hc : c ≠ '\x60') (text : List Char) : Passes text (skipChar c text) := by
  cases text with
  | nil => exact refl []
  | cons d text =>
    rw [Text.skipChar]
    split
    · next hd => exact ⟨[d], rfl, by simpa [hd] using hc.symm⟩
    · exact refl _

theorem word? {w : String} (hw : '\x60' ∉ w.toList) (h : word? w text = some rest) : Passes text rest :=
  ⟨w.toList, word?_eq_some_iff.1 h, hw⟩

theorem gap? (h : gap? text = some rest) : Passes text rest := by
  cases text with
  | nil => cases h
  | cons c text =>
    rw [Text.gap?] at h
    split at h
    · next hc =>
      cases h
      have hblank : c ≠ '\x60' := by
        rintro rfl
        exact absurd hc (by decide)
      exact trans ⟨[c], rfl, by simpa using hblank.symm⟩ (trimStart text)
    · cases h

theorem wordGap? {w : String} (hw : '\x60' ∉ w.toList) (h : wordGap? w text = some rest) :
    Passes text rest := by
  obtain ⟨behind, hword, hgap⟩ := Option.bind_eq_some_iff.1 h
  exact (word? hw hword).trans (gap? hgap)

theorem skipWordGap {w : String} (hw : '\x60' ∉ w.toList) (text : List Char) :
    Passes text (skipWordGap w text) := by
  unfold Text.skipWordGap
  cases h : Text.wordGap? w text with
  | none => exact refl text
  | some rest => exact wordGap? hw h

theorem takeIdent? {name : List Char} (h : takeIdent? text = some (name, rest)) : Passes text rest :=
  ⟨name, (takeIdent?_append h).symm,
    not_mem_of_forall_class (fun _ hc => isIdentPart_of_mem (isIdent_of_takeIdent? h) hc) (by decide)⟩

theorem exportGap? (h : exportGap? text = some rest) : Passes text rest :=
  (skipSpaces text).trans (wordGap? (by decide) h)

/-- A declaration up to its name. -/
theorem declaration? {name : List Char} (h : declaration? text = some (name, rest)) : Passes text rest := by
  have hname : ∀ behind? : Option (List Char), (∀ behind, behind? = some behind → Passes text behind) →
      behind?.bind Text.takeIdent? = some (name, rest) → Passes text rest := by
    intro behind? hbehind hbind
    obtain ⟨behind, hb, hident⟩ := Option.bind_eq_some_iff.1 hbind
    exact (hbehind behind hb).trans (takeIdent? hident)
  simp only [Code.declaration?, Option.orElse_eq_orElse, Option.orElse_eq_or, Option.or_eq_some_iff] at h
  rcases h with h | ⟨-, h | ⟨-, h | ⟨-, h | ⟨-, h | ⟨-, h⟩⟩⟩⟩⟩
  · refine hname _ (fun behind hb => ?_) h
    obtain ⟨starred, hword, rfl⟩ := Option.map_eq_some_iff.1 hb
    exact (skipWordGap (by decide) text).trans ((word? (by decide) hword).trans
      ((trimStart starred).trans ((skipChar (by decide) _).trans (trimStart _))))
  · exact hname _ (fun _ hb => wordGap? (by decide) hb) h
  · exact hname _ (fun _ hb => (skipWordGap (by decide) text).trans (wordGap? (by decide) hb)) h
  · exact hname _ (fun _ hb => wordGap? (by decide) hb) h
  · exact hname _ (fun _ hb => wordGap? (by decide) hb) h
  · exact hname _ (fun _ hb => wordGap? (by decide) hb) h

theorem suffix (h : Passes text rest) : rest <:+ text := by
  obtain ⟨taken, rfl, -⟩ := h
  exact List.suffix_append taken rest

theorem count_eq (h : Passes text rest) : text.count '\x60' = rest.count '\x60' := by
  obtain ⟨taken, rfl, htaken⟩ := h
  rw [List.count_append, List.count_eq_zero_of_not_mem htaken, Nat.zero_add]

end Passes

/-! ### Counting backticks -/

/-- The reader puts no backtick in place of what it takes. -/
def AddsNone (reader : List Char → Option (Hit α)) : Prop :=
  ∀ line hit, reader line = some hit → hit.rest <:+ line ∧ '\x60' ∉ hit.replacement

/-- A sweep brings no backtick about. -/
theorem AddsNone.count_sweep_le (hr : AddsNone reader) (atStart : Bool) (text : List Char) :
    (sweep reader atStart text).2.count '\x60' ≤ text.count '\x60' := by
  induction atStart, text using sweep_induction reader with
  | nil atStart => rw [sweep]
  | keep atStart c rest he _ ih =>
    rw [he, List.count_cons, List.count_cons]
    omega
  | hit line hit hhit he _ ih =>
    obtain ⟨hrest, hnone⟩ := hr line hit hhit
    have hsuffix := hrest.count_le '\x60'
    rw [he, List.count_append, List.count_eq_zero_of_not_mem hnone]
    omega

/-- The reader takes no backtick and puts none in place of what it takes. -/
def Spares (reader : List Char → Option (Hit α)) : Prop :=
  ∀ line hit, reader line = some hit → Passes line hit.rest ∧ '\x60' ∉ hit.replacement

theorem Spares.addsNone (hr : Spares reader) : AddsNone reader := fun line hit hhit =>
  ⟨(hr line hit hhit).1.suffix, (hr line hit hhit).2⟩

/-- A sweep keeps the backticks that its reader spares. -/
theorem Spares.count_sweep (hr : Spares reader) (atStart : Bool) (text : List Char) :
    (sweep reader atStart text).2.count '\x60' = text.count '\x60' := by
  induction atStart, text using sweep_induction reader with
  | nil atStart => rw [sweep]
  | keep atStart c rest he _ ih => rw [he, List.count_cons, List.count_cons, ih]
  | hit line hit hhit he _ ih =>
    obtain ⟨hrest, hnone⟩ := hr line hit hhit
    rw [he, List.count_append, List.count_eq_zero_of_not_mem hnone, ih, hrest.count_eq, Nat.zero_add]

theorem not_mem_indent (line : List Char) : '\x60' ∉ line.takeWhile isSpaceOrTab :=
  not_mem_of_forall_class (fun _ hc => List.mem_takeWhile_imp hc) (by decide)

theorem spares_exportKeyword : Spares exportKeyword? := by
  intro line hit h
  obtain ⟨rest, hgap, h⟩ := Option.bind_eq_some_iff.1 h
  cases h
  exact ⟨.exportGap? hgap, not_mem_indent line⟩

theorem spares_exportedDeclaration : Spares exportedDeclaration? := by
  intro line hit h
  simp only [exportedDeclaration?, Option.bind_eq_bind, Option.bind_eq_some_iff] at h
  obtain ⟨declared, hgap, ⟨name, rest⟩, hdeclared, h⟩ := h
  have hpasses := Passes.declaration? hdeclared
  obtain ⟨taken, rfl, htaken⟩ := hpasses
  cases h
  refine ⟨(Passes.exportGap? hgap).trans ⟨taken, rfl, htaken⟩, ?_⟩
  rw [List.length_append, Nat.add_sub_cancel, List.take_left, List.mem_append, not_or]
  exact ⟨not_mem_indent line, htaken⟩

theorem spares_defaultKeyword : Spares defaultKeyword? := by
  intro line hit h
  simp only [defaultKeyword?, Option.bind_eq_bind, Option.bind_eq_some_iff] at h
  obtain ⟨behind, hgap, rest, hdefault, h⟩ := h
  cases h
  exact ⟨(Passes.exportGap? hgap).trans (.wordGap? (by decide) hdefault), List.not_mem_nil⟩

theorem addsNone_of_removes (hr : Removes reader) : AddsNone reader := by
  intro line hit h
  obtain ⟨rest, hrest, he⟩ := hr line hit h
  rw [he]
  exact ⟨(skipLineEnd_suffix rest).trans hrest, List.not_mem_nil⟩

/-! ### Sweeps keep literals -/

namespace TemplateLiteral

variable {t : TemplateLiteral}

def written (t : TemplateLiteral) : List Char :=
  '\x60' :: (t.inner ++ ['\x60'])

/-- Where the literal ends does not matter to the lines in it. -/
theorem atLines_written (t : TemplateLiteral) (atStart : Bool) (rest : List Char) :
    AtLines (opensExport · = false) atStart t.written rest := by
  refine ⟨fun _ => opensExport_cons (by decide) (by decide) _, ?_⟩
  refine .append (t.quiet.imp fun line hline => ?_) (atLines_mark (by decide) (by decide) _)
  rw [List.append_nil] at hline
  exact (opensExport_stop (by decide) (by decide) (by decide) line rest).trans hline

/-- A literal does not begin where there is no backtick. -/
theorem infix_of_infix_append (ha : '\x60' ∉ a) (h : t.written <:+: a ++ b) : t.written <:+: b := by
  rcases List.infix_append_iff.1 h with h | h | ⟨front, back, hsplit, hfront, hback⟩
  · exact absurd (h.mem List.mem_cons_self) ha
  · exact h
  · cases front with
    | nil =>
      rw [hsplit]
      exact hback.isInfix
    | cons c front =>
      obtain ⟨rfl, -⟩ := List.cons_eq_cons.1 hsplit
      exact absurd (hfront.mem List.mem_cons_self) ha

/-- A literal does not end where there is no backtick. -/
theorem infix_of_append_infix (hb : '\x60' ∉ b) (h : t.written <:+: a ++ b) : t.written <:+: a := by
  rcases List.infix_append_iff.1 h with h | h | ⟨front, back, hsplit, hfront, hback⟩
  · exact h
  · exact absurd (h.mem List.mem_cons_self) hb
  · rcases List.eq_nil_or_concat back with rfl | ⟨back, c, rfl⟩
    · rw [hsplit, List.append_nil]
      exact hfront.isInfix
    · have hlast : c = '\x60' := by
        have hl := congrArg List.getLast? hsplit
        rw [written, List.concat_eq_append, ← List.append_assoc, ← List.cons_append, List.getLast?_concat,
          List.getLast?_concat] at hl
        exact (Option.some.inj hl).symm
      exact absurd (hback.mem (by simp [hlast])) hb

/-- **A sweep keeps a literal** if it keeps the backticks. -/
theorem infix_sweep (hr : ReadsExports reader) (hn : AddsNone reader)
    (hc : (sweep reader atStart text).2.count '\x60' = text.count '\x60') (h : t.written <:+: text) :
    t.written <:+: (sweep reader atStart text).2 := by
  -- At the beginning of the text, nothing is recognised within the literal.
  have hfront : ∀ atStart text, t.written <+: text → t.written <:+: (sweep reader atStart text).2 := by
    rintro atStart _ ⟨back, rfl⟩
    rw [(hr.atLines (t.atLines_written atStart back)).sweep_append]
    exact (List.prefix_append _ _).isInfix
  induction atStart, text using sweep_induction reader with
  | nil atStart => exact hfront _ _ (List.infix_nil.1 h ▸ List.nil_prefix)
  | keep atStart c rest he _ ih =>
    rcases List.infix_cons_iff.1 h with h | h
    · exact hfront _ _ h
    · rw [he, List.count_cons, List.count_cons] at hc
      rw [he]
      exact (ih (by omega) h).trans (List.suffix_cons c _).isInfix
  | hit line hit hhit he _ ih =>
    obtain ⟨⟨taken, hline⟩, hnone⟩ := hn line hit hhit
    have hle := hn.count_sweep_le (startsLine line hit.rest) hit.rest
    have hcount := hc
    rw [he, ← hline, List.count_append, List.count_append, List.count_eq_zero_of_not_mem hnone, hline] at hcount
    have htaken : '\x60' ∉ taken := List.count_eq_zero.1 (by omega)
    rw [he]
    exact (ih (by omega) (infix_of_infix_append htaken (hline ▸ h))).trans (List.suffix_append _ _).isInfix

theorem infix_sweep_of_spares (hr : ReadsExports reader) (hs : Spares reader) (h : t.written <:+: text) :
    t.written <:+: (sweep reader atStart text).2 :=
  infix_sweep hr hs.addsNone (hs.count_sweep atStart text) h

/-- A search keeps a literal in front of what it finds or behind it. -/
theorem infix_firstHit? {hit : Hit α} (hr : ReadsExports reader)
    (hs : Spares reader) (h : t.written <:+: text)
    (hfound : firstHit? reader atStart text = some (a, hit)) :
    t.written <:+: a ∨ t.written <:+: hit.rest := by
  have hfront : ∀ atStart text a, t.written <+: text → firstHit? reader atStart text = some (a, hit) →
      t.written <:+: a := by
    rintro atStart _ a ⟨back, rfl⟩ hfound
    rw [(hr.atLines (t.atLines_written atStart back)).firstHit?_append] at hfound
    obtain ⟨⟨before, hit⟩, -, he⟩ := Option.map_eq_some_iff.1 hfound
    cases he
    exact (List.prefix_append _ _).isInfix
  induction text generalizing atStart a with
  | nil => exact .inl (hfront _ _ _ (List.infix_nil.1 h ▸ List.nil_prefix) hfound)
  | cons c text ih =>
    rcases List.infix_cons_iff.1 h with hbegins | hi
    · exact .inl (hfront _ _ _ hbegins hfound)
    · rw [firstHit?] at hfound
      split at hfound
      · next found hhit =>
        cases hfound
        split at hhit
        · obtain ⟨⟨taken, hline, htaken⟩, -⟩ := hs _ hit hhit
          exact .inr (infix_of_infix_append htaken (hline ▸ h))
        · cases hhit
      · obtain ⟨⟨before, hit⟩, hrest, he⟩ := Option.map_eq_some_iff.1 hfound
        cases he
        exact (ih hi hrest).imp_left fun hb => hb.trans (List.suffix_cons c before).isInfix

/-! ### Export syntax goes -/

/-- The export lists go, and the literal stays, if no backtick goes with them. -/
theorem infix_stripExportLists (hc : (stripExportLists text).1.count '\x60' = text.count '\x60')
    (h : t.written <:+: text) : t.written <:+: (stripExportLists text).1 := by
  have hstar := addsNone_of_removes removes_starReexport
  have hlist := addsNone_of_removes removes_listReexport
  have htype := addsNone_of_removes removes_typeList
  have hexport := addsNone_of_removes removes_exportList
  let starred := (sweep starReexport? true text).2
  let listed := (sweep listReexport? true starred).2
  let typed := (sweep typeList? true listed).2
  have hstarred : starred.count '\x60' ≤ text.count '\x60' := hstar.count_sweep_le true text
  have hlisted : listed.count '\x60' ≤ starred.count '\x60' := hlist.count_sweep_le true starred
  have htyped : typed.count '\x60' ≤ listed.count '\x60' := htype.count_sweep_le true listed
  have hlast : (sweep exportList? true typed).2.count '\x60' ≤ typed.count '\x60' :=
    hexport.count_sweep_le true typed
  have hall : (sweep exportList? true typed).2.count '\x60' = text.count '\x60' := hc
  -- What no sweep can add, no sweep has taken.
  have h1 : starred.count '\x60' = text.count '\x60' := by omega
  have h2 : listed.count '\x60' = starred.count '\x60' := by omega
  have h3 : typed.count '\x60' = listed.count '\x60' := by omega
  have h4 : (sweep exportList? true typed).2.count '\x60' = typed.count '\x60' := by omega
  exact infix_sweep readsExports_exportList hexport h4 (infix_sweep readsExports_typeList htype h3
    (infix_sweep readsExports_listReexport hlist h2 (infix_sweep readsExports_starReexport hstar h1 h)))

theorem infix_stripDefault {m : StrippedModule} (h : t.written <:+: m.code) (defaultLocal : String) :
    t.written <:+: (stripDefault defaultLocal m).code := by
  have hcut : ∀ before indent rest, cutDefault? m.code = some (before, indent, rest) →
      t.written <:+: before ∨ t.written <:+: rest := by
    intro before indent rest hcut
    rw [cutDefault?_eq] at hcut
    obtain ⟨⟨front, hit⟩, hfirst, he⟩ := Option.map_eq_some_iff.1 hcut
    cases he
    exact infix_firstHit? readsExports_defaultKeyword spares_defaultKeyword h hfirst
  unfold stripDefault
  split
  · exact h
  · next before indent rest hfound =>
    have hkept := hcut before indent rest hfound
    have hbehind : ∀ front, t.written <:+: rest → t.written <:+: front ++ rest := fun front hi =>
      hi.trans (List.suffix_append front rest).isInfix
    split
    · refine hkept.elim (fun hi => ?_) (hbehind _)
      exact hi.trans ((List.prefix_append _ _).trans (List.prefix_append _ _)).isInfix
    · refine hkept.elim (fun hi => ?_) (hbehind _)
      exact hi.trans (((List.prefix_append _ _).trans (List.prefix_append _ _)).trans
        (List.prefix_append _ _)).isInfix

/-- A literal does not end in a blank. -/
theorem infix_trimEnd (h : t.written <:+: text) : t.written <:+: trimEnd text := by
  obtain ⟨blanks, hblanks, he⟩ := exists_trimEnd_append text
  have hb : '\x60' ∉ blanks := not_mem_of_forall_class (allBlank_iff.1 hblanks) (by decide)
  exact infix_of_append_infix hb (he.symm ▸ h)

/-- **A literal is in the code without export syntax**, if no backtick goes with an export list. -/
theorem infix_stripExports (hc : (stripExportLists text).1.count '\x60' = text.count '\x60')
    (h : t.written <:+: text) (defaultLocal : String) :
    t.written <:+: (stripExports defaultLocal text).code := by
  have hdefault : ∀ carried : Option String, t.written <:+: (stripDefault defaultLocal
      { code := (stripExportLists text).1, defaultBinding := carried }).code := fun _ =>
    infix_stripDefault (infix_stripExportLists hc h) defaultLocal
  exact infix_sweep_of_spares readsExports_exportKeyword spares_exportKeyword
    (infix_sweep_of_spares readsExports_exportedDeclaration spares_exportedDeclaration (hdefault _))

end TemplateLiteral

end LivePreview.Code
