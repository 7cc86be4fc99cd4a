import LivePreview.Proofs.Import.WrittenForm
/-!
# LivePreview.Proofs.Import.WrittenShape

**A written statement is read as what it says.** Each shape that is tried before the right one fails
on the normal form at a character that decides it: a quote, an asterisk, a brace, the comma behind a
name, or the character behind a name that begins with `type`. The right one gives the record back.
-/

namespace LivePreview

open Text

namespace ImportStatement

/-! ### The end of a statement -/

variable {layout : Layout} {module : String}

theorem module?_quoted (h : IsModule module) (layout : Layout) :
    module? (layout.quoted module) = some module := by
  have hquote := layout.isQuote_quote
  have hall : ∀ c ∈ module.toList, (!((c == '"') || c == '\'')) = true := by
    intro c hc
    have hp := h.plain c hc
    simp [hp.1, hp.2.1]
  have hne : module.toList ≠ [] := fun he => h.nonempty (String.toList_eq_nil_iff.1 he)
  have htake : [layout.quote].takeWhile (fun c => !((c == '"') || c == '\'')) = [] :=
    List.takeWhile_cons_of_neg (by simp only [hquote]; decide)
  have hdrop : [layout.quote].dropWhile (fun c => !((c == '"') || c == '\'')) = [layout.quote] :=
    List.dropWhile_cons_of_neg (by simp only [hquote]; decide)
  rw [Layout.quoted, module?]
  simp only [List.takeWhile_append_of_pos hall, List.dropWhile_append_of_pos hall, htake, hdrop]
  simp [hquote, hne]

/-- A module name begins with a quote. -/
theorem module?_eq_none {text : List Char} (h : ∀ c ∈ text.head?, c ≠ '"' ∧ c ≠ '\'') :
    module? text = none := by
  cases text with
  | nil => rfl
  | cons c text =>
    have hc : ((c == '"') || c == '\'') = false := by
      simp [h c rfl]
    rw [module?]
    split
    · simp [hc]
    · rfl

theorem fromModule?_quoted (h : IsModule module) (layout : Layout) :
    fromModule? ("from ".toList ++ layout.quoted module) = some module := by
  have hfrom : "from ".toList ++ layout.quoted module =
      "from".toList ++ ' ' :: layout.quoted module := by
    have hsplit : "from ".toList = "from".toList ++ [' '] := by decide
    rw [hsplit, List.append_assoc, List.singleton_append]
  have hsolid : StartsSolid (layout.quoted module) := by
    have hs := layout.startsSolid_quoted module []
    rwa [List.append_nil] at hs
  rw [fromModule?, hfrom, word?_append]
  show module? (trimStart (' ' :: layout.quoted module)) = some module
  rw [hsolid.trimStart_space, module?_quoted h]

/-! ### The items of a list -/

theorem stripWhile_eq_self {p : Char → Bool} {text : List Char} (h : ∀ c ∈ text, p c = false) :
    stripWhile p text = text := by
  have hdrop : ∀ {x : List Char}, (∀ c ∈ x, p c = false) → x.dropWhile p = x := by
    intro x hx
    cases x with
    | nil => rfl
    | cons c x =>
      have hc := hx c List.mem_cons_self
      exact List.dropWhile_cons_of_neg (by simp [hc])
  have hr : ∀ c ∈ text.reverse, p c = false := fun c hc => h c (List.mem_reverse.1 hc)
  rw [stripWhile, dropEndWhile, hdrop h, hdrop hr, List.reverse_reverse]

/-- No name has quotes around it. -/
theorem stripWhile_name {name : String} (h : IsName name) :
    stripWhile (fun c => c == '"' || c == '\'') name.toList = name.toList := by
  refine stripWhile_eq_self fun c hc => ?_
  have hp := isIdentPart_of_mem h.isIdent hc
  cases hq : (c == '"' || c == '\'') with
  | false => rfl
  | true =>
    rw [Bool.or_eq_true, beq_iff_eq, beq_iff_eq] at hq
    rcases hq with rfl | rfl
    · exact absurd hp (by decide)
    · exact absurd hp (by decide)

section Item

variable {it : NamedImport} (he : IsName it.exported) (hl : IsName it.localName)

include he hl

theorem item_written : item it.written = it := by
  have hlocal : Unbroken it.localName.toList := unbroken_of_isIdent hl.isIdent
  have hlast : words it.localName.toList = [it.localName.toList] :=
    words_of_unbroken hlocal (ne_nil_of_isIdent hl.isIdent)
  rcases written_cases it with ⟨heq, hw⟩ | ⟨-, hw⟩
  · rw [hw, item, hlast]
    show NamedImport.mk (String.ofList (stripWhile _ it.localName.toList))
      (String.ofList it.localName.toList) = it
    rw [stripWhile_name hl, String.ofList_toList, ← heq]
    exact congrArg (NamedImport.mk it.exported) heq
  · have has : "as ".toList ++ it.localName.toList = ['a', 's'] ++ ' ' :: it.localName.toList := by
      have hsplit : "as ".toList = ['a', 's'] ++ [' '] := by decide
      rw [hsplit, List.append_assoc, List.singleton_append]
    have hwords : words it.written = [it.exported.toList, ['a', 's'], it.localName.toList] := by
      rw [hw, words_append_space (unbroken_of_isIdent he.isIdent) (ne_nil_of_isIdent he.isIdent), has,
        words_append_space (by decide) (List.cons_ne_nil _ _), hlast]
    rw [item, hwords]
    show NamedImport.mk (String.ofList (stripWhile _ it.exported.toList))
      (String.ofList it.localName.toList) = it
    rw [stripWhile_name he, String.ofList_toList, String.ofList_toList]

/-- In an item there are names and spaces. -/
theorem mem_written {c : Char} (hc : c ∈ it.written) : isIdentPart c = true ∨ c = ' ' := by
  have hlocal : c ∈ it.localName.toList → isIdentPart c = true := isIdentPart_of_mem hl.isIdent
  rcases written_cases it with ⟨-, hw⟩ | ⟨-, hw⟩
  · rw [hw] at hc
    exact .inl (hlocal hc)
  · have has : "as ".toList = ['a', 's', ' '] := by decide
    rw [hw, has] at hc
    rcases List.mem_append.1 hc with hc | hc
    · exact .inl (isIdentPart_of_mem he.isIdent hc)
    · simp only [List.mem_cons, List.cons_append, List.nil_append] at hc
      rcases hc with rfl | rfl | rfl | rfl | hc
      · exact .inr rfl
      · exact .inl (by decide)
      · exact .inl (by decide)
      · exact .inr rfl
      · exact .inl (hlocal hc)

/-- An item has no blank around it. -/
theorem trim_written : trim it.written = it.written := by
  have hstart := startsSolid_written he hl []
  rw [List.append_nil] at hstart
  refine trim_eq_self hstart fun c hc => ?_
  have hlast : ∀ front, (front ++ it.localName.toList).getLast? = it.localName.toList.getLast? :=
    fun front => List.getLast?_append_of_ne_nil front (ne_nil_of_isIdent hl.isIdent)
  have hc' : c ∈ it.localName.toList.getLast? := by
    rcases written_cases it with ⟨-, hw⟩ | ⟨-, hw⟩
    · rwa [hw] at hc
    · have hfront : it.written =
          (it.exported.toList ++ ' ' :: "as ".toList) ++ it.localName.toList := by
        rw [hw, List.append_assoc, List.cons_append]
      rwa [hfront, hlast] at hc
  exact isBlank_of_isIdentPart (isIdentPart_of_mem hl.isIdent (List.mem_of_mem_getLast? hc'))

/-- No item is marked as a type: the name in front would have to be `type`. -/
theorem startsWith_type_written : startsWith "type ".toList it.written = false := by
  rw [startsWith, Option.isSome_eq_false_iff, Option.isNone_iff_eq_none,
    Option.eq_none_iff_forall_ne_some]
  intro rest hrest
  rw [dropLead?_eq_some_iff] at hrest
  have htype : "type ".toList ++ rest = "type".toList ++ ' ' :: rest := by
    have hsplit : "type ".toList = "type".toList ++ [' '] := by decide
    rw [hsplit, List.append_assoc, List.singleton_append]
  have hword : ∀ c ∈ "type".toList, isIdentPart c = true := List.all_eq_true.1 (by decide)
  have hgap : ∀ {x : List Char}, ∀ c ∈ (' ' :: x).head?, isIdentPart c = false :=
    forall_head_cons (by decide) _
  have hname : ∀ {name : String} {x : List Char}, IsName name → (∀ c ∈ x.head?, isIdentPart c = false) →
      name.toList ++ x ≠ "type".toList ++ ' ' :: rest := by
    intro name x hn hx h
    have heq := (eq_of_append_eq h (fun c hc => isIdentPart_of_mem hn.isIdent hc) hword hx hgap).1
    exact hn.ne_type (String.toList_inj.1 heq)
  rw [htype] at hrest
  rcases written_cases it with ⟨-, hw⟩ | ⟨-, hw⟩
  · have hnil : ∀ c ∈ ([] : List Char).head?, isIdentPart c = false := fun c hc => by simp at hc
    rw [hw, ← List.append_nil it.localName.toList] at hrest
    exact hname hl hnil hrest
  · rw [hw] at hrest
    exact hname he hgap hrest

/-- A part with an item in it gives that item, if its identifier is a new one. -/
theorem items_go_written {part : List Char} {seen : List String} (hp : trim part = it.written)
    (hs : it.localName ∉ seen) (rest : List (List Char)) :
    items.go seen (part :: rest) = it :: items.go (it.localName :: seen) rest := by
  have hne : it.written.isEmpty = false := by
    have hs := startsSolid_written he hl []
    cases hw : it.written with
    | cons c text => rfl
    | nil =>
      rcases written_cases it with ⟨-, hc⟩ | ⟨-, hc⟩
      · exact absurd (hc.symm.trans hw) (ne_nil_of_isIdent hl.isIdent)
      · exact absurd (hc.symm.trans hw) (List.append_ne_nil_of_right_ne_nil _ (List.cons_ne_nil _ _))
  have hskip : ¬ (it.written.isEmpty || startsWith "type ".toList it.written) = true := by
    rw [hne, startsWith_type_written he hl]
    decide
  have hnew : (isIdent it.localName.toList && !seen.contains it.localName) = true := by
    rw [hl.isIdent, Bool.true_and, Bool.not_eq_true', List.contains_eq_mem]
    exact decide_eq_false hs
  rw [items.go]
  simp only [hp]
  rw [if_neg hskip, item_written he hl, if_pos hnew]

end Item

/-- A part with nothing in it is passed over. -/
theorem items_go_blank {part : List Char} (h : trim part = []) (seen : List String)
    (rest : List (List Char)) : items.go seen (part :: rest) = items.go seen rest := by
  rw [items.go]
  simp only [h]
  rfl

/-- The parts of a written list give its items. -/
theorem items_go_writtenItems {trailing : Bool} {list : List NamedImport} {seen : List String}
    (hn : ∀ it ∈ list, IsName it.exported ∧ IsName it.localName)
    (hd : (list.map (·.localName)).Nodup) (hs : ∀ it ∈ list, it.localName ∉ seen) :
    items.go seen (splitAtChar ',' (writtenItems [' '] trailing list ++ [' '])) = list := by
  have hspace : ∀ x : List Char, trim (' ' :: x) = trim x := fun x => trim_append_left (a := [' '])
    (by decide) x
  have hcomma : ∀ it ∈ list, ',' ∉ ' ' :: it.written := by
    intro it hi hm
    rcases mem_written (hn it hi).1 (hn it hi).2 (List.mem_of_ne_of_mem (by decide) hm) with hc | hc
    · exact absurd hc (by decide)
    · exact absurd hc (by decide)
  induction list generalizing seen with
  | nil =>
    show items.go seen [[' ']] = []
    rw [items_go_blank (by decide)]
    rfl
  | cons it rest ih =>
    obtain ⟨he, hl⟩ := hn it List.mem_cons_self
    have hnew := hs it List.mem_cons_self
    have hmark := hcomma it List.mem_cons_self
    have htrim : trim (' ' :: it.written) = it.written := by
      rw [hspace, trim_written he hl]
    cases rest with
    | nil =>
      cases trailing with
      | false =>
        have hpart : writtenItems [' '] false [it] ++ [' '] = (' ' :: it.written) ++ [' '] := by
          simp [writtenItems]
        have hend : trim ((' ' :: it.written) ++ [' ']) = it.written := by
          rw [trim_append_right _ (by decide), htrim]
        have hone : ',' ∉ (' ' :: it.written) ++ [' '] := by
          rw [List.mem_append, not_or]
          exact ⟨hmark, by decide⟩
        rw [hpart, splitAtChar_of_not_mem hone, items_go_written he hl hend hnew]
        rfl
      | true =>
        -- Behind the last comma there is a part with nothing in it.
        have hpart : writtenItems [' '] true [it] ++ [' '] = (' ' :: it.written) ++ ',' :: [' '] := by
          simp [writtenItems]
        have hlast : splitAtChar ',' [' '] = [[' ']] := by decide
        rw [hpart, splitAtChar_append hmark, items_go_written he hl htrim hnew, hlast,
          items_go_blank (by decide)]
        rfl
    | cons next rest =>
      have hpart : writtenItems [' '] trailing (it :: next :: rest) ++ [' '] =
          (' ' :: it.written) ++ ',' :: (writtenItems [' '] trailing (next :: rest) ++ [' ']) := by
        simp [writtenItems]
      rw [List.map_cons, List.nodup_cons] at hd
      have hrest : ∀ other ∈ next :: rest, other.localName ∉ it.localName :: seen := by
        intro other ho hm
        rcases List.mem_cons.1 hm with hm | hm
        · exact hd.1 (hm ▸ List.mem_map_of_mem ho)
        · exact hs other (List.mem_cons_of_mem it ho) hm
      rw [hpart, splitAtChar_append hmark, items_go_written he hl htrim hnew,
        ih (fun other ho => hn other (List.mem_cons_of_mem it ho)) hd.2 hrest
          (fun other ho => hcomma other (List.mem_cons_of_mem it ho))]

theorem items_writtenItems {trailing : Bool} {list : List NamedImport}
    (hn : ∀ it ∈ list, IsName it.exported ∧ IsName it.localName)
    (hd : (list.map (·.localName)).Nodup) : items (writtenItems [' '] trailing list ++ [' ']) = list :=
  items_go_writtenItems hn hd fun _ _ hm => absurd hm List.not_mem_nil

/-- The braces of a written list. -/
theorem braced?_writtenItems {trailing : Bool} {list : List NamedImport} {rest : List Char}
    (hn : ∀ it ∈ list, IsName it.exported ∧ IsName it.localName) :
    braced? ('\x7b' :: (writtenItems [' '] trailing list ++ (" \x7d from ".toList ++ rest))) =
      some (writtenItems [' '] trailing list ++ [' '], "from ".toList ++ rest) := by
  have hclose : '\x7d' ∉ writtenItems [' '] trailing list ++ [' '] := by
    intro hm
    rcases List.mem_append.1 hm with hm | hm
    · rcases mem_writtenItems hm with hc | hc | ⟨it, hi, hc⟩
      · exact absurd hc (by decide)
      · exact absurd hc (by decide)
      · rcases mem_written (hn it hi).1 (hn it hi).2 hc with hc | hc
        · exact absurd hc (by decide)
        · exact absurd hc (by decide)
    · exact absurd hm (by decide)
  have htext : writtenItems [' '] trailing list ++ (" \x7d from ".toList ++ rest) =
      (writtenItems [' '] trailing list ++ [' ']) ++ '\x7d' :: (' ' :: ("from ".toList ++ rest)) := by
    have hsplit : " \x7d from ".toList = [' ', '\x7d', ' '] ++ "from ".toList := by decide
    rw [hsplit]
    simp only [List.append_assoc, List.cons_append, List.nil_append]
  have hsolid : StartsSolid ("from ".toList ++ rest) :=
    StartsSolid.of_front (by decide) (by decide) rest
  rw [braced?, htext, between?_append hclose, Option.map_some]
  show some (writtenItems [' '] trailing list ++ [' '], trimStart (' ' :: ("from ".toList ++ rest))) = _
  rw [hsolid.trimStart_space]

/-! ### What stands behind `import` -/

/-- How the part of a statement behind its marks may begin: with an asterisk, with a brace, or with a
name. -/
inductive Opening : List Char → Prop
  | asterisk (rest : List Char) : Opening ('*' :: rest)
  | brace (rest : List Char) : Opening ('\x7b' :: rest)
  | name {name : String} (h : IsName name) {rest : List Char}
      (hr : ∀ c ∈ rest.head?, isIdentPart c = false) : Opening (name.toList ++ rest)

namespace Opening

variable {text rest : List Char}

/-- A name with a character behind it that cannot stand in a name. -/
theorem name_append {name : String} (hn : IsName name) {c : Char} (hc : isIdentPart c = false)
    (rest : List Char) : Opening (name.toList ++ c :: rest) :=
  .name hn (forall_head_cons hc rest)

theorem cases_head (h : Opening text) :
    ∀ c ∈ text.head?, c = '*' ∨ c = '\x7b' ∨ isIdentStart c = true := by
  intro c hc
  cases h with
  | asterisk => exact .inl (Option.some.inj hc).symm
  | brace => exact .inr (.inl (Option.some.inj hc).symm)
  | name h hr => exact .inr (.inr (head_of_isIdent h.isIdent c hc))

theorem startsSolid (h : Opening text) : StartsSolid text := by
  intro c hc
  rcases h.cases_head c hc with rfl | rfl | hi
  · decide
  · decide
  · exact isBlank_of_isIdentPart (isIdentPart_of_isIdentStart hi)

theorem ne_quote (h : Opening text) {c : Char} (hc : c ∈ text.head?) : c ≠ '"' ∧ c ≠ '\'' := by
  rcases h.cases_head c hc with rfl | rfl | hi
  · decide
  · decide
  · refine ⟨?_, ?_⟩
    · rintro rfl
      exact absurd hi (by decide)
    · rintro rfl
      exact absurd hi (by decide)

/-- The word `type` in front is only the beginning of a name, so the next character belongs to it. -/
theorem head_of_type (h : Opening text) (hw : word? "type" text = some rest) :
    ∃ c ∈ rest.head?, isIdentPart c = true := by
  rw [word?_eq_some_iff] at hw
  have hword : ∀ c ∈ "type".toList, isIdentPart c = true := List.all_eq_true.1 (by decide)
  have hstart : "type".toList = 't' :: "ype".toList := by decide
  cases h with
  | asterisk =>
    rw [hstart] at hw
    exact absurd (List.cons.inj hw).1 (by decide)
  | brace =>
    rw [hstart] at hw
    exact absurd (List.cons.inj hw).1 (by decide)
  | name h hr =>
    by_contra hnone
    refine h.ne_type (String.toList_inj.1 ?_)
    refine (eq_of_append_eq hw (fun c hc => isIdentPart_of_mem h.isIdent hc) hword hr ?_).1
    intro c hc
    cases hp : isIdentPart c with
    | false => rfl
    | true => exact absurd ⟨c, hc, hp⟩ hnone

end Opening

/-- A statement whose marks are those of the record. -/
def behind (r : ImportRecord) (text : List Char) : List Char :=
  "import".toList ++ ' ' :: (r.typeMark ++ text)

theorem behind_eq (r : ImportRecord) (text : List Char) :
    behind r text = "import".toList ++ ' ' :: (r.typeMark ++ text) := by
  unfold behind
  rfl

theorem word?_behind (r : ImportRecord) (text : List Char) :
    word? "import" (behind r text) = some (' ' :: (r.typeMark ++ text)) := by
  rw [behind_eq, word?_append]

/-- The text behind the marker of a named list. -/
def behindMarker? (marked : Bool) (text : List Char) : Option (List Char) :=
  if marked then (word? "type" text).map trimStart else some text

section Shapes

variable {r : ImportRecord} {text : List Char} (ho : Opening text) (span : SourceSpan)

theorem typeMark_eq (h : r.typeOnly = true) : r.typeMark = "type".toList ++ [' '] := by
  have hsplit : "type ".toList = "type".toList ++ [' '] := by decide
  rw [ImportRecord.typeMark, if_pos h, hsplit]

theorem typeMark_nil (h : r.typeOnly = false) : r.typeMark = [] :=
  if_neg (by rw [h]; decide)

theorem head_typeMark_append {c : Char} (hc : c ∈ (r.typeMark ++ text).head?) :
    c = 't' ∨ c ∈ text.head? := by
  cases ht : r.typeOnly with
  | true =>
    have hstart : "type".toList = 't' :: "ype".toList := by decide
    rw [typeMark_eq ht, hstart] at hc
    exact .inl (Option.some.inj hc).symm
  | false =>
    rw [typeMark_nil ht, List.nil_append] at hc
    exact .inr hc

include ho

theorem startsSolid_typeMark : StartsSolid (r.typeMark ++ text) := by
  intro c hc
  rcases head_typeMark_append hc with rfl | hc
  · decide
  · exact ho.startsSolid c hc

theorem lead?_plain : lead? false (behind r text) = some (r.typeMark ++ text) := by
  rw [lead?, word?_behind]
  show (gap? (' ' :: (r.typeMark ++ text))).bind some = some (r.typeMark ++ text)
  rw [(startsSolid_typeMark ho).gap?_space, Option.bind_some]

/-- With the marker the text behind both words is left. -/
theorem lead?_marked (h : r.typeOnly = true) : lead? true (behind r text) = some text := by
  rw [lead?, word?_behind]
  show (gap? (' ' :: (r.typeMark ++ text))).bind (fun rest => (word? "type" rest).bind gap?) = some text
  rw [(startsSolid_typeMark ho).gap?_space, Option.bind_some, typeMark_eq h, List.append_assoc,
    word?_append, Option.bind_some]
  exact ho.startsSolid.gap?_space

/-- A name that begins with `type` is not taken for the marker. -/
theorem lead?_unmarked (h : r.typeOnly = false) : lead? true (behind r text) = none := by
  rw [lead?, word?_behind]
  show (gap? (' ' :: (r.typeMark ++ text))).bind (fun rest => (word? "type" rest).bind gap?) = none
  rw [(startsSolid_typeMark ho).gap?_space, Option.bind_some, typeMark_nil h, List.nil_append,
    Option.bind_eq_none_iff]
  intro rest hw
  rw [Option.eq_none_iff_forall_ne_some]
  intro after hg
  obtain ⟨c, hc, hp⟩ := ho.head_of_type hw
  obtain ⟨d, hd, hb⟩ := head_of_gap? hg
  have heq : c = d := Option.some.inj (hc.symm.trans hd)
  rw [← heq, isBlank_of_isIdentPart hp] at hb
  exact absurd hb (by decide)

theorem lead?_own : lead? r.typeOnly (behind r text) = some text := by
  cases ht : r.typeOnly with
  | true => exact lead?_marked ho ht
  | false =>
    have hp := lead?_plain (r := r) ho
    rwa [typeMark_nil ht] at hp

/-- What is left behind `import`, with either marker: nothing, the text, or the text behind a `type` that
was not taken for the marker. -/
theorem lead?_cases (marked : Bool) :
    lead? marked (behind r text) = none ∨ lead? marked (behind r text) = some text ∨
      lead? marked (behind r text) = some ("type".toList ++ ' ' :: text) := by
  cases marked with
  | false =>
    rw [lead?_plain ho]
    cases ht : r.typeOnly with
    | true =>
      rw [typeMark_eq ht, List.append_assoc, List.singleton_append]
      exact .inr (.inr rfl)
    | false =>
      rw [typeMark_nil ht, List.nil_append]
      exact .inr (.inl rfl)
  | true =>
    cases ht : r.typeOnly with
    | true => exact .inr (.inl (lead?_marked ho ht))
    | false => exact .inl (lead?_unmarked ho ht)

/-! ### The shapes that fail -/

theorem sideEffect?_eq_none : sideEffect? span (behind r text) = none := by
  have hnone : module? (r.typeMark ++ text) = none := by
    refine module?_eq_none fun c hc => ?_
    rcases head_typeMark_append hc with rfl | hc
    · decide
    · exact ho.ne_quote hc
  rw [sideEffect?, word?_behind]
  show (module? (trimStart (' ' :: (r.typeMark ++ text)))).bind _ = none
  rw [(startsSolid_typeMark ho).trimStart_space, hnone, Option.bind_none]

theorem allExports?_eq_none (h : ∀ c ∈ text.head?, c ≠ '*') (marked : Bool) :
    allExports? span marked (behind r text) = none := by
  have hfail : ∀ {rest : List Char}, (∀ c ∈ rest.head?, c ≠ '*') →
      lead? marked (behind r text) = some rest → allExports? span marked (behind r text) = none := by
    intro rest hr hl
    have hword : word? "*" rest = none := word?_eq_none (by decide) hr
    rw [allExports?, hl]
    show (word? "*" rest).bind _ = none
    rw [hword, Option.bind_none]
  rcases lead?_cases (r := r) ho marked with hl | hl | hl
  · rw [allExports?, hl]
    rfl
  · exact hfail h hl
  · have hstart : "type".toList = 't' :: "ype".toList := by decide
    rw [hstart] at hl
    exact hfail (forall_head_cons (by decide) _) hl

theorem allExports?_unmarked (h : r.typeOnly = false) :
    allExports? span true (behind r text) = none := by
  rw [allExports?, lead?_unmarked ho h]
  rfl

theorem named?_eq (marked : Bool) :
    named? span marked (behind r text) =
      (behindMarker? marked (r.typeMark ++ text)).bind fun rest => (braced? rest).bind fun list =>
        (fromModule? list.2).bind fun module =>
          some { kind := .named, module, span, named := items list.1, typeOnly := marked } := by
  have htrim : trimStart (' ' :: (r.typeMark ++ text)) = r.typeMark ++ text :=
    (startsSolid_typeMark ho).trimStart_space
  cases marked with
  | false =>
    simp only [named?, word?_behind, Option.bind_eq_bind, Option.bind_some, htrim,
      behindMarker?, Bool.false_eq_true, if_false, Option.pure_def]
  | true =>
    simp only [named?, word?_behind, Option.bind_eq_bind, Option.bind_some, htrim,
      behindMarker?, if_true, Option.pure_def]

/-- Without a brace there is no list. -/
theorem named?_eq_none_of {marked : Bool}
    (h : ∀ rest, behindMarker? marked (r.typeMark ++ text) = some rest → ∀ c ∈ rest.head?, c ≠ '\x7b') :
    named? span marked (behind r text) = none := by
  rw [named?_eq ho, Option.bind_eq_none_iff]
  intro rest hr
  rw [braced?, between?_eq_none (h rest hr)]
  rfl

theorem named?_unmarked (h : r.typeOnly = false) : named? span true (behind r text) = none := by
  refine named?_eq_none_of ho span fun rest hr => ?_
  rw [behindMarker?, if_pos rfl, typeMark_nil h, List.nil_append, Option.map_eq_some_iff] at hr
  obtain ⟨after, hw, rfl⟩ := hr
  obtain ⟨c, hc, hp⟩ := ho.head_of_type hw
  have hsolid : StartsSolid after := by
    intro d hd
    rw [← Option.some.inj (hc.symm.trans hd)]
    exact isBlank_of_isIdentPart hp
  rw [hsolid.trimStart_eq]
  intro d hd
  rw [← Option.some.inj (hc.symm.trans hd)]
  rintro rfl
  exact absurd hp (by decide)

theorem named?_eq_none (h : ∀ c ∈ text.head?, c ≠ '\x7b') (marked : Bool) :
    named? span marked (behind r text) = none := by
  have hhead : ∀ c ∈ (r.typeMark ++ text).head?, c ≠ '\x7b' := by
    intro c hc
    rcases head_typeMark_append hc with rfl | hc
    · decide
    · exact h c hc
  cases marked with
  | false =>
    refine named?_eq_none_of ho span fun rest hr => ?_
    rw [← Option.some.inj hr]
    exact hhead
  | true =>
    cases ht : r.typeOnly with
    | false => exact named?_unmarked ho span ht
    | true =>
      refine named?_eq_none_of ho span fun rest hr => ?_
      rw [behindMarker?, if_pos rfl, typeMark_eq ht, List.append_assoc, word?_append, Option.map_some,
        List.singleton_append, ho.startsSolid.trimStart_space] at hr
      rw [← Option.some.inj hr]
      exact h

theorem defaultNamed?_unmarked (h : r.typeOnly = false) :
    defaultNamed? span true (behind r text) = none := by
  rw [defaultNamed?, lead?_unmarked ho h]
  rfl

theorem default?_unmarked (h : r.typeOnly = false) : default? span true (behind r text) = none := by
  rw [default?, lead?_unmarked ho h]
  rfl

end Shapes

/-- Behind the name of a default export there is no comma. -/
theorem defaultNamed?_eq_none {r : ImportRecord} {name : String} (hn : IsName name) {rest : List Char}
    (hs : StartsSolid rest) (hc : ∀ c ∈ rest.head?, c ≠ ',') (span : SourceSpan) (marked : Bool) :
    defaultNamed? span marked (behind r (name.toList ++ ' ' :: rest)) = none := by
  have hgap : ∀ {x : List Char}, ∀ c ∈ (' ' :: x).head?, isIdentPart c = false :=
    forall_head_cons (by decide) _
  have ho : Opening (name.toList ++ ' ' :: rest) := .name hn hgap
  -- Whatever name is taken, a space and a text with no comma in front are behind it.
  have hfail : ∀ {front x : List Char}, isIdent front = true → StartsSolid x →
      (∀ c ∈ x.head?, c ≠ ',') → lead? marked (behind r (name.toList ++ ' ' :: rest)) =
        some (front ++ ' ' :: x) →
      defaultNamed? span marked (behind r (name.toList ++ ' ' :: rest)) = none := by
    intro front x hf hx hcomma hl
    have hword : word? "," x = none := word?_eq_none (by decide) hcomma
    rw [defaultNamed?, hl]
    show (takeIdent? (front ++ ' ' :: x)).bind _ = none
    rw [takeIdent?_of_isIdent hf hgap, Option.bind_some]
    show (word? "," (trimStart (' ' :: x))).bind _ = none
    rw [hx.trimStart_space, hword, Option.bind_none]
  rcases lead?_cases (r := r) ho marked with hl | hl | hl
  · rw [defaultNamed?, hl]
    rfl
  · exact hfail hn.isIdent hs hc hl
  · refine hfail (by decide) ho.startsSolid (fun c hc => ?_) hl
    have hstart := head_of_isIdent hn.isIdent c hc
    rintro rfl
    exact absurd hstart (by decide)

/-! ### The shapes that fit -/

section Fits

variable {r : ImportRecord} {layout : Layout} {name module : String} {list : List NamedImport}
  {trailing : Bool} (span : SourceSpan)

theorem startsSolid_from (layout : Layout) (module : String) :
    StartsSolid ("from ".toList ++ layout.quoted module) :=
  StartsSolid.of_front (by decide) (by decide) _

theorem takeIdent?_name (hn : IsName name) {c : Char} (hc : isIdentPart c = false)
    (rest : List Char) : takeIdent? (name.toList ++ c :: rest) = some (name.toList, c :: rest) :=
  takeIdent?_of_isIdent hn.isIdent (forall_head_cons hc rest)

variable (hm : IsModule module)

include hm

theorem sideEffect?_written :
    sideEffect? span ("import".toList ++ ' ' :: layout.quoted module) =
      some { kind := .sideEffect, module, span } := by
  have hsolid : StartsSolid (layout.quoted module) := by
    have hs := layout.startsSolid_quoted module []
    rwa [List.append_nil] at hs
  rw [sideEffect?, word?_append]
  show (module? (trimStart (' ' :: layout.quoted module))).bind _ = _
  rw [hsolid.trimStart_space, module?_quoted hm, Option.bind_some]
  rfl

theorem allExports?_written (hn : IsName name) :
    allExports? span r.typeOnly (behind r ('*' :: ' ' :: ("as".toList ++ ' ' :: (name.toList ++
        ' ' :: ("from ".toList ++ layout.quoted module))))) =
      some { kind := .allExports, module, span, namespaceName := some name,
             typeOnly := r.typeOnly } := by
  have hfrom := startsSolid_from layout module
  have hname : StartsSolid (name.toList ++ ' ' :: ("from ".toList ++ layout.quoted module)) :=
    startsSolid_of_isIdent hn.isIdent _
  have has : ∀ x, StartsSolid ("as".toList ++ x) := StartsSolid.of_front (by decide) (by decide)
  have hstar : ∀ x, word? "*" ('*' :: x) = some x := word?_append "*"
  have hspace : isIdentPart ' ' = false := by decide
  simp only [allExports?, lead?_own (.asterisk _), Option.bind_eq_bind, Option.bind_some, hstar,
    (has _).trimStart_space, word?_append, hname.gap?_space, takeIdent?_name hn hspace,
    hfrom.gap?_space, fromModule?_quoted hm, Option.pure_def, String.ofList_toList]

theorem default?_written (hn : IsName name) :
    default? span r.typeOnly (behind r (name.toList ++
        ' ' :: ("from ".toList ++ layout.quoted module))) =
      some { kind := .default, module, span, defaultName := some name, typeOnly := r.typeOnly } := by
  have hfrom := startsSolid_from layout module
  have hspace : isIdentPart ' ' = false := by decide
  simp only [default?, lead?_own (.name_append hn hspace _), Option.bind_eq_bind, Option.bind_some,
    takeIdent?_name hn hspace, hfrom.gap?_space, fromModule?_quoted hm, Option.pure_def,
    String.ofList_toList]

variable (hl : ∀ it ∈ list, IsName it.exported ∧ IsName it.localName)

include hl

theorem named?_written (hd : (list.map (·.localName)).Nodup) :
    named? span r.typeOnly (behind r ('\x7b' :: (writtenItems [' '] trailing list ++
        (" \x7d from ".toList ++ layout.quoted module)))) =
      some { kind := .named, module, span, named := list, typeOnly := r.typeOnly } := by
  have ho := Opening.brace (writtenItems [' '] trailing list ++
    (" \x7d from ".toList ++ layout.quoted module))
  have hmark : behindMarker? r.typeOnly (r.typeMark ++ '\x7b' :: (writtenItems [' '] trailing list ++
      (" \x7d from ".toList ++ layout.quoted module))) =
        some ('\x7b' :: (writtenItems [' '] trailing list ++
          (" \x7d from ".toList ++ layout.quoted module))) := by
    cases ht : r.typeOnly with
    | false =>
      rw [typeMark_nil ht]
      rfl
    | true =>
      rw [behindMarker?, if_pos rfl, typeMark_eq ht, List.append_assoc, word?_append, Option.map_some,
        List.singleton_append, ho.startsSolid.trimStart_space]
  simp only [named?_eq ho, hmark, Option.bind_some, braced?_writtenItems hl, fromModule?_quoted hm,
    items_writtenItems hl hd]

theorem defaultNamed?_written (hn : IsName name) (hd : (name :: list.map (·.localName)).Nodup) :
    defaultNamed? span r.typeOnly (behind r (name.toList ++ ',' :: ' ' :: '\x7b' ::
        (writtenItems [' '] trailing list ++ (" \x7d from ".toList ++ layout.quoted module)))) =
      some { kind := .defaultNamed, module, span, defaultName := some name, named := list,
             typeOnly := r.typeOnly } := by
  rw [List.nodup_cons] at hd
  -- No item binds the default's name, so none is left out.
  have hfilter : list.filter (·.localName != name) = list := by
    rw [List.filter_eq_self]
    intro it hi
    rw [bne_iff_ne]
    rintro rfl
    exact hd.1 (List.mem_map_of_mem hi)
  have hcomma : isIdentPart ',' = false := by decide
  have hword : ∀ x : List Char, word? "," (trimStart (',' :: x)) = some x := by
    intro x
    rw [trimStart_cons (by decide)]
    exact word?_append "," x
  have hbrace : ∀ x : List Char, trimStart (' ' :: '\x7b' :: x) = '\x7b' :: x := by
    intro x
    have hsolid : StartsSolid ('\x7b' :: x) := forall_head_cons (by decide) x
    exact hsolid.trimStart_space
  simp only [defaultNamed?, lead?_own (.name_append hn hcomma _), Option.bind_eq_bind,
    Option.bind_some, takeIdent?_name hn hcomma, hword, hbrace, braced?_writtenItems hl,
    fromModule?_quoted hm, Option.pure_def, String.ofList_toList, items_writtenItems hl hd.2, hfilter]

end Fits

/-! ### A written statement -/

section Order

variable {shape : Bool → List Char → Option ImportRecord} {r result : ImportRecord} {text : List Char}

/-- A shape is tried with the marker before without; a statement without the marker fails with it. -/
theorem or_own (hown : shape r.typeOnly text = some result)
    (hother : r.typeOnly = false → shape true text = none) (later : Option ImportRecord) :
    (shape true text).or ((shape false text).or later) = some result := by
  cases ht : r.typeOnly with
  | true =>
    rw [ht] at hown
    rw [hown, Option.some_or]
  | false =>
    rw [ht] at hown
    rw [hother ht, Option.none_or, hown, Option.some_or]

theorem or_own_last (hown : shape r.typeOnly text = some result)
    (hother : r.typeOnly = false → shape true text = none) :
    (shape true text).or (shape false text) = some result := by
  have h := or_own hown hother none
  rwa [Option.or_none] at h

/-- A shape that fails with and without the marker leaves the text to the next ones. -/
theorem or_none (h : ∀ marked, shape marked text = none) (later : Option ImportRecord) :
    (shape true text).or ((shape false text).or later) = later := by
  rw [h true, h false, Option.none_or, Option.none_or]

end Order

end ImportStatement

namespace ImportRecord

open ImportStatement

theorem normalForm_eq (layout : Layout) (r : ImportRecord) :
    r.normalForm layout =
      behind r (r.head ++ (r.flatList layout.spread.isSome ++ layout.quoted r.module)) := by
  have hsplit : "import ".toList = "import".toList ++ [' '] := by decide
  rw [normalForm, front_eq, behind_eq, hsplit]
  simp only [List.append_assoc, List.cons_append, List.nil_append]

namespace Writable

variable {r : ImportRecord} (h : r.Writable) (layout : Layout) (span : SourceSpan)

include h

/-- The shape of a normal form is the one of the record, and gives the record back. -/
theorem shape?_normalForm : shape? span (r.normalForm layout) = some { r with span } := by
  have hm := h.module
  have hfrom : " from ".toList = ' ' :: "from ".toList := by decide
  have hstar : "* as ".toList = '*' :: ' ' :: ("as".toList ++ [' ']) := by decide
  have hcomma : ", \x7b".toList = [',', ' ', '\x7b'] := by decide
  have hbehind : isIdentPart ' ' = false ∧ isIdentPart ',' = false := by decide
  have hstart : ∀ {name : String} {rest : List Char}, IsName name →
      (∀ c ∈ (name.toList ++ rest).head?, c ≠ '*') ∧ (∀ c ∈ (name.toList ++ rest).head?, c ≠ '\x7b') := by
    intro name rest hn
    refine ⟨?_, ?_⟩
    · rintro c hc rfl
      exact absurd (head_of_isIdent hn.isIdent '*' hc) (by decide)
    · rintro c hc rfl
      exact absurd (head_of_isIdent hn.isIdent '\x7b' hc) (by decide)
  rw [normalForm_eq]
  simp only [shape?, Option.orElse_eq_orElse, Option.orElse_eq_or]
  cases h.shaped with
  | sideEffect module =>
    have hown : sideEffect? span ("import".toList ++ ' ' :: layout.quoted module) =
        some { kind := .sideEffect, module, span } := sideEffect?_written span hm
    -- A quote behind `import` is what the first alternative asks for.
    exact Option.or_eq_some_iff.2 (.inl hown)
  | allExports module _ name typeOnly =>
    have hn : IsName name := h.names name List.mem_cons_self
    have ho := Opening.asterisk (' ' :: ("as".toList ++ ' ' :: (name.toList ++
      ' ' :: ("from ".toList ++ layout.quoted module))))
    rw [flatList_of_none rfl]
    simp only [head, hstar, hfrom, Option.getD_some, List.append_assoc, List.cons_append,
      List.nil_append]
    rw [sideEffect?_eq_none ho, Option.none_or]
    exact or_own (allExports?_written span hm hn) (allExports?_unmarked ho span) _
  | named module _ named typeOnly =>
    have ho := Opening.brace (writtenItems [' '] layout.spread.isSome named ++
      (" \x7d from ".toList ++ layout.quoted module))
    have hnostar : ∀ {rest : List Char}, ∀ c ∈ ('\x7b' :: rest).head?, c ≠ '*' :=
      forall_head_cons (by decide) _
    rw [flatList_of_list rfl]
    simp only [head, List.append_assoc, List.cons_append, List.nil_append]
    rw [sideEffect?_eq_none ho, Option.none_or,
      or_none (allExports?_eq_none ho span hnostar)]
    exact or_own (named?_written span hm h.isName_items h.distinct) (named?_unmarked ho span) _
  | default module _ name typeOnly =>
    have hn : IsName name := h.names name List.mem_cons_self
    have ho := Opening.name_append hn hbehind.1 ("from ".toList ++ layout.quoted module)
    have hnocomma : ∀ c ∈ ("from ".toList ++ layout.quoted module).head?, c ≠ ',' := by
      have hsplit : "from ".toList = 'f' :: "rom ".toList := by decide
      rw [hsplit]
      exact forall_head_cons (by decide) _
    rw [flatList_of_none rfl]
    simp only [head, hfrom, Option.getD_some, List.append_assoc, List.cons_append, List.nil_append]
    rw [sideEffect?_eq_none ho, Option.none_or, or_none (allExports?_eq_none ho span (hstart hn).1),
      or_none (named?_eq_none ho span (hstart hn).2),
      or_none (defaultNamed?_eq_none hn (startsSolid_from layout module) hnocomma span)]
    exact or_own_last (default?_written span hm hn) (default?_unmarked ho span)
  | defaultNamed module _ name named typeOnly =>
    have hn : IsName name := h.names name List.mem_cons_self
    have ho := Opening.name_append hn hbehind.2 (' ' :: '\x7b' ::
      (writtenItems [' '] layout.spread.isSome named ++ (" \x7d from ".toList ++ layout.quoted module)))
    rw [flatList_of_list rfl]
    simp only [head, hcomma, Option.getD_some, List.append_assoc, List.cons_append, List.nil_append]
    rw [sideEffect?_eq_none ho, Option.none_or, or_none (allExports?_eq_none ho span (hstart hn).1),
      or_none (named?_eq_none ho span (hstart hn).2)]
    exact or_own (defaultNamed?_written span hm h.isName_items hn h.distinct)
      (defaultNamed?_unmarked ho span) _

/-- A written statement is parsed to the record that it was written from. -/
theorem parse?_statement : parse? span (r.statement layout) = some { r with span } := by
  rw [parse?, h.normalize_statement, h.shape?_normalForm]

end Writable

end ImportRecord

end LivePreview
