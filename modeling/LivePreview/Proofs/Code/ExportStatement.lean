import LivePreview.Proofs.Code.ExportSyntax
import LivePreview.Proofs.Code.Preamble
import LivePreview.Script.Identifier
/-!
# LivePreview.Proofs.Code.ExportStatement

**What stripping records of a module that is written in one-line statements.** Each statement is a
declaration behind `export`, or a list of names. A list goes with its line and a declaration loses the
word in front of it; what is recorded is the first name of each declaration and every item of a list but
one that renames a name `type` (`ExportStatement.stripExports_source`).
-/

namespace LivePreview.Code

open Text

variable {rest : List Char}

/-! ### Statements as they are written -/

/-- An item of an export list: a name, and the name that it has outside if that is another one. -/
structure ListedName where
  name : List Char
  outside : Option (List Char)

/-- A one-line statement that exports something. -/
inductive ExportStatement
  /-- `export function f() {}` -/
  | function (name : List Char)
  /-- `export class C {}` -/
  | classOf (name : List Char)
  /-- `export const a = 1, b = 2;`, each name with its value. -/
  | bindings (keyword : String) (first : List Char × List Char) (more : List (List Char × List Char))
  /-- `export { a, b as c };` -/
  | names (items : List ListedName)

/-- The words that declare variables. -/
def variableWords : List String := ["const", "let", "var"]

/-- The words that declarations begin with. -/
def declarationWords : List String := "function" :: "class" :: variableWords

namespace ListedName

def written (item : ListedName) : List Char :=
  match item.outside with
  | none => item.name
  | some outside => item.name ++ ' ' :: ("as".toList ++ ' ' :: outside)

/-- What the item exports. -/
def exported (item : ListedName) : ExportName :=
  ⟨String.ofList item.name, String.ofList (item.outside.getD item.name)⟩

/-- Does the item rename a name `type`? -/
def renamesType (item : ListedName) : Bool :=
  item.name == "type".toList && item.outside.isSome

/-- The name is an identifier, and the name outside is one word. -/
structure Writable (item : ListedName) : Prop where
  name : isIdent item.name = true
  outside : ∀ name ∈ item.outside, name ≠ [] ∧ Unbroken name ∧ ',' ∉ name ∧ '\x7d' ∉ name

instance (item : ListedName) : Decidable item.Writable :=
  decidable_of_iff (isIdent item.name = true ∧ ∀ name ∈ item.outside,
    name ≠ [] ∧ Unbroken name ∧ ',' ∉ name ∧ '\x7d' ∉ name)
    ⟨fun h => ⟨h.1, h.2⟩, fun h => ⟨h.name, h.outside⟩⟩

end ListedName

/-- A name that a declaration can introduce. -/
structure IsBindingName (name : List Char) : Prop where
  isIdent : isIdent name = true
  free : String.ofList name ∉ Script.reservedWords

instance (name : List Char) : Decidable (IsBindingName name) :=
  decidable_of_iff (isIdent name = true ∧ String.ofList name ∉ Script.reservedWords)
    ⟨fun h => ⟨h.1, h.2⟩, fun h => ⟨h.isIdent, h.free⟩⟩

/-- A declared name is exported as it is. -/
def ownName (name : List Char) : ExportName :=
  ⟨String.ofList name, String.ofList name⟩

/-- A word with a text behind it. -/
def behindWord (word : String) (text : List Char) : List Char :=
  word.toList ++ ' ' :: text

theorem behindWord_append (word : String) (a b : List Char) :
    behindWord word (a ++ b) = behindWord word a ++ b := by
  simp only [behindWord, List.append_assoc, List.cons_append]

namespace ExportStatement

/-- A name with its value. -/
def initialised (declared : List Char × List Char) : List Char :=
  declared.1 ++ (" = ".toList ++ declared.2)

/-- The statement without `export`, and without its semicolon. -/
def bare : ExportStatement → List Char
  | function name => behindWord "function" (name ++ "() \x7b\x7d".toList)
  | classOf name => behindWord "class" (name ++ " \x7b\x7d".toList)
  | bindings keyword first more =>
    behindWord keyword (initialised first ++ more.flatMap fun d => ", ".toList ++ initialised d)
  | names items =>
    '\x7b' :: (' ' :: (", ".toList.intercalate (items.map ListedName.written) ++ [' ']) ++ ['\x7d'])

/-- The statement without its semicolon. -/
def written (s : ExportStatement) : List Char :=
  behindWord "export" s.bare

/-- Does a semicolon end the statement? -/
def hasSemicolon : ExportStatement → Bool
  | function _ | classOf _ => false
  | bindings _ _ _ | names _ => true

/-- Is the statement a declaration? -/
def isDeclaration : ExportStatement → Bool
  | names _ => false
  | _ => true

/-- What the statement exports. -/
def exports : ExportStatement → List ExportName
  | function name | classOf name => [ownName name]
  | bindings _ first more => (first :: more).map fun d => ownName d.1
  | names items => items.map ListedName.exported

/-- The items that are recorded of a list. -/
def listed : ExportStatement → List ExportName
  | names items => (items.filter (!·.renamesType)).map ListedName.exported
  | _ => []

/-- The name that is recorded of a declaration. -/
def declared : ExportStatement → List ExportName
  | function name | classOf name => [ownName name]
  | bindings _ first _ => [ownName first.1]
  | names _ => []

/-- What is not recorded: the names behind the first one of a declaration, and an item that renames a
name `type`. -/
def lost : ExportStatement → List ExportName
  | function _ | classOf _ => []
  | bindings _ _ more => more.map fun d => ownName d.1
  | names items => (items.filter (·.renamesType)).map ListedName.exported

/-- Names are names, and a value stays on the line. -/
def Writable : ExportStatement → Prop
  | function name | classOf name => IsBindingName name
  | bindings keyword first more =>
    keyword ∈ variableWords ∧ ∀ d ∈ first :: more, IsBindingName d.1 ∧ '\n' ∉ d.2
  | names items => ∀ item ∈ items, item.Writable

instance : (s : ExportStatement) → Decidable s.Writable
  | function name | classOf name => inferInstanceAs (Decidable (IsBindingName name))
  | bindings keyword first more =>
    inferInstanceAs (Decidable (keyword ∈ variableWords ∧ ∀ d ∈ first :: more, IsBindingName d.1 ∧ '\n' ∉ d.2))
  | names items => inferInstanceAs (Decidable (∀ item ∈ items, item.Writable))

variable {s : ExportStatement}

theorem exists_names (h : s.isDeclaration = false) : ∃ items, s = names items := by
  cases s with
  | names items => exact ⟨items, rfl⟩
  | function name => cases h
  | classOf name => cases h
  | bindings keyword first more => cases h

theorem perm_exports (s : ExportStatement) : (s.listed ++ s.declared ++ s.lost).Perm s.exports := by
  cases s with
  | function name => exact List.Perm.refl _
  | classOf name => exact List.Perm.refl _
  | bindings keyword first more => exact List.Perm.refl _
  | names items =>
    rw [listed, declared, lost, exports, List.append_nil, ← List.map_append]
    exact ((List.perm_append_comm).trans (List.filter_append_perm _ items)).map _

/-! ### A list -/

end ExportStatement

namespace ListedName

variable {item : ListedName}

theorem unbroken_name (h : item.Writable) : Unbroken item.name :=
  unbroken_of_isIdent h.name

theorem name_ne_nil (h : item.Writable) : item.name ≠ [] :=
  ne_nil_of_isIdent h.name

/-- No mark of a list stands in a name. -/
theorem not_mem_name (h : item.Writable) {c : Char} (hc : isIdentPart c = false) : c ∉ item.name :=
  fun hm => Bool.false_ne_true (hc.symm.trans (isIdentPart_of_mem h.name hm))

theorem not_mem_written (h : item.Writable) : ',' ∉ item.written ∧ '\x7d' ∉ item.written := by
  have hcomma := not_mem_name h (c := ',') (by decide)
  have hbrace := not_mem_name h (c := '\x7d') (by decide)
  unfold written
  split
  · exact ⟨hcomma, hbrace⟩
  · next outside ho =>
    obtain ⟨-, -, hc, hb⟩ := h.outside outside ho
    simp [hcomma, hbrace, hc, hb]

theorem feed_not_mem_written (h : item.Writable) : '\n' ∉ item.written := by
  have hname := not_mem_name h (c := '\n') (by decide)
  unfold written
  split
  · exact hname
  · next outside ho =>
    have houtside : '\n' ∉ outside := fun hm =>
      absurd ((h.outside outside ho).2.1 '\n' hm) (by decide)
    simp [hname, houtside]

/-- An item begins and ends with no blank. -/
theorem trim_written (h : item.Writable) : trim item.written = item.written := by
  have hfirst : ∀ more, ∀ c ∈ (item.name ++ more).head?, isBlank c = false :=
    startsSolid_of_isIdent h.name
  have hlast : ∀ {word : List Char}, Unbroken word → ∀ c ∈ word.getLast?, isBlank c = false :=
    fun hu c hc => hu c (List.mem_of_getLast? hc)
  unfold written
  split
  · exact trim_eq_self (by simpa using hfirst []) (hlast (unbroken_name h))
  · next outside ho =>
    obtain ⟨hne, hu, -, -⟩ := h.outside outside ho
    have hsplit : item.name ++ ' ' :: ("as".toList ++ ' ' :: outside) =
        (item.name ++ ' ' :: ("as".toList ++ [' '])) ++ outside := by simp
    refine trim_eq_self (hfirst _) fun c hc => hlast hu c ?_
    rwa [hsplit, List.getLast?_append_of_ne_nil _ hne] at hc

/-- An item is taken for a type if it renames a name `type`. -/
theorem startsWith_type_written (h : item.Writable) :
    startsWith "type ".toList item.written = item.renamesType := by
  have htype : "type ".toList = "type".toList ++ [' '] := by decide
  have hident : ∀ c ∈ "type".toList, isIdentPart c = true := List.all_eq_true.1 (by decide)
  have hspace : ∀ more, ∀ c ∈ (' ' :: more).head?, isIdentPart c = false :=
    forall_head_cons (by decide)
  rw [Bool.eq_iff_iff, startsWith_iff, htype]
  unfold written renamesType
  split
  · next ho =>
    -- A name alone holds no space.
    refine iff_of_false (fun hp => not_mem_name h (c := ' ') (by decide) (hp.mem (by simp))) ?_
    simp [ho]
  · next outside ho =>
    rw [ho, Option.isSome_some, Bool.and_true, beq_iff_eq]
    constructor
    · rintro ⟨more, hmore⟩
      rw [List.append_assoc, List.singleton_append] at hmore
      exact (eq_of_append_eq hmore hident (fun c hc => isIdentPart_of_mem h.name hc) (hspace _)
        (hspace _)).1.symm
    · intro hname
      rw [hname, ← List.singleton_append, ← List.append_assoc]
      exact List.prefix_append _ _

/-- An item is recorded with the name that it has outside. -/
theorem exportItem?_written (h : item.Writable) : exportItem? item.written = some item.exported := by
  have hu := unbroken_name h
  have hne := name_ne_nil h
  rw [exportItem?, exported]
  cases ho : item.outside with
  | none =>
    have hwritten : item.written = item.name := by rw [written, ho]
    rw [hwritten, words_of_unbroken hu hne]
    exact if_pos h.name
  | some outside =>
    obtain ⟨hone, hou, -, -⟩ := h.outside outside ho
    have has : Unbroken "as".toList := by decide
    have hwritten : item.written = item.name ++ ' ' :: ("as".toList ++ ' ' :: outside) := by
      rw [written, ho]
    rw [hwritten, words_append_space hu hne, words_append_space has (by decide), words_of_unbroken hou hone]
    exact if_pos h.name

end ListedName

/-- What is recorded of a part of a list that holds an item. -/
def recorded? (item : ListedName) : Option ExportName :=
  if item.renamesType then none else some item.exported

theorem filterMap_recorded? (items : List ListedName) :
    items.filterMap recorded? = (items.filter (!·.renamesType)).map ListedName.exported := by
  induction items with
  | nil => rfl
  | cons item items ih =>
    rw [List.filterMap_cons, List.filter_cons, ih, recorded?]
    cases item.renamesType <;> rfl

/-- The items of a list are read one by one. -/
theorem exportItems_written {items : List ListedName} (h : ∀ item ∈ items, item.Writable) :
    exportItems (' ' :: (", ".toList.intercalate (items.map ListedName.written) ++ [' '])) =
      items.filterMap recorded? := by
  -- What is made of a part depends on the item in it alone, not on the spaces around.
  have hpart : ∀ item : ListedName, item.Writable → ∀ front back, allBlank front = true →
      allBlank back = true → (let part := trim (front ++ (item.written ++ back))
        if startsWith "type ".toList part then none else exportItem? part) = recorded? item := by
    intro item hi front back hfront hback
    rw [trim_append_left hfront, trim_append_right _ hback, ListedName.trim_written hi]
    dsimp only
    rw [ListedName.startsWith_type_written hi, ListedName.exportItem?_written hi, recorded?]
  unfold exportItems
  induction items with
  | nil => rfl
  | cons item items ih =>
    have hi := h item List.mem_cons_self
    have hcomma : ',' ∉ ' ' :: item.written := by simpa using (ListedName.not_mem_written hi).1
    cases items with
    | nil =>
      have hlist : ' ' :: (", ".toList.intercalate ([item].map ListedName.written) ++ [' ']) =
          [' '] ++ (item.written ++ [' ']) := by simp [List.intercalate]
      rw [hlist, splitAtChar_of_not_mem (by simpa using hcomma), List.filterMap_cons,
        hpart item hi _ _ (by decide) (by decide), List.filterMap_cons]
      rfl
    | cons next items =>
      have hlist : ' ' :: (", ".toList.intercalate ((item :: next :: items).map ListedName.written) ++ [' ']) =
          (' ' :: item.written) ++ ',' ::
            (' ' :: (", ".toList.intercalate ((next :: items).map ListedName.written) ++ [' '])) := by
        simp [List.intercalate]
      have hrest := ih fun it hit => h it (List.mem_cons_of_mem item hit)
      have hfirst := hpart item hi [' '] [] (by decide) (by decide)
      rw [List.append_nil, List.singleton_append] at hfirst
      rw [hlist, splitAtChar_append hcomma, List.filterMap_cons, hfirst, hrest]
      exact List.filterMap_cons.symm

/-- No brace closes a list before its end. -/
theorem not_mem_list {items : List ListedName} (h : ∀ item ∈ items, item.Writable) :
    '\x7d' ∉ ' ' :: (", ".toList.intercalate (items.map ListedName.written) ++ [' ']) := by
  have hitems : '\x7d' ∉ ", ".toList.intercalate (items.map ListedName.written) := by
    refine not_mem_intercalate (by decide) fun text ht => ?_
    obtain ⟨item, hi, rfl⟩ := List.mem_map.1 ht
    exact (ListedName.not_mem_written (h item hi)).2
  simp only [List.mem_cons, List.mem_append, not_or]
  exact ⟨by decide, hitems, by decide⟩

/-! ### A declaration -/

section Declaration

variable {keyword : String} {name behind : List Char}

theorem IsBindingName.ne (h : IsBindingName name) {w : String} (hw : w ∈ Script.reservedWords) :
    name ≠ w.toList := by
  rintro rfl
  exact h.free (by rwa [String.ofList_toList])

/-- A word that is not the whole name does not begin a text that begins with the name. -/
theorem wordGap?_of_isIdent {w : String} (hn : isIdent name = true) (hne : name ≠ w.toList)
    (hw : ∀ c ∈ w.toList, isIdentPart c = true) (hb : ∀ c ∈ behind.head?, isIdentPart c = false) :
    wordGap? w (name ++ behind) = none := by
  rw [Option.eq_none_iff_forall_ne_some]
  intro rest hr
  obtain ⟨more, hword, hgap⟩ := Option.bind_eq_some_iff.1 hr
  obtain ⟨c, hc, hblank⟩ := head_of_gap? hgap
  have hmore : ∀ d ∈ more.head?, isIdentPart d = false := by
    intro d hd
    obtain rfl : c = d := Option.some.inj (hc.symm.trans hd)
    refine Bool.eq_false_iff.2 fun hpart => ?_
    rw [isBlank_of_isIdentPart hpart] at hblank
    cases hblank
  exact hne (eq_of_append_eq (word?_eq_some_iff.1 hword)
    (fun c hc => isIdentPart_of_mem hn hc) hw hb hmore).1

/-- A declaration introduces its first name. -/
theorem declaration?_append (hk : keyword ∈ declarationWords) (hn : IsBindingName name)
    (hb : ∀ c ∈ behind.head?, isIdentPart c = false) :
    declaration? (behindWord keyword name ++ behind) = some (name, behind) := by
  have hident := takeIdent?_of_isIdent hn.isIdent hb
  have hsolid := startsSolid_of_isIdent hn.isIdent behind
  have hgap := fun w : String => hsolid.wordGap?_gap (w := w) (List.cons_ne_nil ' ' []) (by decide)
  have henum := wordGap?_of_isIdent (w := "enum") hn.isIdent (hn.ne (by decide))
    (List.all_eq_true.1 (by decide)) hb
  have hstar : skipChar '*' (name ++ behind) = name ++ behind := by
    refine skipChar_eq_self fun c hc => ?_
    rintro rfl
    exact absurd (head_of_isIdent hn.isIdent '*' hc) (by decide)
  simp only [List.singleton_append] at hgap
  simp only [declarationWords, variableWords, List.mem_cons, List.not_mem_nil, or_false] at hk
  rw [behindWord, List.append_assoc, List.cons_append]
  unfold declaration?
  rcases hk with rfl | rfl | rfl | rfl | rfl
  · have hasync : skipWordGap "async" ("function".toList ++ ' ' :: (name ++ behind)) =
        "function".toList ++ ' ' :: (name ++ behind) := rfl
    simp only [hasync, word?_append, Option.map_some, hsolid.trimStart_space, hstar, hsolid.trimStart_eq,
      Option.bind_some, hident]
    rfl
  · have hfunction : word? "function" (skipWordGap "async" ("class".toList ++ ' ' :: (name ++ behind))) =
        none := rfl
    simp only [hfunction, hgap "class", Option.map_none, Option.bind_none, Option.bind_some, hident]
    rfl
  · have hfunction : word? "function" (skipWordGap "async" ("const".toList ++ ' ' :: (name ++ behind))) =
        none := rfl
    have hclass : wordGap? "class" ("const".toList ++ ' ' :: (name ++ behind)) = none := rfl
    have hconst : skipWordGap "const" ("const".toList ++ ' ' :: (name ++ behind)) = name ++ behind := by
      rw [skipWordGap, hgap "const"]
      rfl
    simp only [hfunction, hclass, hconst, henum, hgap "const", Option.map_none, Option.bind_none,
      Option.bind_some, hident]
    rfl
  · have hfunction : word? "function" (skipWordGap "async" ("let".toList ++ ' ' :: (name ++ behind))) =
        none := rfl
    have hclass : wordGap? "class" ("let".toList ++ ' ' :: (name ++ behind)) = none := rfl
    have henum : wordGap? "enum" (skipWordGap "const" ("let".toList ++ ' ' :: (name ++ behind))) = none := rfl
    have hconst : wordGap? "const" ("let".toList ++ ' ' :: (name ++ behind)) = none := rfl
    simp only [hfunction, hclass, henum, hconst, hgap "let", Option.map_none, Option.bind_none,
      Option.bind_some, hident]
    rfl
  · have hfunction : word? "function" (skipWordGap "async" ("var".toList ++ ' ' :: (name ++ behind))) =
        none := rfl
    have hclass : wordGap? "class" ("var".toList ++ ' ' :: (name ++ behind)) = none := rfl
    have henum : wordGap? "enum" (skipWordGap "const" ("var".toList ++ ' ' :: (name ++ behind))) = none := rfl
    have hconst : wordGap? "const" ("var".toList ++ ' ' :: (name ++ behind)) = none := rfl
    have hlet : wordGap? "let" ("var".toList ++ ' ' :: (name ++ behind)) = none := rfl
    simp only [hfunction, hclass, henum, hconst, hlet, hgap "var", Option.map_none, Option.bind_none,
      Option.bind_some, hident]
    rfl

end Declaration

/-! ### One statement -/

namespace ExportStatement

variable {s : ExportStatement}

/-- A statement is one line. -/
theorem feed_not_mem_bare (hs : s.Writable) : '\n' ∉ s.bare := by
  have hname : ∀ {name}, isIdent name = true → '\n' ∉ name := fun hn hm =>
    absurd (isIdentPart_of_mem hn hm) (by decide)
  have hinitialised : ∀ d : List Char × List Char, IsBindingName d.1 ∧ '\n' ∉ d.2 →
      '\n' ∉ initialised d := by
    intro d hd
    have hequals : '\n' ∉ " = ".toList := by decide
    simp only [initialised, List.mem_append, not_or]
    exact ⟨hname hd.1.isIdent, hequals, hd.2⟩
  cases s with
  | function name =>
    have hn := hname (IsBindingName.isIdent hs)
    simp [bare, behindWord, hn]
  | classOf name =>
    have hn := hname (IsBindingName.isIdent hs)
    simp [bare, behindWord, hn]
  | bindings keyword first more =>
    obtain ⟨hk, hall⟩ := hs
    have hkeyword : '\n' ∉ keyword.toList := by
      simp only [variableWords, List.mem_cons, List.not_mem_nil, or_false] at hk
      rcases hk with rfl | rfl | rfl <;> decide
    simp only [bare, behindWord, List.mem_append, List.mem_cons, List.mem_flatMap, not_or, not_exists, not_and]
    refine ⟨hkeyword, by decide, hinitialised first (hall first List.mem_cons_self), fun d hd => ?_⟩
    exact ⟨by decide, hinitialised d (hall d (List.mem_cons_of_mem first hd))⟩
  | names items =>
    have hitems : '\n' ∉ ", ".toList.intercalate (items.map ListedName.written) := by
      refine not_mem_intercalate (by decide) fun text ht => ?_
      obtain ⟨item, hi, rfl⟩ := List.mem_map.1 ht
      exact ListedName.feed_not_mem_written (hs item hi)
    simp only [bare, List.mem_append, List.mem_cons, not_or]
    exact ⟨by decide, ⟨by decide, hitems, by decide⟩, by decide⟩

/-- A declaration has a word in front of the name that is recorded. -/
theorem bare_of_isDeclaration (hs : s.Writable) (hd : s.isDeclaration = true) :
    ∃ keyword ∈ declarationWords, ∃ name behind,
      s.bare = behindWord keyword name ++ behind ∧ IsBindingName name ∧
      (∀ rest, ∀ c ∈ (behind ++ rest).head?, isIdentPart c = false) ∧ s.declared = [ownName name] := by
  cases s with
  | names items => cases hd
  | function name =>
    exact ⟨"function", by decide, name, "() \x7b\x7d".toList, behindWord_append _ _ _, hs, fun rest =>
      forall_head_cons (p := (isIdentPart · = false)) (by decide) _, rfl⟩
  | classOf name =>
    exact ⟨"class", by decide, name, " \x7b\x7d".toList, behindWord_append _ _ _, hs, fun rest =>
      forall_head_cons (p := (isIdentPart · = false)) (by decide) _, rfl⟩
  | bindings keyword first more =>
    obtain ⟨hk, hall⟩ := hs
    refine ⟨keyword, List.mem_cons_of_mem _ (List.mem_cons_of_mem _ hk), first.1,
      " = ".toList ++ (first.2 ++ more.flatMap fun d => ", ".toList ++ initialised d), ?_,
      (hall first List.mem_cons_self).1, fun rest =>
      forall_head_cons (p := (isIdentPart · = false)) (by decide) _, rfl⟩
    simp only [bare, initialised, behindWord_append, List.append_assoc]

/-- What stands behind `export` begins with a letter of a declaring word, or with a brace. -/
theorem head_bare (hs : s.Writable) (rest : List Char) :
    ∀ c ∈ (s.bare ++ rest).head?, c ∈ "fclv\x7b".toList := by
  cases hd : s.isDeclaration with
  | false =>
    obtain ⟨items, rfl⟩ := exists_names hd
    exact forall_head_cons (by decide) _
  | true =>
    obtain ⟨keyword, hk, name, behind, hbare, -⟩ := bare_of_isDeclaration hs hd
    simp only [declarationWords, variableWords, List.mem_cons, List.not_mem_nil, or_false] at hk
    rw [hbare]
    rcases hk with rfl | rfl | rfl | rfl | rfl <;> exact forall_head_cons (by decide) _

theorem forall_head_bare {p : Char → Prop} [DecidablePred p] (hs : s.Writable)
    (hp : "fclv\x7b".toList.all (fun c => p c) = true) (rest : List Char) :
    ∀ c ∈ (s.bare ++ rest).head?, p c :=
  fun c hc => List.all_iff_forall_prop.1 hp c (head_bare hs rest c hc)

theorem startsSolid_bare (hs : s.Writable) (rest : List Char) : StartsSolid (s.bare ++ rest) :=
  forall_head_bare hs (by decide) rest

theorem written_append (s : ExportStatement) (rest : List Char) :
    s.written ++ rest = "export".toList ++ ([' '] ++ (s.bare ++ rest)) := by
  simp only [written, behindWord, List.append_assoc, List.cons_append, List.nil_append]

theorem exportGap?_written (hs : s.Writable) (rest : List Char) :
    exportGap? (s.written ++ rest) = some (s.bare ++ rest) := by
  have hgap := (startsSolid_bare hs rest).wordGap?_gap (w := "export") (List.cons_ne_nil ' ' []) (by decide)
  rw [written_append]
  exact hgap

/-! ### Each sweep over one line -/

/-- What stands behind the statement on its line. -/
def tail (s : ExportStatement) (ending : List Char) : LineTail :=
  ⟨[], s.hasSemicolon, [], ending⟩

def line (s : ExportStatement) (ending : List Char) : StatementLine :=
  ⟨s.written, s.tail ending⟩

/-- The line without `export`. -/
def bareLine (s : ExportStatement) (ending : List Char) : StatementLine :=
  ⟨s.bare, s.tail ending⟩

variable {ending : List Char}

theorem line_append (s : ExportStatement) (ending rest : List Char) :
    (s.line ending).written ++ rest = s.written ++ ((s.tail ending).written ++ rest) :=
  List.append_assoc _ _ _

/-- A list with what is behind it. -/
theorem bare_names_append (items : List ListedName) (rest : List Char) :
    (names items).bare ++ rest = '\x7b' ::
      (' ' :: (", ".toList.intercalate (items.map ListedName.written) ++ [' ']) ++ '\x7d' :: rest) := by
  simp only [bare, List.cons_append, List.append_assoc, List.nil_append]

theorem between?_names {items : List ListedName} (hs : (names items).Writable) (rest : List Char) :
    between? '\x7b' '\x7d' ((names items).bare ++ rest) =
      some (' ' :: (", ".toList.intercalate (items.map ListedName.written) ++ [' ']), rest) := by
  rw [bare_names_append]
  exact between?_append (not_mem_list hs) rest

section Line

variable (hs : s.Writable)

include hs

theorem starReexport?_line (rest : List Char) : starReexport? ((s.line ending).written ++ rest) = none := by
  rw [line_append]
  exact starReexport?_eq_none (exportGap?_written hs _) (forall_head_bare hs (by decide) _)

theorem typeList?_line (rest : List Char) : typeList? ((s.line ending).written ++ rest) = none := by
  rw [line_append]
  exact typeList?_eq_none (exportGap?_written hs _) (forall_head_bare hs (by decide) _)

/-- No brace opens behind the word of a declaration. -/
theorem between?_declaration (hd : s.isDeclaration = true) (rest : List Char) :
    between? '\x7b' '\x7d' (s.bare ++ rest) = none := by
  obtain ⟨keyword, hk, name, behind, hbare, -⟩ := bare_of_isDeclaration hs hd
  refine between?_eq_none ?_
  simp only [declarationWords, variableWords, List.mem_cons, List.not_mem_nil, or_false] at hk
  rw [hbare]
  rcases hk with rfl | rfl | rfl | rfl | rfl <;> exact forall_head_cons (by decide) _

/-- A list with a semicolon behind it comes from no other module. -/
theorem listReexport?_line (rest : List Char) : listReexport? ((s.line ending).written ++ rest) = none := by
  rw [line_append, listReexport?_eq (exportGap?_written hs _) (forall_head_bare hs (by decide) _)]
  cases hd : s.isDeclaration with
  | true => rw [between?_declaration hs hd, Option.bind_none]
  | false =>
    obtain ⟨items, rfl⟩ := exists_names hd
    rw [between?_names hs]
    rfl

/-- The sweep for lists takes a list with its line, and leaves a declaration. -/
theorem sweep_exportList?_line (hn : '\n' ∉ s.written) (he : (s.tail ending).Ends rest) :
    sweep exportList? true ((s.line ending).written ++ rest) =
      ((if s.isDeclaration then [] else [s.listed]) ++ (sweep exportList? true rest).1,
        (if s.isDeclaration then (s.line ending).written else []) ++ (sweep exportList? true rest).2) := by
  have hread := exportList?_eq (exportGap?_written hs ((s.tail ending).written ++ rest))
  have hne : s.written ≠ [] := by simp [written, behindWord]
  cases hd : s.isDeclaration with
  | true =>
    rw [between?_declaration hs hd, Option.map_none, ← line_append] at hread
    exact StatementLine.sweep_keep hne hn he hread
  | false =>
    obtain ⟨items, rfl⟩ := exists_names hd
    rw [between?_names hs, Option.map_some, exportItems_written hs, filterMap_recorded?, remove,
      he.skipLineEnd_append] at hread
    rw [line_append]
    exact he.sweep_hit hne hread

/-- A declaration loses the word in front, and its name is recorded. -/
theorem sweep_exportedDeclaration?_line (hd : s.isDeclaration = true) (he : (s.tail ending).Ends rest) :
    sweep exportedDeclaration? true ((s.line ending).written ++ rest) =
      (s.declared ++ (sweep exportedDeclaration? true rest).1,
        (s.bareLine ending).written ++ (sweep exportedDeclaration? true rest).2) := by
  obtain ⟨keyword, hk, name, behind, hbare, hname, hbehind, hdeclared⟩ := bare_of_isDeclaration hs hd
  have hfeed := feed_not_mem_bare hs
  rw [hbare, List.mem_append, not_or] at hfeed
  have hfront : '\n' ∉ behindWord "export" (behindWord keyword name) := by
    simp only [behindWord, List.mem_append, List.mem_cons, not_or] at hfeed ⊢
    exact ⟨by decide, by decide, hfeed.1⟩
  -- Up to the name is one part that is taken, and behind it the line goes on.
  have hwritten : ∀ more, s.written ++ more =
      behindWord "export" (behindWord keyword name) ++ (behind ++ more) := fun more => by
    rw [written, hbare, behindWord_append, List.append_assoc]
  have hread : exportedDeclaration? (s.written ++ ((s.tail ending).written ++ rest)) =
      some ⟨ownName name, behindWord keyword name, behind ++ ((s.tail ending).written ++ rest)⟩ := by
    have hspaces : ∀ more, (s.written ++ more).takeWhile isSpaceOrTab = [] := fun _ => rfl
    rw [exportedDeclaration?, exportGap?_written hs, hspaces, hbare, List.append_assoc]
    simp only [Option.bind_eq_bind, Option.bind_some, declaration?_append hk hname (hbehind _),
      List.length_append, Nat.add_sub_cancel, List.take_left, List.nil_append]
    rfl
  rw [hwritten] at hread
  rw [line_append, hwritten, sweep_hit (by simp [behindWord]) hread,
    startsBehind_of_not_mem hfront (by simp [behindWord]), he.sweep_inside hfeed.2, hdeclared, bareLine,
    StatementLine.written, hbare]
  simp only [List.append_assoc, List.singleton_append]

/-- Without `export`, a line begins with another letter. -/
theorem head_bareLine (rest : List Char) :
    ∀ c ∈ (skipSpaces ((s.bareLine ending).written ++ rest)).head?, c ≠ 'e' := by
  have hspaces : skipSpaces (s.bare ++ ((s.tail ending).written ++ rest)) =
      s.bare ++ ((s.tail ending).written ++ rest) :=
    skipSpaces_append (List.forall_mem_nil _) fun c hc =>
      isSpaceOrTab_of_not_isBlank (startsSolid_bare hs _ c hc)
  rw [bareLine, StatementLine.written, List.append_assoc, hspaces]
  exact forall_head_bare hs (by decide) _

end Line

/-! ### Modules of statements -/

/-- Every statement ends its line with a line feed, and only the last one may do without. -/
def AreEnded : List (ExportStatement × List Char) → Prop
  | [] => True
  | (_, ending) :: later =>
    (ending = ['\n'] ∨ ending = ['\r', '\n'] ∨ ending = [] ∧ later = []) ∧ AreEnded later

/-- The text of statements with their line ends. -/
def source (statements : List (ExportStatement × List Char)) : List Char :=
  (statements.map fun s => s.1.line s.2).flatMap StatementLine.written

/-- The declarations among them, without `export`. -/
def bareSource (statements : List (ExportStatement × List Char)) : List Char :=
  ((statements.filter (·.1.isDeclaration)).map fun s => s.1.bareLine s.2).flatMap StatementLine.written

variable {statements : List (ExportStatement × List Char)}

theorem AreEnded.filter (h : AreEnded statements) (p : ExportStatement × List Char → Bool) :
    AreEnded (statements.filter p) := by
  induction statements with
  | nil => trivial
  | cons s later ih =>
    obtain ⟨hs, hlater⟩ := h
    rw [List.filter_cons]
    split
    · refine ⟨hs.imp_right (Or.imp_right ?_), ih hlater⟩
      rintro ⟨he, rfl⟩
      exact ⟨he, rfl⟩
    · exact ih hlater

/-- Statements that end their lines are laid out line by line. -/
theorem AreEnded.areLaid (h : AreEnded statements) {lineOf : ExportStatement × List Char → StatementLine}
    (hline : ∀ s ∈ statements, (lineOf s).content ≠ [] ∧ '\n' ∉ (lineOf s).content ∧
      (lineOf s).tail = s.1.tail s.2) : StatementLine.AreLaid (statements.map lineOf) := by
  induction statements with
  | nil => trivial
  | cons s later ih =>
    obtain ⟨hs, hlater⟩ := h
    obtain ⟨hne, hn, ht⟩ := hline s List.mem_cons_self
    refine ⟨hne, hn, ?_, ih hlater fun l hl => hline l (List.mem_cons_of_mem s hl)⟩
    have hnil : ∀ c ∈ ([] : List Char), isSpaceOrTab c = true := fun _ hc => absurd hc List.not_mem_nil
    rw [ht]
    refine ⟨hnil, hnil, hs.imp_right (Or.imp_right ?_)⟩
    rintro ⟨he, rfl⟩
    exact ⟨he, rfl⟩

theorem source_filter (statements : List (ExportStatement × List Char)) :
    source (statements.filter (·.1.isDeclaration)) =
      statements.flatMap fun s => if s.1.isDeclaration then (s.1.line s.2).written else [] := by
  induction statements with
  | nil => rfl
  | cons s later ih =>
    rw [List.flatMap_cons, ← ih, List.filter_cons]
    cases s.1.isDeclaration <;> rfl

theorem flatten_listed (statements : List (ExportStatement × List Char)) :
    (statements.flatMap fun s => if s.1.isDeclaration then [] else [s.1.listed]).flatten =
      statements.flatMap (·.1.listed) := by
  induction statements with
  | nil => rfl
  | cons s later ih =>
    rw [List.flatMap_cons, List.flatMap_cons, List.flatten_append, ih]
    obtain ⟨s, ending⟩ := s
    cases s <;> simp [isDeclaration, listed]

section Source

variable (h : AreEnded statements) (hw : ∀ s ∈ statements, s.1.Writable)

include h hw

theorem areLaid_lines : StatementLine.AreLaid (statements.map fun s => s.1.line s.2) := by
  refine h.areLaid fun s hs => ⟨?_, ?_, rfl⟩
  · simp [line, written, behindWord]
  · have hbare := feed_not_mem_bare (hw s hs)
    simp [line, written, behindWord, hbare]

theorem areLaid_bareLines : StatementLine.AreLaid (statements.map fun s => s.1.bareLine s.2) := by
  refine h.areLaid fun s hs => ⟨fun hnil => ?_, feed_not_mem_bare (hw s hs), rfl⟩
  cases hd : s.1.isDeclaration with
  | true =>
    obtain ⟨keyword, -, name, behind, hbare, -⟩ := bare_of_isDeclaration (hw s hs) hd
    simp [bareLine, hbare, behindWord] at hnil
  | false =>
    obtain ⟨items, hitems⟩ := exists_names hd
    simp [bareLine, hitems, bare] at hnil

/-- The lists go and their items are recorded; the declarations stay as they are. -/
theorem stripExportLists_source :
    stripExportLists (source statements) =
      (source (statements.filter (·.1.isDeclaration)), statements.flatMap (·.1.listed)) := by
  have hlaid := areLaid_lines h hw
  have hnone : ∀ reader : List Char → Option (Hit Unit),
      (∀ s : ExportStatement, s.Writable → ∀ ending rest, reader ((s.line ending).written ++ rest) = none) →
      sweep reader true (source statements) = ([], source statements) := fun _ hr =>
    hlaid.sweep_eq_self fun l hl rest => by
      obtain ⟨s, hs, rfl⟩ := List.mem_map.1 hl
      exact hr s.1 (hw s hs) s.2 rest
  have hlists : sweep exportList? true (source statements) =
      (statements.flatMap fun s => if s.1.isDeclaration then [] else [s.1.listed],
        statements.flatMap fun s => if s.1.isDeclaration then (s.1.line s.2).written else []) :=
    hlaid.sweep fun s hs _ hn rest he => sweep_exportList?_line (hw s hs) hn he
  unfold stripExportLists
  simp only [hnone starReexport? fun s hs _ rest => starReexport?_line hs rest,
    hnone listReexport? fun s hs _ rest => listReexport?_line hs rest,
    hnone typeList? fun s hs _ rest => typeList?_line hs rest, hlists, source_filter,
    flatten_listed]

/-- No statement is a default export. -/
theorem cutDefault?_source : cutDefault? (source statements) = none := by
  have hsearch : firstHit? defaultKeyword? true (source statements) = none :=
    (areLaid_lines h hw).firstHit?_eq_none fun l hl rest => by
      obtain ⟨s, hs, rfl⟩ := List.mem_map.1 hl
      have hword : wordGap? "default" (s.1.bare ++ ((s.1.tail s.2).written ++ rest)) = none :=
        wordGap?_eq_none (c := 'd') (by decide) (forall_head_bare (hw s hs) (by decide) _)
      rw [line_append, defaultKeyword?, exportGap?_written (hw s hs)]
      simp only [Option.bind_eq_bind, Option.bind_some, hword, Option.bind_none]
  rw [cutDefault?_eq, hsearch]
  rfl

end Source

theorem flatMap_declared (statements : List (ExportStatement × List Char)) :
    (statements.filter (·.1.isDeclaration)).flatMap (·.1.declared) = statements.flatMap (·.1.declared) := by
  induction statements with
  | nil => rfl
  | cons s later ih =>
    obtain ⟨s, ending⟩ := s
    rw [List.flatMap_cons, ← ih]
    cases s <;> rfl

section Stripped

variable (h : AreEnded statements) (hw : ∀ s ∈ statements, s.1.Writable)

include h hw

/-- The declarations lose the word in front, and their names are recorded. -/
theorem sweep_exportedDeclaration?_source :
    sweep exportedDeclaration? true (source (statements.filter (·.1.isDeclaration))) =
      (statements.flatMap (·.1.declared), bareSource statements) := by
  have hkept : ∀ s ∈ statements.filter (·.1.isDeclaration), s.1.Writable := fun s hs =>
    hw s (List.mem_filter.1 hs).1
  rw [← flatMap_declared, bareSource, List.flatMap_map]
  exact (areLaid_lines (h.filter _) hkept).sweep fun s hs _ _ rest he =>
    sweep_exportedDeclaration?_line (hkept s hs) (List.mem_filter.1 hs).2 he

/-- No export syntax is left in the declarations. -/
theorem sweep_exportKeyword?_bareSource :
    sweep exportKeyword? true (bareSource statements) = ([], bareSource statements) := by
  have hkept : ∀ s ∈ statements.filter (·.1.isDeclaration), s.1.Writable := fun s hs =>
    hw s (List.mem_filter.1 hs).1
  refine (areLaid_bareLines (h.filter _) hkept).sweep_eq_self fun l hl rest => ?_
  obtain ⟨s, hs, rfl⟩ := List.mem_map.1 hl
  exact readsExports_exportKeyword _ (opensExport_of_head (head_bareLine (hkept s hs) rest))

/-- No line of them begins with `export`, and none does when the blanks at the end are gone. -/
theorem clear_trimEnd_bareSource : Clear isSpaceOrTab exportWords (trimEnd (bareSource statements)) := by
  have hkept : ∀ s ∈ statements.filter (·.1.isDeclaration), s.1.Writable := fun s hs =>
    hw s (List.mem_filter.1 hs).1
  have hlines : AtLines (fun line => ∀ w ∈ exportWords, startsWith w.toList (skipSpaces line) = false)
      true (bareSource statements) [] :=
    (areLaid_bareLines (h.filter _) hkept).atLines fun l hl rest w hword => by
      obtain ⟨s, hs, rfl⟩ := List.mem_map.1 hl
      rw [List.mem_singleton.1 hword, ← Bool.not_eq_true, startsWith_iff]
      rintro ⟨more, hmore⟩
      exact head_bareLine (hkept s hs) rest 'e' (by rw [← hmore]; rfl) rfl
  obtain ⟨blanks, -, htrim⟩ := exists_trimEnd_append (bareSource statements)
  rw [← htrim, AtLines.append_iff] at hlines
  refine AtLines.clear areHeads_exportWords (hlines.1.imp fun line hline w hword => ?_)
  rw [List.append_nil] at hline ⊢
  refine Bool.eq_false_iff.2 fun hs => Bool.eq_false_iff.1 (hline w hword) ?_
  rw [List.mem_singleton.1 hword] at hs ⊢
  exact startsWith_skipSpaces_append (by decide) hs blanks

/-- **What stripping leaves of a module of statements, and what it records.** -/
theorem stripExports_source (defaultLocal : String) :
    stripExports defaultLocal (source statements) =
      { code := bareSource statements
        defaultBinding := ((statements.flatMap (·.1.listed)).find? (·.exported == "default")).map (·.localName)
        exports := statements.flatMap (·.1.listed) ++ statements.flatMap (·.1.declared) } := by
  have hkept : ∀ s ∈ statements.filter (·.1.isDeclaration), s.1.Writable := fun s hs =>
    hw s (List.mem_filter.1 hs).1
  have hdefault : ∀ carried, stripDefault defaultLocal
      { code := source (statements.filter (·.1.isDeclaration)), defaultBinding := carried } =
      { code := source (statements.filter (·.1.isDeclaration)), defaultBinding := carried } := by
    intro carried
    rw [stripDefault, cutDefault?_source (h.filter _) hkept]
  simp only [stripExports, stripExportLists_source h hw, hdefault, sweep_exportedDeclaration?_source h hw,
    sweep_exportKeyword?_bareSource h hw]

end Stripped

end ExportStatement

end LivePreview.Code
