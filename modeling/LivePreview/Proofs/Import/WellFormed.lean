import LivePreview.Proofs.Import.Shape
/-!
# LivePreview.Proofs.Import.WellFormed

**Every record of a statement is well formed** (`parse?_wellFormed`): the identifiers that it binds can
be written into a module as they stand, no two of them are the same, the module has a name, and the kind
of the record tells which of its fields are there. What holds of the names of a list is kept along the
walk over its items (`bindable_go`); the rest is read off the five shapes, one after the other.
-/

namespace LivePreview

open Text

/-! ### Well-formed records -/

/-- Does a record of this kind have these fields? -/
def ImportRecord.FieldsFit (record : ImportRecord) : Prop :=
  match record.kind with
  | .sideEffect => record.defaultName = none ∧ record.namespaceName = none ∧ record.named = [] ∧
      record.typeOnly = false
  | .allExports => record.defaultName = none ∧ record.namespaceName.isSome = true ∧ record.named = []
  | .named => record.defaultName = none ∧ record.namespaceName = none
  | .default => record.defaultName.isSome = true ∧ record.namespaceName = none ∧ record.named = []
  | .defaultNamed => record.defaultName.isSome = true ∧ record.namespaceName = none

/-- A record that a module can be written from. -/
structure ImportRecord.WellFormed (record : ImportRecord) : Prop where
  distinct : record.localNames.Nodup
  names : ∀ name ∈ record.localNames, isIdent name.toList = true
  module_ne : record.module ≠ ""
  module_unquoted : '"' ∉ record.module.toList ∧ '\'' ∉ record.module.toList
  fields : record.FieldsFit

namespace ImportStatement

variable {span : SourceSpan} {marked : Bool} {text : List Char} {record : ImportRecord}
  {module : String}

/-! ### Modules -/

/-- The name of a module as it is read between quotes. -/
structure BetweenQuotes (module : String) : Prop where
  ne : module ≠ ""
  unquoted : '"' ∉ module.toList ∧ '\'' ∉ module.toList

theorem module?_betweenQuotes (h : module? text = some module) : BetweenQuotes module := by
  unfold module? at h
  split at h
  · next quote rest =>
    dsimp only at h
    split at h
    · split at h
      · next hq =>
        rw [Bool.and_eq_true, Bool.not_eq_true', List.isEmpty_eq_false_iff] at hq
        cases h
        have hname : ∀ c ∈ rest.takeWhile fun c => !(c == '"' || c == '\''),
            (!(c == '"' || c == '\'')) = true := List.all_eq_true.1 List.all_takeWhile
        constructor
        · intro he
          exact hq.2 (by simpa using congrArg String.toList he)
        · rw [String.toList_ofList]
          exact ⟨fun hc => absurd (hname _ hc) (by decide), fun hc => absurd (hname _ hc) (by decide)⟩
      · cases h
    · cases h
  · cases h

theorem fromModule?_betweenQuotes (h : fromModule? text = some module) : BetweenQuotes module := by
  simp only [fromModule?, Option.bind_eq_bind, Option.bind_eq_some_iff] at h
  obtain ⟨_, _, h⟩ := h
  exact module?_betweenQuotes h

/-! ### Named lists -/

/-- The names of these items can be bound, and none of them is among those seen. -/
structure Bindable (seen : List String) (list : List NamedImport) : Prop where
  distinct : (list.map (·.localName)).Nodup
  names : ∀ it ∈ list, isIdent it.localName.toList = true
  fresh : ∀ it ∈ list, it.localName ∉ seen

theorem bindable_go (seen : List String) (parts : List (List Char)) :
    Bindable seen (items.go seen parts) := by
  induction parts generalizing seen with
  | nil => exact ⟨List.nodup_nil, by simp [items.go], by simp [items.go]⟩
  | cons part parts ih =>
    rw [items.go]
    dsimp only
    split
    · exact ih seen
    · split
      · next hnew =>
        rw [Bool.and_eq_true, Bool.not_eq_true', ← Bool.not_eq_true, List.contains_iff_mem] at hnew
        obtain ⟨hname, hseen⟩ := hnew
        have hrest := ih ((item (trim part)).localName :: seen)
        constructor
        · rw [List.map_cons, List.nodup_cons]
          refine ⟨fun hm => ?_, hrest.distinct⟩
          obtain ⟨it, hit, heq⟩ := List.mem_map.1 hm
          exact hrest.fresh it hit (heq ▸ List.mem_cons_self)
        · intro it hit
          rcases List.mem_cons.1 hit with rfl | hit
          · exact hname
          · exact hrest.names it hit
        · intro it hit
          rcases List.mem_cons.1 hit with rfl | hit
          · exact hseen
          · exact fun hm => hrest.fresh it hit (List.mem_cons_of_mem _ hm)
      · exact ih seen

theorem bindable_items (list : List Char) : Bindable [] (items list) :=
  bindable_go [] _

/-- A default that no item has the name of is bound beside the items. -/
theorem Bindable.filter_ne {list : List NamedImport} (h : Bindable [] list) (name : String) :
    Bindable [name] (list.filter (·.localName != name)) := by
  constructor
  · exact h.distinct.sublist (List.filter_sublist.map _)
  · exact fun it hit => h.names it (List.mem_filter.1 hit).1
  · intro it hit
    have hne := (List.mem_filter.1 hit).2
    rw [bne_iff_ne] at hne
    rwa [List.mem_singleton]

/-! ### The five shapes -/

theorem sideEffect?_wellFormed (h : sideEffect? span text = some record) : record.WellFormed := by
  simp only [sideEffect?, Option.bind_eq_bind, Option.bind_eq_some_iff, Option.pure_def,
    Option.some.injEq] at h
  obtain ⟨_, _, module, hm, rfl⟩ := h
  obtain ⟨hne, hunquoted⟩ := module?_betweenQuotes hm
  exact ⟨List.nodup_nil, fun _ hn => absurd hn List.not_mem_nil, hne, hunquoted, rfl, rfl, rfl, rfl⟩

/-- The name of a record that binds one identifier. -/
theorem isIdent_ofList {name rest : List Char} (h : takeIdent? text = some (name, rest)) :
    ∀ n ∈ [String.ofList name], isIdent n.toList = true := by
  intro n hn
  rw [List.mem_singleton.1 hn, String.toList_ofList]
  exact Text.isIdent_of_takeIdent? h

theorem allExports?_wellFormed (h : allExports? span marked text = some record) :
    record.WellFormed := by
  simp only [allExports?, Option.bind_eq_bind, Option.bind_eq_some_iff, Option.pure_def,
    Option.some.injEq] at h
  obtain ⟨_, _, _, _, _, _, _, _, ⟨name, _⟩, hident, _, _, module, hm, rfl⟩ := h
  obtain ⟨hne, hunquoted⟩ := fromModule?_betweenQuotes hm
  exact ⟨List.pairwise_singleton _ _, isIdent_ofList hident, hne, hunquoted, rfl, rfl, rfl⟩

theorem named?_wellFormed (h : named? span marked text = some record) : record.WellFormed := by
  have hread : ∃ list rest module, fromModule? rest = some module ∧
      record = { kind := .named, module, span, named := items list, typeOnly := marked } := by
    cases marked <;>
    · simp only [named?, Option.bind_eq_bind, Option.bind_eq_some_iff, Option.pure_def,
        Option.some.injEq, if_true, Bool.false_eq_true, if_false] at h
      obtain ⟨_, _, _, _, ⟨list, rest⟩, _, module, hm, rfl⟩ := h
      exact ⟨list, rest, module, hm, rfl⟩
  obtain ⟨list, _, module, hm, rfl⟩ := hread
  obtain ⟨hne, hunquoted⟩ := fromModule?_betweenQuotes hm
  obtain ⟨hdistinct, hnames, -⟩ := bindable_items list
  refine ⟨hdistinct, fun name hn => ?_, hne, hunquoted, rfl, rfl⟩
  obtain ⟨it, hit, rfl⟩ := List.mem_map.1 hn
  exact hnames it hit

theorem defaultNamed?_wellFormed (h : defaultNamed? span marked text = some record) :
    record.WellFormed := by
  simp only [defaultNamed?, Option.bind_eq_bind, Option.bind_eq_some_iff, Option.pure_def,
    Option.some.injEq] at h
  obtain ⟨_, _, ⟨name, _⟩, hident, _, _, ⟨list, _⟩, _, module, hm, rfl⟩ := h
  obtain ⟨hne, hunquoted⟩ := fromModule?_betweenQuotes hm
  obtain ⟨hdistinct, hnames, hfresh⟩ := (bindable_items list).filter_ne (String.ofList name)
  refine ⟨List.nodup_cons.2 ⟨fun hn => ?_, hdistinct⟩, fun n hn => ?_, hne, hunquoted, rfl, rfl⟩
  · obtain ⟨it, hit, heq⟩ := List.mem_map.1 hn
    exact hfresh it hit (List.mem_singleton.2 heq)
  · rcases List.mem_cons.1 hn with rfl | hn
    · exact isIdent_ofList hident _ (List.mem_singleton_self _)
    · obtain ⟨it, hit, rfl⟩ := List.mem_map.1 hn
      exact hnames it hit

theorem default?_wellFormed (h : default? span marked text = some record) : record.WellFormed := by
  simp only [default?, Option.bind_eq_bind, Option.bind_eq_some_iff, Option.pure_def,
    Option.some.injEq] at h
  obtain ⟨_, _, ⟨name, _⟩, hident, _, _, module, hm, rfl⟩ := h
  obtain ⟨hne, hunquoted⟩ := fromModule?_betweenQuotes hm
  exact ⟨List.pairwise_singleton _ _, isIdent_ofList hident, hne, hunquoted, rfl, rfl, rfl⟩

/-- **Every record of a statement is well formed**, and its range is the one that the statement was
found at. -/
theorem parse?_wellFormed {statement : List Char} (h : parse? span statement = some record) :
    record.WellFormed ∧ record.span = span := by
  refine ⟨?_, parse?_span h⟩
  rcases shape?_cases h with h | ⟨marked, h | h | h | h⟩
  · exact sideEffect?_wellFormed h
  · exact allExports?_wellFormed h
  · exact named?_wellFormed h
  · exact defaultNamed?_wellFormed h
  · exact default?_wellFormed h

/-- The record of a statement whose list names the default again, and a name twice. -/
theorem parse?_wellFormed_repeated :
    let record : ImportRecord :=
      { kind := .defaultNamed, module := "m", span := ⟨2, 48⟩, defaultName := some "d",
        named := [⟨"a", "$a"⟩, ⟨"c-d", "e"⟩], typeOnly := true }
    parse? ⟨2, 48⟩ "import type d, \x7b a as $a, b as d, 'c-d' as e, type t, e \x7d from 'm';".toList =
        some record ∧
      record.WellFormed ∧ record.span = ⟨2, 48⟩ := by
  have h : parse? ⟨2, 48⟩
      "import type d, \x7b a as $a, b as d, 'c-d' as e, type t, e \x7d from 'm';".toList = some
      { kind := .defaultNamed, module := "m", span := ⟨2, 48⟩, defaultName := some "d",
        named := [⟨"a", "$a"⟩, ⟨"c-d", "e"⟩], typeOnly := true } := by
    decide +kernel
  exact ⟨h, parse?_wellFormed h⟩

end ImportStatement

end LivePreview
