import Mathlib.Data.List.Induction
import LivePreview.ModuleText
import LivePreview.Proofs.FirstOccurrence
/-!
# LivePreview.Proofs.Binding

**What the bindings bind.** The names that the records bring in are bound one after the other in the
order in which they come up first, each to the value that the first record with the name gives it; a
name that comes up again is skipped. In front of the names of a stylesheet's first record, its text is
injected, and never again.

A record does two things: it may inject a stylesheet, and then it offers names with their values
(`given`). `Settles` says what declaring offers makes of the constants and of the skipped names,
`Styled` what becomes of the injections; neither touches what the other speaks of, and both are kept
from record to record (`Settles.next`, `Styled.next`). Together they say of the statements of a module
text what they bind and inject (`ModuleText.ofSource_settled`).
-/

namespace LivePreview

/-- The name that a statement binds. -/
def BindingStatement.bound? : BindingStatement → Option String
  | const name _ => some name
  | injectStyle _ _ => none

/-- The stylesheet that a statement injects. -/
def BindingStatement.injected? : BindingStatement → Option String
  | const _ _ => none
  | injectStyle _ specifier => some specifier

/-- The resolution of a module. Of two classifications of it the later counts. -/
def resolution? (classifications : List Classification) (specifier : String) : Option Resolution :=
  (classifications.reverse.find? (·.specifier == specifier)).map (·.resolution)

/-- The classifications give the module of the record a resolution that is no refusal. -/
def Covers (classifications : List Classification) (record : ImportRecord) : Prop :=
  ∃ r, resolution? classifications record.module = some r ∧ ∀ reason, r ≠ .rejected reason

/-- The names of a record whose module has this resolution, with their values. -/
def ImportRecord.offers (files : SiblingFiles) (record : ImportRecord) (r : Resolution) :
    List (String × Expr) :=
  match r.value? files record.module with
  | some value => (Bindings.asked record).map fun (name, part) => (name, value part)
  | none => []

/-- The names of a record with the values that the classifications give them. -/
def ImportRecord.given (files : SiblingFiles) (classifications : List Classification)
    (record : ImportRecord) : List (String × Expr) :=
  match resolution? classifications record.module with
  | some r => record.offers files r
  | none => []

/-- Does the record import a stylesheet for which there is a file? -/
def ImportRecord.isSheet (files : SiblingFiles) (classifications : List Classification)
    (record : ImportRecord) : Bool :=
  match resolution? classifications record.module with
  | some (.stylesheet _) => (files.resolve? record.module).isSome
  | _ => false

namespace Bindings

variable {files : SiblingFiles} {classifications : List Classification} {record : ImportRecord}
  {records : List ImportRecord} {b : Bindings} {offers more : List (String × Expr)}
  {sheets : List String}

/-! ### A record -/

theorem map_fst_asked (record : ImportRecord) : (asked record).map (·.1) = record.localNames := by
  obtain ⟨kind, module, span, defaultName, namespaceName, named, typeOnly⟩ := record
  cases defaultName <;> cases namespaceName <;>
    simp [asked, ImportRecord.localNames, Function.comp_def]

/-- A record whose module is covered gives each of its names a value. -/
theorem map_fst_given (h : Covers classifications record) :
    (record.given files classifications).map (·.1) = record.localNames := by
  obtain ⟨r, hr, hne⟩ := h
  have hvalue : ∃ value, r.value? files record.module = some value := by
    cases r with
    | rejected reason => exact absurd rfl (hne reason)
    | _ => exact ⟨_, rfl⟩
  obtain ⟨value, hvalue⟩ := hvalue
  simp only [ImportRecord.given, hr, ImportRecord.offers, hvalue, List.map_map, Function.comp_def]
  exact map_fst_asked record

/-- What a record does before it offers its names. -/
def prepare (files : SiblingFiles) (classifications : List Classification) (b : Bindings)
    (record : ImportRecord) : Bindings :=
  if record.isSheet files classifications then b.inject files record else b

/-- The bindings behind one more record. -/
def next (files : SiblingFiles) (classifications : List Classification) (b : Bindings)
    (record : ImportRecord) : Bindings :=
  (record.given files classifications).foldl declare (prepare files classifications b record)

/-- A stylesheet without a file is not injected. -/
theorem inject_of_none (h : files.resolve? record.module = none) : b.inject files record = b := by
  simp only [inject, h]

/-- Binding what a record imports is the next step, if an import for its effect has no names. -/
theorem add_eq_next {r : Resolution} (hs : record.kind = .sideEffect → record.localNames = [])
    (hr : resolution? classifications record.module = some r) :
    b.add files record r = next files classifications b record := by
  unfold next prepare ImportRecord.given ImportRecord.isSheet
  rw [hr]
  cases r with
  | stylesheet isModule =>
    have hsheet : (if (files.resolve? record.module).isSome then b.inject files record else b) =
        b.inject files record := by
      cases hf : files.resolve? record.module with
      | none => simp only [inject_of_none hf, ite_self]
      | some css => rfl
    have hbinds : ∀ binds : Bool, (binds = false → record.kind = .sideEffect) →
        (if binds then (b.inject files record).bindEach record
            (stylesheetValue (files.resolve? record.module)) else b.inject files record) =
          (record.offers files (.stylesheet isModule)).foldl declare (b.inject files record) := by
      intro binds hkind
      cases binds with
      | true => rfl
      | false =>
        -- Nothing is bound, and there are no names that could be.
        have hasked : asked record = [] :=
          List.map_eq_nil_iff.1 ((map_fst_asked record).trans (hs (hkind rfl)))
        simp only [ImportRecord.offers, Resolution.value?, hasked]
        rfl
    rw [hsheet]
    refine hbinds (isModule || record.kind != ImportKind.sideEffect) fun h => ?_
    simpa using (Bool.or_eq_false_iff.1 h).2
  | _ => rfl

theorem ofRecords_eq (hs : ∀ r ∈ records, r.kind = .sideEffect → r.localNames = []) :
    ofRecords files records classifications =
      (records.filter (!·.typeOnly)).foldl (next files classifications) {} := by
  refine List.foldl_ext _ _ _ fun b record hr => ?_
  have hside := hs record (List.mem_filter.1 hr).1
  cases hc : classifications.reverse.find? (·.specifier == record.module) with
  | none => simp [next, prepare, ImportRecord.given, ImportRecord.isSheet, resolution?, hc]
  | some c => exact add_eq_next hside (by rw [resolution?, hc]; rfl)

/-! ### Declaring names -/

/-- The bindings are what becomes of declaring these offers. -/
structure Settles (b : Bindings) (offers : List (String × Expr)) : Prop where
  declared : ∀ name, name ∈ b.declared ↔ name ∈ offers.map (·.1)
  names : b.statements.filterMap (·.bound?) = (offers.map (·.1)).eraseDups
  values : ∀ name value, .const name value ∈ b.statements ↔
    offers.find? (·.1 == name) = some (name, value)
  skipped : b.skipped = repeats (offers.map (·.1))

theorem settles_start : Settles {} [] where
  declared _ := by simp
  names := rfl
  values _ _ := by simp
  skipped := rfl

/-- Declaring one more offer binds its name, unless an earlier offer has it. -/
theorem Settles.declare (h : b.Settles offers) (offer : String × Expr) :
    (b.declare offer).Settles (offers ++ [offer]) := by
  obtain ⟨name, value⟩ := offer
  have hfind : ∀ n, (offers ++ [(name, value)]).find? (·.1 == n) =
      (offers.find? (·.1 == n)).or (if name = n then some (name, value) else none) := by
    intro n
    by_cases hn : name = n <;> simp [List.find?_append, hn]
  have hmem : name ∈ offers.map (·.1) ↔ (offers.find? (·.1 == name)).isSome := by
    simp [List.find?_isSome]
  unfold Bindings.declare
  by_cases hd : name ∈ offers.map (·.1)
  · -- An earlier offer has the name: it is skipped, and its value is as it was.
    rw [if_pos (by simpa using (h.declared name).2 hd)]
    obtain ⟨first, hfirst⟩ := Option.isSome_iff_exists.1 (hmem.1 hd)
    constructor
    · intro n
      rw [h.declared, List.map_append, List.mem_append]
      refine (or_iff_left_of_imp fun hn => ?_).symm
      rw [List.mem_singleton.1 hn]
      exact hd
    · rw [h.names, List.map_append, List.map_singleton, eraseDups_concat, if_pos hd, List.append_nil]
    · intro n v
      rw [h.values, hfind]
      by_cases hn : name = n
      · rw [← hn, hfirst, Option.some_or]
      · rw [if_neg hn, Option.or_none]
    · rw [List.map_append, List.map_singleton, repeats_concat, if_pos hd, h.skipped]
  · -- The name is new.
    rw [if_neg (by simpa using fun hb => hd ((h.declared name).1 hb))]
    have hfirst : offers.find? (·.1 == name) = none := by
      rw [← Option.not_isSome_iff_eq_none, ← hmem]
      exact hd
    constructor
    · intro n
      rw [List.mem_cons, h.declared, List.map_append, List.mem_append, List.map_singleton,
        List.mem_singleton, or_comm]
    · rw [List.filterMap_append, h.names, List.map_append, List.map_singleton, eraseDups_concat,
        if_neg hd]
      rfl
    · intro n v
      rw [List.mem_append, h.values, hfind, List.mem_singleton, BindingStatement.const.injEq]
      by_cases hn : name = n
      · rw [← hn, hfirst, if_pos rfl, Option.none_or]
        simp [eq_comm]
      · rw [if_neg hn, Option.or_none, or_iff_left]
        exact fun he => hn he.1.symm
    · rw [List.map_append, List.map_singleton, repeats_concat, if_neg hd, List.append_nil, h.skipped]

theorem Settles.foldl (h : b.Settles offers) (more : List (String × Expr)) :
    (more.foldl Bindings.declare b).Settles (offers ++ more) := by
  induction more generalizing b offers with
  | nil => simpa using h
  | cons offer more ih => simpa using ih (h.declare offer)

/-- Injecting a stylesheet does not touch the names. -/
theorem Settles.inject (h : b.Settles offers) (files : SiblingFiles) (record : ImportRecord) :
    (b.inject files record).Settles offers := by
  unfold Bindings.inject
  split
  · split
    · exact h
    · refine ⟨h.declared, ?_, fun name value => ?_, h.skipped⟩
      · rw [List.filterMap_append, h.names]
        exact List.append_nil _
      · rw [List.mem_append, h.values, or_iff_left]
        simp
  · exact h

theorem Settles.next (h : b.Settles offers) (record : ImportRecord) :
    (next files classifications b record).Settles
      (offers ++ record.given files classifications) := by
  refine Settles.foldl ?_ _
  unfold prepare
  split
  · exact h.inject files record
  · exact h

/-! ### Injecting stylesheets -/

/-- The bindings inject these stylesheets, each once, in the order in which they come up first. -/
structure Styled (files : SiblingFiles) (b : Bindings) (sheets : List String) : Prop where
  injected : ∀ specifier, specifier ∈ b.injected ↔ specifier ∈ sheets
  once : b.statements.filterMap (·.injected?) = sheets.eraseDups
  css : ∀ css specifier, .injectStyle css specifier ∈ b.statements →
    files.resolve? specifier = some css

theorem styled_start : Styled files {} [] where
  injected _ := by simp
  once := rfl
  css _ _ h := absurd h List.not_mem_nil

/-- Declaring a name does not touch the injections. -/
theorem Styled.declare (h : b.Styled files sheets) (offer : String × Expr) :
    (b.declare offer).Styled files sheets := by
  unfold Bindings.declare
  split
  · exact ⟨h.injected, h.once, h.css⟩
  · refine ⟨h.injected, ?_, fun css specifier hm => ?_⟩
    · rw [List.filterMap_append, h.once]
      exact List.append_nil _
    · rcases List.mem_append.1 hm with hm | hm
      · exact h.css css specifier hm
      · exact absurd (List.mem_singleton.1 hm) BindingStatement.noConfusion

theorem Styled.foldl (h : b.Styled files sheets) (more : List (String × Expr)) :
    (more.foldl Bindings.declare b).Styled files sheets := by
  induction more generalizing b with
  | nil => exact h
  | cons offer more ih => exact ih (h.declare offer)

/-- A stylesheet with a file is injected, unless it was before. -/
theorem Styled.inject (h : b.Styled files sheets) (hf : (files.resolve? record.module).isSome) :
    (b.inject files record).Styled files (sheets ++ [record.module]) := by
  obtain ⟨css, hcss⟩ := Option.isSome_iff_exists.1 hf
  simp only [Bindings.inject, hcss]
  by_cases hd : record.module ∈ sheets
  · rw [if_pos (by simpa using (h.injected _).2 hd)]
    refine ⟨fun s => ?_, ?_, h.css⟩
    · rw [h.injected, List.mem_append]
      refine (or_iff_left_of_imp fun hs => ?_).symm
      rw [List.mem_singleton.1 hs]
      exact hd
    · rw [h.once, eraseDups_concat, if_pos hd, List.append_nil]
  · rw [if_neg (by simpa using fun hb => hd ((h.injected _).1 hb))]
    refine ⟨fun s => ?_, ?_, fun c s hm => ?_⟩
    · rw [List.mem_cons, h.injected, List.mem_append, List.mem_singleton, or_comm]
    · rw [List.filterMap_append, h.once, eraseDups_concat, if_neg hd]
      rfl
    · rcases List.mem_append.1 hm with hm | hm
      · exact h.css c s hm
      · injection List.mem_singleton.1 hm with hc hs
        rw [hc, hs]
        exact hcss

/-- The stylesheets that the records import and for which there are files. -/
def sheetsOf (files : SiblingFiles) (classifications : List Classification)
    (records : List ImportRecord) : List String :=
  (records.filter (·.isSheet files classifications)).map (·.module)

theorem exists_file_of_isSheet (h : record.isSheet files classifications = true) :
    (files.resolve? record.module).isSome := by
  unfold ImportRecord.isSheet at h
  split at h
  · exact h
  · exact absurd h Bool.false_ne_true

theorem Styled.next (h : b.Styled files (sheetsOf files classifications records))
    (record : ImportRecord) :
    (next files classifications b record).Styled files
      (sheetsOf files classifications (records ++ [record])) := by
  refine Styled.foldl ?_ _
  unfold prepare
  rw [sheetsOf, List.filter_append, List.map_append]
  by_cases hs : record.isSheet files classifications = true
  · rw [if_pos hs, List.filter_cons_of_pos hs]
    exact h.inject (exists_file_of_isSheet hs)
  · rw [if_neg hs, List.filter_cons_of_neg hs, List.filter_nil, List.map_nil, List.append_nil]
    exact h

/-! ### A run over records -/

theorem settles_run (files : SiblingFiles) (classifications : List Classification)
    (records : List ImportRecord) :
    (records.foldl (next files classifications) {}).Settles
      (records.flatMap (·.given files classifications)) := by
  induction records using List.reverseRecOn with
  | nil => exact settles_start
  | append_singleton records record ih =>
    rw [List.foldl_append, List.flatMap_append, List.flatMap_singleton]
    exact ih.next record

theorem styled_run (files : SiblingFiles) (classifications : List Classification)
    (records : List ImportRecord) :
    (records.foldl (next files classifications) {}).Styled files
      (sheetsOf files classifications records) := by
  induction records using List.reverseRecOn with
  | nil => exact styled_start
  | append_singleton records record ih =>
    rw [List.foldl_append]
    exact ih.next record

theorem prefix_declare (b : Bindings) (more : List (String × Expr)) :
    b.statements <+: (more.foldl declare b).statements := by
  induction more generalizing b with
  | nil => exact List.prefix_refl _
  | cons offer more ih =>
    refine List.IsPrefix.trans ?_ (ih (b.declare offer))
    unfold declare
    split
    · exact List.prefix_refl _
    · exact List.prefix_append _ _

theorem prefix_run (b : Bindings) (records : List ImportRecord) :
    b.statements <+: (records.foldl (next files classifications) b).statements := by
  induction records generalizing b with
  | nil => exact List.prefix_refl _
  | cons record records ih =>
    refine List.IsPrefix.trans ?_ (ih (next files classifications b record))
    refine List.IsPrefix.trans ?_ (prefix_declare _ _)
    unfold prepare inject
    split
    · split
      · split
        · exact List.prefix_refl _
        · exact List.prefix_append _ _
      · exact List.prefix_refl _
    · exact List.prefix_refl _

/-- What stands in front of an injection that is made once is determined. -/
theorem eq_of_injected {front front' back back' : List BindingStatement}
    {statement statement' : BindingStatement} {specifier : String}
    (hs : statement.injected? = some specifier) (hs' : statement'.injected? = some specifier)
    (h : front ++ statement :: back = front' ++ statement' :: back')
    (hn : ((front ++ statement :: back).filterMap (·.injected?)).Nodup) : front = front' := by
  -- A second injection further on would be listed twice.
  have hfurther : ∀ {a b c : List BindingStatement} {s t : BindingStatement},
      s.injected? = some specifier → t.injected? = some specifier →
      ((a ++ s :: (b ++ t :: c)).filterMap (·.injected?)).Nodup → False := by
    intro a b c s t hs ht hn
    simp [List.nodup_append, hs, ht] at hn
  rcases List.append_eq_append_iff.1 h with ⟨more, rfl, hmore⟩ | ⟨more, rfl, hmore⟩
  · cases more with
    | nil => simp
    | cons first more =>
      rw [List.cons_append, List.cons.injEq] at hmore
      rw [hmore.2] at hn
      exact (hfurther hs hs' hn).elim
  · cases more with
    | nil => simp
    | cons first more =>
      rw [List.cons_append, List.cons.injEq] at hmore
      rw [h, hmore.2] at hn
      exact (hfurther hs' hs hn).elim

/-- Only the module decides whether a record imports a stylesheet with a file. -/
theorem isSheet_congr {record' : ImportRecord} (h : record.module = record'.module) :
    record.isSheet files classifications = record'.isSheet files classifications := by
  unfold ImportRecord.isSheet
  rw [h]

theorem map_fst_flatMap_given (files : SiblingFiles) (h : ∀ r ∈ records, Covers classifications r) :
    (records.flatMap (·.given files classifications)).map (·.1) =
      records.flatMap (·.localNames) := by
  rw [List.map_flatMap]
  exact List.flatMap_congr fun r hr => map_fst_given (h r hr)

/-- An injection stands behind the names of the records in front of the first one that imports its
stylesheet, and in front of all other names. -/
theorem front_of_injected {front back : List ImportRecord} {before after : List BindingStatement}
    {css : String} (hr : record.module ∉ front.map (·.module))
    (h : ((front ++ record :: back).foldl (next files classifications) {}).statements =
      before ++ .injectStyle css record.module :: after) :
    before = (front.foldl (next files classifications) {}).statements := by
  have hall := styled_run files classifications (front ++ record :: back)
  have hbefore := styled_run files classifications front
  have honce := hall.once
  have hnodup := honce ▸ nodup_eraseDups (sheetsOf files classifications (front ++ record :: back))
  -- The record imports a stylesheet with a file, for some record of the same module does.
  have hsheet : record.isSheet files classifications = true := by
    have hm : record.module ∈ sheetsOf files classifications (front ++ record :: back) := by
      rw [← List.mem_eraseDups, ← honce, h]
      simp [BindingStatement.injected?]
    obtain ⟨r, hm, hmodule⟩ := List.mem_map.1 hm
    rw [isSheet_congr hmodule.symm]
    exact (List.mem_filter.1 hm).2
  obtain ⟨text, hfile⟩ := Option.isSome_iff_exists.1 (exists_file_of_isSheet hsheet)
  have hfresh : record.module ∉ (front.foldl (next files classifications) {}).injected := by
    rw [hbefore.injected]
    intro hm
    obtain ⟨r, hm, hmodule⟩ := List.mem_map.1 hm
    exact hr (hmodule ▸ List.mem_map_of_mem (List.mem_filter.1 hm).1)
  obtain ⟨rest, hrest⟩ : (front.foldl (next files classifications) {}).statements ++
      [.injectStyle text record.module] <+:
      ((front ++ record :: back).foldl (next files classifications) {}).statements := by
    rw [List.foldl_append, List.foldl_cons]
    refine List.IsPrefix.trans ?_ (prefix_run _ back)
    refine List.IsPrefix.trans ?_ (prefix_declare _ _)
    have hnot :
        ¬ (front.foldl (next files classifications) {}).injected.contains record.module = true := by
      simpa using hfresh
    simp only [prepare, hsheet, if_true, inject, hfile, if_neg hnot]
    exact List.prefix_refl _
  rw [List.append_assoc, List.singleton_append] at hrest
  rw [h] at hrest hnodup
  exact eq_of_injected rfl rfl hrest.symm hnodup

end Bindings

/-! ### The statements of a module text -/

namespace ModuleText

/-- The statements of a module text bind the names of these records once each, and inject their
stylesheets once each. -/
structure Settled (m : ModuleText) (files : SiblingFiles) (classifications : List Classification)
    (records : List ImportRecord) : Prop where
  /-- The constants are the names of the records, each once, as they come up first. -/
  names : m.bindings.filterMap (·.bound?) = (records.flatMap (·.localNames)).eraseDups
  /-- A name has the value that the first record with this name gives it. -/
  values : ∀ name value, .const name value ∈ m.bindings ↔
    ∃ front r back, records = front ++ r :: back ∧ name ∉ front.flatMap (·.localNames) ∧
      (r.given files classifications).find? (·.1 == name) = some (name, value)
  /-- Wherever else a name comes up, it is skipped. -/
  skipped : m.skipped = repeats (records.flatMap (·.localNames))
  /-- What else there is are the stylesheets with a file, each once, as they come up first. -/
  sheets : m.bindings.filterMap (·.injected?) =
    ((records.filter (·.isSheet files classifications)).map (·.module)).eraseDups
  /-- It is the text of the file that is injected. -/
  css : ∀ css specifier, .injectStyle css specifier ∈ m.bindings →
    files.resolve? specifier = some css
  /-- In front of an injection stand names of the records in front of the first one that imports the
  stylesheet, and no others. -/
  ahead : ∀ front r back before css after, records = front ++ r :: back →
    r.module ∉ front.map (·.module) →
    m.bindings = before ++ .injectStyle css r.module :: after →
    ∀ name value, .const name value ∈ before → name ∈ front.flatMap (·.localNames)

open Bindings in
/-- Where imports for their effect have no names and no module that counts at run time is refused, the
statements of a module text bind the names of the records that count, each once, and inject their
stylesheets, each once and in front of what it styles. -/
theorem ofSource_settled {records : List ImportRecord} {classifications : List Classification}
    (hside : ∀ r ∈ records, r.kind = .sideEffect → r.localNames = [])
    (hcover : ∀ r ∈ records, r.typeOnly = false → Covers classifications r)
    (stripped : String) (files : SiblingFiles) :
    (ofSource stripped records classifications files).Settled files classifications
      (records.filter (!·.typeOnly)) := by
  have hcover : ∀ r ∈ records.filter (!·.typeOnly), Covers classifications r := by
    intro r hr
    rw [List.mem_filter, Bool.not_eq_true'] at hr
    exact hcover r hr.1 hr.2
  have hbindings : (ofSource stripped records classifications files).bindings =
      ((records.filter (!·.typeOnly)).foldl (next files classifications) {}).statements :=
    congrArg Bindings.statements (ofRecords_eq hside)
  have hskipped : (ofSource stripped records classifications files).skipped =
      ((records.filter (!·.typeOnly)).foldl (next files classifications) {}).skipped :=
    congrArg Bindings.skipped (ofRecords_eq hside)
  generalize records.filter (!·.typeOnly) = counting at hcover hbindings hskipped ⊢
  have hsettles := settles_run files classifications counting
  have hstyled := styled_run files classifications counting
  have hnames := map_fst_flatMap_given files hcover
  constructor
  · rw [hbindings, hsettles.names, hnames]
  · intro name value
    rw [hbindings, hsettles.values, List.find?_flatMap, List.findSome?_eq_some_iff]
    constructor
    · rintro ⟨front, r, back, rfl, hr, hfront⟩
      refine ⟨front, r, back, rfl, ?_, hr⟩
      rw [← map_fst_flatMap_given files fun q hq => hcover q (List.mem_append_left _ hq)]
      intro hm
      obtain ⟨⟨n, v⟩, hoffer, rfl⟩ := List.mem_map.1 hm
      obtain ⟨q, hq, hoffer⟩ := List.mem_flatMap.1 hoffer
      simpa using List.find?_eq_none.1 (hfront q hq) _ hoffer
    · rintro ⟨front, r, back, rfl, hname, hr⟩
      refine ⟨front, r, back, rfl, hr, fun q hq => List.find?_eq_none.2 fun offer hm => ?_⟩
      rw [← map_fst_flatMap_given files fun q hq => hcover q (List.mem_append_left _ hq)]
        at hname
      simp only [beq_iff_eq]
      rintro rfl
      exact hname (List.mem_map_of_mem (List.mem_flatMap.2 ⟨q, hq, hm⟩))
  · rw [hskipped, hsettles.skipped, hnames]
  · rw [hbindings]
    exact hstyled.once
  · intro css specifier hm
    rw [hbindings] at hm
    exact hstyled.css css specifier hm
  · rintro front r back before css after rfl hr hbefore name value hm
    rw [hbindings] at hbefore
    -- What is in front of the injection are the bindings of the records in front.
    rw [front_of_injected hr hbefore] at hm
    have hfront := settles_run files classifications front
    rw [← List.mem_eraseDups,
      ← map_fst_flatMap_given files fun q hq => hcover q (List.mem_append_left _ hq),
      ← hfront.names]
    exact List.mem_filterMap.2 ⟨_, hm, rfl⟩

end ModuleText

end LivePreview
