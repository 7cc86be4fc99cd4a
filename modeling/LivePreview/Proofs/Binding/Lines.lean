import LivePreview.Proofs.Binding
/-!
# LivePreview.Proofs.Binding.Lines

**What the binding statements say.** The texts in front of a component are `const name = expression;`
for the names of its imports and `__env.__injectStyle(css, specifier);` for its stylesheets. Which names
these are, which of them are skipped and where the stylesheets stand is known of the statements as data
(`ModuleText.ofSource_settled`); here it is said of their texts. The expressions are written out
(`Resolution.expression?`), apart from the syntax trees that are printed.
-/

namespace LivePreview

/-! ### Lines -/

/-- A statement in front of the component, as it is written. -/
inductive BindingLine
  | const (name expression : String)
  | style (css specifier : String)
  deriving Repr, DecidableEq

namespace BindingLine

def text : BindingLine → String
  | const name expression => "const " ++ name ++ " = " ++ expression ++ ";"
  | style css specifier =>
    "__env.__injectStyle(" ++ Json.literal css ++ ", " ++ Json.literal specifier ++ ");"

/-- The name that a line binds. -/
def bound? : BindingLine → Option String
  | const name _ => some name
  | style _ _ => none

/-- The stylesheet that a line injects. -/
def injected? : BindingLine → Option String
  | const _ _ => none
  | style _ specifier => some specifier

end BindingLine

/-! ### Expressions -/

/-- A property: `object.name`, or `object["name"]` if the name is no identifier. -/
def propertyText (object name : String) : String :=
  if Text.isIdent name.toList then object ++ "." ++ name
  else object ++ "[" ++ Json.literal name ++ "]"

/-- The expression for part of a package that waits in a slot. -/
def packageExpression (slot : String) : Asked → String
  | .default => "(" ++ slot ++ " || \x7b\x7d).default || " ++ slot ++ " || \x7b\x7d"
  | .everything => slot ++ " || \x7b\x7d"
  | .export name =>
    propertyText ("(" ++ slot ++ " || \x7b\x7d)") name ++ " ?? " ++
      propertyText ("((" ++ slot ++ " || \x7b\x7d).default || \x7b\x7d)") name

/-- The expression for part of an animation package. A default import asks for the export that the path
ends in. -/
def animationExpression (last slot standIn : String) : Asked → String
  | .default =>
    propertyText ("(" ++ slot ++ " || \x7b\x7d)") last ++ " ?? " ++ propertyText standIn last ++
      " ?? (" ++ slot ++ " || \x7b\x7d).default ?? " ++ standIn ++ ".default"
  | .everything => "Object.assign(\x7b\x7d, " ++ standIn ++ ", " ++ slot ++ ")"
  | .export name =>
    propertyText ("(" ++ slot ++ " || \x7b\x7d)") name ++ " ?? " ++ propertyText standIn name

/-- The expression for part of a helper. -/
def helperExpression (standIn : String) : Asked → String
  | .default => standIn ++ ".default"
  | .everything => standIn
  | .export name => propertyText standIn name ++ " ?? " ++ standIn ++ ".default"

/-- The expression for part of a stylesheet: a class that it has, or all of them. -/
def sheetExpression : Option String → Asked → String
  | some css, .export name => if name ∈ Stylesheet.classNames css then Json.literal name else "undefined"
  | none, .export _ => "undefined"
  | some css, _ => (Stylesheet.lookup css).text
  | none, _ => "\x7b\x7d"

/-- The expression for part of a module with this resolution, if it is no refusal. -/
def Resolution.expression? (files : SiblingFiles) (specifier : String) (r : Resolution)
    (part : Asked) : Option String :=
  let slot (name : String) := "__env[\"" ++ name ++ "\"]"
  match r, part with
  | framework global, .export name => some (propertyText ("__env." ++ global) name)
  | framework global, _ => some ("__env." ++ global)
  | stylesheet _, part => some (sheetExpression (files.resolve? specifier) part)
  | localEmpty, .everything => some "new Proxy(\x7b\x7d, \x7b get: () => __env.__noop \x7d)"
  | localEmpty, _ => some "__env.__noop"
  | animationFamily base, part => some (animationExpression (lastSegment specifier)
      (slot (Slot.ofSpecifier base)) (slot (StandIn.animationSlot base)) part)
  | helperShim helper, part => some (helperExpression (slot (StandIn.helperSlot helper)) part)
  | shim _, part | localShim _, part | fetch _ _, part =>
    some (packageExpression (slot (Slot.ofSpecifier specifier)) part)
  | rejected _, _ => none

/-- What the record asks for under a name: its default export, everything, or what a listed name stands
for, whichever comes first. -/
def ImportRecord.asksFor? (record : ImportRecord) (name : String) : Option Asked :=
  if record.defaultName = some name then some .default
  else if record.namespaceName = some name then some .everything
  else (record.named.find? (·.localName == name)).map fun n =>
    if n.exported = "default" then .default else .export n.exported

/-! ### What is printed -/

namespace Expr

theorem render_memberOf (e : Expr) (name : String) :
    (e.memberOf name).render = propertyText ("(" ++ e.render ++ " || \x7b\x7d)") name := by
  have hgroup : e.orEmpty.render = "(" ++ e.render ++ " || \x7b\x7d)" := by
    show "(" ++ (e.render ++ " || " ++ "\x7b\x7d") ++ ")" = _
    refine String.toList_inj.1 ?_
    simp
  show propertyText e.orEmpty.render name = _
  rw [hgroup]

end Expr

theorem propertyText_default (object : String) : propertyText object "default" = object ++ ".default" := by
  have hname : Text.isIdent "default".toList = true := by decide
  rw [propertyText, if_pos hname, String.append_assoc]
  rfl

namespace Expr

/-- The default export of a package, if the package is there. -/
theorem render_memberOf_default (e : Expr) :
    (e.memberOf "default").render = "(" ++ e.render ++ " || \x7b\x7d).default" := by
  rw [render_memberOf, propertyText_default]
  refine String.toList_inj.1 ?_
  simp

theorem render_packageValue (slot : Expr) (part : Asked) :
    (packageValue slot part).render = packageExpression slot.render part := by
  cases part with
  | default =>
    show (slot.memberOf "default").render ++ " || " ++ (slot.render ++ " || " ++ "\x7b\x7d") = _
    rw [render_memberOf_default, packageExpression]
    refine String.toList_inj.1 ?_
    simp
  | everything => exact String.append_assoc
  | «export» name =>
    have hobject : "(" ++ ("(" ++ slot.render ++ " || \x7b\x7d).default") ++ " || \x7b\x7d)" =
        "((" ++ slot.render ++ " || \x7b\x7d).default || \x7b\x7d)" := by
      refine String.toList_inj.1 ?_
      simp
    show (slot.memberOf name).render ++ " ?? " ++ ((slot.memberOf "default").memberOf name).render = _
    rw [render_memberOf, render_memberOf, render_memberOf_default, hobject]
    rfl

theorem render_animationValue (specifier : String) (slot standIn : Expr) (part : Asked) :
    (animationValue specifier slot standIn part).render =
      animationExpression (lastSegment specifier) slot.render standIn.render part := by
  cases part with
  | default =>
    let last := lastSegment specifier
    have hexpression : animationExpression last slot.render standIn.render .default =
        propertyText ("(" ++ slot.render ++ " || \x7b\x7d)") last ++ " ?? " ++
          propertyText standIn.render last ++ " ?? (" ++ slot.render ++ " || \x7b\x7d).default ?? " ++
            standIn.render ++ ".default" := rfl
    show (slot.memberOf last).render ++ " ?? " ++ (propertyText standIn.render last ++ " ?? " ++
      ((slot.memberOf "default").render ++ " ?? " ++ propertyText standIn.render "default")) = _
    rw [hexpression, render_memberOf, render_memberOf_default, propertyText_default]
    refine String.toList_inj.1 ?_
    simp
  | everything =>
    have hmerge : (Expr.merge standIn slot).render =
        "Object.assign(\x7b\x7d, " ++ standIn.render ++ ", " ++ slot.render ++ ")" := rfl
    exact hmerge
  | «export» name =>
    show (slot.memberOf name).render ++ " ?? " ++ propertyText standIn.render name = _
    rw [render_memberOf]
    rfl

theorem render_helperValue (standIn : Expr) (part : Asked) :
    (helperValue standIn part).render = helperExpression standIn.render part := by
  cases part with
  | default => exact propertyText_default standIn.render
  | everything => rfl
  | «export» name =>
    show propertyText standIn.render name ++ " ?? " ++ propertyText standIn.render "default" = _
    rw [propertyText_default, helperExpression]
    refine String.toList_inj.1 ?_
    simp

theorem render_stylesheetValue (css : Option String) (part : Asked) :
    (stylesheetValue css part).render = sheetExpression css part := by
  cases css with
  | none => cases part <;> rfl
  | some css =>
    cases part with
    | default | everything => rfl
    | «export» name =>
      unfold stylesheetValue sheetExpression
      dsimp only
      by_cases hname : name ∈ Stylesheet.classNames css
      · rw [if_pos hname, if_pos (List.contains_iff_mem.2 hname)]
        rfl
      · rw [if_neg hname, if_neg fun hc => hname (List.contains_iff_mem.1 hc)]
        rfl

end Expr

/-- The value of part of a module is printed as its expression. -/
theorem Resolution.render_value? (files : SiblingFiles) (specifier : String) (r : Resolution)
    (part : Asked) :
    (r.value? files specifier).map (fun value => (value part).render) =
      r.expression? files specifier part := by
  cases r with
  | «framework» global => cases part <;> rfl
  | stylesheet isModule => exact congrArg some (Expr.render_stylesheetValue _ part)
  | localEmpty => cases part <;> rfl
  | animationFamily base => exact congrArg some (Expr.render_animationValue specifier _ _ part)
  | helperShim helper => exact congrArg some (Expr.render_helperValue _ part)
  | shim _ | localShim _ | fetch _ _ => exact congrArg some (Expr.render_packageValue _ part)
  | rejected _ => rfl

/-- What a record asks for under a name is what the first of its names that is this one asks for. -/
theorem Bindings.find?_asked (record : ImportRecord) (name : String) :
    (asked record).find? (·.1 == name) = (record.asksFor? name).map (name, ·) := by
  have hnamed : ∀ named : List NamedImport,
      (named.map fun n =>
        (n.localName, if n.exported = "default" then Asked.default else .export n.exported)).find?
          (·.1 == name) =
        ((named.find? (·.localName == name)).map fun n =>
          if n.exported = "default" then Asked.default else .export n.exported).map (name, ·) := by
    intro named
    induction named with
    | nil => rfl
    | cons n named ih =>
      by_cases hn : n.localName = name
      · simp [hn]
      · simp [hn, ih]
  obtain ⟨kind, module, span, defaultName, namespaceName, named, typeOnly⟩ := record
  rw [asked, ImportRecord.asksFor?, List.find?_append, List.find?_append, hnamed]
  have hone : ∀ (first : Option String) (part : Asked),
      (first.toList.map (·, part)).find? (·.1 == name) =
        if first = some name then some (name, part) else none := by
    intro first part
    cases first with
    | none => rfl
    | some first => by_cases hn : first = name <;> simp [hn]
  rw [hone, hone]
  split_ifs <;> rfl

/-- A record gives a name a value that is printed as the expression for what it asks for. -/
theorem ImportRecord.exists_given_iff {files : SiblingFiles} {classifications : List Classification}
    {record : ImportRecord} {name expression : String} :
    (∃ value, (record.given files classifications).find? (·.1 == name) = some (name, value) ∧
        value.render = expression) ↔
      ∃ resolution part, resolution? classifications record.module = some resolution ∧
        record.asksFor? name = some part ∧
        resolution.expression? files record.module part = some expression := by
  unfold ImportRecord.given
  cases hr : resolution? classifications record.module with
  | none => simp
  | some r =>
    have hprinted := r.render_value? files record.module
    simp only [ImportRecord.offers]
    cases hv : r.value? files record.module with
    | none =>
      simp only [hv, Option.map_none] at hprinted
      simp [← hprinted]
    | some value =>
      simp only [hv, Option.map_some] at hprinted
      have hfind : ((Bindings.asked record).map fun a => (a.1, value a.2)).find? (·.1 == name) =
          (record.asksFor? name).map fun part => (name, value part) := by
        rw [List.find?_map]
        show ((Bindings.asked record).find? (·.1 == name)).map _ = _
        rw [Bindings.find?_asked, Option.map_map]
        rfl
      constructor
      · rintro ⟨v, hgiven, rfl⟩
        obtain ⟨part, hpart, hvalue⟩ := Option.map_eq_some_iff.1 (hfind.symm.trans hgiven)
        obtain rfl := (Prod.mk.inj hvalue).2
        exact ⟨r, part, rfl, hpart, (hprinted part).symm⟩
      · rintro ⟨resolution, part, hresolution, hpart, hexpression⟩
        obtain rfl := Option.some.inj hresolution
        refine ⟨value part, ?_, Option.some.inj ((hprinted part).trans hexpression)⟩
        rw [hfind, hpart]
        rfl

/-! ### The texts of a module -/

/-- The line on which a statement is written. -/
def BindingStatement.line : BindingStatement → BindingLine
  | const name value => .const name value.render
  | injectStyle css specifier => .style css specifier

section Statements

variable {statements : List BindingStatement} {name expression css specifier : String}

theorem const_mem_map_line :
    .const name expression ∈ statements.map (·.line) ↔
      ∃ value, .const name value ∈ statements ∧ value.render = expression := by
  rw [List.mem_map]
  constructor
  · rintro ⟨s, hs, hline⟩
    cases s with
    | const n value =>
      cases hline
      exact ⟨value, hs, rfl⟩
    | injectStyle _ _ => cases hline
  · rintro ⟨value, hs, rfl⟩
    exact ⟨_, hs, rfl⟩

theorem style_mem_map_line :
    .style css specifier ∈ statements.map (·.line) ↔ .injectStyle css specifier ∈ statements := by
  rw [List.mem_map]
  constructor
  · rintro ⟨s, hs, hline⟩
    cases s with
    | const _ _ => cases hline
    | injectStyle _ _ =>
      cases hline
      exact hs
  · exact fun hs => ⟨_, hs, rfl⟩

end Statements

namespace ModuleText

/-- The lines bind the names of these records once each, and inject their stylesheets once each; these
names are skipped. -/
structure BindsOnce (lines : List BindingLine) (skippedNames : List String) (files : SiblingFiles)
    (classifications : List Classification) (records : List ImportRecord) : Prop where
  /-- The constants are the names of the records, each once, as they come up first. -/
  names : lines.filterMap (·.bound?) = (records.flatMap (·.localNames)).eraseDups
  /-- A name has the expression for what the first record with this name asks for under it. -/
  values : ∀ name expression, .const name expression ∈ lines ↔
    ∃ front r back resolution part, records = front ++ r :: back ∧
      name ∉ front.flatMap (·.localNames) ∧
      resolution? classifications r.module = some resolution ∧ r.asksFor? name = some part ∧
      resolution.expression? files r.module part = some expression
  /-- Wherever else a name comes up, it is skipped. -/
  skipped : skippedNames = repeats (records.flatMap (·.localNames))
  /-- What else there is are the stylesheets with a file, each once, as they come up first. -/
  sheets : lines.filterMap (·.injected?) =
    ((records.filter (·.isSheet files classifications)).map (·.module)).eraseDups
  /-- It is the text of the file that is injected. -/
  css : ∀ css specifier, .style css specifier ∈ lines → files.resolve? specifier = some css
  /-- In front of an injection stand names of the records in front of the first one that imports the
  stylesheet, and no others. -/
  ahead : ∀ front r back before css after, records = front ++ r :: back →
    r.module ∉ front.map (·.module) → lines = before ++ .style css r.module :: after →
    ∀ name expression, .const name expression ∈ before → name ∈ front.flatMap (·.localNames)

/-- **Each name once.** Where imports for their effect have no names and no module that counts at run
time is refused, the binding texts of a module are lines that bind the names of the records that count,
each once and to the expression for what it was imported as, and inject their stylesheets, each once and
in front of what it styles. -/
theorem ofSource_bindsOnce {records : List ImportRecord} {classifications : List Classification}
    (hside : ∀ r ∈ records, r.kind = .sideEffect → r.localNames = [])
    (hcover : ∀ r ∈ records, r.typeOnly = false → Covers classifications r)
    (stripped : String) (files : SiblingFiles) :
    let m := ofSource stripped records classifications files
    ∃ lines : List BindingLine, m.bindingTexts = lines.map (·.text) ∧
      BindsOnce lines m.skipped files classifications (records.filter (!·.typeOnly)) := by
  intro m
  have h := ofSource_settled hside hcover stripped files
  refine ⟨m.bindings.map (·.line), ?_, ?_, ?_, h.skipped, ?_, ?_, ?_⟩
  · rw [bindingTexts, List.map_map]
    refine List.map_congr_left fun s _ => ?_
    cases s <;> rfl
  · rw [List.filterMap_map, ← h.names]
    refine List.filterMap_congr fun s _ => ?_
    cases s <;> rfl
  · intro name expression
    rw [const_mem_map_line]
    constructor
    · rintro ⟨value, hm, hprinted⟩
      obtain ⟨front, r, back, hrecords, hname, hgiven⟩ := (h.values name value).1 hm
      obtain ⟨resolution, part, hexpression⟩ := ImportRecord.exists_given_iff.1 ⟨value, hgiven, hprinted⟩
      exact ⟨front, r, back, resolution, part, hrecords, hname, hexpression⟩
    · rintro ⟨front, r, back, resolution, part, hrecords, hname, hexpression⟩
      obtain ⟨value, hgiven, hprinted⟩ := ImportRecord.exists_given_iff.2 ⟨resolution, part, hexpression⟩
      exact ⟨value, (h.values name value).2 ⟨front, r, back, hrecords, hname, hgiven⟩, hprinted⟩
  · rw [List.filterMap_map, ← h.sheets]
    refine List.filterMap_congr fun s _ => ?_
    cases s <;> rfl
  · exact fun css specifier hm => h.css css specifier (style_mem_map_line.1 hm)
  · intro front r back before css after hrecords hr hlines name expression hm
    obtain ⟨ahead, rest, hbindings, rfl, hrest⟩ := List.map_eq_append_iff.1 hlines
    obtain ⟨s, behind, rfl, hs, -⟩ := List.map_eq_cons_iff.1 hrest
    obtain ⟨value, hm, -⟩ := const_mem_map_line.1 hm
    cases s with
    | const _ _ => cases hs
    | injectStyle text specifier =>
      cases hs
      exact h.ahead front r back ahead _ behind hrecords hr hbindings name value hm

/-- A stylesheet that is imported twice, names that come up again, and types. -/
def styledRecords : List ImportRecord :=
  [{ kind := .sideEffect, module := "./card.css", span := ⟨0, 21⟩ },
    { kind := .defaultNamed, module := "react", span := ⟨21, 57⟩, defaultName := some "React",
      named := [⟨"useState", "useState"⟩] },
    { kind := .defaultNamed, module := "./card.css", span := ⟨57, 99⟩, defaultName := some "styles",
      named := [⟨"card", "card"⟩, ⟨"useState", "useState"⟩] },
    { kind := .named, module := "./types", span := ⟨99, 139⟩, named := [⟨"T", "T"⟩],
      typeOnly := true },
    { kind := .named, module := "react", span := ⟨139, 180⟩,
      named := [⟨"default", "card"⟩, ⟨"memo", "memo"⟩] }]

def styledClassifications : List Classification :=
  [⟨"react", .core, .framework "React"⟩, ⟨"./card.css", .nearby, .stylesheet false⟩]

def styledFiles : SiblingFiles :=
  SiblingFiles.empty.insert "card.css" ".card \x7b color: red \x7d"

/-- The names of the stylesheet and of the framework, each bound once. -/
theorem ofSource_bindsOnce_styles :
    let m := ofSource "" styledRecords styledClassifications styledFiles
    (∀ r ∈ styledRecords, r.kind = .sideEffect → r.localNames = []) ∧
      (∀ r ∈ styledRecords, r.typeOnly = false → Covers styledClassifications r) ∧
      ∃ lines : List BindingLine, m.bindingTexts = lines.map (·.text) ∧
        BindsOnce lines m.skipped styledFiles styledClassifications
          (styledRecords.filter (!·.typeOnly)) ∧
        lines.filterMap (·.bound?) = ["React", "useState", "styles", "card", "memo"] ∧
        m.skipped = ["useState", "card"] ∧ lines.filterMap (·.injected?) = ["./card.css"] ∧
        .const "memo" "__env.React.memo" ∈ lines := by
  intro m
  have hside : ∀ r ∈ styledRecords, r.kind = .sideEffect → r.localNames = [] := by decide
  have hcover : ∀ r ∈ styledRecords, r.typeOnly = false → Covers styledClassifications r := by
    intro r hr ht
    simp only [styledRecords, List.mem_cons, List.not_mem_nil, or_false] at hr
    rcases hr with rfl | rfl | rfl | rfl | rfl
    · exact ⟨.stylesheet false, by decide, nofun⟩
    · exact ⟨.framework "React", by decide, nofun⟩
    · exact ⟨.stylesheet false, by decide, nofun⟩
    · exact absurd ht (by decide)
    · exact ⟨.framework "React", by decide, nofun⟩
  obtain ⟨lines, htexts, h⟩ := ofSource_bindsOnce hside hcover "" styledFiles
  refine ⟨hside, hcover, lines, htexts, h, h.names.trans (by decide), h.skipped.trans (by decide),
    h.sheets.trans (by decide), (h.values _ _).2 ?_⟩
  exact ⟨styledRecords.take 3, styledRecords.getLast (by decide), [], .framework "React", .export "memo",
    by decide, by decide, by decide, by decide, by decide⟩

end ModuleText

end LivePreview
