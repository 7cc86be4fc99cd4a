import LivePreview.Proofs.Loader.Serving
import LivePreview.Proofs.Slot.Environment
import LivePreview.Proofs.Slot.Reading
import LivePreview.Proofs.Text.Occurrence
/-!
# LivePreview.Proofs.Loader.Deeds

**What a loader statement does, read off its text.** Either the whole text gives a slot the value of a
function that is called at once: what stands between the braces has a scope of its own. Or the text is
read line by line: a name is declared, a module is imported into a name, a slot is given a value
(`deeds`).

Read in this way, a statement that inlines code assigns its slot and does nothing else
(`Inlined.Called`), and a fetch declares the name of its slot, imports its package into that name and
assigns the slot (`Fetch.deeds_render`).
-/

namespace LivePreview

open Text

namespace Loader

variable {config : Config} {specifier : String}

/-! ### Reading -/

/-- Something that a statement does. -/
inductive Deed
  | declares (name : String)
  /-- A module is imported, and a name is given what it exports. -/
  | imports (name argument : String)
  | assigns (slot : String)
  deriving Repr, DecidableEq

/-- A function that is called at once, from its first brace to its last. -/
def isCalledFunction (text : List Char) : Bool :=
  (startsWith "(function () \x7b\n".toList text || startsWith "(() => \x7b\n".toList text) &&
    "\n\x7d)();".toList.isSuffixOf text

/-- The slot that a text gives a value, and the text of the value. -/
def assigned? (text : List Char) : Option (String × List Char) := do
  let (slot, rest) ← Slot.taken? text
  return (slot, ← dropLead? " = ".toList rest)

/-- The name that a line declares: `let name;`. -/
def declaration? (line : List Char) : Option Deed := do
  let (name, rest) ← takeIdent? (← dropLead? "let ".toList line)
  if rest = [';'] then some (.declares (String.ofList name)) else none

/-- The import on a line: `name = await import(argument);`. -/
def importation? (line : List Char) : Option Deed := do
  let (name, rest) ← takeIdent? (trimStart line)
  let rest ← dropLead? " = await import(".toList rest
  let back ← dropLead? ";)".toList rest.reverse
  return .imports (String.ofList name) (String.ofList back.reverse)

/-- The slot that a line gives the value of a name: `__env["slot"] = name;`. -/
def assignment? (line : List Char) : Option Deed := do
  let (slot, value) ← assigned? line
  let (_, rest) ← takeIdent? value
  if rest = [';'] then some (.assigns slot) else none

/-- What a line does. -/
def lineDeed? (line : List Char) : Option Deed :=
  (declaration? line).or ((importation? line).or (assignment? line))

/-- What a statement does. -/
def deeds (text : String) : List Deed :=
  match (assigned? text.toList).filter fun (_, value) => isCalledFunction value with
  | some (slot, _) => [.assigns slot]
  | none => (splitAtChar '\n' text.toList).filterMap lineDeed?

/-- The slots that a statement gives a value. -/
def assigned (text : String) : List String :=
  (deeds text).filterMap fun
    | .assigns slot => some slot
    | _ => none

/-- The names that a statement declares. -/
def declared (text : String) : List String :=
  (deeds text).filterMap fun
    | .declares name => some name
    | _ => none

/-- Does the statement import a module into the name? -/
def ImportsInto (text name : String) : Prop :=
  ∃ argument, .imports name argument ∈ deeds text

theorem assigned?_slotText {slot : String} (h : '"' ∉ slot.toList) (value : List Char) :
    assigned? ((slotText slot).toList ++ (" = ".toList ++ value)) = some (slot, value) := by
  simp only [assigned?, Slot.taken?_slotText h, dropLead?_append, Option.bind_eq_bind,
    Option.bind_some]
  rfl

/-! ### Inlined code -/

/-- Is the code a function that is called at once, whose value its slot is given? -/
def Inlined.Called (code : Inlined) : Prop :=
  ∃ value, (code.render).toList = (slotText code.slot).toList ++ (" = ".toList ++ value) ∧
    isCalledFunction value = true ∧ '"' ∉ code.slot.toList

/-- Such code assigns its slot and does nothing else. -/
theorem Inlined.Called.deeds_render {code : Inlined} (h : code.Called) :
    deeds code.render = [.assigns code.slot] := by
  obtain ⟨value, htext, hcalled, hslot⟩ := h
  have hassigned : (assigned? code.render.toList).filter (fun (_, value) => isCalledFunction value) =
      some (code.slot, value) := by
    rw [htext, assigned?_slotText hslot]
    exact if_pos hcalled
  rw [deeds, hassigned]

/-- A module body is called at once. -/
theorem called_ofBody (specifier body : String) :
    (Inlined.ofBody (Slot.ofSpecifier specifier) body).Called := by
  unfold Inlined.ofBody
  dsimp only
  generalize String.ofList (trimEnd (Code.stripExports defaultLocal body.toList).code) = code
  generalize (_ ++ _ : List (String × String)) = fields
  let inner := code ++ "\nreturn \x7b " ++
    ", ".intercalate (fields.map fun field => field.1 ++ ": " ++ field.2) ++ " \x7d;"
  refine ⟨"(function () \x7b\n".toList ++ (inner.toList ++ "\n\x7d)();".toList), ?_, ?_,
    Slot.not_mem_ofSpecifier (by decide) specifier⟩
  · have hopen : " = (function () \x7b\n".toList = " = ".toList ++ "(function () \x7b\n".toList := by
      decide
    have hclose : " \x7d;\n\x7d)();".toList = " \x7d;".toList ++ "\n\x7d)();".toList := by decide
    simp only [Inlined.render, Inlined.slot, inner, String.toList_append, List.append_assoc, hopen, hclose]
  · rw [isCalledFunction, Bool.and_eq_true, Bool.or_eq_true, List.isSuffixOf_iff_suffix]
    exact ⟨.inl (startsWith_iff.2 (List.prefix_append _ _)),
      (List.suffix_append _ _).trans (List.suffix_append _ _)⟩

/-- So is a stand-in, from its first line to its last. -/
theorem called_standIn {slot source : String} {lines : List String} (hslot : '"' ∉ slot.toList)
    (hsource : source = joinLines ("(() => \x7b" :: lines)) (hlines : 2 ≤ lines.length)
    (hlast : lines.getLast? = some "\x7d)()") : (Inlined.standIn slot source).Called := by
  have hne : lines ≠ [] := List.length_pos_iff.1 (by omega)
  have hrender : (Inlined.standIn slot source).render = slotText slot ++ " = " ++ source ++ ";" := rfl
  refine ⟨source.toList ++ [';'], ?_, ?_, hslot⟩
  · rw [hrender, String.toList_append, String.toList_append, String.toList_append, List.append_assoc,
      List.append_assoc]
    rfl
  · rw [isCalledFunction, Bool.and_eq_true, Bool.or_eq_true, List.isSuffixOf_iff_suffix, hsource,
      toList_joinLines_cons _ hne]
    obtain ⟨front, hfront⟩ := suffix_joinLines hlines hlast
    refine ⟨.inr (startsWith_iff.2 ⟨(joinLines lines).toList ++ [';'], by simp⟩),
      ⟨"(() => \x7b".toList ++ '\n' :: front, ?_⟩⟩
    rw [← hfront]
    simp

theorem called_animation (base : String) :
    (Inlined.standIn (StandIn.animationSlot base) (StandIn.animationSource base)).Called := by
  unfold StandIn.animationSlot StandIn.animationSource
  split
  · exact called_standIn (by decide) rfl (by decide) rfl
  · exact called_standIn (by decide) rfl (by decide) rfl

theorem called_helper (helper : Helper) :
    (Inlined.standIn (StandIn.helperSlot helper) (StandIn.helperSource helper)).Called := by
  cases helper
  · exact called_standIn (by decide) rfl (by decide) rfl
  · exact called_standIn (by decide) rfl (by decide) rfl

/-! ### Fetches -/

/-- The lines of a fetch. -/
def Fetch.lines (f : Fetch) : List String :=
  ["let " ++ f.slot ++ ";",
    "try \x7b",
    "  " ++ f.slot ++ " = await import(" ++ Json.literal f.url ++ ");",
    "\x7d catch (error) \x7b",
    "  console.warn(\"[preview] could not load\", " ++ Json.literal f.specifier ++ ", error);",
    "\x7d",
    slotText f.slot ++ " = " ++ f.slot ++ ";"]

theorem Fetch.render_eq_joinLines (f : Fetch) : f.render = joinLines f.lines := by
  unfold Fetch.render Fetch.lines joinLines
  refine String.toList_inj.1 ?_
  simp

variable {slot : String} {text : List Char}

theorem lineDeed?_declaration (h : isIdent slot.toList = true) :
    lineDeed? ("let " ++ slot ++ ";").toList = some (.declares slot) := by
  have htake : takeIdent? (slot.toList ++ [';']) = some (slot.toList, [';']) :=
    takeIdent?_of_isIdent h (forall_head_cons (by decide) [])
  have hdeed : declaration? ("let ".toList ++ (slot.toList ++ [';'])) = some (.declares slot) := by
    rw [declaration?, dropLead?_append, Option.bind_eq_bind, Option.bind_some, htake]
    exact congrArg (fun name => some (Deed.declares name)) String.ofList_toList
  rw [String.toList_append, String.toList_append, List.append_assoc, lineDeed?]
  exact congrArg (Option.or · _) hdeed

theorem declaration?_eq_none {c : Char} (h : c ≠ 'l') : declaration? (c :: text) = none := by
  have hlead : dropLead? "let ".toList (c :: text) = none := if_neg (Ne.symm h)
  rw [declaration?, hlead]
  rfl

/-- A line whose first name something else stands behind imports nothing. -/
theorem importation?_eq_none (gap name : List Char) {c : Char} (hgap : allBlank gap = true)
    (hname : isIdent name = true) (hpart : isIdentPart c = false) (hc : c ≠ ' ') (rest : List Char) :
    importation? (gap ++ (name ++ c :: rest)) = none := by
  have hlead : dropLead? " = await import(".toList (c :: rest) = none := if_neg (Ne.symm hc)
  rw [importation?, (startsSolid_of_isIdent hname _).trimStart_gap hgap,
    takeIdent?_of_isIdent hname (forall_head_cons hpart rest)]
  simp only [Option.bind_eq_bind, Option.bind_some, hlead, Option.bind_none]

theorem lineDeed?_importation (h : isIdent slot.toList = true) (argument : String) :
    lineDeed? ("  " ++ slot ++ " = await import(" ++ argument ++ ");").toList =
      some (.imports slot argument) := by
  let rest := " = await import(".toList ++ (argument.toList ++ ");".toList)
  have htext : ("  " ++ slot ++ " = await import(" ++ argument ++ ");").toList =
      "  ".toList ++ (slot.toList ++ rest) := by
    simp only [rest, String.toList_append, List.append_assoc]
  have hsolid : trimStart ("  ".toList ++ (slot.toList ++ rest)) = slot.toList ++ rest :=
    (startsSolid_of_isIdent h rest).trimStart_gap (by decide)
  have hname : takeIdent? (slot.toList ++ rest) = some (slot.toList, rest) :=
    takeIdent?_of_isIdent h (forall_head_cons (by decide) _)
  have hback : dropLead? ";)".toList (argument.toList ++ ");".toList).reverse =
      some argument.toList.reverse := by
    rw [List.reverse_append]
    exact dropLead?_append _ _
  have hdeed : importation? ("  ".toList ++ (slot.toList ++ rest)) = some (.imports slot argument) := by
    simp only [importation?, hsolid, hname, Option.bind_eq_bind, Option.bind_some, rest,
      dropLead?_append, hback, List.reverse_reverse, String.ofList_toList]
    rfl
  rw [htext, lineDeed?, hdeed]
  exact congrArg (Option.or · _) (declaration?_eq_none (by decide))

theorem assigned?_eq_none {c : Char} (h : c ≠ '_') : assigned? (c :: text) = none := by
  rw [assigned?, Slot.taken?_eq_none h]
  rfl

theorem lineDeed?_assignment (h : isIdent slot.toList = true) :
    lineDeed? (slotText slot ++ " = " ++ slot ++ ";").toList = some (.assigns slot) := by
  let value := slot.toList ++ [';']
  have htext : (slotText slot ++ " = " ++ slot ++ ";").toList =
      (slotText slot).toList ++ (" = ".toList ++ value) := by
    simp only [value, String.toList_append, List.append_assoc]
    rfl
  have hslot : (slotText slot).toList ++ (" = ".toList ++ value) =
      "__env".toList ++ '[' :: ('"' :: (slot.toList ++ ("\"]".toList ++ (" = ".toList ++ value)))) := by
    simp [slotText]
  have hquote : '"' ∉ slot.toList := fun hc => absurd (isIdentPart_of_mem h hc) (by decide)
  have hname : takeIdent? value = some (slot.toList, [';']) :=
    takeIdent?_of_isIdent h (forall_head_cons (by decide) [])
  have hdeed : assignment? ((slotText slot).toList ++ (" = ".toList ++ value)) = some (.assigns slot) := by
    simp only [assignment?, assigned?_slotText hquote, Option.bind_eq_bind, Option.bind_some, hname]
    rfl
  have hdeclaration : declaration? ((slotText slot).toList ++ (" = ".toList ++ value)) = none := by
    rw [hslot]
    exact declaration?_eq_none (by decide)
  have himportation : importation? ((slotText slot).toList ++ (" = ".toList ++ value)) = none := by
    rw [hslot]
    exact importation?_eq_none [] "__env".toList rfl (by decide) (by decide) (by decide) _
  rw [htext, lineDeed?, hdeclaration, himportation, hdeed]
  rfl

/-- The line of a warning does nothing. -/
theorem lineDeed?_warning (text : String) :
    lineDeed? ("  console.warn(\"[preview] could not load\", " ++ text ++ ", error);").toList = none := by
  obtain ⟨rest, hrest⟩ : ∃ rest, ("  console.warn(\"[preview] could not load\", " ++ text ++
      ", error);").toList = [' ', ' '] ++ ("console".toList ++ '.' :: rest) :=
    ⟨"warn(\"[preview] could not load\", ".toList ++ (text.toList ++ ", error);".toList), by simp⟩
  have hdeclaration : declaration? ([' ', ' '] ++ ("console".toList ++ '.' :: rest)) = none :=
    declaration?_eq_none (by decide)
  have himportation : importation? ([' ', ' '] ++ ("console".toList ++ '.' :: rest)) = none :=
    importation?_eq_none [' ', ' '] "console".toList (by decide) (by decide) (by decide) (by decide) rest
  have hassigned : assigned? ([' ', ' '] ++ ("console".toList ++ '.' :: rest)) = none :=
    assigned?_eq_none (by decide)
  rw [hrest, lineDeed?, hdeclaration, himportation, assignment?, hassigned]
  rfl

/-- No line feed stands in a literal. -/
theorem feed_not_mem_literal (text : String) : '\n' ∉ (Json.literal text).toList := by
  have hescape : ∀ c, '\n' ∉ Json.escapeChar c := by
    intro c hm
    -- A line feed is a character of control, and those are escaped.
    obtain ⟨rfl, hcontrol⟩ := Json.eq_of_mem_escapeChar (by decide) (by decide) (by decide) hm
    exact hcontrol (by decide)
  rw [Json.literal, String.toList_ofList, Json.literalChars]
  simp [hescape]

/-- Lines without a line feed are split off again. -/
theorem splitAtChar_joinLines {lines : List String} (hne : lines ≠ [])
    (h : ∀ line ∈ lines, '\n' ∉ line.toList) :
    splitAtChar '\n' (joinLines lines).toList = lines.map String.toList := by
  refine splitAtChar_eq_iff.2 ⟨by simpa using hne, ?_, fun part hpart => ?_⟩
  · rw [joinLines, String.toList_intercalate]
    rfl
  · obtain ⟨line, hline, rfl⟩ := List.mem_map.1 hpart
    exact h line hline

/-- **What a fetch does**: it declares the name of its slot, imports the package into it and assigns the
slot. -/
theorem Fetch.deeds_render (f : Fetch) (h : isIdent f.slot.toList = true) :
    deeds f.render =
      [.declares f.slot, .imports f.slot (Json.literal f.url), .assigns f.slot] := by
  have hfeed : '\n' ∉ f.slot.toList := fun hc => absurd (isIdentPart_of_mem h hc) (by decide)
  have hlines : ∀ line ∈ f.lines, '\n' ∉ line.toList := by
    have hurl := feed_not_mem_literal f.url
    have hspecifier := feed_not_mem_literal f.specifier
    simp [Fetch.lines, slotText, hfeed, hurl, hspecifier]
  have hfront : assigned? (joinLines f.lines).toList = none := by
    rw [Fetch.lines, toList_joinLines_cons _ (List.cons_ne_nil _ _), String.toList_append,
      String.toList_append, List.append_assoc, List.append_assoc]
    exact assigned?_eq_none (by decide)
  rw [f.render_eq_joinLines, deeds, hfront]
  show (splitAtChar '\n' (joinLines f.lines).toList).filterMap lineDeed? = _
  rw [splitAtChar_joinLines (by simp [Fetch.lines]) hlines, Fetch.lines]
  have htry : lineDeed? "try \x7b".toList = none := by decide
  have hcatch : lineDeed? "\x7d catch (error) \x7b".toList = none := by decide
  have hend : lineDeed? "\x7d".toList = none := by decide
  simp only [List.map_cons, List.map_nil, List.filterMap_cons, List.filterMap_nil, htry, hcatch, hend,
    lineDeed?_declaration h, lineDeed?_importation h, lineDeed?_assignment h, lineDeed?_warning]

end Loader

namespace Config

/-- Is this where the package is to be had, as a dependency or by its name alone? -/
def Offers (config : Config) (specifier url : String) : Prop :=
  ∃ peers, (config.classify specifier).resolution = .fetch url peers ∨
    Loader.provision config specifier = .fetch url peers

end Config

namespace Loader

/-! ### Walks -/

variable {rs : List Request} {w w' : Walk}

/-- Can the statements of the plan be read? -/
structure Plan.Legible (config : Config) (plan : Plan) : Prop where
  inlined : ∀ code ∈ plan.inlined, code.Called
  slot : ∀ f ∈ plan.fetches, f.slot = Slot.ofSpecifier f.specifier
  offered : ∀ f ∈ plan.fetches, config.Offers f.specifier f.url

/-- Can the statement be read that the request leads to? -/
def Request.Legible (config : Config) : Request → Prop
  | inline code => code.Called
  | fetch specifier url _ => config.Offers specifier url

theorem legible_provisions (config : Config) (specifier : String) :
    ∀ r ∈ provisions config specifier, r.Legible config :=
  forall_provisions (fun body _ => called_ofBody specifier body) fun _ peers hp => ⟨peers, .inr hp⟩

theorem legible_requests (config : Config) (specifier : String) :
    ∀ r ∈ requests config (config.classify specifier), r.Legible config :=
  forall_requests (fun body _ => called_ofBody _ body) (fun helper _ => called_helper helper)
    (fun base _ => called_animation base) (fun base _ => legible_provisions config base)
    fun _ peers hfetch => ⟨peers, .inl hfetch⟩

theorem Walk.legible_inline (h : w.plan.Legible config) {code : Inlined} (hcode : code.Called) :
    (w.inline code).plan.Legible config := by
  by_cases ht : code.slot ∈ w.taken
  · rw [Walk.inline_of_mem ht]
    exact h
  · rw [Walk.inline_of_not_mem ht]
    refine ⟨fun c hc => ?_, h.slot, h.offered⟩
    rcases List.mem_append.1 hc with hc | hc
    · exact h.inlined c hc
    · rw [List.mem_singleton.1 hc]
      exact hcode

theorem Walk.legible_emit {url : String} (h : w.plan.Legible config) (hurl : config.Offers specifier url) :
    (w.emit ⟨specifier, Slot.ofSpecifier specifier, url⟩).plan.Legible config := by
  refine ⟨h.inlined, fun f hf => ?_, fun f hf => ?_⟩
  · rcases List.mem_append.1 hf with hf | hf
    · exact h.slot f hf
    · rw [List.mem_singleton.1 hf]
  · rcases List.mem_append.1 hf with hf | hf
    · exact h.offered f hf
    · rw [List.mem_singleton.1 hf]
      exact hurl

/-- Serving keeps the statements readable. -/
theorem Serves.legible (h : Serves config rs w w') (hw : w.plan.Legible config)
    (hr : ∀ r ∈ rs, r.Legible config) : w'.plan.Legible config := by
  induction h with
  | nil => exact hw
  | inline _ ih =>
    rw [List.forall_mem_cons] at hr
    exact ih (Walk.legible_inline hw hr.1) hr.2
  | skip _ _ ih =>
    rw [List.forall_mem_cons] at hr
    exact ih hw hr.2
  | load _ _ _ ihp ih =>
    rw [List.forall_mem_cons] at hr
    have hpeers := ihp hw fun r hm => by
      obtain ⟨peer, -, hm⟩ := List.mem_flatMap.1 hm
      exact legible_provisions config peer r hm
    exact ih (Walk.legible_emit hpeers hr.1) hr.2

/-- The statements of a plan can be read. -/
theorem legible_plan (config : Config) (specifiers : List String) :
    (Loader.plan config (specifiers.map config.classify)).Legible config := by
  refine (serves_plan config specifiers {}).legible ⟨?_, ?_, ?_⟩ fun r hr => ?_
  · exact fun _ h => absurd h List.not_mem_nil
  · exact fun _ h => absurd h List.not_mem_nil
  · exact fun _ h => absurd h List.not_mem_nil
  · obtain ⟨c, hc, hr⟩ := List.mem_flatMap.1 hr
    obtain ⟨specifier, -, rfl⟩ := List.mem_map.1 hc
    exact legible_requests config specifier r hr

end Loader

end LivePreview
