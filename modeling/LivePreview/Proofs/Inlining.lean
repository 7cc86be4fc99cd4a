import LivePreview.Preview
import LivePreview.Proofs.Code.TemplateLiteral
import LivePreview.Proofs.InertLiteral.Reading
import LivePreview.Proofs.Loader.Agreement
import LivePreview.Proofs.Text.Occurrence
/-!
# LivePreview.Proofs.Inlining

**What becomes of a template literal that is inlined.** The code of a module body reaches the bootstrap
without its export syntax, and the lines of the loader statements are put behind a margin. A literal on
one line is there as it was written. But the margin also goes in front of the lines within a literal, and
carriage returns at their ends are lost (`Plan.relined_infix_bootstrap`).
-/

namespace LivePreview

open Text Code

variable {margin a b text : List Char}

/-! ### A text behind a margin -/

/-- The text with a margin in front of all its lines but the first. A carriage return in front of a line
feed is lost. -/
def relined (margin : List Char) : List Char → List Char
  | [] => []
  | c :: rest =>
    if c = '\n' then '\n' :: (margin ++ relined margin rest)
    else if c = '\r' ∧ rest.head? = some '\n' then relined margin rest
    else c :: relined margin rest

theorem relined_feed (margin rest : List Char) :
    relined margin ('\n' :: rest) = '\n' :: (margin ++ relined margin rest) :=
  if_pos rfl

/-- Where no line ends across them, two texts can be taken one by one. -/
theorem relined_append (h : a.getLast? = some '\r' → b.head? ≠ some '\n') :
    relined margin (a ++ b) = relined margin a ++ relined margin b := by
  induction a with
  | nil => rfl
  | cons c a ih =>
    have hrest : a.getLast? = some '\r' → b.head? ≠ some '\n' := fun hl => h (by simp [List.getLast?_cons, hl])
    have hhead : c = '\r' ∧ (a ++ b).head? = some '\n' ↔ c = '\r' ∧ a.head? = some '\n' := by
      cases a with
      | nil =>
        refine ⟨fun ⟨hc, hb⟩ => absurd hb (h (by rw [hc]; rfl)), fun ⟨_, hn⟩ => nomatch hn⟩
      | cons d a => exact Iff.rfl
    rw [List.cons_append, relined, relined, ih hrest]
    simp only [hhead]
    split
    · rw [List.cons_append, List.append_assoc]
    · split
      · rfl
      · rfl

theorem relined_of_not_mem (h : '\n' ∉ text) : relined margin text = text := by
  induction text with
  | nil => rfl
  | cons c text ih =>
    rw [List.mem_cons, not_or] at h
    have hhead : text.head? ≠ some '\n' := fun hh => h.2 (List.mem_of_mem_head? hh)
    rw [relined, if_neg (Ne.symm h.1), if_neg (fun hc => hhead hc.2), ih h.2]

/-- Each line feed brings one more margin. -/
theorem count_relined {x : Char} (hx : x ≠ '\r') (margin text : List Char) :
    (relined margin text).count x = text.count x + margin.count x * text.count '\n' := by
  induction text with
  | nil => rfl
  | cons c text ih =>
    rw [relined]
    by_cases hc : c = '\n'
    · rw [if_pos hc, hc, List.count_cons, List.count_cons, List.count_cons_self, List.count_append, ih, Nat.mul_succ]
      omega
    · rw [if_neg hc, List.count_cons_of_ne hc]
      split
      · next hreturn => rw [ih, List.count_cons_of_ne (by rw [hreturn.1]; exact hx.symm)]
      · rw [List.count_cons, List.count_cons, ih]
        omega

/-- **A text stays as it is just if it is on one line.** -/
theorem relined_eq_self_iff {x : Char} (hm : x ∈ margin) (hx : x ≠ '\r') :
    relined margin text = text ↔ '\n' ∉ text := by
  refine ⟨fun h hn => ?_, relined_of_not_mem⟩
  have hcount := count_relined hx margin text
  have hmore : 0 < margin.count x * text.count '\n' :=
    Nat.mul_pos (List.count_pos_iff.2 hm) (List.count_pos_iff.2 hn)
  rw [h] at hcount
  omega

/-! ### Lines behind a margin -/

/-- What a line holds without its end. -/
def lineContent (raw : List Char) : List Char :=
  match raw.reverse with
  | '\n' :: '\r' :: back => back.reverse
  | '\n' :: back => back.reverse
  | back => back.reverse

/-- The first line of a text, and the lines behind it. -/
theorem lineContents_append_feed (margin : List Char) (ha : '\n' ∉ a) (rest : List Char) :
    ∃ content, '\n' ∉ content ∧ lineContents (a ++ '\n' :: rest) = content :: lineContents rest ∧
      relined margin (a ++ '\n' :: rest) = content ++ '\n' :: (margin ++ relined margin rest) := by
  have hlines : lineContents (a ++ '\n' :: rest) = lineContent (a ++ ['\n']) :: lineContents rest := by
    rw [lineContents, rawLines_append_feed ha]
    rfl
  rw [hlines]
  rcases List.eq_nil_or_concat a with rfl | ⟨front, c, rfl⟩
  · exact ⟨[], List.not_mem_nil, rfl, relined_feed margin rest⟩
  · rw [List.concat_eq_append] at ha ⊢
    obtain ⟨hfront, hfeed⟩ : '\n' ∉ front ∧ '\n' ≠ c := by simpa using ha
    by_cases hc : c = '\r'
    · have hcontent : lineContent (front ++ [c] ++ ['\n']) = front := by simp [lineContent, hc]
      have hend : relined margin (c :: '\n' :: rest) = relined margin ('\n' :: rest) := by
        rw [relined, if_neg hfeed.symm, if_pos ⟨hc, rfl⟩]
      refine ⟨front, hfront, by rw [hcontent], ?_⟩
      rw [List.append_assoc, List.singleton_append, relined_append fun _ => by simpa using hfeed.symm,
        relined_of_not_mem hfront, hend, relined_feed]
    · have hcontent : lineContent (front ++ [c] ++ ['\n']) = front ++ [c] := by simp [lineContent, hc]
      refine ⟨front ++ [c], ha, by rw [hcontent], ?_⟩
      rw [relined_append fun hl => absurd (Option.some.inj (List.getLast?_concat.symm.trans hl)) hc,
        relined_of_not_mem ha, relined_feed]

theorem lineContents_of_not_mem (ha : '\n' ∉ a) (hne : a ≠ []) : lineContents a = [a] := by
  have hlines : lineContents a = [lineContent a] := by
    rw [lineContents, rawLines_of_not_mem ha hne]
    rfl
  obtain ⟨front, c, rfl⟩ := (List.eq_nil_or_concat a).resolve_left hne
  rw [List.concat_eq_append] at ha hlines ⊢
  obtain ⟨-, hfeed⟩ : '\n' ∉ front ∧ '\n' ≠ c := by simpa using ha
  rw [hlines]
  simp [lineContent, hfeed.symm]

theorem lineContents_ne_nil (hne : text ≠ []) : lineContents text ≠ [] := by
  intro h
  have hflatten := flatten_rawLines text
  rw [List.map_eq_nil_iff.1 h] at hflatten
  exact hne hflatten.symm

/-- The lines of a text that ends within a line, behind a margin. -/
theorem toList_joinLines_contents (margin : String) (hne : text ≠ []) (hl : text.getLast? ≠ some '\n') :
    (joinLines ((lineContents text).map fun line => margin ++ String.ofList line)).toList =
      margin.toList ++ relined margin.toList text := by
  induction text using piecewise_induction with
  | last a ha =>
    rw [lineContents_of_not_mem ha hne, relined_of_not_mem ha]
    simp [joinLines]
  | feed a rest ha ih =>
    have hrest : rest ≠ [] := by
      rintro rfl
      exact hl List.getLast?_concat
    have hlast : rest.getLast? ≠ some '\n' := by
      rwa [List.append_cons, List.getLast?_append_of_ne_nil _ hrest] at hl
    obtain ⟨content, -, hlines, hrelined⟩ := lineContents_append_feed margin.toList ha rest
    have hmore : (lineContents rest).map (fun line => margin ++ String.ofList line) ≠ [] := fun hmap =>
      lineContents_ne_nil hrest (List.map_eq_nil_iff.1 hmap)
    rw [hlines, hrelined, List.map_cons, toList_joinLines_cons _ hmore, ih hrest hlast]
    simp

/-- Lines in a row stand in a row. -/
theorem infix_joinLines_append (before lines behind : List String) :
    (joinLines lines).toList <:+: (joinLines (before ++ (lines ++ behind))).toList := by
  have hfront : ∀ lines : List String, (joinLines lines).toList <+: (joinLines (lines ++ behind)).toList := by
    intro lines
    induction lines with
    | nil => exact List.nil_prefix
    | cons line lines ih =>
      cases lines with
      | nil =>
        cases behind with
        | nil => exact List.prefix_refl _
        | cons next behind =>
          rw [List.singleton_append, toList_joinLines_cons line (List.cons_ne_nil next behind)]
          simp [joinLines]
      | cons next lines =>
        have hmore : next :: lines ++ behind ≠ [] := List.cons_ne_nil _ _
        rw [List.cons_append, toList_joinLines_cons line (List.cons_ne_nil next lines),
          toList_joinLines_cons line hmore]
        exact (List.prefix_append_right_inj _).2 (List.cons_prefix_cons.2 ⟨rfl, ih⟩)
  have hsuffix : ∀ lines : List String, (joinLines lines).toList <:+ (joinLines (before ++ lines)).toList := by
    intro lines
    induction before with
    | nil => exact List.suffix_refl _
    | cons line before ih =>
      by_cases hnil : before ++ lines = []
      · obtain ⟨-, rfl⟩ := List.append_eq_nil_iff.1 hnil
        exact List.nil_suffix
      · rw [List.cons_append, toList_joinLines_cons line hnil]
        exact ih.trans ((List.suffix_cons _ _).trans (List.suffix_append _ _))
  exact (hfront lines).isInfix.trans (hsuffix (lines ++ behind)).isInfix

/-- **A statement stands behind the margin with all its lines.** -/
theorem relined_infix_indent {margin s : String} {statements : List String} (h : s ∈ statements)
    (hne : s.toList ≠ []) (hl : s.toList.getLast? ≠ some '\n') :
    relined margin.toList s.toList <:+: (indent margin statements).toList := by
  obtain ⟨before, behind, rfl⟩ := List.append_of_mem h
  have hlines := toList_joinLines_contents margin hne hl
  have hstatement : relined margin.toList s.toList <:+:
      (joinLines ((lineContents s.toList).map fun line => margin ++ String.ofList line)).toList := by
    rw [hlines]
    exact (List.suffix_append _ _).isInfix
  rw [indent, List.flatMap_append, List.flatMap_cons, List.map_append, List.map_append]
  exact hstatement.trans (infix_joinLines_append _ _ _)

/-! ### The lines of the bootstrap -/

/-- Does the line begin like one of the bootstrap, with a space or a closing brace, or is it empty? -/
def opensScriptLine (line : List Char) : Bool :=
  match line with
  | [] => true
  | c :: _ => c == ' ' || c == '\x7d' || c == '\n'

/-- Each line of the text begins like one of the bootstrap. -/
def Laid (text : List Char) : Prop :=
  ∀ rest, AtLines (opensScriptLine · = true) true text rest

theorem laid_of_not_mem (hn : '\n' ∉ text) (h : opensScriptLine text = true) : Laid text := by
  intro rest
  cases text with
  | nil => trivial
  | cons c text => exact .within hn fun _ => h

theorem Laid.append_feed (ha : Laid a) (hb : Laid b) : Laid (a ++ '\n' :: b) := fun rest =>
  .append (ha _) ⟨fun _ => rfl, hb rest⟩

theorem laid_joinLines {lines : List String} (h : ∀ l ∈ lines, Laid l.toList) :
    Laid (joinLines lines).toList := by
  induction lines with
  | nil => exact fun _ => trivial
  | cons line lines ih =>
    obtain ⟨hline, hlines⟩ := List.forall_mem_cons.1 h
    cases lines with
    | nil => simpa [joinLines] using hline
    | cons next lines =>
      rw [toList_joinLines_cons line (List.cons_ne_nil next lines)]
      exact hline.append_feed (ih hlines)

/-- A line that is written around something of the run time. -/
theorem laid_between {front text back : String} (hf : '\n' ∉ front.toList) (ht : '\n' ∉ text.toList)
    (hb : '\n' ∉ back.toList) (hne : front.toList ≠ []) (h : opensScriptLine front.toList = true) :
    Laid (front ++ text ++ back).toList := by
  rw [String.toList_append, String.toList_append]
  refine laid_of_not_mem (by simp [hf, ht, hb]) ?_
  obtain ⟨c, front, hc⟩ := List.exists_cons_of_ne_nil hne
  rw [hc] at h ⊢
  exact h

theorem feed_not_mem_lineContents {line : List Char} (h : line ∈ lineContents text) : '\n' ∉ line := by
  induction text using piecewise_induction with
  | last a ha =>
    by_cases hne : a = []
    · rw [hne] at h
      exact absurd h List.not_mem_nil
    · rw [lineContents_of_not_mem ha hne, List.mem_singleton] at h
      rwa [h]
  | feed a rest ha ih =>
    obtain ⟨content, hcontent, hlines, -⟩ := lineContents_append_feed [] ha rest
    rw [hlines] at h
    rcases List.mem_cons.1 h with rfl | h
    · exact hcontent
    · exact ih h

theorem laid_indent (statements : List String) : Laid (indent "    " statements).toList := by
  refine laid_joinLines fun l hl => ?_
  obtain ⟨line, hline, rfl⟩ := List.mem_map.1 hl
  obtain ⟨s, -, hline⟩ := List.mem_flatMap.1 hline
  rw [String.toList_append, String.toList_ofList]
  exact laid_of_not_mem (by simp [feed_not_mem_lineContents hline]) rfl

theorem feed_not_mem_inertLiteral (s : String) : '\n' ∉ (inertLiteral s).toList := by
  have hbody : '\n' ∉ inertBody s.toList := fun hm =>
    absurd (Spells.le_toNat (spells_inertBody s.toList) '\n' hm) (by decide)
  rw [inertLiteral, String.toList_ofList, inertChars_eq]
  simp [hbody]

theorem feed_not_mem_titles : '\n' ∉ titles.toList := by
  rw [titles, String.toList_append, String.toList_append, String.toList_intercalate, List.mem_append,
    List.mem_append, not_or, not_or]
  refine ⟨⟨by decide, not_mem_intercalate (by decide) fun text ht => ?_⟩, by decide⟩
  rw [List.map_map] at ht
  obtain ⟨kind, hkind, rfl⟩ := List.mem_map.1 ht
  have hkey : ∀ kind ∈ DiagnosticKind.all, '\n' ∉ (kind.key ++ ": ").toList := by decide
  rw [Function.comp_apply, String.toList_append, List.mem_append, not_or]
  exact ⟨hkey kind hkind, feed_not_mem_inertLiteral kind.title⟩

theorem feed_not_mem_tipTable : '\n' ∉ tipTable.toList := by
  have hjson : '\n' ∉ Tips.json.chars := by
    simp only [Tips.json, Tips.table, List.map_cons, List.map_nil, Tips.Tip.json, Json.Value.chars,
      Json.itemChars, Json.memberChars]
    repeat rw [String.toList_ofList]
    decide +kernel
  rw [tipTable, String.toList_ofList]
  exact not_mem_replaceAll_of_not_mem (by decide) (by decide) (by decide) hjson

theorem feed_not_mem_toString (n : UInt64) : '\n' ∉ (toString n).toList := by
  have htext : (toString n).toList = Nat.toDigits 10 n.toNat := String.toList_ofList
  rw [htext]
  intro hm
  exact absurd (Nat.isDigit_of_mem_toDigits (by decide) (by decide) hm) (by decide)

theorem laid_staleGuard (config : Config) : Laid (staleGuard config ++ "  try \x7b").toList := by
  have hmount : Laid "  try \x7b".toList := laid_of_not_mem (by decide) rfl
  rw [staleGuard]
  split
  · have hguard : ("  if (window.__previewGeneration !== __generation) return;\n" ++ "  try \x7b").toList =
        "  if (window.__previewGeneration !== __generation) return;".toList ++ '\n' :: "  try \x7b".toList := by
      decide
    rw [hguard]
    exact (laid_of_not_mem (by decide) rfl).append_feed hmount
  · exact hmount

set_option maxRecDepth 4000 in
/-- Each line of the bootstrap but the first begins with a space or a closing brace, or is empty. -/
theorem exists_laid_bootstrap (runtime : Runtime) (config : Config) (language : Language)
    (generation : UInt64) :
    ∃ first lines, (bootstrap runtime config language generation).toList = first ++ '\n' :: lines ∧
      '\n' ∉ first ∧ Laid lines := by
  have hplain : '\n' ∉ (if language.supportsJsx then "false" else "true").toList := by
    split <;> decide
  have hpresets : '\n' ∉ language.presets.toList := by cases language <;> decide
  refine ⟨_, _, toList_joinLines_cons _ (List.cons_ne_nil _ _), ?_, laid_joinLines ?_⟩
  · with_reducible rw [String.toList_ofList]
    decide
  simp only [List.forall_mem_cons, List.not_mem_nil, false_imp_iff, implies_true, and_true]
  and_intros
  -- Most lines are fixed.
  all_goals try
    with_reducible rw [String.toList_ofList]
    exact laid_of_not_mem (by decide) rfl
  -- The others have something of the run time in them.
  all_goals with_reducible first
    | exact laid_indent _
    | exact laid_staleGuard config
    | refine laid_between ?_ hplain ?_ ?_ ?_
    | refine laid_between ?_ hpresets ?_ ?_ ?_
    | refine laid_between ?_ feed_not_mem_titles ?_ ?_ ?_
    | refine laid_between ?_ feed_not_mem_tipTable ?_ ?_ ?_
    | refine laid_between ?_ (feed_not_mem_inertLiteral _) ?_ ?_ ?_
    | refine laid_between ?_ (feed_not_mem_toString _) ?_ ?_ ?_
  all_goals
    with_reducible rw [String.toList_ofList]
    decide

/-- A stretch of the bootstrap has such lines only. -/
theorem atLines_of_infix_bootstrap {c : Char} {runtime : Runtime} {config : Config} {language : Language}
    {generation : UInt64} (h : c :: text <:+: (bootstrap runtime config language generation).toList) :
    AtLines (opensScriptLine · = true) false (c :: text) [] := by
  obtain ⟨first, lines, hscript, hfirst, hlaid⟩ :=
    exists_laid_bootstrap runtime config language generation
  rw [hscript] at h
  have hall : AtLines (opensScriptLine · = true) false (first ++ '\n' :: lines) [] :=
    .append (.inside hfirst _) ⟨fun _ => rfl, hlaid []⟩
  obtain ⟨before, behind, hsplit⟩ := h
  rw [← hsplit, List.append_assoc, AtLines.append_iff, AtLines.append_iff] at hall
  have hstretch : AtLines (opensScriptLine · = true) (startsBehind false before) (c :: text) [] :=
    hall.2.1.imp fun line hline => by
      cases line with
      | nil => rfl
      | cons d line => exact hline
  exact ⟨fun hs => absurd hs Bool.false_ne_true, hstretch.2⟩

/-! ### Literals in the bootstrap -/

/-- The code of an inlined module body stands in its statement. -/
theorem Loader.Inlined.infix_render_ofBody {t : TemplateLiteral} {body : String}
    (hc : (stripExportLists body.toList).1.count '\x60' = body.toList.count '\x60')
    (h : t.written <:+: body.toList) (slot : String) :
    t.written <:+: (Inlined.ofBody slot body).render.toList := by
  have hcode := TemplateLiteral.infix_trimEnd (TemplateLiteral.infix_stripExports hc h Loader.defaultLocal)
  refine hcode.trans ?_
  simp only [ofBody, render, String.toList_append, String.toList_ofList, List.append_assoc]
  exact (List.infix_append' _ _ _).trans (List.suffix_append _ _).isInfix

/-- A statement that is inlined ends in a semicolon. -/
theorem Loader.Inlined.getLast?_render_ofBody (slot body : String) :
    (Inlined.ofBody slot body).render.toList.getLast? = some ';' := by
  rw [ofBody, render, String.toList_append]
  exact List.getLast?_append_of_ne_nil _ (by decide)

/-- A literal has the same place in a text and in the text behind a margin. -/
theorem relined_infix_relined {t : TemplateLiteral} (h : t.written <:+: text) :
    relined margin t.written <:+: relined margin text := by
  obtain ⟨before, behind, rfl⟩ := h
  have hlast : t.written.getLast? = some '\x60' := List.getLast?_concat (l := '\x60' :: t.inner)
  rw [List.append_assoc, relined_append fun _ => ?_, relined_append fun hl => ?_]
  · exact List.infix_append' _ _ _
  · rw [hlast] at hl
    exact absurd hl (by decide)
  · exact fun hh => absurd hh (by simp [TemplateLiteral.written])

/-- **A template literal of an inlined module body is in the bootstrap**, with its further lines behind
the margin. So it is there as it was written if it is on one line. If not, it has become another one; and
where a further line begins with something else than lines of the bootstrap do, it is nowhere as it was. -/
theorem Plan.relined_infix_bootstrap {request : Request} {config : Config} {plan : Plan} {runtime : Runtime}
    (hplan : Plan.ofRequest request config = .ok plan) (hruntime : plan.runtime = some runtime)
    {slot body : String}
    (hbody : Loader.Inlined.ofBody slot body ∈ (Loader.plan config plan.classifications).inlined)
    {t : TemplateLiteral} (ht : t.written <:+: body.toList)
    (hc : (stripExportLists body.toList).1.count '\x60' = body.toList.count '\x60')
    (language : Language) (generation : UInt64) :
    let script := (bootstrap runtime config language generation).toList
    relined "    ".toList t.written <:+: script ∧
      ('\n' ∉ t.inner → t.written <:+: script) ∧
      ('\n' ∈ t.inner → relined "    ".toList t.written ≠ t.written) ∧
      (¬ AtLines (opensScriptLine · = true) false t.written [] → ¬ t.written <:+: script) := by
  intro script
  obtain ⟨-, hparts⟩ := Plan.ofRequest_inv hplan hruntime
  have hfeed : '\n' ∈ t.written ↔ '\n' ∈ t.inner := by simp [TemplateLiteral.written]
  have hstatement : (Loader.Inlined.ofBody slot body).render ∈ runtime.loaderStatements := by
    rw [hparts]
    exact List.mem_append_left _ (List.mem_map_of_mem hbody)
  have hlast := Loader.Inlined.getLast?_render_ofBody slot body
  have hindent : relined "    ".toList (Loader.Inlined.ofBody slot body).render.toList <:+:
      (indent "    " runtime.loaderStatements).toList := by
    refine relined_infix_indent hstatement ?_ (by rw [hlast]; decide)
    rintro hnil
    rw [hnil] at hlast
    cases hlast
  have hscript : (indent "    " runtime.loaderStatements).toList <:+: script :=
    infix_joinLines_of_mem (by simp)
  have hliteral : relined "    ".toList t.written <:+: script :=
    (relined_infix_relined (Loader.Inlined.infix_render_ofBody hc ht slot)).trans (hindent.trans hscript)
  have hiff : relined "    ".toList t.written = t.written ↔ '\n' ∉ t.written :=
    relined_eq_self_iff (x := ' ') (by decide) (by decide)
  refine ⟨hliteral, fun hn => ?_, fun hn he => hiff.1 he (hfeed.2 hn), fun hn hi => ?_⟩
  · rwa [hiff.2 fun hm => hn (hfeed.1 hm)] at hliteral
  · exact hn (atLines_of_infix_bootstrap hi)

/-- A body with a literal on one line and another one on three. -/
def tweenBody : String :=
  "export const unit = `px`;\nexport const css = `a\nb\r\n  c`;\n"

def unitLiteral : TemplateLiteral :=
  ⟨"px".toList, by decide⟩

def cssLiteral : TemplateLiteral :=
  ⟨"a\nb\r\n  c".toList, by decide⟩

/-- A configuration that inlines the base of an animation package. -/
def inlinedConfig : Config where
  registry := .ofList [("gsap", Registry.shim tweenBody)]

/-- The body is inlined. -/
theorem exists_runtime_tween :
    ∃ plan runtime, Plan.ofRequest tweenRequest inlinedConfig = .ok plan ∧ plan.runtime = some runtime ∧
      Loader.Inlined.ofBody "__dep_gsap" tweenBody ∈ (Loader.plan inlinedConfig plan.classifications).inlined := by
  let classifications : List Classification := [⟨"gsap/all", .registryKnown, .animationFamily "gsap"⟩]
  let runtime := Runtime.ofParts (Loader.plan inlinedConfig classifications)
    (ModuleText.ofSource "" [tweenRecord] classifications tweenRequest.files) .tsx
  let plan : Plan := { mode := .shimmed, classifications, droppedImports := [], runtime := some runtime }
  have hclassified : inlinedConfig.classifyRecords [tweenRecord] = classifications := by
    decide +kernel
  have hscan : ImportScan.ofSource inlinedConfig.scanMode tweenRequest.source = _ :=
    ofSource_tweenRequest
  have hplan : Plan.ofRequest tweenRequest inlinedConfig = .ok plan := by
    unfold Plan.ofRequest
    rw [hscan]
    dsimp only
    rw [hclassified]
    rfl
  have hinlined : (Loader.plan inlinedConfig classifications).inlined =
      [.standIn (StandIn.animationSlot "gsap") (StandIn.animationSource "gsap"),
        .ofBody "__dep_gsap" tweenBody] := rfl
  refine ⟨plan, runtime, hplan, rfl, ?_⟩
  rw [hinlined]
  exact List.mem_cons_of_mem _ List.mem_cons_self

/-- The literal on one line stays, the other one is changed. -/
theorem Plan.relined_infix_bootstrap_tween :
    ∃ plan runtime, Plan.ofRequest tweenRequest inlinedConfig = .ok plan ∧ plan.runtime = some runtime ∧
      let script := (bootstrap runtime inlinedConfig .tsx 1).toList
      "`px`".toList <:+: script ∧ "`a\n    b\n      c`".toList <:+: script ∧
        ¬ "`a\nb\r\n  c`".toList <:+: script := by
  obtain ⟨plan, runtime, hplan, hruntime, hbody⟩ := exists_runtime_tween
  have hc : (stripExportLists tweenBody.toList).1.count '\x60' = tweenBody.toList.count '\x60' := by
    decide +kernel
  have hunit : unitLiteral.written <:+: tweenBody.toList := by decide +kernel
  have hcss : cssLiteral.written <:+: tweenBody.toList := by decide +kernel
  obtain ⟨-, hkept, -⟩ := Plan.relined_infix_bootstrap hplan hruntime hbody hunit hc .tsx 1
  obtain ⟨hrelined, -, -, hgone⟩ := Plan.relined_infix_bootstrap hplan hruntime hbody hcss hc .tsx 1
  have hunitText : unitLiteral.written = "`px`".toList := by decide
  have hcssText : cssLiteral.written = "`a\nb\r\n  c`".toList := by decide
  have hrelinedText : relined "    ".toList cssLiteral.written = "`a\n    b\n      c`".toList := by decide
  rw [hunitText] at hkept
  rw [hrelinedText] at hrelined
  rw [hcssText] at hgone
  exact ⟨plan, runtime, hplan, hruntime, hkept (by decide), hrelined, hgone (by decide)⟩

/-- A literal of several lines without export syntax, in a body that is inlined, does not occur in the
bootstrap. -/
theorem Plan.bootstrap_loses_literal :
    ∃ plan runtime, Plan.ofRequest tweenRequest inlinedConfig = .ok plan ∧ plan.runtime = some runtime ∧
      Loader.Inlined.ofBody "__dep_gsap" tweenBody ∈ (Loader.plan inlinedConfig plan.classifications).inlined ∧
      cssLiteral.written <:+: tweenBody.toList ∧
      ¬ cssLiteral.written <:+:
        (bootstrap runtime inlinedConfig tweenRequest.language tweenRequest.generation).toList := by
  obtain ⟨plan, runtime, hplan, hruntime, hbody⟩ := exists_runtime_tween
  refine ⟨plan, runtime, hplan, hruntime, hbody, by decide +kernel, fun hi => ?_⟩
  exact absurd (atLines_of_infix_bootstrap hi) (by decide)

end LivePreview
