import LivePreview.Proofs.Import.Cuts
import LivePreview.Proofs.Loader.Containment
/-!
# LivePreview.Proofs.Containment

**A component cannot break out of its document.** Whatever the component, its files and the addresses
of the run time are, they stand in the bootstrap as inert literals. Only the loader statements stand
there as code, line by line behind a margin, and those have no marks if the configuration has no
markup. So the scripts of a document are the two that its frame writes, and they end where the frame
ends them.
-/

namespace LivePreview

open Text

/-! ### Parts of the bootstrap -/

theorem infix_of_mem_lineContents {text line : List Char} (h : line ∈ lineContents text) :
    line <:+: text := by
  obtain ⟨raw, hraw, rfl⟩ := List.mem_map.1 h
  have hpiece : raw <:+: text := by
    have hflatten := List.infix_of_mem_flatten hraw
    rwa [flatten_rawLines] at hflatten
  -- The ends of a line are off the front of its reverse.
  have hfront : ∀ back, back <:+ raw.reverse → back.reverse <:+: raw := fun back hb =>
    (List.reverse_suffix.1 (by rwa [List.reverse_reverse])).isInfix
  refine List.IsInfix.trans ?_ hpiece
  split
  · next back hback => exact hfront back (hback ▸ (List.suffix_cons _ _).trans (List.suffix_cons _ _))
  · next back _ hback => exact hfront back (hback ▸ List.suffix_cons _ _)
  · exact hfront _ (List.suffix_refl _)

theorem markless_indent {margin : String} (hm : '<' ∉ margin.toList) {statements : List String}
    (h : ∀ s ∈ statements, Markless s.toList) : Markless (indent margin statements).toList := by
  refine .joinLines fun l hl => ?_
  obtain ⟨line, hline, rfl⟩ := List.mem_map.1 hl
  obtain ⟨s, hs, hline⟩ := List.mem_flatMap.1 hline
  refine markless_append (.of_not_mem hm) ?_
  rw [String.toList_ofList]
  exact (h s hs).of_isInfix (infix_of_mem_lineContents hline)

theorem sealed_titles : Sealed titles.toList := by
  have hkeys : ∀ kind ∈ DiagnosticKind.all, Sealed (kind.key ++ ": ").toList := by decide
  refine sealed_append_separator (markless_append (by decide) ?_) (by decide)
  refine .intercalate (by decide) fun t ht => ?_
  obtain ⟨kind, hkind, rfl⟩ := List.mem_map.1 ht
  exact (sealed_append (hkeys kind hkind) (sealed_inertLiteral kind.title)).markless

/-- The tips hold closing tags, which are split, and no comments. -/
theorem markless_tipTable : Markless tipTable.toList := by
  have hcomment : ¬ "<!--".toList <:+: Tips.json.chars := by
    simp only [Tips.json, Tips.table, List.map_cons, List.map_nil, Tips.Tip.json, Json.Value.chars,
      Json.itemChars, Json.memberChars]
    repeat rw [String.toList_ofList]
    decide +kernel
  rw [tipTable, String.toList_ofList]
  intro m hm
  rcases List.mem_cons.1 hm with rfl | hm
  · exact not_infix_replaceAll (by decide) (by decide) (by decide) _ fun _ _ hp => hp
  · rw [List.mem_singleton.1 hm]
    exact not_infix_replaceAll_of_not_infix (by decide) (by decide) (by decide) hcomment

theorem not_mem_toString (n : UInt64) : '<' ∉ (toString n).toList := by
  have htext : (toString n).toList = Nat.toDigits 10 n.toNat := String.toList_ofList
  rw [htext]
  intro hm
  exact absurd (Nat.isDigit_of_mem_toDigits (by decide) (by decide) hm) (by decide)

/-- A line that is written around a sealed text. -/
theorem markless_between {front text back : String} (hf : '<' ∉ front.toList)
    (ht : Sealed text.toList) (hb : '<' ∉ back.toList) : Markless (front ++ text ++ back).toList :=
  markless_append (sealed_append (.of_not_mem hf) ht) (markless_of_not_mem hb)

set_option maxRecDepth 4000 in
/-- **The bootstrap has no mark**, if the loader statements have none. -/
theorem markless_bootstrap {runtime : Runtime}
    (h : ∀ s ∈ runtime.loaderStatements, Markless s.toList) (config : Config) (language : Language)
    (generation : UInt64) : Markless (bootstrap runtime config language generation).toList := by
  have hplain : Sealed (if language.supportsJsx then "false" else "true").toList := by
    split <;> decide
  have hpresets : Sealed language.presets.toList := by cases language <;> decide
  have hguard : Sealed (staleGuard config).toList := by
    unfold staleGuard
    split <;> exact .of_not_mem (by decide)
  have htips : Sealed ("  const __tips = " ++ tipTable ++ ";").toList :=
    sealed_append_separator (markless_append (by decide) markless_tipTable) (by decide)
  have hnumber : ∀ n : UInt64, Sealed (toString n).toList := fun n => .of_not_mem (not_mem_toString n)
  refine .joinLines ?_
  simp only [List.forall_mem_cons, List.not_mem_nil, false_imp_iff, implies_true, and_true]
  and_intros
  -- Most lines are fixed, and only the heads of loops have an angle bracket.
  all_goals try
    refine markless_of_not_mem ?_
    with_reducible rw [String.toList_ofList]
    decide
  all_goals try (with_reducible rw [String.toList_ofList]; decide)
  -- The others have something of the run time in them.
  all_goals with_reducible first
    | exact markless_indent (by decide) h
    | exact htips.markless
    | exact markless_append hguard (by decide)
    | refine markless_between ?_ hplain ?_
    | refine markless_between ?_ hpresets ?_
    | refine markless_between ?_ sealed_titles ?_
    | refine markless_between ?_ (sealed_inertLiteral _) ?_
    | refine markless_between ?_ (hnumber _) ?_
  all_goals
    with_reducible rw [String.toList_ofList]
    decide

/-- The script ends with a line feed, so nothing goes on behind it. -/
theorem sealed_bootstrap {runtime : Runtime}
    (h : ∀ s ∈ runtime.loaderStatements, Markless s.toList) (config : Config) (language : Language)
    (generation : UInt64) : Sealed (bootstrap runtime config language generation).toList := by
  have hmarkless := markless_bootstrap h config language generation
  have hlast : (bootstrap runtime config language generation).toList.getLast? = some '\n' :=
    getLast?_joinLines (by simp) (by simp only [List.getLast?_cons_cons, List.getLast?_singleton])
  obtain ⟨front, hfront⟩ := List.getLast?_eq_some_iff.1 hlast
  rw [hfront] at hmarkless ⊢
  exact .of_concat hmarkless (by decide)

/-! ### The document -/

/-- An attribute has no angle bracket. -/
theorem not_mem_escapeAttribute (value : String) : '<' ∉ (escapeAttribute value).toList := by
  rw [escapeAttribute, String.toList_ofList]
  intro hm
  obtain ⟨c, -, hm⟩ := List.mem_flatMap.1 hm
  split_ifs at hm with h₁ h₂ h₃ h₄
  · exact absurd hm (by decide)
  · exact absurd hm (by decide)
  · exact absurd hm (by decide)
  · exact absurd hm (by decide)
  · exact h₃ (List.mem_singleton.1 hm).symm

/-- The number of places where a text ends a script, in whatever letter case. -/
def scriptEnds (text : String) : Nat :=
  occurrences "</script".toList (lowerAscii text.toList)

/-- No script ends across lines. -/
theorem scriptEnds_joinLines {lines : List String} {counts : List Nat}
    (h : List.Forall₂ (fun line n => scriptEnds line = n) lines counts) :
    scriptEnds (joinLines lines) = counts.foldr (· + ·) 0 := by
  induction h with
  | nil => rfl
  | @cons line n lines counts hline hlines ih =>
    cases lines with
    | nil =>
      cases hlines
      simpa [joinLines] using hline
    | cons next more =>
      have hfeed : '\n'.toLower = '\n' := by decide
      rw [List.foldr_cons, ← hline, ← ih, scriptEnds, scriptEnds, scriptEnds,
        toList_joinLines_cons line (List.cons_ne_nil next more), lowerAscii, List.map_append,
        List.map_cons, hfeed]
      exact occurrences_append_cons (by decide) (by decide) _ _

/-- Behind a sealed text, scripts end only where they end in what stands there. -/
theorem scriptEnds_append {s t : String} (h : Sealed s.toList) :
    scriptEnds (s ++ t) = scriptEnds t := by
  have hlower := inert_lowerAscii (by decide) (h "</".toList List.mem_cons_self)
  rw [scriptEnds, String.toList_append, lowerAscii, List.map_append]
  exact occurrences_append (hlower.longer "script".toList) _

/-- The relay has no angle bracket. -/
theorem sealed_consoleRelay : Sealed consoleRelay.toList := by
  refine .of_not_mem (not_mem_joinLines (by decide) ?_)
  simp only [List.forall_mem_cons, List.not_mem_nil, false_imp_iff, implies_true, and_true]
  and_intros
  all_goals
    rw [String.toList_ofList]
    decide

theorem scriptEnds_of_sealed {s : String} (h : Sealed s.toList) : scriptEnds s = 0 := by
  rw [← String.append_empty (s := s), scriptEnds_append h]
  rfl

set_option maxRecDepth 4000 in
/-- The lines of the document end a script twice. -/
theorem scriptEnds_document {runtime : Runtime}
    (h : ∀ s ∈ runtime.loaderStatements, Markless s.toList) (config : Config) (language : Language)
    (generation : UInt64) : scriptEnds (document runtime config language generation) = 2 := by
  have hmount : Sealed (escapeAttribute config.mountNodeId).toList :=
    .of_not_mem (not_mem_escapeAttribute _)
  have hbootstrap := sealed_bootstrap h config language generation
  have hcounts : [0, 0, 0, 0, 0, 0, 0, 0, 0, 0, 0, 0, 0, 0, 0, 1, 0, 0, 0, 0, 1, 0, 0, 0].foldr
      (· + ·) 0 = 2 := rfl
  rw [← hcounts]
  refine scriptEnds_joinLines ?_
  repeat' refine List.Forall₂.cons ?_ ?_
  all_goals try with_reducible exact scriptEnds_of_sealed sealed_consoleRelay
  -- Most lines have no angle bracket; the others are tags, which are counted.
  all_goals try
    refine scriptEnds_of_sealed (.of_not_mem ?_)
    with_reducible rw [String.toList_ofList]
    decide
  all_goals try (with_reducible rw [scriptEnds, String.toList_ofList]; decide)
  · rw [scriptEnds_append (sealed_append (by decide) hmount), scriptEnds, String.toList_ofList]
    decide
  · rw [scriptEnds_append (sealed_append (by decide) hmount), scriptEnds, String.toList_ofList]
    decide
  · rw [scriptEnds_append hbootstrap, scriptEnds, String.toList_ofList]
    decide
  · exact .nil

set_option maxRecDepth 4000 in
/-- No comment begins in the document. -/
theorem comment_not_infix_document {runtime : Runtime}
    (h : ∀ s ∈ runtime.loaderStatements, Markless s.toList) (config : Config) (language : Language)
    (generation : UInt64) :
    ¬ "<!--".toList <:+: (document runtime config language generation).toList := by
  have hmount : Sealed (escapeAttribute config.mountNodeId).toList :=
    .of_not_mem (not_mem_escapeAttribute _)
  have hbootstrap := sealed_bootstrap h config language generation
  have hmark : "<!--".toList = ['<', '!', '-', '-'] := by decide
  have hm : ['<', '!', '-', '-'] ∈ marks := by decide
  have hbehind : ∀ {s t : String}, Sealed s.toList → ¬ ['<', '!', '-', '-'] <:+: t.toList →
      ¬ ['<', '!', '-', '-'] <:+: (s ++ t).toList := by
    intro s t hs ht hi
    rw [String.toList_append] at hi
    exact ht ((hs _ hm).infix_append hi)
  rw [hmark]
  refine not_infix_joinLines (by decide) (by decide) ?_
  simp only [List.forall_mem_cons, List.not_mem_nil, false_imp_iff, implies_true, and_true]
  and_intros
  -- Again most lines have no angle bracket, and the others are tags.
  all_goals try
    refine (markless_of_not_mem ?_) _ hm
    with_reducible rw [String.toList_ofList]
    decide
  all_goals try (with_reducible rw [String.toList_ofList]; decide)
  · exact hbehind (sealed_append (by decide) hmount) (by decide)
  · exact (sealed_consoleRelay _ hm).1
  · exact hbehind (sealed_append (by decide) hmount) (by decide)
  · exact hbehind hbootstrap (by decide)

/-! ### Plans -/

/-- **A component cannot break out of its document**, whatever its text and the files beside it are. If
the configuration has no markup, the bootstrap has none of the marks that end or suspend a script, and
the document ends a script exactly twice and begins no comment. -/
theorem Plan.ofRequest_contained {request : Request} {config : Config} {plan : Plan}
    {runtime : Runtime} (hconfig : config.Tagless)
    (hplan : Plan.ofRequest request config = .ok plan) (hruntime : plan.runtime = some runtime)
    (language : Language) (generation : UInt64) :
    let script := (bootstrap runtime config language generation).toList
    let page := (document runtime config language generation).toList
    (¬ "</".toList <:+: script ∧ ¬ "<!--".toList <:+: script) ∧
      occurrences "</script".toList (lowerAscii page) = 2 ∧ ¬ "<!--".toList <:+: page := by
  intro script page
  obtain ⟨hclassified, hparts⟩ := Plan.ofRequest_inv hplan hruntime
  have hstatements : ∀ s ∈ runtime.loaderStatements, Markless s.toList := by
    rw [hparts, hclassified]
    exact Loader.contained_plan hconfig _
  have hscript := markless_bootstrap hstatements config language generation
  exact ⟨⟨hscript _ (by decide), hscript _ (by decide)⟩,
    scriptEnds_document hstatements config language generation,
    comment_not_infix_document hstatements config language generation⟩

/-- A component that ends scripts and begins comments, and so does the stylesheet beside it. -/
def breakoutRequest : Request where
  source := "import clsx from \"clsx\";\nimport \"./panel.css\";\n</script><!--"
  files := .ofDictionary (.ofList [("panel.css", "</style></SCRIPT><!--")])

/-- A configuration whose mount node and framework do so too. -/
def breakoutConfig : Config where
  frameworkUrl := "</Script><!--"
  mountNodeId := "</script><!--"

/-- The package that the component imports. -/
def clsxRecord : ImportRecord where
  kind := .default
  module := "clsx"
  span := ⟨0, 25⟩
  defaultName := some "clsx"

/-- The stylesheet that it imports. -/
def panelRecord : ImportRecord where
  kind := .sideEffect
  module := "./panel.css"
  span := ⟨25, 47⟩

/-- Both imports are found, and the rest is kept. -/
theorem ofSource_breakoutRequest :
    ImportScan.ofSource .heuristic breakoutRequest.source =
      { records := [clsxRecord, panelRecord], stripped := "</script><!--", dropped := [] } := by
  let package := "import clsx from \"clsx\";".toList
  let panel := "import \"./panel.css\";".toList
  let rest := "</script><!--".toList
  have hlines : Text.lines breakoutRequest.source.toList =
      [⟨package, ['\n']⟩, ⟨panel, ['\n']⟩, ⟨rest, []⟩] := by
    decide +kernel
  have hopens : ∀ statement ∈ [package, panel], ImportScan.opensImport (Text.trim statement) = true := by
    decide +kernel
  have hcloses : ImportScan.opensImport (Text.trim rest) = false := by decide +kernel
  have hpackageExtent : ImportScan.Extent.find .code [] ⟨package, ['\n']⟩
      [⟨panel, ['\n']⟩, ⟨rest, []⟩] =
        ⟨package, [], ['\n'], [⟨panel, ['\n']⟩, ⟨rest, []⟩]⟩ := by
    rfl
  have hpanelExtent : ImportScan.Extent.find .code [] ⟨panel, ['\n']⟩ [⟨rest, []⟩] =
      ⟨panel, [], ['\n'], [⟨rest, []⟩]⟩ := by
    rfl
  -- The walk over the lines does not compute, so it is followed by its equations.
  have hcuts : ImportScan.cuts breakoutRequest.source.toList =
      [⟨⟨0, 25⟩, package⟩, ⟨⟨25, 47⟩, panel⟩] := by
    rw [ImportScan.cuts_eq_cutsOf, hlines, ImportScan.cutsOf,
      ImportScan.cutsFrom_of_opens (hopens package (by simp)), hpackageExtent,
      if_neg (by decide), ImportScan.cutsOf, ImportScan.cutsFrom_of_opens (hopens panel (by simp)),
      hpanelExtent, if_neg (by decide), ImportScan.cutsOf,
      ImportScan.cutsFrom_of_closed hcloses]
    rfl
  have hpackage : ImportScan.Cut.record? ⟨⟨0, 25⟩, package⟩ = some clsxRecord := by decide +kernel
  have hpanel : ImportScan.Cut.record? ⟨⟨25, 47⟩, panel⟩ = some panelRecord := by decide +kernel
  have hrest : ImportScan.sweep
      (ImportScan.removeSpans breakoutRequest.source.toList [⟨0, 25⟩, ⟨25, 47⟩]) = rest := by
    decide +kernel
  show ImportScan.ofLines breakoutRequest.source = _
  simp only [ImportScan.ofLines, hcuts, List.filterMap_cons, List.filter_cons, hpackage, hpanel,
    List.map_cons, List.map_nil, hrest]
  simp [rest]

/-- Its text reaches the compiler as it is, the stylesheet's too, and yet both stay contained. -/
theorem Plan.ofRequest_contained_breakout :
    ∃ plan runtime, breakoutConfig.Tagless ∧
      Plan.ofRequest breakoutRequest breakoutConfig = .ok plan ∧ plan.runtime = some runtime ∧
      runtime.body = "</script><!--" ∧
      "__env.__injectStyle(\"</style></SCRIPT><!--\", \"./panel.css\");" ∈
        runtime.bindingStatements ∧
      runtime.loaderStatements.length = 1 ∧
      let script := (bootstrap runtime breakoutConfig .tsx 1).toList
      let page := (document runtime breakoutConfig .tsx 1).toList
      (¬ "</".toList <:+: script ∧ ¬ "<!--".toList <:+: script) ∧
        occurrences "</script".toList (lowerAscii page) = 2 ∧ ¬ "<!--".toList <:+: page := by
  let classifications : List Classification :=
    [⟨"clsx", .registryKnown, .shim Registry.classNamesBody⟩,
     ⟨"./panel.css", .nearby, .stylesheet false⟩]
  let text := ModuleText.ofSource "</script><!--" [clsxRecord, panelRecord] classifications
    breakoutRequest.files
  let runtime := Runtime.ofParts (Loader.plan breakoutConfig classifications) text .tsx
  let plan : Plan := { mode := .shimmed, classifications, droppedImports := [], runtime := some runtime }
  have hconfig : breakoutConfig.Tagless := { Config.tagless_default with }
  have hclassified : breakoutConfig.classifyRecords [clsxRecord, panelRecord] = classifications := by
    rfl
  have hscan : ImportScan.ofSource breakoutConfig.scanMode breakoutRequest.source = _ :=
    ofSource_breakoutRequest
  have hplan : Plan.ofRequest breakoutRequest breakoutConfig = .ok plan := by
    unfold Plan.ofRequest
    rw [hscan]
    dsimp only
    rw [hclassified]
    rfl
  have hbody : text.body = "</script><!--" := by decide +kernel
  have hinjected : "__env.__injectStyle(\"</style></SCRIPT><!--\", \"./panel.css\");" ∈
      text.bindingTexts := by
    decide +kernel
  exact ⟨plan, runtime, hconfig, hplan, rfl, hbody, hinjected, rfl,
    Plan.ofRequest_contained hconfig hplan rfl .tsx 1⟩

end LivePreview
