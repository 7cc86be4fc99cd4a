import LivePreview.Preview
import LivePreview.Proofs.FirstOccurrence
import LivePreview.Proofs.Import.Shape
import LivePreview.Proofs.Import.Strict
import LivePreview.Proofs.Loader.Agreement
import LivePreview.Proofs.Text.Occurrence
/-!
# LivePreview.Proofs.Output

**What an output says.** An output is made from decisions about specifiers, each decided once, but it
speaks about the imports of the component. `Output.Reports` says what it has to say about them: the
mode by the gravest decision, the reason by the first import that is refused, the packages by the
imports that are fetched on trust. Imports of types do not count.
-/

namespace LivePreview

open Text

/-! ### Decisions about imports -/

/-- The imports that count at run time, in source order. -/
def Request.imports (request : Request) (config : Config) : List ImportRecord :=
  (ImportScan.ofSource config.scanMode request.source).records.filter (!·.typeOnly)

/-- The line scan finds the imports in the order in which they stand in the source. -/
theorem ImportScan.ofLines_ascending (source : String) :
    (ofLines source).records.Pairwise fun r s => r.span.stop ≤ s.span.start := by
  obtain ⟨kept, hk⟩ := cuts_leavesUnopened source.toList
  refine (List.pairwise_map.1 hk.dissects.ascending).filterMap _ ?_
  intro cut later hle r hr s hs
  rw [ImportStatement.parse?_span hr, ImportStatement.parse?_span hs]
  exact hle

/-- So does the strict scan. -/
theorem ImportScan.ofSource_ascending (mode : ScanMode) (source : String) :
    (ofSource mode source).records.Pairwise fun r s => r.span.stop ≤ s.span.start := by
  cases mode with
  | heuristic => exact ofLines_ascending source
  | strict =>
    cases hparsed : Script.importDeclarations? source.toList with
    | none =>
      rw [ofSource, ofSourceBy, hparsed]
      exact ofLines_ascending source
    | some ds =>
      rw [ofSource, ofSourceBy, hparsed]
      exact List.pairwise_map.1 (ofDeclarations_excises (Script.placed_importDeclarations hparsed)).ascending

theorem Request.imports_ascending (request : Request) (config : Config) :
    (request.imports config).Pairwise fun r s => r.span.stop ≤ s.span.start :=
  (ImportScan.ofSource_ascending config.scanMode request.source).filter _

namespace Config

/-- The verdict on what a record imports. -/
def verdictOn (config : Config) (r : ImportRecord) : Verdict :=
  (config.classify r.module).verdict

/-- The packages of the imports that are fetched on trust, in source order. -/
def trusted (config : Config) (imports : List ImportRecord) : List String :=
  (imports.filter (config.verdictOn · == .autoDetected)).map (packageName ·.module)

theorem mem_trusted {config : Config} {imports : List ImportRecord} {package : String} :
    package ∈ config.trusted imports ↔
      ∃ r ∈ imports, config.verdictOn r = .autoDetected ∧ packageName r.module = package := by
  simp [trusted, and_assoc]

/-- A decision about a specifier is one about an import. -/
theorem exists_classifyRecords (config : Config) (records : List ImportRecord)
    (p : Classification → Prop) :
    (∃ c ∈ config.classifyRecords records, p c) ↔
      ∃ r ∈ records.filter (!·.typeOnly), p (config.classify r.module) := by
  simp [classifyRecords, runtimeModules, List.mem_eraseDups]

end Config

/-! ### Modes -/

namespace Mode

variable {cs : List Classification}

theorem ofClassifications_eq_disabled_iff :
    ofClassifications cs = .disabled ↔ ∃ c ∈ cs, c.verdict = .refused := by
  unfold ofClassifications
  split_ifs <;> simp_all

theorem ofClassifications_eq_auto_iff :
    ofClassifications cs = .auto ↔
      ofClassifications cs ≠ .disabled ∧ ∃ c ∈ cs, c.verdict = .autoDetected := by
  unfold ofClassifications
  split_ifs <;> simp_all

theorem ofClassifications_eq_shimmed_iff :
    ofClassifications cs = .shimmed ↔ ofClassifications cs ≠ .disabled ∧
      ofClassifications cs ≠ .auto ∧ ∃ c ∈ cs, c.resolution.isShim = true := by
  unfold ofClassifications
  split_ifs <;> simp_all

/-- The mode is decided by the gravest decision about these imports. -/
structure Fits (config : Config) (imports : List ImportRecord) (mode : Mode) : Prop where
  disabled : mode = .disabled ↔ ∃ r ∈ imports, config.verdictOn r = .refused
  auto : mode = .auto ↔ mode ≠ .disabled ∧ ∃ r ∈ imports, config.verdictOn r = .autoDetected
  shimmed : mode = .shimmed ↔ mode ≠ .disabled ∧ mode ≠ .auto ∧
    ∃ r ∈ imports, (config.classify r.module).resolution.isShim = true
  live : mode = .live ↔ ∀ r ∈ imports, config.verdictOn r ≠ .refused ∧
    config.verdictOn r ≠ .autoDetected ∧ (config.classify r.module).resolution.isShim = false

theorem fits_ofClassifications (config : Config) (records : List ImportRecord) :
    Fits config (records.filter (!·.typeOnly))
      (ofClassifications (config.classifyRecords records)) := by
  have hexists := config.exists_classifyRecords records
  have hdisabled := ofClassifications_eq_disabled_iff.trans (hexists (·.verdict = .refused))
  have hauto := ofClassifications_eq_auto_iff.trans
    (and_congr_right' (hexists (·.verdict = .autoDetected)))
  have hshimmed := ofClassifications_eq_shimmed_iff.trans
    (and_congr_right' (and_congr_right' (hexists (·.resolution.isShim = true))))
  refine ⟨hdisabled, hauto, hshimmed, ?_⟩
  -- There are four modes, and the other three are told.
  have hlive : ∀ mode : Mode, mode = .live ↔
      ¬ mode = .disabled ∧ ¬ mode = .auto ∧ ¬ mode = .shimmed := by
    rintro (_ | _ | _ | _) <;> decide
  rw [hlive, hshimmed, hauto, hdisabled]
  simp only [Config.verdictOn]
  grind

end Mode

/-! ### Plans -/

namespace Plan

variable {config : Config} {records : List ImportRecord} {plan : Plan}

/-- The dependency that disables a preview is the one of the first import that is refused. -/
theorem unsupported_eq (h : plan.classifications = config.classifyRecords records) :
    plan.unsupported =
      ((records.filter (!·.typeOnly)).find? (config.verdictOn · == .refused)).map (·.module) := by
  rw [unsupported, h, Config.classifyRecords, List.find?_map, Config.runtimeModules, find?_eraseDups,
    List.find?_map, Option.map_map, Option.map_map]
  rfl

/-- The packages that a plan fetches on trust are those of its imports, each once. -/
theorem autoDetectedPackages_eq (h : plan.classifications = config.classifyRecords records) :
    plan.autoDetectedPackages = (config.trusted (records.filter (!·.typeOnly))).eraseDups := by
  rw [autoDetectedPackages, h, Config.classifyRecords, List.filter_map, List.map_map,
    Config.runtimeModules, filter_eraseDups, eraseDups_map_eraseDups, List.filter_map, List.map_map]
  rfl

end Plan

/-! ### Outputs -/

/-- These are the packages of the imports that are fetched on trust, each once, in the order of their
first imports. -/
structure Config.Lists (config : Config) (imports : List ImportRecord) (packages : List String) :
    Prop where
  mem_iff : ∀ package, package ∈ packages ↔
    ∃ r ∈ imports, config.verdictOn r = .autoDetected ∧ packageName r.module = package
  nodup : packages.Nodup
  ordered : packages.Pairwise fun a b =>
    (config.trusted imports).idxOf a < (config.trusted imports).idxOf b

theorem Config.lists_trusted (config : Config) (imports : List ImportRecord) :
    config.Lists imports (config.trusted imports).eraseDups where
  mem_iff _ := List.mem_eraseDups.trans Config.mem_trusted
  nodup := nodup_eraseDups _
  ordered := pairwise_idxOf_eraseDups _

/-- What an output has to say about a component with these imports, under a configuration. -/
structure Output.Reports (config : Config) (imports : List ImportRecord) (o : Output) : Prop where
  mode : o.mode.Fits config imports
  /-- A disabled preview has nothing to run. The reason is the first import that is refused. -/
  refusal : o.mode = .disabled → o.runtimeCode = none ∧ o.document = none ∧
    ∃ before r after, imports = before ++ r :: after ∧ config.verdictOn r = .refused ∧
      (∀ earlier ∈ before, config.verdictOn earlier ≠ .refused) ∧
      o.error = some ("Unsupported dependency: " ++ r.module)
  /-- Any other one has no error, and the document, if it is asked for, holds what is run. -/
  success : o.mode ≠ .disabled → o.error = none ∧ ∃ code, o.runtimeCode = some code ∧
    o.document.isSome = config.emitDocument ∧
    ∀ document ∈ o.document, code.toList <:+: document.toList
  packages : config.Lists imports o.autoDetectedPackages
  packages_ne_nil : o.mode = .auto → o.autoDetectedPackages ≠ []

section Preview

variable {request : Request} {config : Config}

/-- The document holds the bootstrap. -/
theorem bootstrap_infix_document (runtime : Runtime) (config : Config) (language : Language)
    (generation : UInt64) :
    (bootstrap runtime config language generation).toList <:+:
      (document runtime config language generation).toList := by
  have hline : (bootstrap runtime config language generation).toList <:+:
      (bootstrap runtime config language generation ++ "</script>").toList := by
    rw [String.toList_append]
    exact (List.prefix_append _ _).isInfix
  refine hline.trans (infix_joinLines_of_mem ?_)
  simp

/-- What is decided about a request for a framework that can be mounted. -/
theorem Plan.exists_ofRequest (config : Config) (h : request.framework = supportedFramework) :
    ∃ plan, Plan.ofRequest request config = .ok plan ∧
      plan.classifications =
        config.classifyRecords (ImportScan.ofSource config.scanMode request.source).records ∧
      plan.mode = Mode.ofClassifications plan.classifications ∧
      (plan.runtime = none ↔ plan.mode = .disabled) := by
  refine ⟨_, by rw [Plan.ofRequest, if_neg (by simp [h])], rfl, rfl, ?_⟩
  dsimp only
  split_ifs with hmode <;> simp [hmode]

/-- What an output is made of. -/
theorem preview_eq {plan : Plan} (h : Plan.ofRequest request config = .ok plan) :
    ∃ o, preview request config = .ok o ∧ o.mode = plan.mode ∧
      o.autoDetectedPackages = plan.autoDetectedPackages ∧
      (plan.runtime = none → o.runtimeCode = none ∧ o.document = none ∧
        o.error = some ("Unsupported dependency: " ++ plan.unsupported.getD "")) ∧
      ∀ runtime ∈ plan.runtime, o.error = none ∧
        o.runtimeCode = some (bootstrap runtime config request.language request.generation) ∧
        o.document = if config.emitDocument then
          some (document runtime config request.language request.generation) else none := by
  unfold preview
  rw [h]
  dsimp only [bind, Except.bind]
  cases hruntime : plan.runtime with
  | none => exact ⟨_, rfl, rfl, rfl, fun _ => ⟨rfl, rfl, rfl⟩, fun _ h => absurd h (by simp)⟩
  | some runtime =>
    refine ⟨_, rfl, rfl, rfl, fun h => absurd h (by simp), fun other ho => ?_⟩
    rw [← Option.some.inj ho]
    exact ⟨rfl, rfl, rfl⟩

/-- The reason why a plan is disabled is the first import that is refused. -/
theorem Plan.exists_unsupported {plan : Plan} {records : List ImportRecord}
    (hclassified : plan.classifications = config.classifyRecords records)
    (h : ∃ r ∈ records.filter (!·.typeOnly), config.verdictOn r = .refused) :
    ∃ before r after, records.filter (!·.typeOnly) = before ++ r :: after ∧
      config.verdictOn r = .refused ∧ (∀ earlier ∈ before, config.verdictOn earlier ≠ .refused) ∧
      plan.unsupported = some r.module := by
  rw [Plan.unsupported_eq hclassified]
  cases hfind : (records.filter (!·.typeOnly)).find? (config.verdictOn · == .refused) with
  | none =>
    obtain ⟨r, hr, hrefused⟩ := h
    exact absurd (beq_iff_eq.2 hrefused) (List.find?_eq_none.1 hfind r hr)
  | some r =>
    obtain ⟨hrefused, before, after, himports, hbefore⟩ := List.find?_eq_some_iff_append.1 hfind
    exact ⟨before, r, after, himports, beq_iff_eq.1 hrefused, by simpa using hbefore, rfl⟩

/-- **An output says what was decided about the imports**, in the order in which they stand in the source,
for every source and every configuration; a request for any other framework is an error. -/
theorem preview_reports (request : Request) (config : Config) :
    ((request.imports config).Pairwise fun r s => r.span.stop ≤ s.span.start) ∧
    (request.framework = "react" →
      ∃ o, preview request config = .ok o ∧ o.Reports config (request.imports config)) ∧
    (request.framework ≠ "react" →
      preview request config = .error (.unsupportedFramework request.framework)) := by
  refine ⟨request.imports_ascending config, ?_, ?_⟩
  · intro hframework
    obtain ⟨plan, hplan, hclassified, hmode, hnone⟩ := Plan.exists_ofRequest config hframework
    obtain ⟨o, ho, homode, hpackages, hdisabled, hruns⟩ := preview_eq hplan
    rw [← homode] at hmode hnone
    have hfits : o.mode.Fits config (request.imports config) := by
      rw [hmode, hclassified]
      exact Mode.fits_ofClassifications config _
    have hlists : config.Lists (request.imports config) o.autoDetectedPackages := by
      rw [hpackages, Plan.autoDetectedPackages_eq hclassified]
      exact config.lists_trusted _
    refine ⟨o, ho, hfits, ?_, ?_, hlists, ?_⟩
    · intro hoff
      obtain ⟨hcode, hdocument, herror⟩ := hdisabled (hnone.2 hoff)
      obtain ⟨before, r, after, himports, hr, hbefore, hunsupported⟩ :=
        Plan.exists_unsupported hclassified (hfits.disabled.1 hoff)
      rw [hunsupported] at herror
      exact ⟨hcode, hdocument, before, r, after, himports, hr, hbefore, herror⟩
    · intro hon
      obtain ⟨runtime, hruntime⟩ := Option.ne_none_iff_exists'.1 (mt hnone.1 hon)
      obtain ⟨herror, hcode, hdocument⟩ := hruns runtime hruntime
      refine ⟨herror, _, hcode, ?_, fun document hd => ?_⟩
      · rw [hdocument]
        cases config.emitDocument <;> rfl
      · rw [hdocument] at hd
        split at hd
        · rw [← Option.some.inj hd]
          exact bootstrap_infix_document runtime config request.language request.generation
        · exact absurd hd (by simp)
    · intro hon hempty
      obtain ⟨-, r, hr, hdetected⟩ := hfits.auto.1 hon
      have hmem := (hlists.mem_iff (packageName r.module)).2 ⟨r, hr, hdetected, rfl⟩
      rw [hempty] at hmem
      exact absurd hmem List.not_mem_nil
  · intro hframework
    unfold preview
    rw [Plan.ofRequest, if_pos (by simpa [supportedFramework] using hframework)]
    rfl

/-- A preview is disabled because of a part of a package that needs the host; and there is no preview
for another framework. -/
theorem preview_reports_refused :
    let config : Config := { denylist := ["gsap"] }
    (∃ o, preview tweenRequest config = .ok o ∧ o.mode = .disabled ∧ o.runtimeCode = none ∧
      o.error = some "Unsupported dependency: gsap/all") ∧
    preview { tweenRequest with framework := "vue" } config = .error (.unsupportedFramework "vue") := by
  intro config
  have himports : tweenRequest.imports config = [tweenRecord] := by
    have hscan : ImportScan.ofSource config.scanMode tweenRequest.source = _ := ofSource_tweenRequest
    rw [Request.imports, hscan]
    rfl
  have hrefused : config.verdictOn tweenRecord = .refused := by decide +kernel
  constructor
  · obtain ⟨o, ho, hreports⟩ := (preview_reports tweenRequest config).2.1 rfl
    rw [himports] at hreports
    have hoff : o.mode = .disabled :=
      hreports.mode.disabled.2 ⟨_, List.mem_singleton_self _, hrefused⟩
    obtain ⟨hcode, -, before, r, after, hsplit, -, -, herror⟩ := hreports.refusal hoff
    have hr : r ∈ [tweenRecord] := by
      rw [hsplit]
      exact List.mem_append_right _ List.mem_cons_self
    rw [List.mem_singleton.1 hr] at herror
    exact ⟨o, ho, hoff, hcode, herror⟩
  · exact (preview_reports { tweenRequest with framework := "vue" } config).2.2 (by decide)

end Preview

end LivePreview
