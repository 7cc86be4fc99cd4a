import LivePreview.Import.Strict
import LivePreview.Proofs.Code.Preamble
import LivePreview.Proofs.Code.TypeHeads
import LivePreview.Proofs.Import.Preamble
/-!
# LivePreview.Proofs.Preamble

**Plain code in front of a module is transparent to every pass.** Whatever a pass takes begins a line
with a word of its own. Where no line of a text in front begins with any of these words, the line scan,
the removal of types and the removal of exports all leave it as it is, and find behind it what they find
without it.
-/

namespace LivePreview

open Text Code

/-- The words that a statement of module syntax or a type declaration begins with. -/
def moduleWords : List String := "import" :: typeWords

/-- Plain code: whole lines, none of which begins with one of these words behind blanks. -/
structure IsPlain (text : List Char) : Prop where
  clear : Clear isBlank moduleWords text
  endsLine : EndsLine text

namespace IsPlain

variable {text : List Char}

theorem unopened (h : IsPlain text) : ImportScan.Unopened text := by
  intro raw hraw
  rw [ImportScan.opensImport_trim, ← Bool.not_eq_true, ImportScan.opensImport_iff]
  rintro ⟨rest, hrest, -⟩
  have hstarts : startsWith "import".toList (trimStart raw) = true :=
    (startsWith_iff ..).2 (hrest ▸ List.prefix_append _ rest)
  exact absurd hstarts (Bool.eq_false_iff.1 (h.clear raw hraw "import" List.mem_cons_self))

theorem clear_types (h : IsPlain text) : Clear isSpaceOrTab typeWords text :=
  (h.clear.mono fun _ hw => List.mem_cons_of_mem _ hw).spaces areHeads_typeWords

theorem clear_exports (h : IsPlain text) : Clear isSpaceOrTab exportWords text :=
  (h.clear.mono (by decide)).spaces areHeads_exportWords

end IsPlain

/-- Plain code in front moves the records of a scan by its size and is otherwise not seen by it; it stays
in front of what is left of the source, of the source without types, and of the source without exports,
whose exports and default export are those behind it. -/
theorem passes_append_front {front : String} (h : IsPlain front.toList) (source defaultLocal : String) :
    ImportScan.ofSource .heuristic (front ++ source) =
        { records := (ImportScan.ofSource .heuristic source).records.map
            (·.shift (byteSize front.toList))
          stripped := front ++ (ImportScan.ofSource .heuristic source).stripped
          dropped := (ImportScan.ofSource .heuristic source).dropped } ∧
      stripTypes (front ++ source).toList = front.toList ++ stripTypes source.toList ∧
      stripExports defaultLocal (front ++ source).toList =
        { stripExports defaultLocal source.toList with
          code := front.toList ++ (stripExports defaultLocal source.toList).code } := by
  rw [String.toList_append]
  exact ⟨ImportScan.ofLines_append h.unopened h.endsLine source,
    stripTypes_append h.clear_types h.endsLine source.toList,
    stripExports_append h.clear_exports h.endsLine source.toList⟩

/-- Plain code that leaves a template open. -/
def openTemplate : String := "const größe = \x60\n  reimported\n"

/-- A module of one import, one type and a default export. -/
def smallModule : String := "import a from 'a';\ntype T = string;\nexport default a;\n"

open ImportScan in
theorem cuts_smallModule : cuts smallModule.toList = [⟨⟨0, 19⟩, "import a from 'a';".toList⟩] := by
  let later : List Line :=
    ["type T = string;".toList, "export default a;".toList].map (⟨·, ['\n']⟩)
  have hlines : lines smallModule.toList = ⟨"import a from 'a';".toList, ['\n']⟩ :: later := by decide
  have hopens : opensImport (trim "import a from 'a';".toList) = true := by decide
  have hfind : Extent.find .code [] ⟨"import a from 'a';".toList, ['\n']⟩ later =
      ⟨"import a from 'a';".toList, [], ['\n'], later⟩ := by
    rw [Extent.find]
    rfl
  have hlater : ∀ line ∈ later, opensImport (trim line.content) = false := by decide
  rw [cuts_eq_cutsOf, hlines, cutsOf, cutsFrom_of_opens hopens, hfind, if_neg (by decide),
    cutsOf_of_closed hlater]
  rfl

theorem passes_append_front_template :
    IsPlain openTemplate.toList ∧
      ImportScan.ofSource .heuristic (openTemplate ++ smallModule) =
        { records := [{ kind := .default, module := "a", span := ⟨31, 50⟩, defaultName := some "a" }]
          stripped := openTemplate ++ "type T = string;\nexport default a;\n"
          dropped := [] } ∧
      stripTypes (openTemplate ++ smallModule).toList =
        openTemplate.toList ++ "import a from 'a';\nexport default a;\n".toList ∧
      (stripExports "Preview" (openTemplate ++ smallModule).toList).code =
        openTemplate.toList ++ "import a from 'a';\ntype T = string;\nconst Preview = a;\n".toList ∧
      (stripExports "Preview" (openTemplate ++ smallModule).toList).defaultBinding = some "Preview" := by
  have hplain : IsPlain openTemplate.toList := ⟨by decide, by decide⟩
  obtain ⟨hscan, htypes, hexports⟩ := passes_append_front hplain smallModule "Preview"
  have hsmall : ImportScan.ofSource .heuristic smallModule =
      { records := [{ kind := .default, module := "a", span := ⟨0, 19⟩, defaultName := some "a" }]
        stripped := "type T = string;\nexport default a;\n"
        dropped := [] } := by
    rw [ImportScan.ofSource, ImportScan.ofSourceBy, ImportScan.ofLines, cuts_smallModule]
    decide +kernel
  rw [hsmall] at hscan
  refine ⟨hplain, hscan.trans (by decide +kernel), htypes.trans (by decide +kernel), ?_, ?_⟩
  · exact (congrArg StrippedModule.code hexports).trans (by decide +kernel)
  · exact (congrArg StrippedModule.defaultBinding hexports).trans (by decide +kernel)

end LivePreview
