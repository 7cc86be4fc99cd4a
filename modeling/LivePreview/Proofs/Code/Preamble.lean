import LivePreview.Code.Exports
import LivePreview.Proofs.Code.LineSweep
/-!
# LivePreview.Proofs.Code.Preamble

**Whole lines in front of a module body that export nothing stay as they are.** Every reader of export
syntax waits for `export` at the start of a line, so each sweep keeps such lines, and the first default
export behind them is the first one of the whole body.
-/

namespace LivePreview.Code

open Text

variable {text rest front : List Char} {defaultLocal : String}

/-- The word that export syntax begins with. -/
def exportWords : List String := ["export"]

theorem areHeads_exportWords : AreHeads exportWords := by
  intro w hw
  rw [List.mem_singleton.1 hw]
  exact ⟨⟨'e', "xport".toList, by decide, by decide⟩, by decide⟩

/-! ### Readers of export syntax -/

theorem word?_eq_none_of_startsWith {w : String} (h : startsWith w.toList text = false) :
    word? w text = none :=
  Option.not_isSome_iff_eq_none.1 (Bool.eq_false_iff.1 h)

theorem exportGap?_eq_none (h : ∀ w ∈ exportWords, startsWith w.toList (skipSpaces text) = false) :
    exportGap? text = none := by
  rw [exportGap?, wordGap?, word?_eq_none_of_startsWith (h "export" List.mem_cons_self)]
  rfl

theorem waitsFor_starReexport : WaitsFor exportWords starReexport? := by
  intro text h
  rw [starReexport?, exportGap?_eq_none h]
  rfl

theorem waitsFor_listReexport : WaitsFor exportWords listReexport? := by
  intro text h
  rw [listReexport?, exportGap?_eq_none h]
  rfl

theorem waitsFor_typeList : WaitsFor exportWords typeList? := by
  intro text h
  rw [typeList?, exportGap?_eq_none h]
  rfl

theorem waitsFor_exportList : WaitsFor exportWords exportList? := by
  intro text h
  rw [exportList?, word?_eq_none_of_startsWith (h "export" List.mem_cons_self)]
  rfl

theorem waitsFor_exportedDeclaration : WaitsFor exportWords exportedDeclaration? := by
  intro text h
  rw [exportedDeclaration?, exportGap?_eq_none h]
  rfl

theorem waitsFor_exportKeyword : WaitsFor exportWords exportKeyword? := by
  intro text h
  rw [exportKeyword?, exportGap?_eq_none h]
  rfl

/-! ### Module bodies -/

section Front

variable (hc : Clear isSpaceOrTab exportWords front) (he : EndsLine front)

include hc he

theorem stripExportLists_append (text : List Char) :
    stripExportLists (front ++ text) =
      (front ++ (stripExportLists text).1, (stripExportLists text).2) := by
  simp only [stripExportLists, waitsFor_starReexport.sweep_append areHeads_exportWords hc he,
    waitsFor_listReexport.sweep_append areHeads_exportWords hc he,
    waitsFor_typeList.sweep_append areHeads_exportWords hc he,
    waitsFor_exportList.sweep_append areHeads_exportWords hc he]

theorem cutDefault?_append (text : List Char) :
    cutDefault? (front ++ text) =
      (cutDefault? text).map fun (before, more) => (front ++ before, more) := by
  have hreader : WaitsFor exportWords fun line => do
      let rest ← wordGap? "default" (← exportGap? line)
      return (⟨(), [], rest⟩ : Hit Unit) := by
    intro text h
    dsimp only
    rw [exportGap?_eq_none h]
    rfl
  unfold cutDefault?
  simp only [hreader.firstHit?_append areHeads_exportWords hc he]
  cases firstHit? _ true text with
  | none => rfl
  | some found =>
    -- The indentation is read off the text behind what is kept.
    have hdrop : (front ++ text).drop (front ++ found.1).length = text.drop found.1.length := by
      rw [List.length_append, List.drop_length_add_append]
    simp only [Option.map_some, Option.bind_eq_bind, Option.bind_some, hdrop]
    rfl

theorem stripDefault_append (defaultLocal : String) (m : StrippedModule) :
    stripDefault defaultLocal { m with code := front ++ m.code } =
      { stripDefault defaultLocal m with code := front ++ (stripDefault defaultLocal m).code } := by
  unfold stripDefault
  rw [cutDefault?_append hc he]
  cases cutDefault? m.code with
  | none => rfl
  | some found =>
    obtain ⟨before, indent, rest⟩ := found
    simp only [Option.map_some]
    split
    · next hname => simp only [List.append_assoc]
    · next hname => simp only [List.append_assoc]

/-- Whole lines in front that export nothing stay in front of the module's code. -/
theorem stripExports_append (text : List Char) :
    stripExports defaultLocal (front ++ text) =
      { stripExports defaultLocal text with
        code := front ++ (stripExports defaultLocal text).code } := by
  have hdefault := fun carried => stripDefault_append hc he defaultLocal
    { code := (stripExportLists text).1, defaultBinding := carried }
  simp only [stripExports, stripExportLists_append hc he, hdefault,
    waitsFor_exportedDeclaration.sweep_append areHeads_exportWords hc he,
    waitsFor_exportKeyword.sweep_append areHeads_exportWords hc he]

end Front

end LivePreview.Code
