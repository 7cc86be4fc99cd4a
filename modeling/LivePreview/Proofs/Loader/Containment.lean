import LivePreview.Proofs.Code.Exports
import LivePreview.Proofs.Dependency
import LivePreview.Proofs.Loader.Agreement
/-!
# LivePreview.Proofs.Loader.Containment

**Loader statements without markup.** What a loader statement is made of comes from the configuration
and from specifiers that were checked. If the configuration has no markup (`Config.Tagless`), nothing
that a walk is asked for has any, and neither have the statements that it leads to.
-/

namespace LivePreview

open Text

/-! ### Configurations without markup -/

/-- Has the descriptor no angle bracket, and no mark in its module body? -/
structure Descriptor.Tagless (d : Descriptor) : Prop where
  peers : ∀ peer ∈ d.peers, '<' ∉ peer.toList
  locator : ∀ url ∈ d.locator, '<' ∉ url.toList
  shimBody : ∀ body ∈ d.shimBody, Markless body.toList

/-- No name or address of the configuration has an angle bracket, and no module body a mark. -/
structure Config.Tagless (config : Config) : Prop where
  keys : ∀ e ∈ config.registry.entries, '<' ∉ e.1.toList
  descriptors : ∀ e ∈ config.registry.entries, e.2.Tagless
  localShims : ∀ e ∈ config.localShims.entries, Markless e.2.toList
  cdnBase : '<' ∉ config.cdnBase.toList
  cdnQuery : '<' ∉ config.cdnQuery.toList

theorem not_mem_append {a b : String} (ha : '<' ∉ a.toList) (hb : '<' ∉ b.toList) :
    '<' ∉ (a ++ b).toList := by
  rw [String.toList_append, List.mem_append, not_or]
  exact ⟨ha, hb⟩

/-! ### The standard configuration -/

namespace Registry

theorem tagless_core (globalName : String) : (core globalName).Tagless := by
  constructor <;> simp [core]

theorem tagless_unsupported : unsupported.Tagless := by
  constructor <;> simp [unsupported]

theorem tagless_cdn {locator : String} {peers : List String} (hl : '<' ∉ locator.toList)
    (hp : ∀ peer ∈ peers, '<' ∉ peer.toList) : (cdn locator peers).Tagless := by
  constructor
  · exact hp
  · simpa [cdn] using hl
  · simp [cdn]

theorem tagless_shim {body : String} (hb : Markless body.toList) : (shim body).Tagless := by
  constructor
  · simp [shim]
  · simp [shim]
  · simpa [shim] using hb

theorem not_mem_pinned {package : String} (h : '<' ∉ package.toList) :
    '<' ∉ (pinned package).toList :=
  not_mem_append (not_mem_append (not_mem_append (by decide) h) (by decide)) (by decide)

theorem markless_classNamesBody : Markless classNamesBody.toList := by
  refine markless_joinLines_of_not_mem ?_
  simp only [List.forall_mem_cons, List.not_mem_nil, false_imp_iff, implies_true, and_true]
  and_intros
  all_goals
    rw [String.toList_ofList]
    decide

theorem markless_uniqueIdBody : Markless uniqueIdBody.toList := by
  refine markless_joinLines_of_not_mem ?_
  simp only [List.forall_mem_cons, List.not_mem_nil, false_imp_iff, implies_true, and_true]
  and_intros
  all_goals
    rw [String.toList_ofList]
    decide

/-- The packages that are known without a configuration have no markup. -/
theorem tagless_standard {e : String × Descriptor} (he : e ∈ standard.entries) :
    '<' ∉ e.1.toList ∧ e.2.Tagless := by
  have hpinned : ∀ {package : String} {peers : List String}, '<' ∉ package.toList →
      (∀ peer ∈ peers, '<' ∉ peer.toList) → (cdn (pinned package) peers).Tagless :=
    fun h hp => tagless_cdn (not_mem_pinned h) hp
  -- What is said of an entry does not depend on where the order of the keys puts it.
  have hlisted := Dictionary.mem_ofList he
  clear he
  revert e
  simp only [List.forall_mem_cons, List.not_mem_nil, false_imp_iff, implies_true, and_true]
  and_intros
  all_goals with_reducible first
    | exact tagless_core _
    | exact tagless_unsupported
    | exact tagless_shim markless_classNamesBody
    | exact tagless_shim markless_uniqueIdBody
    | refine hpinned ?_ ?_
    | refine tagless_cdn ?_ ?_
    | skip
  all_goals decide

end Registry

/-- The standard configuration has no markup. -/
theorem Config.tagless_default : ({} : Config).Tagless where
  keys _ he := (Registry.tagless_standard he).1
  descriptors _ he := (Registry.tagless_standard he).2
  localShims _ h := absurd h List.not_mem_nil
  cdnBase := by decide
  cdnQuery := by decide

/-! ### Specifiers that were checked -/

namespace Config

variable {config : Config} {specifier : String}

theorem not_mem_of_refusal? (h : config.refusal? specifier = none) : '<' ∉ specifier.toList := by
  obtain ⟨form, hform, htext⟩ := (refusal?_eq_none_iff.1 h).wellFormed
  rw [← htext]
  exact not_mem_intercalate (by decide) (hform.not_mem_of_isSegmentPart (by decide))

/-- Addresses of checked specifiers have no angle bracket. -/
theorem Tagless.publicUrl (hconfig : config.Tagless) (h : '<' ∉ specifier.toList) :
    '<' ∉ (config.publicUrl specifier).toList := by
  have hbase : '<' ∉ dropEndWhile (· == '/') config.cdnBase.toList :=
    not_mem_dropEndWhile hconfig.cdnBase
  unfold Config.publicUrl
  split <;> simp [hbase, h, hconfig.cdnQuery]

end Config

/-! ### Resolutions -/

/-- Has nothing that the resolution was given an angle bracket, or a mark if it is code? -/
def Resolution.Tagless (specifier : String) : Resolution → Prop
  | shim body | localShim body => Markless body.toList
  | fetch url peers => '<' ∉ specifier.toList ∧ '<' ∉ url.toList ∧ ∀ peer ∈ peers, '<' ∉ peer.toList
  | _ => True

namespace Config.Tagless

variable {config : Config} {specifier : String} {d : Descriptor} (hconfig : config.Tagless)

include hconfig

theorem locator (hd : config.registry.get? specifier = some d) :
    '<' ∉ (d.locator.getD (config.publicUrl specifier)).toList := by
  have hmem := Dictionary.mem_entries_of_get? hd
  cases hl : d.locator with
  | none => exact hconfig.publicUrl (hconfig.keys _ hmem)
  | some url => exact (hconfig.descriptors _ hmem).locator url hl

theorem shimBody (hd : config.registry.get? specifier = some d) :
    Markless (d.shimBody.getD "").toList := by
  cases hb : d.shimBody with
  | none => exact (by decide : Markless "".toList)
  | some body => exact (hconfig.descriptors _ (Dictionary.mem_entries_of_get? hd)).shimBody body hb

theorem resolveNearby (specifier : String) :
    (config.resolveNearby specifier).Tagless specifier := by
  unfold Config.resolveNearby
  dsimp only
  split
  · trivial
  · split
    · trivial
    · split
      · next body hbody => exact hconfig.localShims _ (Dictionary.mem_entries_of_get? hbody)
      · trivial

theorem resolveSubpath (specifier : String) :
    (config.resolveSubpath specifier).2.Tagless specifier := by
  unfold Config.resolveSubpath
  dsimp only
  split
  · trivial
  · split
    · trivial
    · next hrefusal =>
      have hspecifier := Config.not_mem_of_refusal? hrefusal
      split
      · trivial
      · split
        · trivial
        · exact ⟨hspecifier, hconfig.publicUrl hspecifier, fun _ hp => absurd hp List.not_mem_nil⟩

theorem resolveKnown (hd : config.registry.get? specifier = some d) :
    (config.resolveKnown specifier d).2.Tagless specifier := by
  have hmem := Dictionary.mem_entries_of_get? hd
  unfold Config.resolveKnown
  split
  · trivial
  · exact ⟨hconfig.keys _ hmem, hconfig.locator hd, (hconfig.descriptors _ hmem).peers⟩
  · exact hconfig.shimBody hd
  · trivial

theorem classify (specifier : String) :
    (config.classify specifier).resolution.Tagless specifier := by
  show (config.decide specifier).2.Tagless specifier
  unfold Config.decide
  dsimp only
  split
  · trivial
  · split
    · exact hconfig.resolveNearby specifier
    · split
      · exact hconfig.resolveSubpath specifier
      · split
        · next hd => exact hconfig.resolveKnown hd
        · split
          · next hrefusal =>
            have hspecifier := Config.not_mem_of_refusal? hrefusal
            exact ⟨hspecifier, hconfig.publicUrl hspecifier, fun _ hp => absurd hp List.not_mem_nil⟩
          · trivial

end Config.Tagless

namespace Loader

/-! ### Statements -/

theorem not_mem_ofSpecifier (specifier : String) : '<' ∉ (Slot.ofSpecifier specifier).toList := by
  have hbyte : ∀ b < 256, '<' ∉ Slot.spellByte b := by decide +kernel
  refine not_mem_append (by decide) ?_
  rw [String.toList_ofList]
  intro hm
  obtain ⟨b, hb, hm⟩ := List.mem_flatMap.1 hm
  exact hbyte b (lt_of_mem_encode hb) hm

theorem not_mem_slotText {slot : String} (hs : '<' ∉ slot.toList) : '<' ∉ (slotText slot).toList :=
  not_mem_append (not_mem_append (by decide) hs) (by decide)

/-- A fetch has no angle bracket. -/
theorem not_mem_fetch {f : Fetch} (hs : '<' ∉ f.slot.toList) (hu : '<' ∉ f.url.toList)
    (hn : '<' ∉ f.specifier.toList) : '<' ∉ f.render.toList := by
  have hliteral : ∀ {s : String}, '<' ∉ s.toList → '<' ∉ (Json.literal s).toList := by
    intro s h
    rw [Json.literal, String.toList_ofList]
    exact not_mem_literalChars h
  have hslot := not_mem_slotText hs
  have hurl := hliteral hu
  have hname := hliteral hn
  unfold Fetch.render
  repeat' with_reducible refine not_mem_append ?_ ?_
  all_goals first | with_reducible assumption | decide

/-- The fields of an object of exports. -/
theorem markless_fields {m : Code.StrippedModule} (h : m.Sound) :
    let default := m.defaultBinding.toList.map fun name => ("default", name)
    let named := (m.exports.filter (·.exported != "default")).map fun e => (e.exported, e.localName)
    Markless (", ".intercalate ((default ++ named).map fun f => f.1 ++ ": " ++ f.2)).toList := by
  intro default named
  have hfield : ∀ f ∈ default ++ named, Markless f.1.toList ∧ '<' ∉ f.2.toList := by
    intro f hf
    rcases List.mem_append.1 hf with hf | hf
    · obtain ⟨name, hname, rfl⟩ := List.mem_map.1 hf
      exact ⟨(by decide : Markless "default".toList), h.defaultBinding name (Option.mem_toList.1 hname)⟩
    · obtain ⟨e, he, rfl⟩ := List.mem_map.1 hf
      have he := h.exports e (List.mem_of_mem_filter he)
      exact ⟨he.exported, Code.not_mem_of_isIdent he.localName⟩
  refine Markless.intercalate (by decide) fun t ht => ?_
  obtain ⟨f, hf, rfl⟩ := List.mem_map.1 ht
  obtain ⟨hname, hvalue⟩ := hfield f hf
  exact markless_append (sealed_append_separator hname (by decide)) (Sealed.of_not_mem hvalue).markless

/-- A module body becomes a statement without marks. -/
theorem markless_ofBody {slot body : String} (hs : '<' ∉ slot.toList) (hb : Markless body.toList) :
    Markless (Inlined.ofBody slot body).render.toList := by
  have hlocal : '<' ∉ defaultLocal.toList := by decide
  have hsound := Code.sound_stripExports hlocal hb
  have hcode : Markless (trimEnd (Code.stripExports defaultLocal body.toList).code) := by
    obtain ⟨blanks, -, he⟩ := exists_trimEnd_append (Code.stripExports defaultLocal body.toList).code
    exact hsound.code.of_isInfix (List.IsPrefix.isInfix ⟨blanks, he⟩)
  rw [← String.toList_ofList (l := trimEnd _)] at hcode
  have hfields := markless_fields hsound
  have hfront : Sealed (slotText slot ++ " = (function () \x7b\n").toList :=
    .of_not_mem (not_mem_append (not_mem_slotText hs) (by decide))
  have hbody := sealed_append_separator (markless_append hfront hcode)
    (by decide : Separates "\nreturn \x7b ".toList)
  exact (sealed_append_separator (markless_append hbody hfields) (by decide)).markless

/-! ### Walks -/

/-- May a walk be asked for it? -/
def Request.Tagless : Request → Prop
  | inline code => Markless code.render.toList
  | fetch specifier url peers =>
    '<' ∉ specifier.toList ∧ '<' ∉ url.toList ∧ ∀ peer ∈ peers, '<' ∉ peer.toList

/-- No statement of the plan has a mark. -/
def Plan.Contained (plan : Plan) : Prop :=
  ∀ statement ∈ plan.statements, Markless statement.toList

section Walks

variable {config : Config} {specifier : String} {rs : List Request} {w w' : Walk}

theorem contained_inline {code : Inlined} (hc : Markless code.render.toList)
    (hw : w.plan.Contained) : (w.inline code).plan.Contained := by
  by_cases ht : code.slot ∈ w.taken
  · rw [Walk.inline_of_mem ht]
    exact hw
  · rw [Walk.inline_of_not_mem ht]
    intro statement hs
    simp only [Plan.statements, List.map_append, List.map_cons, List.map_nil,
      List.append_assoc, List.mem_append, List.mem_singleton] at hs
    rcases hs with hs | rfl | hs
    · exact hw statement (List.mem_append_left _ hs)
    · exact hc
    · exact hw statement (List.mem_append_right _ hs)

theorem contained_emit {f : Fetch} (hf : Markless f.render.toList) (hw : w.plan.Contained) :
    (w.emit f).plan.Contained := by
  intro statement hs
  simp only [Plan.statements, Walk.emit, List.map_append, List.map_cons, List.map_nil,
    List.mem_append, List.mem_singleton] at hs
  rcases hs with hs | hs | rfl
  · exact hw statement (List.mem_append_left _ hs)
  · exact hw statement (List.mem_append_right _ hs)
  · exact hf

/-- Is a package provided without markup? -/
def Provision.Tagless : Provision → Prop
  | nothing => True
  | body text => Markless text.toList
  | fetch url peers => '<' ∉ url.toList ∧ ∀ peer ∈ peers, '<' ∉ peer.toList

theorem tagless_provision (hconfig : config.Tagless) (hs : '<' ∉ specifier.toList) :
    (provision config specifier).Tagless := by
  unfold provision
  split
  · trivial
  · split
    · exact ⟨hconfig.publicUrl hs, fun _ hp => absurd hp List.not_mem_nil⟩
    · next d hd =>
      split
      · trivial
      · trivial
      · exact ⟨hconfig.locator hd, (hconfig.descriptors _ (Dictionary.mem_entries_of_get? hd)).peers⟩
      · exact hconfig.shimBody hd

/-- A package that is known by its name is asked for without markup. -/
theorem tagless_provisions (hconfig : config.Tagless) (hs : '<' ∉ specifier.toList) :
    ∀ r ∈ provisions config specifier, r.Tagless := by
  have hprovision := tagless_provision hconfig hs
  refine forall_provisions (fun body hp => ?_) (fun url peers hp => ?_)
  · rw [hp] at hprovision
    exact markless_ofBody (not_mem_ofSpecifier specifier) hprovision
  · rw [hp] at hprovision
    exact ⟨hs, hprovision⟩

theorem markless_standIn {slot source : String} (hs : '<' ∉ slot.toList)
    (h : Markless source.toList) : Markless (Inlined.standIn slot source).render.toList := by
  have hfront : Sealed (slotText slot ++ " = ").toList :=
    .of_not_mem (not_mem_append (not_mem_slotText hs) (by decide))
  exact (sealed_append_separator (markless_append hfront h) (by decide)).markless

theorem markless_animationStandIn (base : String) :
    Markless (Inlined.standIn (StandIn.animationSlot base) (StandIn.animationSource base)).render.toList := by
  unfold StandIn.animationSlot StandIn.animationSource
  split
  all_goals
    refine markless_standIn (by decide) (markless_joinLines_of_not_mem ?_)
    simp only [List.forall_mem_cons, List.not_mem_nil, false_imp_iff, implies_true, and_true]
    and_intros
  all_goals
    rw [String.toList_ofList]
    decide

theorem markless_helperStandIn (helper : Helper) :
    Markless (Inlined.standIn (StandIn.helperSlot helper) (StandIn.helperSource helper)).render.toList := by
  cases helper
  all_goals
    refine markless_standIn (by decide) (markless_joinLines_of_not_mem ?_)
    simp only [List.forall_mem_cons, List.not_mem_nil, false_imp_iff, implies_true, and_true]
    and_intros
  all_goals
    rw [String.toList_ofList]
    decide

/-- Nothing that a dependency asks for has markup. -/
theorem tagless_requests (hconfig : config.Tagless) (specifier : String) :
    ∀ r ∈ requests config (config.classify specifier), r.Tagless := by
  have hresolution := hconfig.classify specifier
  refine forall_requests (fun body hb => ?_) (fun helper _ => markless_helperStandIn helper)
    (fun base _ => markless_animationStandIn base) (fun base hbase => ?_) (fun url peers hfetch => ?_)
  · refine markless_ofBody (not_mem_ofSpecifier specifier) ?_
    rcases hb with hb | hb
    all_goals
      rw [hb] at hresolution
      exact hresolution
  · have hfamilies : ∀ base ∈ animationFamilies, '<' ∉ base.toList := by decide
    exact tagless_provisions hconfig (hfamilies base (Config.mem_animationFamilies hbase))
  · rw [hfetch] at hresolution
    exact hresolution

/-- **Serving keeps a plan contained.** -/
theorem Serves.contained (hconfig : config.Tagless) (h : Serves config rs w w')
    (hr : ∀ r ∈ rs, r.Tagless) (hw : w.plan.Contained) : w'.plan.Contained := by
  induction h with
  | nil => exact hw
  | inline _ ih =>
    exact ih (fun r hm => hr r (List.mem_cons_of_mem _ hm))
      (contained_inline (hr _ List.mem_cons_self) hw)
  | skip _ _ ih => exact ih (fun r hm => hr r (List.mem_cons_of_mem _ hm)) hw
  | @load specifier url _ _ _ _ _ _ _ _ ihp ih =>
    obtain ⟨hspecifier, hurl, hpeers⟩ := hr _ List.mem_cons_self
    have hfetch : '<' ∉ (Fetch.mk specifier (Slot.ofSpecifier specifier) url).render.toList :=
      not_mem_fetch (not_mem_ofSpecifier specifier) hurl hspecifier
    refine ih (fun r hm => hr r (List.mem_cons_of_mem _ hm)) (contained_emit ?_ (ihp ?_ hw))
    · exact (Sealed.of_not_mem hfetch).markless
    · intro r hm
      obtain ⟨peer, hpeer, hm⟩ := List.mem_flatMap.1 hm
      exact tagless_provisions hconfig (hpeers peer hpeer) r hm

/-- **Loader statements have no marks**, if the configuration has no markup. -/
theorem contained_plan (hconfig : config.Tagless) (specifiers : List String) :
    (Loader.plan config (specifiers.map config.classify)).Contained := by
  refine (serves_plan config specifiers {}).contained hconfig (fun r hr => ?_) ?_
  · obtain ⟨c, hc, hr⟩ := List.mem_flatMap.1 hr
    obtain ⟨specifier, -, rfl⟩ := List.mem_map.1 hc
    exact tagless_requests hconfig specifier r hr
  · exact fun _ hs => absurd hs List.not_mem_nil

end Walks

end Loader

end LivePreview
