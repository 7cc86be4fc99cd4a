import LivePreview.Proofs.Loader.Agreement
import LivePreview.Proofs.Specifier
/-!
# LivePreview.Proofs.Loader.Vetting

**Which unknown packages are fetched.** What a component imports is checked before it is fetched, and
so is the path whose first step is the base of an animation package; a peer is taken from the registry
as it stands. So an unknown package that is fetched passes the check, or the registry names it as a
peer of a package that is fetched as well (`Config.Warrants`). A registry whose unknown peers pass the
check (`Config.PeersPass`) leads to nothing that does not.
-/

namespace LivePreview

open Text

/-! ### Dependencies -/

namespace Config

/-- Has everything that the resolution fetches passed the check, unless the registry knows it? -/
def Vets (config : Config) (specifier : String) : Resolution → Prop
  | .fetch _ _ => config.registry.get? specifier = none → config.Accepts specifier
  | .animationFamily base => config.Accepts base
  | _ => True

variable {config : Config} {specifier base : String}

theorem vets_nearby (config : Config) (specifier : String) :
    config.Vets specifier (config.resolveNearby specifier) := by
  unfold resolveNearby
  dsimp only
  repeat' split
  all_goals trivial

/-- The base of an animation package passes the check if a path below it does. -/
theorem accepts_base (hbase : base ∈ animationFamilies) (hdenied : config.isDenylisted base = false)
    (hfront : base.toList <+: specifier.toList) (h : config.Accepts specifier) :
    config.Accepts base := by
  have hform : ∀ base ∈ animationFamilies, base ≠ "" ∧ byteSize base.toList ≤ maxSpecifierBytes ∧
      isPackagePath base.toList = true ∧ packageName base = base := by
    decide
  obtain ⟨hne, hshort, hpath, hname⟩ := hform base hbase
  refine ⟨hne, hshort, fun p hp hi => h.harmless p hp (hi.trans hfront.isInfix),
    isPackagePath_iff.1 hpath, ?_⟩
  rw [hname]
  intro hm
  rw [isDenylisted, List.contains_iff_mem.2 hm] at hdenied
  exact Bool.false_ne_true hdenied.symm

theorem vets_subpath (config : Config) (specifier : String) :
    config.Vets specifier (config.resolveSubpath specifier).2 := by
  unfold resolveSubpath
  dsimp only
  split
  · trivial
  · next hdenied =>
    split
    · trivial
    · next hrefusal =>
      have haccepts := refusal?_eq_none_iff.1 hrefusal
      split
      · next hbase =>
        refine accepts_base (List.contains_iff_mem.1 hbase) (by simpa using hdenied) ?_ haccepts
        rw [String.toList_ofList]
        exact List.takeWhile_prefix _
      · split
        · trivial
        · exact fun _ => haccepts

/-- What the registry knows needs no check. -/
theorem vets_known {d : Descriptor} (hd : config.registry.get? specifier = some d) :
    config.Vets specifier (config.resolveKnown specifier d).2 := by
  unfold resolveKnown
  split
  · trivial
  · intro hnone
    rw [hd] at hnone
    exact absurd hnone (Option.some_ne_none d)
  · trivial
  · trivial

/-- A dependency is checked when it is judged. -/
theorem vets_classify (config : Config) (specifier : String) :
    config.Vets specifier (config.classify specifier).resolution := by
  show config.Vets specifier (config.decide specifier).2
  unfold Config.decide
  dsimp only
  split
  · trivial
  · split
    · exact vets_nearby config specifier
    · split
      · exact vets_subpath config specifier
      · split
        · next hd => exact vets_known hd
        · split
          · next hrefusal => exact fun _ => refusal?_eq_none_iff.1 hrefusal
          · trivial

/-! ### Peers -/

/-- May the package be fetched, if these are fetched? The registry knows it, or it passes the check,
or it is a peer of one of them that the framework does not provide. -/
def Warrants (config : Config) (askers : List String) (specifier : String) : Prop :=
  config.registry.get? specifier = none → config.Accepts specifier ∨
    config.isCore specifier = false ∧ ∃ asker ∈ askers, config.HasPeer asker specifier

theorem Warrants.mono {askers more : List String} (h : config.Warrants askers specifier)
    (hsub : askers ⊆ more) : config.Warrants more specifier := by
  intro hnone
  refine (h hnone).imp_right ?_
  rintro ⟨hcore, asker, ha, hp⟩
  exact ⟨hcore, asker, hsub ha, hp⟩

/-- Does every peer pass the check that neither the framework nor the registry provides? -/
def PeersPass (config : Config) : Prop :=
  ∀ specifier peer, config.HasPeer specifier peer → config.isCore peer = false →
    config.registry.get? peer = none → config.Accepts peer

end Config

namespace Loader

variable {config : Config} {specifier : String} {opened : List String} {rs : List Request}
  {w w' : Walk}

/-! ### Walks -/

/-- The packages that a walk has fetched. -/
def Walk.fetched (w : Walk) : List String :=
  w.plan.fetches.map (·.specifier)

theorem Walk.fetches_inline (w : Walk) (code : Inlined) :
    (w.inline code).plan.fetches = w.plan.fetches := by
  by_cases ht : code.slot ∈ w.taken
  · rw [Walk.inline_of_mem ht]
  · rw [Walk.inline_of_not_mem ht]

theorem Walk.fetched_inline (w : Walk) (code : Inlined) : (w.inline code).fetched = w.fetched := by
  rw [Walk.fetched, Walk.fetches_inline, Walk.fetched]

theorem Walk.fetched_emit (w : Walk) (f : Fetch) : (w.emit f).fetched = w.fetched ++ [f.specifier] :=
  List.map_append

theorem Serves.fetched_subset (h : Serves config rs w w') : w.fetched ⊆ w'.fetched := by
  induction h with
  | nil => exact List.Subset.refl _
  | @inline code _ w _ _ ih =>
    rw [Walk.fetched_inline] at ih
    exact ih
  | skip _ _ ih => exact ih
  | load _ _ _ ihp ih =>
    rw [Walk.fetched_emit] at ih
    exact List.Subset.trans (List.Subset.trans ihp (List.subset_append_left _ _)) ih

/-- May the request come up, if these are fetched? -/
def Request.Warranted (config : Config) (askers : List String) : Request → Prop
  | inline _ => True
  | fetch specifier _ peers =>
    config.Warrants askers specifier ∧ ∀ peer ∈ peers, config.HasPeer specifier peer

theorem Request.Warranted.mono {r : Request} {askers more : List String}
    (h : r.Warranted config askers) (hsub : askers ⊆ more) : r.Warranted config more := by
  cases r with
  | inline _ => trivial
  | fetch _ _ _ => exact ⟨h.1.mono hsub, h.2⟩

/-- May everything be fetched that a walk has fetched, if what it has entered is fetched too? -/
def Walk.Vetted (config : Config) (opened : List String) (w : Walk) : Prop :=
  ∀ f ∈ w.plan.fetches, config.Warrants (opened ++ w.fetched) f.specifier

theorem Walk.Vetted.inline (h : w.Vetted config opened) (code : Inlined) :
    (w.inline code).Vetted config opened := by
  intro f hf
  rw [Walk.fetches_inline] at hf
  rw [Walk.fetched_inline]
  exact h f hf

/-- The package that was entered last is fetched. -/
theorem Walk.Vetted.emit {f : Fetch} (h : w.Vetted config (f.specifier :: opened))
    (hf : config.Warrants (opened ++ w.fetched) f.specifier) : (w.emit f).Vetted config opened := by
  intro g hg
  rw [Walk.fetched_emit]
  rcases List.mem_append.1 hg with hg | hg
  · refine (h g hg).mono fun asker ha => ?_
    simp only [List.cons_append, List.mem_cons, List.mem_append, List.not_mem_nil, or_false] at ha ⊢
    tauto
  · rw [List.mem_singleton.1 hg, ← List.append_assoc]
    exact hf.mono (List.subset_append_left _ _)

/-- What is known by its name is fetched if the name may be. -/
theorem warranted_provisions {askers : List String}
    (h : config.isCore specifier = false → config.Warrants askers specifier) :
    ∀ r ∈ provisions config specifier, r.Warranted config askers := by
  refine forall_provisions (fun _ _ => trivial) fun url peers hp => ?_
  -- Nothing is fetched that the framework provides.
  have hcore : config.isCore specifier = false := by
    rw [← Bool.not_eq_true]
    intro hcore
    rw [provision, if_pos hcore] at hp
    exact Provision.noConfusion hp
  exact ⟨h hcore, (peersOf_provision hp).known⟩

/-- What a dependency asks for has passed the check. -/
theorem warranted_requests (config : Config) (specifier : String) :
    ∀ r ∈ requests config (config.classify specifier), r.Warranted config [] := by
  have hvets := config.vets_classify specifier
  refine forall_requests (fun _ _ => trivial) (fun _ _ => trivial) (fun _ _ => trivial)
    (fun base hbase => ?_) (fun url peers hfetch => ?_)
  · rw [hbase] at hvets
    exact warranted_provisions fun _ _ => .inl hvets
  · rw [hfetch] at hvets
    exact ⟨fun hnone => .inl (hvets hnone), (peersOf_classify hfetch).known⟩

/-- **Serving keeps a walk vetted.** -/
theorem Serves.vetted (h : Serves config rs w w') :
    ∀ {opened}, w.Vetted config opened → (∀ r ∈ rs, r.Warranted config (opened ++ w.fetched)) →
      w'.Vetted config opened := by
  induction h with
  | nil => exact fun hw _ => hw
  | @inline code _ w _ _ ih =>
    intro opened hw hr
    refine ih (hw.inline code) fun r hm => ?_
    rw [Walk.fetched_inline]
    exact hr r (List.mem_cons_of_mem _ hm)
  | skip _ _ ih =>
    intro opened hw hr
    exact ih hw fun r hm => hr r (List.mem_cons_of_mem _ hm)
  | @load specifier url peers _ w w₁ _ _ hp _ ihp ih =>
    intro opened hw hr
    obtain ⟨hwarrant, hpeers⟩ := hr _ List.mem_cons_self
    -- While its peers are worked off, the package is entered, and that is what warrants them.
    have hentered : w₁.Vetted config (specifier :: opened) := by
      refine ihp (fun f hf => (hw f hf).mono (List.subset_cons_self _ _)) fun r hm => ?_
      obtain ⟨peer, hpeer, hm⟩ := List.mem_flatMap.1 hm
      refine warranted_provisions (fun hcore _ => ?_) r hm
      exact .inr ⟨hcore, specifier, List.mem_cons_self, hpeers peer hpeer⟩
    have hmore : opened ++ w.fetched ⊆ opened ++ w₁.fetched :=
      List.append_subset.2 ⟨List.subset_append_left _ _,
        List.subset_append_of_subset_right _ hp.fetched_subset⟩
    refine ih (hentered.emit (hwarrant.mono hmore)) fun r hm => ?_
    rw [Walk.fetched_emit, ← List.append_assoc]
    exact (hr r (List.mem_cons_of_mem _ hm)).mono (List.subset_append_of_subset_left _ hmore)

/-! ### Plans -/

/-- **Unknown packages are vetted.** A package that is fetched though the registry does not know it
passes the check, or the registry names it as a peer of a package that is fetched as well. If every
peer passes that nobody else provides, nothing unknown is fetched that does not pass. -/
theorem plan_vets (config : Config) (specifiers : List String) :
    let plan := Loader.plan config (specifiers.map config.classify)
    (∀ f ∈ plan.fetches, config.registry.get? f.specifier = none → config.Accepts f.specifier ∨
      ∃ g ∈ plan.fetches, config.HasPeer g.specifier f.specifier) ∧
    (config.PeersPass → ∀ f ∈ plan.fetches, config.registry.get? f.specifier = none →
      config.Accepts f.specifier) := by
  intro plan
  obtain ⟨w, hserves, hplan⟩ : ∃ w,
      Serves config ((specifiers.map config.classify).flatMap (requests config)) {} w ∧
        w.plan = plan :=
    ⟨_, serves_plan config specifiers {}, rfl⟩
  rw [← hplan]
  have hvetted : w.Vetted config [] := by
    refine hserves.vetted (fun f hf => absurd hf List.not_mem_nil) fun r hr => ?_
    obtain ⟨c, hc, hr⟩ := List.mem_flatMap.1 hr
    obtain ⟨specifier, -, rfl⟩ := List.mem_map.1 hc
    exact warranted_requests config specifier r hr
  refine ⟨fun f hf hnone => ?_, fun hpass f hf hnone => ?_⟩
  · refine (hvetted f hf hnone).imp_right ?_
    rintro ⟨-, asker, ha, hp⟩
    obtain ⟨g, hg, rfl⟩ := List.mem_map.1 ha
    exact ⟨g, hg, hp⟩
  · rcases hvetted f hf hnone with haccepts | ⟨hcore, asker, -, hp⟩
    · exact haccepts
    · exact hpass asker f.specifier hp hcore hnone

end Loader

/-- The standard registry knows every peer that it names. -/
theorem Config.peersPass_of_standard {config : Config} (h : config.registry = Registry.standard) :
    config.PeersPass := by
  have hknown : ∀ e ∈ Registry.standard.entries, ∀ peer ∈ e.2.peers,
      (Registry.standard.get? peer).isSome = true := by
    decide +kernel
  rintro specifier peer ⟨d, hd, hp⟩ - hnone
  rw [h] at hd hnone
  have hsome := hknown (specifier, d) (Dictionary.mem_entries_of_get? hd) peer hp
  rw [hnone] at hsome
  exact absurd hsome Bool.false_ne_true

namespace Loader

/-- With the standard registry, a package that it does not know is fetched as what it is. -/
theorem plan_vets_unknown :
    let config : Config := {}
    let plan := Loader.plan config (["@react-three/fiber", "left-pad"].map config.classify)
    let pad : Fetch := ⟨"left-pad", Slot.ofSpecifier "left-pad", config.publicUrl "left-pad"⟩
    pad ∈ plan.fetches ∧ config.registry.get? "left-pad" = none ∧ config.PeersPass ∧
      config.Accepts "left-pad" := by
  intro config plan pad
  have hfetched : pad ∈ plan.fetches := by decide +kernel
  have hunknown : config.registry.get? "left-pad" = none := by decide +kernel
  have hpass : config.PeersPass := Config.peersPass_of_standard rfl
  exact ⟨hfetched, hunknown, hpass,
    (plan_vets config ["@react-three/fiber", "left-pad"]).2 hpass pad hfetched hunknown⟩

/-- A configuration in which a chart has a peer that needs the host. -/
def chartConfig : Config where
  registry := .ofList [("chart", Registry.cdn "https://cdn.example.test/chart.js" ["fs"])]

/-- A peer is not checked: a package that is refused when it is imported is fetched when it is a
peer. -/
theorem plan_fetches_denied_peer :
    let plan := Loader.plan chartConfig (["chart"].map chartConfig.classify)
    (∃ f ∈ plan.fetches, f.specifier = "fs") ∧ chartConfig.registry.get? "fs" = none ∧
      packageName "fs" ∈ chartConfig.denylist ∧ ¬ chartConfig.Accepts "fs" ∧
      (chartConfig.classify "fs").verdict = .refused := by
  decide +kernel

end Loader

end LivePreview
