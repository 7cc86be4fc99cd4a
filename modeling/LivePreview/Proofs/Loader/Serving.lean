import Mathlib.Data.Finset.Card
import Mathlib.Data.List.Basic
import LivePreview.Loader
import LivePreview.Proofs.Dictionary
/-!
# LivePreview.Proofs.Loader.Serving

The **walk without a bound**: `Serves` says how a list of requests is worked off, peer after peer and
as deep as the graph goes, and never speaks of a depth. It has one outcome at most (`Serves.unique`),
and the plan's own walk, which counts its depth, reaches that outcome (`serves_plan`): whoever has
peers is in the registry, each of its entries is entered once, and so the walk ends on every graph,
with cycles or without.
-/

namespace LivePreview

namespace Config

/-- Does the registry name the second package as a peer of the first? -/
def HasPeer (config : Config) (specifier peer : String) : Prop :=
  ∃ d, config.registry.get? specifier = some d ∧ peer ∈ d.peers

/-- Is the specifier a package, with or without a scope, or a path below a scoped one? -/
def isWhole (specifier : String) : Bool :=
  Text.startsWith "@".toList specifier.toList || !specifier.toList.contains '/'

/-- Can the package be provided? Neither the configuration nor the registry counts it as a part of
the framework, and the registry does not refuse it. -/
def Provides (config : Config) (specifier : String) : Prop :=
  config.isCore specifier = false ∧ ∀ d, config.registry.get? specifier = some d →
    d.provider ≠ .core ∧ d.provider ≠ .unsupported

/-- Does the package have to come behind the peer? The registry knows it as one that is fetched
behind this peer, and the peer can be provided. -/
def Needs (config : Config) (specifier peer : String) : Prop :=
  isWhole specifier = true ∧ config.Provides peer ∧ ∃ d, config.registry.get? specifier = some d ∧
    d.provider = .cdn ∧ peer ∈ d.peers

end Config

namespace Loader

variable {config : Config} {specifier url : String} {peers : List String}

/-! ### Requests -/

/-- What a walk is asked for. -/
inductive Request
  | inline (code : Inlined)
  | fetch (specifier url : String) (peers : List String)

/-- The slot that a request wants to be filled. -/
def Request.slot : Request → String
  | inline code => code.slot
  | fetch specifier _ _ => Slot.ofSpecifier specifier

/-- What is asked for when a package is known only by its name. -/
def provisions (config : Config) (specifier : String) : List Request :=
  match provision config specifier with
  | .nothing => []
  | .body body => [.inline (.ofBody (Slot.ofSpecifier specifier) body)]
  | .fetch url peers => [.fetch specifier url peers]

/-- What is asked for to provide a dependency. -/
def requests (config : Config) (c : Classification) : List Request :=
  match c.resolution with
  | .shim body | .localShim body => [.inline (.ofBody (Slot.ofSpecifier c.specifier) body)]
  | .helperShim helper =>
    [.inline (.standIn (StandIn.helperSlot helper) (StandIn.helperSource helper))]
  | .animationFamily base =>
    .inline (.standIn (StandIn.animationSlot base) (StandIn.animationSource base)) ::
      provisions config base
  | .fetch url peers => [.fetch c.specifier url peers]
  | .framework _ | .stylesheet _ | .localEmpty | .rejected _ => []

/-- What holds of everything that may be asked for a package known by its name. -/
theorem forall_provisions {P : Request → Prop}
    (body : ∀ body, provision config specifier = .body body →
      P (.inline (.ofBody (Slot.ofSpecifier specifier) body)))
    (fetch : ∀ url peers, provision config specifier = .fetch url peers →
      P (.fetch specifier url peers)) : ∀ r ∈ provisions config specifier, P r := by
  intro r hr
  unfold provisions at hr
  cases hp : provision config specifier with
  | nothing =>
    rw [hp] at hr
    exact absurd hr List.not_mem_nil
  | body text =>
    rw [hp] at hr
    rw [List.mem_singleton.1 hr]
    exact body text hp
  | fetch url peers =>
    rw [hp] at hr
    rw [List.mem_singleton.1 hr]
    exact fetch url peers hp

/-- What holds of everything that may be asked to provide a dependency. -/
theorem forall_requests {P : Request → Prop} {c : Classification}
    (body : ∀ body, c.resolution = .shim body ∨ c.resolution = .localShim body →
      P (.inline (.ofBody (Slot.ofSpecifier c.specifier) body)))
    (helper : ∀ helper, c.resolution = .helperShim helper →
      P (.inline (.standIn (StandIn.helperSlot helper) (StandIn.helperSource helper))))
    (standIn : ∀ base, c.resolution = .animationFamily base →
      P (.inline (.standIn (StandIn.animationSlot base) (StandIn.animationSource base))))
    (base : ∀ base, c.resolution = .animationFamily base → ∀ r ∈ provisions config base, P r)
    (fetch : ∀ url peers, c.resolution = .fetch url peers → P (.fetch c.specifier url peers)) :
    ∀ r ∈ requests config c, P r := by
  intro r hr
  unfold requests at hr
  cases hres : c.resolution with
  | shim text =>
    rw [hres] at hr
    rw [List.mem_singleton.1 hr]
    exact body text (.inl hres)
  | localShim text =>
    rw [hres] at hr
    rw [List.mem_singleton.1 hr]
    exact body text (.inr hres)
  | helperShim name =>
    rw [hres] at hr
    rw [List.mem_singleton.1 hr]
    exact helper name hres
  | animationFamily family =>
    rw [hres] at hr
    rcases List.mem_cons.1 hr with rfl | hr
    · exact standIn family hres
    · exact base family hres r hr
  | fetch url peers =>
    rw [hres] at hr
    rw [List.mem_singleton.1 hr]
    exact fetch url peers hres
  | «framework» _ | stylesheet _ | localEmpty | rejected _ =>
    rw [hres] at hr
    exact absurd hr List.not_mem_nil

/-- These are the peers that the registry has for a package, or none where a path below a package
is fetched on its own. -/
structure PeersOf (config : Config) (specifier : String) (peers : List String) : Prop where
  known : ∀ peer ∈ peers, config.HasPeer specifier peer
  complete : ∀ peer, config.Needs specifier peer → peer ∈ peers

theorem peersOf_descriptor {d : Descriptor} (h : config.registry.get? specifier = some d) :
    PeersOf config specifier d.peers := by
  refine ⟨fun peer hp => ⟨d, h, hp⟩, ?_⟩
  rintro peer ⟨-, -, d', hd', -, hp⟩
  rw [h, Option.some.injEq] at hd'
  rw [hd']
  exact hp

theorem peersOf_nil (h : Config.isWhole specifier = true → config.registry.get? specifier = none) :
    PeersOf config specifier [] := by
  refine ⟨fun peer hp => absurd hp List.not_mem_nil, ?_⟩
  rintro peer ⟨hw, -, d, hd, -⟩
  rw [h hw] at hd
  exact absurd hd (by simp)

/-- A package that is known by its name is fetched behind the peers that the registry has for it. -/
theorem peersOf_provision (h : provision config specifier = .fetch url peers) :
    PeersOf config specifier peers := by
  unfold provision at h
  split at h
  · cases h
  · split at h
    · next hd =>
      cases h
      exact peersOf_nil fun _ => hd
    · next d hd =>
      split at h <;> cases h
      exact peersOf_descriptor hd

/-- So is one that is classified, unless it is a path below a package. -/
theorem peersOf_classify (h : (config.classify specifier).resolution = .fetch url peers) :
    PeersOf config specifier peers := by
  simp only [Config.classify, Config.decide] at h
  split at h
  · cases h
  · split at h
    · -- A file beside the component is never fetched.
      simp only [Config.resolveNearby] at h
      repeat' split at h
      all_goals cases h
    · split at h
      · next hpath =>
        have hnot : Config.isWhole specifier = false := by
          simp only [Bool.and_eq_true, Bool.not_eq_true'] at hpath
          rw [Config.isWhole, hpath.1, hpath.2]
          rfl
        have hnil : peers = [] := by
          simp only [Config.resolveSubpath, Config.refuse] at h
          repeat' split at h
          all_goals cases h
          rfl
        rw [hnil]
        exact peersOf_nil fun hw => absurd (hnot.symm.trans hw) Bool.false_ne_true
      · split at h
        · next d hd =>
          simp only [Config.resolveKnown, Config.refuse] at h
          split at h <;> cases h
          exact peersOf_descriptor hd
        · next hd =>
          split at h <;> cases h
          exact peersOf_nil fun _ => hd

/-- A package that can be provided is asked for by one request. -/
theorem provisions_of_provides (h : config.Provides specifier) :
    ∃ r, provisions config specifier = [r] ∧ r.slot = Slot.ofSpecifier specifier := by
  unfold provisions provision
  rw [h.1]
  cases hd : config.registry.get? specifier with
  | none => exact ⟨_, rfl, rfl⟩
  | some d =>
    obtain ⟨hcore, hunsupported⟩ := h.2 d hd
    cases hp : d.provider with
    | core => exact absurd hp hcore
    | unsupported => exact absurd hp hunsupported
    | cdn => simp only [hp]; exact ⟨_, rfl, rfl⟩
    | shim => simp only [hp]; exact ⟨_, rfl, rfl⟩

/-! ### Working off requests -/

/-- The walk with one more fetch at the end. -/
def Walk.emit (w : Walk) (f : Fetch) : Walk :=
  { w with plan := { w.plan with fetches := w.plan.fetches ++ [f] } }

/-- Working off the requests, the first one first, leads from one walk to another. -/
inductive Serves (config : Config) : List Request → Walk → Walk → Prop
  | nil {w : Walk} : Serves config [] w w
  | inline {code : Inlined} {rest : List Request} {w w' : Walk} :
      Serves config rest (w.inline code) w' → Serves config (.inline code :: rest) w w'
  /-- The slot is taken, so nothing is fetched. -/
  | skip {specifier url : String} {peers : List String} {rest : List Request} {w w' : Walk} :
      Slot.ofSpecifier specifier ∈ w.taken → Serves config rest w w' →
      Serves config (.fetch specifier url peers :: rest) w w'
  /-- The slot is taken first, then the peers are provided, then the package is fetched. -/
  | load {specifier url : String} {peers : List String} {rest : List Request} {w w₁ w' : Walk} :
      Slot.ofSpecifier specifier ∉ w.taken →
      Serves config (peers.flatMap (provisions config)) (w.take (Slot.ofSpecifier specifier)) w₁ →
      Serves config rest (w₁.emit ⟨specifier, Slot.ofSpecifier specifier, url⟩) w' →
      Serves config (.fetch specifier url peers :: rest) w w'

variable {rs later : List Request} {w w₁ w' : Walk}

theorem Serves.append (h : Serves config rs w w₁) (hl : Serves config later w₁ w') :
    Serves config (rs ++ later) w w' := by
  induction h with
  | nil => exact hl
  | inline _ ih => exact .inline (ih hl)
  | skip ht _ ih => exact .skip ht (ih hl)
  | load ht hp _ _ ih => exact .load ht hp (ih hl)

/-- There is one outcome at most. -/
theorem Serves.unique (h : Serves config rs w w₁) (h' : Serves config rs w w') : w₁ = w' := by
  induction h generalizing w' with
  | nil =>
    cases h'
    rfl
  | inline _ ih =>
    cases h' with
    | inline h' => exact ih h'
  | skip ht _ ih =>
    cases h' with
    | skip _ h' => exact ih h'
    | load hn _ _ => exact absurd ht hn
  | load hn _ _ ihp ih =>
    cases h' with
    | skip ht _ => exact absurd ht hn
    | load _ hp h' =>
      rw [ihp hp] at ih
      exact ih h'

/-! ### Slots that are taken -/

theorem mem_taken_take {slot s : String} : s ∈ (w.take slot).taken ↔ s = slot ∨ s ∈ w.taken :=
  List.mem_cons

theorem Walk.inline_of_mem {code : Inlined} (h : code.slot ∈ w.taken) : w.inline code = w :=
  if_pos (List.contains_iff_mem.2 h)

theorem Walk.inline_of_not_mem {code : Inlined} (h : code.slot ∉ w.taken) :
    w.inline code =
      { w.take code.slot with plan := { w.plan with inlined := w.plan.inlined ++ [code] } } :=
  if_neg fun hc => h (List.contains_iff_mem.1 hc)

theorem Walk.taken_inline_subset (w : Walk) (code : Inlined) : w.taken ⊆ (w.inline code).taken := by
  by_cases h : code.slot ∈ w.taken
  · rw [Walk.inline_of_mem h]
    exact List.Subset.refl _
  · rw [Walk.inline_of_not_mem h]
    exact List.subset_cons_self _ _

theorem Walk.slot_mem_inline (w : Walk) (code : Inlined) : code.slot ∈ (w.inline code).taken := by
  by_cases h : code.slot ∈ w.taken
  · exact w.taken_inline_subset code h
  · rw [Walk.inline_of_not_mem h]
    exact List.mem_cons_self

theorem Serves.taken_subset (h : Serves config rs w w') : w.taken ⊆ w'.taken := by
  induction h with
  | nil => exact List.Subset.refl _
  | inline _ ih => exact List.Subset.trans (Walk.taken_inline_subset _ _) ih
  | skip _ _ ih => exact ih
  | load _ _ _ ihp ih =>
    exact List.Subset.trans (List.subset_cons_self _ _) (List.Subset.trans ihp ih)

/-- In the end, every slot that was wanted is taken. -/
theorem Serves.slot_mem_taken (h : Serves config rs w w') : ∀ r ∈ rs, r.slot ∈ w'.taken := by
  induction h with
  | nil => exact fun _ hr => absurd hr List.not_mem_nil
  | inline hs ih =>
    intro r hr
    rcases List.mem_cons.1 hr with rfl | hr
    · exact hs.taken_subset (Walk.slot_mem_inline _ _)
    · exact ih r hr
  | skip ht hs ih =>
    intro r hr
    rcases List.mem_cons.1 hr with rfl | hr
    · exact hs.taken_subset ht
    · exact ih r hr
  | load _ hp hs _ ih =>
    intro r hr
    rcases List.mem_cons.1 hr with rfl | hr
    · exact hs.taken_subset (hp.taken_subset (List.mem_cons_self))
    · exact ih r hr

/-! ### The depth is enough -/

/-- The entries of the registry that a walk has still to enter. -/
def unvisited (config : Config) (w : Walk) : Finset String :=
  config.registry.keys.toFinset.filter fun key => Slot.ofSpecifier key ∉ w.taken

theorem card_unvisited_le (h : w.taken ⊆ w'.taken) :
    (unvisited config w').card ≤ (unvisited config w).card := by
  refine Finset.card_le_card fun key hk => ?_
  obtain ⟨hkey, hn⟩ := Finset.mem_filter.1 hk
  exact Finset.mem_filter.2 ⟨hkey, fun ht => hn (h ht)⟩

/-- Whoever enters a package with peers leaves one entry less. -/
theorem card_unvisited_take_lt (hk : specifier ∈ config.registry.keys)
    (hn : Slot.ofSpecifier specifier ∉ w.taken) :
    (unvisited config (w.take (Slot.ofSpecifier specifier))).card < (unvisited config w).card := by
  refine Finset.card_lt_card (Finset.ssubset_iff_subset_ne.2 ⟨fun key hkey => ?_, fun he => ?_⟩)
  · obtain ⟨hkey, hnot⟩ := Finset.mem_filter.1 hkey
    exact Finset.mem_filter.2 ⟨hkey, fun ht => hnot (mem_taken_take.2 (.inr ht))⟩
  · have hm : specifier ∈ unvisited config w :=
      Finset.mem_filter.2 ⟨List.mem_toFinset.2 hk, hn⟩
    rw [← he] at hm
    exact (Finset.mem_filter.1 hm).2 (mem_taken_take.2 (.inl rfl))

theorem card_unvisited_lt_reach (config : Config) (w : Walk) :
    (unvisited config w).card < reach config := by
  have hfilter : (unvisited config w).card ≤ config.registry.keys.toFinset.card :=
    Finset.card_filter_le _ _
  have hkeys := List.toFinset_card_le config.registry.keys
  have hsize : config.registry.keys.length = config.registry.size := List.length_map _
  rw [reach]
  omega

/-- Provides a package that is known only by its name, at a depth. -/
def provideWithin (config : Config) (depth : Nat) (w : Walk) (specifier : String) : Walk :=
  match provision config specifier with
  | .nothing => w
  | .body body => w.inline (.ofBody (Slot.ofSpecifier specifier) body)
  | .fetch url peers => fetch config depth specifier url peers w

/-- A fetch at this depth works off its request in every walk that has fewer entries to enter. -/
def FetchesWithin (config : Config) (depth : Nat) : Prop :=
  ∀ specifier url peers w, PeersOf config specifier peers → (unvisited config w).card < depth →
    Serves config [.fetch specifier url peers] w (fetch config depth specifier url peers w)

theorem serves_provideWithin {depth : Nat} (hf : FetchesWithin config depth)
    (hw : (unvisited config w).card < depth) (specifier : String) :
    Serves config (provisions config specifier) w (provideWithin config depth w specifier) := by
  unfold provisions provideWithin
  cases hp : provision config specifier with
  | nothing => exact .nil
  | body body => exact .inline .nil
  | fetch url peers => exact hf specifier url peers w (peersOf_provision hp) hw

theorem serves_peers {depth : Nat} (hf : FetchesWithin config depth) (peers : List String) :
    ∀ w, (unvisited config w).card < depth →
      Serves config (peers.flatMap (provisions config)) w
        (peers.foldl (provideWithin config depth) w) := by
  induction peers with
  | nil => exact fun _ _ => .nil
  | cons peer peers ih =>
    intro w hw
    have hp := serves_provideWithin hf hw peer
    exact hp.append (ih _ (Nat.lt_of_le_of_lt (card_unvisited_le hp.taken_subset) hw))

theorem fetch_succ (depth : Nat) (specifier url : String) (peers : List String) (w : Walk) :
    fetch config (depth + 1) specifier url peers w =
      if Slot.ofSpecifier specifier ∈ w.taken then w
      else (peers.foldl (provideWithin config depth) (w.take (Slot.ofSpecifier specifier))).emit
        ⟨specifier, Slot.ofSpecifier specifier, url⟩ := by
  by_cases ht : Slot.ofSpecifier specifier ∈ w.taken
  · rw [if_pos ht]
    exact if_pos (List.contains_iff_mem.2 ht)
  · rw [if_neg ht]
    exact if_neg fun hc => ht (List.contains_iff_mem.1 hc)

theorem fetchesWithin (config : Config) (depth : Nat) : FetchesWithin config depth := by
  induction depth with
  | zero => exact fun _ _ _ _ _ hw => absurd hw (Nat.not_lt_zero _)
  | succ depth ih =>
    intro specifier url peers w hpeers hw
    rw [fetch_succ]
    by_cases ht : Slot.ofSpecifier specifier ∈ w.taken
    · rw [if_pos ht]
      exact .skip ht .nil
    · rw [if_neg ht]
      refine .load ht ?_ .nil
      -- Only a package with peers goes deeper, and it is an entry of the registry.
      cases peers with
      | nil => exact .nil
      | cons peer peers =>
        obtain ⟨d, hd, -⟩ := hpeers.known peer List.mem_cons_self
        have hless := card_unvisited_take_lt (Dictionary.mem_keys_of_get? hd) ht
        exact serves_peers ih (peer :: peers) _ (by omega)

theorem serves_add (specifier : String) (w : Walk) :
    Serves config (requests config (config.classify specifier)) w
      (add config w (config.classify specifier)) := by
  have hf := fetchesWithin config (reach config)
  unfold requests add
  cases hr : (config.classify specifier).resolution with
  | shim body => exact .inline .nil
  | localShim body => exact .inline .nil
  | helperShim helper => exact .inline .nil
  | animationFamily base =>
    exact .inline (serves_provideWithin hf (card_unvisited_lt_reach config _) base)
  | fetch url peers =>
    exact hf specifier url peers w (peersOf_classify hr) (card_unvisited_lt_reach config w)
  | «framework» _ => exact .nil
  | stylesheet _ => exact .nil
  | localEmpty => exact .nil
  | rejected _ => exact .nil

/-- The plan's walk works off everything that its dependencies ask for. -/
theorem serves_plan (config : Config) (specifiers : List String) (w : Walk) :
    Serves config ((specifiers.map config.classify).flatMap (requests config)) w
      ((specifiers.map config.classify).foldl (add config) w) := by
  induction specifiers generalizing w with
  | nil => exact .nil
  | cons specifier specifiers ih => exact (serves_add specifier w).append (ih _)

end Loader

end LivePreview
