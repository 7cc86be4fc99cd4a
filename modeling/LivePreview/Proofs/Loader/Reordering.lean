import LivePreview.Proofs.Loader.Agreement
import LivePreview.Proofs.Text.Occurrence
/-!
# LivePreview.Proofs.Loader.Reordering

**The order of imports does not change what is loaded**, unless a specifier is provided in two ways.
What comes up in a walk (`Arises`) does not depend on the order in which it is asked for. If no two
requests that come up want one slot filled in different ways, each of them is answered by a statement,
whichever comes first, and there are no other statements (`mem_order_iff`).

A specifier may be imported and be a peer as well. By itself it is provided as it is judged, as a peer
as the registry has it; for whole packages this is the same (`Config.not_divided_of_isWhole`). It may
differ for a path below a package and for a relative path (`Config.Divided`), and then the first request
decides.
-/

namespace LivePreview

open Relation

/-! ### Ways to provide a specifier -/

namespace Loader

/-- What is asked for to provide a specifier in this way. -/
def Provision.requests (specifier : String) : Provision → List Request
  | .nothing => []
  | .body text => [.inline (.ofBody (Slot.ofSpecifier specifier) text)]
  | .fetch url peers => [.fetch specifier url peers]

end Loader

/-- The way in which a resolution has the slot of its own specifier filled. -/
def Resolution.provision : Resolution → Loader.Provision
  | shim body | localShim body => .body body
  | fetch url peers => .fetch url peers
  | framework _ | stylesheet _ | localEmpty | animationFamily _ | helperShim _ | rejected _ => .nothing

/-- Is the specifier provided by itself in one way, and as a peer in another? -/
structure Config.Divided (config : Config) (specifier : String) : Prop where
  byItself : (config.classify specifier).resolution.provision ≠ .nothing
  asPeer : Loader.provision config specifier ≠ .nothing
  ne : (config.classify specifier).resolution.provision ≠ Loader.provision config specifier

/-- A whole package is provided as a peer as it is by itself, if it is provided by itself. -/
theorem Config.not_divided_of_isWhole {config : Config} {specifier : String}
    (h : Config.isWhole specifier = true) : ¬ config.Divided specifier := by
  rintro ⟨hitself, -, hne⟩
  rw [Config.isWhole, Bool.or_eq_true, Bool.not_eq_true'] at h
  -- It is no relative path, and no path below a package without scope.
  have hrelative : (Text.startsWith "./".toList specifier.toList ||
      Text.startsWith "../".toList specifier.toList) = false := by
    by_contra hdots
    rw [Bool.not_eq_false, Bool.or_eq_true, Text.startsWith_iff, Text.startsWith_iff] at hdots
    obtain ⟨rest, hrest⟩ | ⟨rest, hrest⟩ := hdots <;>
      · rw [← hrest] at h
        simp [Text.startsWith, Text.dropLead?] at h
  have hpath : (!Text.startsWith "@".toList specifier.toList &&
      specifier.toList.contains '/') = false := by
    rcases h with h | h
    · rw [h]
      rfl
    · rw [h, Bool.and_false]
  simp only [Config.classify, Config.decide, hrelative, hpath, Bool.false_eq_true, if_false]
    at hitself hne
  unfold Loader.provision at hne
  split at hitself
  · exact hitself rfl
  · next hcore =>
    rw [if_neg hcore, if_neg hcore] at hne
    cases hd : config.registry.get? specifier with
    | none =>
      simp only [hd] at hitself hne
      cases hrefusal : config.refusal? specifier with
      | none =>
        rw [hrefusal] at hne
        exact hne rfl
      | some reason =>
        rw [hrefusal] at hitself
        exact hitself rfl
    | some d =>
      simp only [hd, Config.resolveKnown] at hitself hne
      cases hp : d.provider with
      | core | unsupported =>
        rw [hp] at hitself
        exact hitself rfl
      | cdn | shim =>
        rw [hp] at hne
        exact hne rfl

namespace Loader

variable {config : Config} {specifier url : String} {peers : List String} {rs asked : List Request}
  {r other : Request} {w w' : Walk}

theorem provisions_eq (config : Config) (specifier : String) :
    provisions config specifier = (provision config specifier).requests specifier := by
  unfold provisions
  cases provision config specifier with
  | nothing | body _ | fetch _ _ => rfl

/-- A provision asks for one thing at most. -/
theorem eq_of_mem_requests {p : Provision} (hr : r ∈ p.requests specifier)
    (hother : other ∈ p.requests specifier) : r = other := by
  cases p with
  | nothing => exact absurd hr List.not_mem_nil
  | body _ | fetch _ _ => exact (List.mem_singleton.1 hr).trans (List.mem_singleton.1 hother).symm

theorem slot_of_mem_requests {p : Provision} (hr : r ∈ p.requests specifier) :
    r.slot = Slot.ofSpecifier specifier := by
  cases p with
  | nothing => exact absurd hr List.not_mem_nil
  | body _ | fetch _ _ =>
    rw [List.mem_singleton.1 hr]
    rfl

theorem ne_nothing_of_mem_requests {p : Provision} (hr : r ∈ p.requests specifier) :
    p ≠ .nothing := by
  rintro rfl
  exact List.not_mem_nil hr

/-! ### What comes up -/

/-- Does the request come up, if these are asked for? It is one of them, or a peer asks for it. -/
inductive Arises (config : Config) (asked : List Request) : Request → Prop
  | asked {r : Request} : r ∈ asked → Arises config asked r
  | peer {specifier url peer : String} {peers : List String} {r : Request} :
      Arises config asked (.fetch specifier url peers) → peer ∈ peers →
      r ∈ provisions config peer → Arises config asked r

/-- The order in which requests are asked for does not matter. -/
theorem Arises.mono {others : List Request} (h : Arises config asked r) (hsub : asked ⊆ others) :
    Arises config others r := by
  induction h with
  | asked hr => exact .asked (hsub hr)
  | peer _ hp hr ih => exact .peer ih hp hr

/-- The statement that answers a request. -/
def Request.statement : Request → Statement
  | inline code => .inlined code
  | fetch specifier url _ => .fetched ⟨specifier, Slot.ofSpecifier specifier, url⟩

theorem Request.slot_statement (r : Request) : r.statement.slot = r.slot := by
  cases r <;> rfl

/-- What holds of a walk that answers requests that come up: its statements are answers, and the peers
of what is fetched have their slots. -/
structure Walk.Answers (config : Config) (asked : List Request) (w : Walk) : Prop where
  inlined : ∀ code ∈ w.plan.inlined, Arises config asked (.inline code)
  fetched : ∀ f ∈ w.plan.fetches, ∃ peers, Arises config asked (.fetch f.specifier f.url peers) ∧
    f.slot = Slot.ofSpecifier f.specifier ∧
    ∀ r ∈ peers.flatMap (provisions config), r.slot ∈ w.taken

theorem answers_start (config : Config) (asked : List Request) : Walk.Answers config asked {} where
  inlined := fun _ h => absurd h List.not_mem_nil
  fetched := fun _ h => absurd h List.not_mem_nil

/-- More slots may be taken. -/
theorem Walk.Answers.take (h : w.Answers config asked) (slot : String) :
    (w.take slot).Answers config asked where
  inlined := h.inlined
  fetched := by
    intro f hf
    obtain ⟨peers, harises, hslot, htaken⟩ := h.fetched f hf
    exact ⟨peers, harises, hslot, fun r hr => List.mem_cons_of_mem _ (htaken r hr)⟩

theorem Walk.Answers.inline {code : Inlined} (h : w.Answers config asked)
    (hcode : Arises config asked (.inline code)) : (w.inline code).Answers config asked := by
  by_cases ht : code.slot ∈ w.taken
  · rw [Walk.inline_of_mem ht]
    exact h
  · rw [Walk.inline_of_not_mem ht]
    refine ⟨fun other ho => ?_, (h.take code.slot).fetched⟩
    rcases List.mem_append.1 ho with ho | ho
    · exact h.inlined other ho
    · rw [List.mem_singleton.1 ho]
      exact hcode

theorem Walk.Answers.emit (h : w.Answers config asked)
    (hfetch : Arises config asked (.fetch specifier url peers))
    (htaken : ∀ r ∈ peers.flatMap (provisions config), r.slot ∈ w.taken) :
    (w.emit ⟨specifier, Slot.ofSpecifier specifier, url⟩).Answers config asked where
  inlined := h.inlined
  fetched := by
    intro f hf
    rcases List.mem_append.1 hf with hf | hf
    · exact h.fetched f hf
    · rw [List.mem_singleton.1 hf]
      exact ⟨peers, hfetch, rfl, htaken⟩

/-- **Serving answers what comes up, and nothing else.** -/
theorem Serves.answers (h : Serves config rs w w') (hw : w.Answers config asked)
    (hr : ∀ r ∈ rs, Arises config asked r) : w'.Answers config asked := by
  induction h with
  | nil => exact hw
  | inline _ ih =>
    exact ih (hw.inline (hr _ List.mem_cons_self)) fun r hm => hr r (List.mem_cons_of_mem _ hm)
  | skip _ _ ih => exact ih hw fun r hm => hr r (List.mem_cons_of_mem _ hm)
  | load _ hp _ ihp ih =>
    have hfetch := hr _ List.mem_cons_self
    have hpeers := ihp (hw.take _) fun r hm => by
      obtain ⟨peer, hpeer, hm⟩ := List.mem_flatMap.1 hm
      exact .peer hfetch hpeer hm
    exact ih (hpeers.emit hfetch hp.slot_mem_taken) fun r hm => hr r (List.mem_cons_of_mem _ hm)

/-! ### Slots that are wanted in one way -/

/-- Do no two requests that come up want one slot filled in different ways? -/
def Agree (config : Config) (asked : List Request) : Prop :=
  ∀ r other, Arises config asked r → Arises config asked other → r.slot = other.slot → r = other

/-- What the dependencies ask for. -/
def askedFor (config : Config) (specifiers : List String) : List Request :=
  (specifiers.map config.classify).flatMap (requests config)

variable {specifiers others : List String}

/-- Each statement of a plan answers a request that comes up. -/
theorem exists_arises_of_mem_order {s : Statement}
    (h : s ∈ (plan config (specifiers.map config.classify)).order) :
    ∃ r, Arises config (askedFor config specifiers) r ∧ r.statement = s ∧
      ∀ specifier url peers, r = .fetch specifier url peers →
        ∀ later ∈ peers.flatMap (provisions config),
          later.slot ∈ (plan config (specifiers.map config.classify)).slots := by
  have hserves := serves_plan config specifiers {}
  have hsound := hserves.sound (sound_start config specifiers) (suits_requests config specifiers)
  have hanswers := hserves.answers (answers_start config (askedFor config specifiers))
    fun r hr => .asked hr
  rcases List.mem_append.1 h with h | h
  · obtain ⟨code, hcode, rfl⟩ := List.mem_map.1 h
    exact ⟨.inline code, hanswers.inlined code hcode, rfl, fun _ _ _ he => nomatch he⟩
  · obtain ⟨f, hf, rfl⟩ := List.mem_map.1 h
    obtain ⟨peers, harises, hslot, htaken⟩ := hanswers.fetched f hf
    refine ⟨_, harises, ?_, fun _ _ _ he later hl => ?_⟩
    · rw [Request.statement, ← hslot]
    · obtain ⟨rfl, rfl, rfl⟩ := Request.fetch.inj he
      exact hsound.taken.mem_iff.1 (htaken later hl)

/-- If all agree, each request that comes up has its slot filled. -/
theorem Arises.slot_mem_slots (hagree : Agree config (askedFor config specifiers))
    (h : Arises config (askedFor config specifiers) r) :
    r.slot ∈ (plan config (specifiers.map config.classify)).slots := by
  induction h with
  | asked hr => exact mem_slots_of_request hr
  | @peer specifier url peer peers r hfetch hpeer hr ih =>
    -- The slot of the dependent is filled, and only this request can have asked for that.
    obtain ⟨s, hs, hslot⟩ := List.mem_map.1 ih
    obtain ⟨dependent, harises, rfl, hpeers⟩ := exists_arises_of_mem_order hs
    rw [Request.slot_statement] at hslot
    obtain rfl := hagree _ _ harises hfetch hslot
    exact hpeers specifier url peers rfl r (List.mem_flatMap.2 ⟨peer, hpeer, hr⟩)

/-- If all agree, the statements of a plan are the answers to what comes up. -/
theorem mem_order_iff (hagree : Agree config (askedFor config specifiers)) {s : Statement} :
    s ∈ (plan config (specifiers.map config.classify)).order ↔
      ∃ r, Arises config (askedFor config specifiers) r ∧ r.statement = s := by
  constructor
  · intro h
    obtain ⟨r, harises, hs, -⟩ := exists_arises_of_mem_order h
    exact ⟨r, harises, hs⟩
  · rintro ⟨r, harises, rfl⟩
    obtain ⟨s, hs, hslot⟩ := List.mem_map.1 (harises.slot_mem_slots hagree)
    obtain ⟨other, hother, rfl, -⟩ := exists_arises_of_mem_order hs
    rw [Request.slot_statement] at hslot
    rw [← hagree _ _ hother harises hslot]
    exact hs

/-! ### Where requests come from -/

/-- Is it code that stands in for part of an animation package or for a helper? -/
inductive IsStandIn : Inlined → Prop
  | animation (base : String) :
      IsStandIn (.standIn (StandIn.animationSlot base) (StandIn.animationSource base))
  | helper (helper : Helper) :
      IsStandIn (.standIn (StandIn.helperSlot helper) (StandIn.helperSource helper))

/-- The slot of a stand-in says what it is. -/
theorem IsStandIn.eq_of_slot_eq {code code' : Inlined} (h : IsStandIn code) (h' : IsStandIn code')
    (hslot : code.slot = code'.slot) : code = code' := by
  have hanimation : ∀ base base', StandIn.animationSlot base = StandIn.animationSlot base' →
      StandIn.animationSource base = StandIn.animationSource base' := by
    intro base base' he
    unfold StandIn.animationSlot at he
    unfold StandIn.animationSource
    by_cases hb : base = "gsap" <;> by_cases hb' : base' = "gsap" <;> simp [hb, hb'] at he ⊢
  have hapart : ∀ base helper, StandIn.animationSlot base ≠ StandIn.helperSlot helper := by
    intro base helper
    unfold StandIn.animationSlot
    split <;> cases helper <;> decide
  cases h with
  | animation base =>
    cases h' with
    | animation base' => exact congrArg₂ Inlined.standIn hslot (hanimation base base' hslot)
    | helper helper => exact absurd hslot (hapart base helper)
  | helper helper =>
    cases h' with
    | animation base => exact absurd hslot.symm (hapart base helper)
    | helper helper' =>
      cases helper <;> cases helper' <;> first | rfl | exact absurd hslot (by decide)

/-- No package has the slot of a stand-in. -/
theorem IsStandIn.slot_ne {code : Inlined} (h : IsStandIn code) (specifier : String) :
    code.slot ≠ Slot.ofSpecifier specifier := by
  intro hslot
  cases h with
  | animation base =>
    exact ofSpecifier_not_mem_bareReads specifier (.animationFamily base)
      (List.mem_singleton.2 hslot.symm)
  | helper helper =>
    exact ofSpecifier_not_mem_bareReads specifier (.helperShim helper)
      (List.mem_singleton.2 hslot.symm)

/-- Is the specifier named as a peer by what is fetched for these? -/
def Names (config : Config) (specifiers : List String) (peer : String) : Prop :=
  ∃ specifier url peers, Arises config (askedFor config specifiers) (.fetch specifier url peers) ∧
    peer ∈ peers

/-- Does the specifier ask for this: by itself, or as a peer or the base of an animation package? -/
def AsksFor (config : Config) (specifiers : List String) (specifier : String) (r : Request) : Prop :=
  (specifier ∈ specifiers ∧
      r ∈ (config.classify specifier).resolution.provision.requests specifier) ∨
    (Names config specifiers specifier ∨ specifier ∈ animationFamilies) ∧
      r ∈ (provision config specifier).requests specifier

theorem AsksFor.slot_eq (h : AsksFor config specifiers specifier r) :
    r.slot = Slot.ofSpecifier specifier := by
  rcases h with ⟨-, hr⟩ | ⟨-, hr⟩ <;> exact slot_of_mem_requests hr

/-- What comes up is a stand-in, or a specifier asks for it. -/
theorem Arises.origin (h : Arises config (askedFor config specifiers) r) :
    (∃ code, IsStandIn code ∧ r = .inline code) ∨ ∃ s, AsksFor config specifiers s r := by
  cases h with
  | @peer specifier url peer peers _ hfetch hpeer hr =>
    rw [provisions_eq] at hr
    exact .inr ⟨peer, .inr ⟨.inl ⟨specifier, url, peers, hfetch, hpeer⟩, hr⟩⟩
  | asked hr =>
    obtain ⟨c, hc, hr⟩ := List.mem_flatMap.1 hr
    obtain ⟨s, hs, rfl⟩ := List.mem_map.1 hc
    -- Its own slot has to be filled as its resolution says.
    have hitself : ∀ {r}, r ∈ (config.classify s).resolution.provision.requests s →
        ∃ s, AsksFor config specifiers s r := fun hr => ⟨s, .inl ⟨hs, hr⟩⟩
    refine forall_requests
      (P := fun r => (∃ code, IsStandIn code ∧ r = .inline code) ∨ ∃ s, AsksFor config specifiers s r)
      (fun text hres => ?_) (fun helper _ => ?_) (fun base _ => ?_) (fun base hres r hr => ?_)
      (fun url peers hres => ?_) r hr
    · refine .inr (hitself ?_)
      rcases hres with hres | hres <;>
        · rw [hres]
          exact List.mem_singleton_self _
    · exact .inl ⟨_, .helper helper, rfl⟩
    · exact .inl ⟨_, .animation base, rfl⟩
    · rw [provisions_eq] at hr
      exact .inr ⟨base, .inr ⟨.inr (Config.mem_animationFamilies hres), hr⟩⟩
    · refine .inr (hitself ?_)
      rw [hres]
      exact List.mem_singleton_self _

/-- A specifier that is not divided asks for one thing at most. -/
theorem AsksFor.unique (hnot : specifier ∈ specifiers → Names config specifiers specifier →
      ¬ config.Divided specifier)
    (h : AsksFor config specifiers specifier r) (h' : AsksFor config specifiers specifier other) :
    r = other := by
  -- By itself and as a peer, it asks for the same.
  have hsame : ∀ {r r'}, specifier ∈ specifiers →
      (Names config specifiers specifier ∨ specifier ∈ animationFamilies) →
      r ∈ (config.classify specifier).resolution.provision.requests specifier →
      r' ∈ (provision config specifier).requests specifier → r = r' := by
    intro r r' hs hpeer hr hr'
    have hwhole : ∀ base ∈ animationFamilies, Config.isWhole base = true := by decide
    have hwhole : ¬ config.Divided specifier :=
      hpeer.elim (hnot hs) fun hbase => Config.not_divided_of_isWhole (hwhole specifier hbase)
    have heq : (config.classify specifier).resolution.provision = provision config specifier := by
      by_contra hne
      exact hwhole ⟨ne_nothing_of_mem_requests hr, ne_nothing_of_mem_requests hr', hne⟩
    rw [heq] at hr
    exact eq_of_mem_requests hr hr'
  rcases h with ⟨hs, hr⟩ | ⟨hpeer, hr⟩ <;> rcases h' with ⟨hs', hr'⟩ | ⟨hpeer', hr'⟩
  · exact eq_of_mem_requests hr hr'
  · exact hsame hs hpeer' hr hr'
  · exact (hsame hs' hpeer hr' hr).symm
  · exact eq_of_mem_requests hr hr'

/-- **All agree, unless a specifier that is named as a peer is divided.** -/
theorem agree_of_not_divided
    (h : ∀ s ∈ specifiers, Names config specifiers s → ¬ config.Divided s) :
    Agree config (askedFor config specifiers) := by
  intro r other hr hother hslot
  rcases hr.origin with ⟨code, hcode, rfl⟩ | ⟨s, hr⟩ <;>
    rcases hother.origin with ⟨code', hcode', rfl⟩ | ⟨s', hother⟩
  · exact congrArg Request.inline (hcode.eq_of_slot_eq hcode' hslot)
  · exact absurd (hslot.trans hother.slot_eq) (hcode.slot_ne s')
  · exact absurd (hslot.symm.trans hr.slot_eq) (hcode'.slot_ne s)
  · rw [hr.slot_eq, hother.slot_eq] at hslot
    obtain rfl := Slot.eq_of_ofSpecifier_eq hslot
    exact AsksFor.unique (h s) hr hother

/-! ### Peers of the registry -/

/-- The peers of what comes up are those of the registry. -/
theorem Arises.peersOf (h : Arises config (askedFor config specifiers) (.fetch specifier url peers)) :
    PeersOf config specifier peers := by
  cases h with
  | asked hr => exact (suits_requests config specifiers _ hr).1
  | peer _ _ hr =>
    have hprovided := forall_provisions
      (P := fun r => ∀ specifier url peers, r = .fetch specifier url peers → PeersOf config specifier peers)
      (fun _ _ _ _ _ he => nomatch he) (fun url peers hp _ _ _ he => ?_) _ hr
    · exact hprovided _ _ _ rfl
    · obtain ⟨rfl, rfl, rfl⟩ := Request.fetch.inj he
      exact peersOf_provision hp

/-- The standard registry names whole packages only, and so they are not divided. -/
theorem not_divided_of_standard (hstandard : config.registry = Registry.standard)
    (h : Names config specifiers specifier) : ¬ config.Divided specifier := by
  have hwhole : ∀ e ∈ Registry.standard.entries, ∀ peer ∈ e.2.peers, Config.isWhole peer = true := by
    decide +kernel
  obtain ⟨dependent, url, peers, harises, hpeer⟩ := h
  obtain ⟨d, hd, hp⟩ := harises.peersOf.known specifier hpeer
  rw [hstandard] at hd
  exact Config.not_divided_of_isWhole
    (hwhole (dependent, d) (Dictionary.mem_entries_of_get? hd) specifier hp)

/-! ### Plans -/

/-- A plan fills each slot once. -/
theorem nodup_slots (config : Config) (specifiers : List String) :
    (plan config (specifiers.map config.classify)).slots.Nodup := by
  have hsound := (serves_plan config specifiers {}).sound (sound_start config specifiers)
    (suits_requests config specifiers)
  exact hsound.taken.nodup_iff.1 hsound.nodup

/-- A plan has no statement twice. -/
theorem nodup_order (config : Config) (specifiers : List String) :
    (plan config (specifiers.map config.classify)).order.Nodup :=
  (nodup_slots config specifiers).of_map _

theorem mem_order_inlined {p : Plan} {code : Inlined} :
    .inlined code ∈ p.order ↔ code ∈ p.inlined := by
  simp [Plan.order]

theorem mem_order_fetched {p : Plan} {f : Fetch} : .fetched f ∈ p.order ↔ f ∈ p.fetches := by
  simp [Plan.order]

/-- Two plans with the same statements differ only in their order. -/
theorem perm_of_mem_order_iff {p q : Plan} (hp : p.order.Nodup) (hq : q.order.Nodup)
    (h : ∀ s, s ∈ p.order ↔ s ∈ q.order) : p.inlined.Perm q.inlined ∧ p.fetches.Perm q.fetches := by
  constructor
  · refine (List.perm_ext_iff_of_nodup (List.Nodup.of_append_left hp).of_map
      (List.Nodup.of_append_left hq).of_map).2 fun code => ?_
    rw [← mem_order_inlined, h, mem_order_inlined]
  · refine (List.perm_ext_iff_of_nodup (List.Nodup.of_append_right hp).of_map
      (List.Nodup.of_append_right hq).of_map).2 fun f => ?_
    rw [← mem_order_fetched, h, mem_order_fetched]

/-- What comes up does not depend on the order of the specifiers. -/
theorem arises_iff_of_perm (hperm : specifiers.Perm others) :
    Arises config (askedFor config specifiers) r ↔ Arises config (askedFor config others) r := by
  have hasked : (askedFor config specifiers).Perm (askedFor config others) :=
    (hperm.map config.classify).flatMap_right _
  exact ⟨fun h => h.mono hasked.subset, fun h => h.mono hasked.symm.subset⟩

/-- **The order of imports does not change what is loaded**, unless a specifier that is imported is
also named as a peer, and is provided differently then. -/
theorem plan_perm (hperm : specifiers.Perm others)
    (h : ∀ s ∈ specifiers, Names config specifiers s → ¬ config.Divided s) :
    let first := plan config (specifiers.map config.classify)
    let second := plan config (others.map config.classify)
    first.inlined.Perm second.inlined ∧ first.fetches.Perm second.fetches := by
  intro first second
  have hagree := agree_of_not_divided h
  have hagree' : Agree config (askedFor config others) := fun r other hr hother =>
    hagree r other ((arises_iff_of_perm hperm).2 hr) ((arises_iff_of_perm hperm).2 hother)
  refine perm_of_mem_order_iff (nodup_order config specifiers) (nodup_order config others) fun s => ?_
  simp only [first, second]
  rw [mem_order_iff hagree, mem_order_iff hagree']
  exact exists_congr fun r => and_congr_left' (arises_iff_of_perm hperm)

/-- The peer of a package is imported before it and after it. -/
theorem plan_perm_drei :
    let config : Config := {}
    let imports := ["@react-three/drei", "clsx", "framer-motion/dom", "three"]
    let others := ["three", "framer-motion/dom", "@react-three/drei", "clsx"]
    let first := plan config (imports.map config.classify)
    let second := plan config (others.map config.classify)
    imports.Perm others ∧ (∀ s ∈ imports, Names config imports s → ¬ config.Divided s) ∧
      first.fetches.map Fetch.specifier =
        ["three", "@react-three/fiber", "@react-three/drei", "framer-motion"] ∧
      second.fetches.map Fetch.specifier =
        ["three", "framer-motion", "@react-three/fiber", "@react-three/drei"] ∧
      first.inlined.Perm second.inlined ∧ first.fetches.Perm second.fetches := by
  intro config imports others first second
  have hperm : imports.Perm others := by decide
  have hdivided : ∀ s ∈ imports, Names config imports s → ¬ config.Divided s :=
    fun s _ hs => not_divided_of_standard rfl hs
  exact ⟨hperm, hdivided, by decide +kernel, by decide +kernel, plan_perm hperm hdivided⟩

/-- A configuration in which a scene has a peer that is a path below a package, with an entry of its
own. -/
def meshConfig : Config where
  registry := .ofList [
    ("scene", Registry.cdn "https://cdn.example.test/scene.js" ["mesh/core"]),
    ("mesh/core", Registry.cdn "https://cdn.example.test/mesh-core.js" [])]

/-- For a path below a package, the registry counts if it comes up as a peer, and does not count if it
is imported. So the order of the imports decides where it is fetched from. -/
theorem plan_meshConfig_not_perm :
    let fetchesOf := fun specifiers =>
      (plan meshConfig (List.map meshConfig.classify specifiers)).fetches.map fun f => (f.specifier, f.url)
    ["scene", "mesh/core"].Perm ["mesh/core", "scene"] ∧
      (meshConfig.classify "mesh/core").resolution =
        .fetch "https://esm.sh/mesh/core?deps=react@18.3.1,react-dom@18.3.1" [] ∧
      fetchesOf ["scene", "mesh/core"] =
        [("mesh/core", "https://cdn.example.test/mesh-core.js"),
          ("scene", "https://cdn.example.test/scene.js")] ∧
      fetchesOf ["mesh/core", "scene"] =
        [("mesh/core", "https://esm.sh/mesh/core?deps=react@18.3.1,react-dom@18.3.1"),
          ("scene", "https://cdn.example.test/scene.js")] ∧
      ¬ (fetchesOf ["scene", "mesh/core"]).Perm (fetchesOf ["mesh/core", "scene"]) := by
  decide +kernel

end Loader

end LivePreview
