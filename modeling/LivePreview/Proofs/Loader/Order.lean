import Mathlib.Data.List.Count
import Mathlib.Logic.Relation
import LivePreview.Proofs.Loader.Deeds
import LivePreview.Proofs.Slot
/-!
# LivePreview.Proofs.Loader.Order

**A plan fills each slot once, and peers come first.** While a walk is under way, the slots that are
taken are those of its statements and those of the packages that it has entered and not yet fetched,
each once (`Walk.Sound`). A package is fetched when its peers have been worked off. So the slot of a
peer is then filled, or the peer has been entered and not yet fetched; but whatever has been entered
depends on the package at hand, and so that peer closes a cycle.

All this is about the plan as data (`plan_ordered`). As the texts of its statements do what the data
says (`Statement.deeds_render`), it is so of the texts (`plan_orders`).
-/

namespace LivePreview

open Relation

namespace Loader

/-! ### Statements in order -/

/-- A statement of a plan. -/
inductive Statement
  | inlined (code : Inlined)
  | fetched (f : Fetch)

namespace Statement

/-- The slot that a statement fills. -/
def slot : Statement → String
  | inlined code => code.slot
  | fetched f => f.slot

/-- The text of a statement. -/
def render : Statement → String
  | inlined code => code.render
  | fetched f => f.render

/-- Does the statement fetch a package? -/
def isFetch : Statement → Bool
  | inlined _ => false
  | fetched _ => true

end Statement

/-- The statements of a plan, in the order in which they are run. -/
def Plan.order (plan : Plan) : List Statement :=
  plan.inlined.map .inlined ++ plan.fetches.map .fetched

/-- The slots that the statements of a plan fill, in order. -/
def Plan.slots (plan : Plan) : List String :=
  plan.order.map Statement.slot

theorem slots_eq (plan : Plan) :
    plan.slots = plan.inlined.map Inlined.slot ++ plan.fetches.map Fetch.slot := by
  simp [Plan.slots, Plan.order, Statement.slot, Function.comp_def]

theorem render_order (plan : Plan) : plan.order.map Statement.render = plan.statements := by
  simp [Plan.order, Plan.statements, Statement.render, Function.comp_def]

/-- Nothing is inlined behind a fetch. -/
theorem pairwise_order (plan : Plan) :
    plan.order.Pairwise fun a b => a.isFetch = true → b.isFetch = true := by
  refine List.pairwise_append.2 ⟨?_, ?_, ?_⟩
  · exact List.pairwise_map.2 (List.pairwise_of_forall fun _ _ h => absurd h (by simp [Statement.isFetch]))
  · exact List.pairwise_map.2 (List.pairwise_of_forall fun _ _ _ => rfl)
  · intro a ha b hb _
    obtain ⟨f, -, rfl⟩ := List.mem_map.1 hb
    rfl

theorem mem_fetches_of_mem_order {plan : Plan} {f : Fetch} (h : .fetched f ∈ plan.order) :
    f ∈ plan.fetches := by
  rcases List.mem_append.1 h with h | h
  · obtain ⟨code, -, hc⟩ := List.mem_map.1 h
    exact absurd hc (by simp)
  · obtain ⟨g, hg, hf⟩ := List.mem_map.1 h
    injection hf with hf
    rw [← hf]
    exact hg

/-- What stands before a fetch is everything that is inlined and some fetches. -/
theorem order_eq_append {plan : Plan} {before after : List Statement} {f : Fetch}
    (h : plan.order = before ++ .fetched f :: after) :
    ∃ earlier later, plan.fetches = earlier ++ f :: later ∧
      before = plan.inlined.map .inlined ++ earlier.map .fetched := by
  rcases List.append_eq_append_iff.1 h with ⟨rest, hb, hf⟩ | ⟨rest, hi, hf⟩
  · obtain ⟨earlier, fs, hfs, he, hrest⟩ := List.map_eq_append_iff.1 hf
    obtain ⟨g, later, hgs, hg, -⟩ := List.map_eq_cons_iff.1 hrest
    refine ⟨earlier, later, ?_, by rw [hb, he]⟩
    injection hg with hg
    rw [hfs, hgs, hg]
  · cases rest with
    | nil =>
      obtain ⟨g, later, hgs, hg, -⟩ := List.map_eq_cons_iff.1 hf.symm
      refine ⟨[], later, ?_, ?_⟩
      · injection hg with hg
        rw [hgs, hg]
        rfl
      · rw [List.append_nil] at hi
        rw [← hi]
        exact (List.append_nil _).symm
    | cons s rest =>
      have hs : Statement.fetched f ∈ plan.inlined.map .inlined := by
        injection hf with hs _
        rw [hi, hs]
        exact List.mem_append_right _ List.mem_cons_self
      obtain ⟨code, -, hc⟩ := List.mem_map.1 hs
      exact absurd hc (by simp)

end Loader

namespace Config

/-- Is the package asked for by itself: is it classified as one to fetch, or is it the base of an
animation package? -/
def Asks (config : Config) (specifiers : List String) (root : String) : Prop :=
  (root ∈ specifiers ∧ ∃ url peers, (config.classify root).resolution = .fetch url peers) ∨
    ∃ s ∈ specifiers, (config.classify s).resolution = .animationFamily root

/-- Is the package asked for, by itself or as a peer of a peer? -/
def Wants (config : Config) (specifiers : List String) (specifier : String) : Prop :=
  ∃ root, config.Asks specifiers root ∧ ReflTransGen config.HasPeer root specifier

end Config

namespace Loader

/-! ### What every step keeps -/

variable {config : Config} {specifiers opened : List String} {specifier url : String}
  {peers : List String} {rs : List Request} {w w' : Walk}

/-- What holds of a walk that has entered some packages and not yet fetched them, the last one
first. -/
structure Walk.Sound (config : Config) (specifiers opened : List String) (w : Walk) : Prop where
  nodup : w.taken.Nodup
  taken : w.taken.Perm (opened.map Slot.ofSpecifier ++ w.plan.slots)
  wanted : ∀ f ∈ w.plan.fetches, config.Wants specifiers f.specifier
  /-- The peers of a fetched package have their slots, and have them filled before it, if they do not
  depend on it. -/
  behind : ∀ earlier f later, w.plan.fetches = earlier ++ f :: later →
    ∀ peer, config.Needs f.specifier peer →
      Slot.ofSpecifier peer ∈ w.taken ∧
        (Slot.ofSpecifier peer ∈ w.plan.inlined.map Inlined.slot ++ earlier.map Fetch.slot ∨
          ReflTransGen config.HasPeer peer f.specifier)

theorem sound_start (config : Config) (specifiers : List String) :
    Walk.Sound config specifiers [] {} where
  nodup := List.nodup_nil
  taken := List.Perm.refl _
  wanted := fun _ hf => absurd hf List.not_mem_nil
  behind := by
    intro earlier f later h
    exact absurd h (by simp)

theorem Walk.Sound.inline (h : w.Sound config specifiers opened) (code : Inlined) :
    (w.inline code).Sound config specifiers opened := by
  by_cases ht : code.slot ∈ w.taken
  · rw [Walk.inline_of_mem ht]
    exact h
  · rw [Walk.inline_of_not_mem ht]
    refine ⟨List.nodup_cons.2 ⟨ht, h.nodup⟩, ?_, h.wanted, ?_⟩
    · -- The new slot stands between those of the inlined code and those of the fetches.
      have hmid : (opened.map Slot.ofSpecifier ++ w.plan.inlined.map Inlined.slot ++
          code.slot :: w.plan.fetches.map Fetch.slot).Perm _ := List.perm_middle
      have hperm := h.taken
      rw [slots_eq, ← List.append_assoc] at hperm
      rw [slots_eq]
      simpa only [Walk.take, List.map_append, List.map_cons, List.map_nil, List.append_assoc,
        List.cons_append, List.nil_append] using (hperm.cons code.slot).trans hmid.symm
    · intro earlier f later hsplit peer hp
      obtain ⟨htaken, hfilled⟩ := h.behind earlier f later hsplit peer hp
      refine ⟨List.mem_cons_of_mem _ htaken, hfilled.imp_left fun hm => ?_⟩
      rcases List.mem_append.1 hm with hm | hm
      · rw [List.map_append]
        exact List.mem_append_left _ (List.mem_append_left _ hm)
      · exact List.mem_append_right _ hm

/-- A package is entered. -/
theorem Walk.Sound.take (h : w.Sound config specifiers opened)
    (ht : Slot.ofSpecifier specifier ∉ w.taken) :
    (w.take (Slot.ofSpecifier specifier)).Sound config specifiers (specifier :: opened) where
  nodup := List.nodup_cons.2 ⟨ht, h.nodup⟩
  taken := h.taken.cons _
  wanted := h.wanted
  behind := by
    intro earlier f later hsplit peer hp
    obtain ⟨htaken, hfilled⟩ := h.behind earlier f later hsplit peer hp
    exact ⟨List.mem_cons_of_mem _ htaken, hfilled⟩

/-- The package that was entered last is fetched, with the slots of its peers taken. -/
theorem Walk.Sound.emit (h : w.Sound config specifiers (specifier :: opened))
    (hwanted : config.Wants specifiers specifier)
    (hopened : ∀ a ∈ opened, ReflTransGen config.HasPeer a specifier)
    (hpeers : ∀ peer, config.Needs specifier peer → Slot.ofSpecifier peer ∈ w.taken) :
    (w.emit ⟨specifier, Slot.ofSpecifier specifier, url⟩).Sound config specifiers opened := by
  refine ⟨h.nodup, ?_, ?_, ?_⟩
  · refine h.taken.trans ?_
    rw [slots_eq, slots_eq, List.map_cons, List.cons_append]
    simp only [Walk.emit, List.map_append, List.map_cons, List.map_nil, ← List.append_assoc]
    exact (List.perm_append_singleton _ _).symm
  · intro f hf
    rcases List.mem_append.1 hf with hf | hf
    · exact h.wanted f hf
    · rw [List.mem_singleton.1 hf]
      exact hwanted
  · intro earlier f later hsplit peer hp
    -- The fetch is either the one at the end, or it was there before.
    rcases List.eq_nil_or_concat later with rfl | ⟨later, g, rfl⟩
    · obtain ⟨rfl, hf⟩ := List.append_inj' hsplit rfl
      obtain rfl : _ = f := (List.cons.inj hf).1
      have htaken := hpeers peer hp
      refine ⟨htaken, ?_⟩
      have hm := h.taken.mem_iff.1 htaken
      rw [slots_eq] at hm
      rcases List.mem_append.1 hm with hm | hm
      · -- The peer has been entered, so it depends on the package.
        obtain ⟨a, ha, hslot⟩ := List.mem_map.1 hm
        rw [Slot.eq_of_ofSpecifier_eq hslot] at ha
        rcases List.mem_cons.1 ha with rfl | ha
        · exact .inr .refl
        · exact .inr (hopened peer ha)
      · exact .inl hm
    · rw [List.concat_eq_append] at hsplit
      have hfront : w.plan.fetches = earlier ++ f :: later := by
        have hs : w.plan.fetches ++ [⟨specifier, Slot.ofSpecifier specifier, url⟩] =
            (earlier ++ f :: later) ++ [g] := by
          rw [List.append_assoc]
          exact hsplit
        exact (List.append_inj' hs rfl).1
      exact h.behind earlier f later hfront peer hp

/-! ### What every walk keeps -/

/-- May the request come up in a walk that has entered these packages? Each of them depends on what
is to be fetched. -/
def Request.Suits (config : Config) (specifiers opened : List String) : Request → Prop
  | inline _ => True
  | fetch specifier _ peers =>
    PeersOf config specifier peers ∧ config.Wants specifiers specifier ∧
      ∀ a ∈ opened, ReflTransGen config.HasPeer a specifier

theorem suits_provisions (hwanted : config.Wants specifiers specifier)
    (hopened : ∀ a ∈ opened, ReflTransGen config.HasPeer a specifier) :
    ∀ r ∈ provisions config specifier, r.Suits config specifiers opened :=
  forall_provisions (fun _ _ => trivial)
    fun _ _ hp => ⟨peersOf_provision hp, hwanted, hopened⟩

/-- The peers of a package that is entered may come up. -/
theorem suits_peers (hs : Request.Suits config specifiers opened (.fetch specifier url peers)) :
    ∀ r ∈ peers.flatMap (provisions config),
      r.Suits config specifiers (specifier :: opened) := by
  obtain ⟨hpeers, ⟨root, hroot, hreach⟩, hopened⟩ := hs
  intro r hr
  obtain ⟨peer, hpeer, hr⟩ := List.mem_flatMap.1 hr
  have hstep := hpeers.known peer hpeer
  refine suits_provisions ⟨root, hroot, hreach.tail hstep⟩ ?_ r hr
  intro a ha
  rcases List.mem_cons.1 ha with rfl | ha
  · exact .single hstep
  · exact (hopened a ha).tail hstep

/-- The slots of the peers that can be provided are taken when the peers have been worked off. -/
theorem taken_of_needs (hpeers : PeersOf config specifier peers)
    (hs : Serves config (peers.flatMap (provisions config)) w w') {peer : String}
    (hn : config.Needs specifier peer) : Slot.ofSpecifier peer ∈ w'.taken := by
  obtain ⟨r, hr, hslot⟩ := provisions_of_provides hn.2.1
  rw [← hslot]
  refine hs.slot_mem_taken r (List.mem_flatMap.2 ⟨peer, hpeers.complete peer hn, ?_⟩)
  rw [hr]
  exact List.mem_singleton_self r

theorem Serves.sound (h : Serves config rs w w') :
    ∀ {opened}, w.Sound config specifiers opened → (∀ r ∈ rs, r.Suits config specifiers opened) →
      w'.Sound config specifiers opened := by
  induction h with
  | nil => exact fun hw _ => hw
  | inline _ ih =>
    intro opened hw hr
    exact ih (hw.inline _) fun r hm => hr r (List.mem_cons_of_mem _ hm)
  | skip _ _ ih =>
    intro opened hw hr
    exact ih hw fun r hm => hr r (List.mem_cons_of_mem _ hm)
  | load ht hp _ ihp ih =>
    intro opened hw hr
    have hfirst := hr _ List.mem_cons_self
    obtain ⟨hpeers, hwanted, hopened⟩ := id hfirst
    -- The peers are worked off while the package is entered; then it is fetched and left.
    have hloaded := ihp (hw.take ht) (suits_peers hfirst)
    refine ih (hloaded.emit hwanted hopened ?_) fun r hm => hr r (List.mem_cons_of_mem _ hm)
    exact fun peer hn => taken_of_needs hpeers hp hn

/-- What the dependencies ask for may come up at the start. -/
theorem suits_requests (config : Config) (specifiers : List String) :
    ∀ r ∈ (specifiers.map config.classify).flatMap (requests config),
      r.Suits config specifiers [] := by
  intro r hr
  obtain ⟨c, hc, hr⟩ := List.mem_flatMap.1 hr
  obtain ⟨specifier, hs, rfl⟩ := List.mem_map.1 hc
  have hopened : ∀ p, ∀ a ∈ ([] : List String), ReflTransGen config.HasPeer a p :=
    fun _ _ ha => absurd ha List.not_mem_nil
  refine forall_requests (fun _ _ => trivial) (fun _ _ => trivial) (fun _ _ => trivial)
    (fun base hbase => ?_) (fun url peers hfetch => ?_) r hr
  · exact suits_provisions ⟨base, .inr ⟨specifier, hs, hbase⟩, .refl⟩ (hopened base)
  · exact ⟨peersOf_classify hfetch, ⟨specifier, .inl ⟨hs, url, peers, hfetch⟩, .refl⟩, hopened _⟩

/-! ### Plans -/

/-- Is the dependency provided by a statement for its own slot? -/
def fillsOwnSlot : Resolution → Bool
  | .fetch .. | .shim _ | .localShim _ => true
  | _ => false

/-- A dependency of this kind asks for its slot. -/
theorem exists_request {specifier : String}
    (h : fillsOwnSlot (config.classify specifier).resolution = true) :
    ∃ r ∈ requests config (config.classify specifier), r.slot = Slot.ofSpecifier specifier := by
  unfold requests
  cases hres : (config.classify specifier).resolution with
  | fetch _ _ | shim _ | localShim _ => exact ⟨_, List.mem_singleton_self _, rfl⟩
  | _ =>
    rw [hres] at h
    exact absurd h Bool.false_ne_true

/-- A plan as data is in order. -/
theorem plan_ordered (config : Config) (specifiers : List String) :
    let classifications := specifiers.map config.classify
    let plan := Loader.plan config classifications
    (∃ w, Serves config (classifications.flatMap (requests config)) {} w ∧ w.plan = plan ∧
      ∀ w', Serves config (classifications.flatMap (requests config)) {} w' → w' = w) ∧
    (plan.order.map Statement.slot).Nodup ∧
    (∀ specifier ∈ specifiers, fillsOwnSlot (config.classify specifier).resolution = true →
      (plan.order.map Statement.slot).count (Slot.ofSpecifier specifier) = 1) ∧
    (∀ f, .fetched f ∈ plan.order → config.Wants specifiers f.specifier) ∧
    ∀ before f after, plan.order = before ++ .fetched f :: after →
      ∀ peer, config.Needs f.specifier peer →
        Slot.ofSpecifier peer ∈ plan.order.map Statement.slot ∧
        ((∀ a, ¬ TransGen config.HasPeer a a) →
          Slot.ofSpecifier peer ∈ before.map Statement.slot) := by
  intro classifications plan
  have hserves := serves_plan config specifiers {}
  have hsound := hserves.sound (sound_start config specifiers) (suits_requests config specifiers)
  have hnodup : plan.slots.Nodup := hsound.taken.nodup_iff.1 hsound.nodup
  have hfilled : ∀ slot, slot ∈ plan.slots ↔ slot ∈ _ := fun slot => hsound.taken.mem_iff.symm
  refine ⟨⟨_, hserves, rfl, fun w' h => h.unique hserves⟩, hnodup, ?_, ?_, ?_⟩
  · intro specifier hs hown
    obtain ⟨r, hr, hslot⟩ := exists_request hown
    refine List.count_eq_one_of_mem hnodup ((hfilled _).2 ?_)
    rw [← hslot]
    exact hserves.slot_mem_taken r
      (List.mem_flatMap.2 ⟨_, List.mem_map_of_mem hs, hr⟩)
  · exact fun f hf => hsound.wanted f (mem_fetches_of_mem_order hf)
  · intro before f after horder peer hn
    obtain ⟨earlier, later, hfetches, hbefore⟩ := order_eq_append horder
    obtain ⟨htaken, hfirst⟩ := hsound.behind earlier f later hfetches peer hn
    refine ⟨(hfilled _).2 htaken, fun hacyclic => ?_⟩
    rcases hfirst with hfirst | hcycle
    · have hslots : before.map Statement.slot =
          plan.inlined.map Inlined.slot ++ earlier.map Fetch.slot := by
        rw [hbefore]
        simp [Statement.slot, Function.comp_def]
      rw [hslots]
      exact hfirst
    · -- A peer that depends on the package closes a cycle.
      obtain ⟨-, -, d, hd, -, hp⟩ := hn
      exact absurd (TransGen.head' ⟨d, hd, hp⟩ hcycle) (hacyclic f.specifier)

/-! ### Plans as texts -/

/-- What a statement does. -/
def Statement.deeds : Statement → List Deed
  | inlined code => [.assigns code.slot]
  | fetched f => [.declares f.slot, .imports f.slot (Json.literal f.url), .assigns f.slot]

/-- The text of a statement does what the statement does. -/
theorem Statement.deeds_render {plan : Plan} {s : Statement} (h : plan.Legible config)
    (hs : s ∈ plan.order) : Loader.deeds s.render = s.deeds := by
  rcases List.mem_append.1 hs with hs | hs
  · obtain ⟨code, hcode, rfl⟩ := List.mem_map.1 hs
    exact (h.inlined code hcode).deeds_render
  · obtain ⟨f, hf, rfl⟩ := List.mem_map.1 hs
    refine f.deeds_render ?_
    rw [h.slot f hf]
    exact Slot.isIdent_ofSpecifier f.specifier

section Texts

variable {statements : List Statement} {s : Statement} {name argument : String}

theorem assigned_render (h : Loader.deeds s.render = s.deeds) : assigned s.render = [s.slot] := by
  rw [assigned, h]
  cases s <;> rfl

/-- Only the slot of a fetch is declared. -/
theorem declared_render_sublist (h : Loader.deeds s.render = s.deeds) :
    (declared s.render).Sublist [s.slot] := by
  rw [declared, h]
  cases s with
  | inlined code => exact List.nil_sublist _
  | fetched f => exact List.Sublist.refl _

/-- Only a fetch imports anything. -/
theorem imports_mem_render (h : Loader.deeds s.render = s.deeds)
    (hm : .imports name argument ∈ Loader.deeds s.render) :
    ∃ f, s = .fetched f ∧ name = f.slot ∧ argument = Json.literal f.url := by
  rw [h] at hm
  cases s with
  | inlined code => simp [Statement.deeds] at hm
  | fetched f => exact ⟨f, rfl, by simpa [Statement.deeds] using hm⟩

theorem flatMap_assigned (h : ∀ s ∈ statements, Loader.deeds s.render = s.deeds) :
    (statements.map Statement.render).flatMap assigned = statements.map Statement.slot := by
  induction statements with
  | nil => rfl
  | cons s statements ih =>
    rw [List.forall_mem_cons] at h
    rw [List.map_cons, List.flatMap_cons, assigned_render h.1, ih h.2]
    rfl

theorem flatMap_declared_sublist (h : ∀ s ∈ statements, Loader.deeds s.render = s.deeds) :
    ((statements.map Statement.render).flatMap declared).Sublist (statements.map Statement.slot) := by
  induction statements with
  | nil => exact List.Sublist.refl _
  | cons s statements ih =>
    rw [List.forall_mem_cons] at h
    exact (declared_render_sublist h.1).append (ih h.2)

/-- The texts that assign a slot are counted by its statements. -/
theorem countP_assigned (h : ∀ s ∈ statements, Loader.deeds s.render = s.deeds) (slot : String) :
    (statements.map Statement.render).countP (fun text => slot ∈ assigned text) =
      (statements.map Statement.slot).count slot := by
  rw [List.countP_map, List.count, List.countP_map]
  refine List.countP_congr fun s hs => ?_
  simp only [Function.comp_apply, assigned_render (h s hs), List.mem_singleton, decide_eq_true_eq,
    beq_iff_eq]
  exact eq_comm

end Texts

/-- **Every plan is in order.** The walk ends, whatever the graph of peers looks like, and comes to
this plan alone. Each text assigns one slot, and if it imports a package, it declares the slot as a
name, imports the package into it and assigns it. No slot is assigned and no name is declared twice,
and one text assigns the slot of every dependency that is fetched or inlined. What imports nothing
comes first. Only what is asked for and the peers of that are imported, from where they are to be
had. And where a package that needs a peer is imported, the slot of the peer is assigned as well, by
an earlier text if the registry's peers make no cycle. -/
theorem plan_orders (config : Config) (specifiers : List String) :
    let classifications := specifiers.map config.classify
    let plan := Loader.plan config classifications
    (∃ w, Serves config (classifications.flatMap (requests config)) {} w ∧ w.plan = plan ∧
      ∀ w', Serves config (classifications.flatMap (requests config)) {} w' → w' = w) ∧
    (∀ text ∈ plan.statements, ∃ slot, deeds text = [.assigns slot] ∨
      ∃ argument, deeds text = [.declares slot, .imports slot argument, .assigns slot]) ∧
    (plan.statements.flatMap assigned).Nodup ∧
    (plan.statements.flatMap declared).Nodup ∧
    (∀ specifier ∈ specifiers, fillsOwnSlot (config.classify specifier).resolution = true →
      plan.statements.countP (fun text => Slot.ofSpecifier specifier ∈ assigned text) = 1) ∧
    plan.statements.Pairwise (fun earlier later =>
      (∃ name, ImportsInto earlier name) → ∃ name, ImportsInto later name) ∧
    (∀ text ∈ plan.statements, ∀ name argument, .imports name argument ∈ deeds text →
      ∃ specifier url, config.Wants specifiers specifier ∧ config.Offers specifier url ∧
        name = Slot.ofSpecifier specifier ∧ argument = Json.literal url) ∧
    ∀ before text after specifier, plan.statements = before ++ text :: after →
      ImportsInto text (Slot.ofSpecifier specifier) → ∀ peer, config.Needs specifier peer →
        Slot.ofSpecifier peer ∈ plan.statements.flatMap assigned ∧
        ((∀ a, ¬ TransGen config.HasPeer a a) →
          Slot.ofSpecifier peer ∈ before.flatMap assigned) := by
  intro classifications plan
  obtain ⟨hwalk, hnodup, hown, hwanted, hpeers⟩ := plan_ordered config specifiers
  have hlegible : plan.Legible config := legible_plan config specifiers
  have hdeeds : ∀ s ∈ plan.order, deeds s.render = s.deeds := fun s => Statement.deeds_render hlegible
  have hassigned : plan.statements.flatMap assigned = plan.order.map Statement.slot := by
    rw [← render_order, flatMap_assigned hdeeds]
  refine ⟨hwalk, ?_, ?_, ?_, ?_, ?_, ?_, ?_⟩
  · intro text htext
    rw [← render_order] at htext
    obtain ⟨s, hs, rfl⟩ := List.mem_map.1 htext
    rw [hdeeds s hs]
    cases s with
    | inlined code => exact ⟨code.slot, .inl rfl⟩
    | fetched f => exact ⟨f.slot, .inr ⟨Json.literal f.url, rfl⟩⟩
  · rw [hassigned]
    exact hnodup
  · rw [← render_order]
    exact hnodup.sublist (flatMap_declared_sublist hdeeds)
  · intro specifier hs hfills
    rw [← render_order, countP_assigned hdeeds]
    exact hown specifier hs hfills
  · rw [← render_order, List.pairwise_map]
    refine (pairwise_order plan).imp_of_mem ?_
    intro a b ha hb hab ⟨name, argument, hm⟩
    obtain ⟨f, rfl, -⟩ := imports_mem_render (hdeeds a ha) hm
    have hfetch := hab rfl
    cases b with
    | inlined code => cases hfetch
    | fetched g =>
      refine ⟨g.slot, Json.literal g.url, ?_⟩
      rw [hdeeds _ hb]
      exact List.mem_cons_of_mem _ List.mem_cons_self
  · intro text htext name argument hm
    rw [← render_order] at htext
    obtain ⟨s, hs, rfl⟩ := List.mem_map.1 htext
    obtain ⟨f, rfl, rfl, rfl⟩ := imports_mem_render (hdeeds s hs) hm
    have hf : f ∈ plan.fetches := mem_fetches_of_mem_order hs
    exact ⟨f.specifier, f.url, hwanted f hs, hlegible.offered f hf, hlegible.slot f hf, rfl⟩
  · intro before text after specifier hsplit ⟨argument, hm⟩ peer hn
    rw [← render_order] at hsplit
    obtain ⟨front, rest, horder, rfl, hrest⟩ := List.map_eq_append_iff.1 hsplit
    obtain ⟨s, back, rfl, rfl, rfl⟩ := List.map_eq_cons_iff.1 hrest
    have hs : s ∈ plan.order := horder ▸ List.mem_append_right _ List.mem_cons_self
    obtain ⟨f, rfl, hslot, -⟩ := imports_mem_render (hdeeds s hs) hm
    rw [hlegible.slot f (mem_fetches_of_mem_order hs)] at hslot
    obtain rfl := Slot.eq_of_ofSpecifier_eq hslot
    have hfront : ∀ s ∈ front, deeds s.render = s.deeds :=
      fun s hs => hdeeds s (horder ▸ List.mem_append_left _ hs)
    rw [hassigned, flatMap_assigned hfront]
    exact hpeers front f back horder peer hn

/-- A configuration in which a scene needs a mesh. -/
def sceneConfig : Config where
  registry := .ofList [
    ("scene", Registry.cdn "https://b.test/scene.js" ["mesh"]),
    ("mesh", Registry.cdn "https://b.test/mesh.js" [])]

/-- The scene is imported behind its mesh. -/
theorem plan_orders_scene :
    let plan := Loader.plan sceneConfig [sceneConfig.classify "scene"]
    let mesh := Fetch.render ⟨"mesh", "__dep_mesh", "https://b.test/mesh.js"⟩
    let scene := Fetch.render ⟨"scene", "__dep_scene", "https://b.test/scene.js"⟩
    plan.statements = [mesh] ++ scene :: [] ∧ ImportsInto scene (Slot.ofSpecifier "scene") ∧
      sceneConfig.Needs "scene" "mesh" ∧ (∀ a, ¬ TransGen sceneConfig.HasPeer a a) ∧
      plan.statements.countP (fun text => Slot.ofSpecifier "scene" ∈ assigned text) = 1 ∧
      Slot.ofSpecifier "mesh" ∈ [mesh].flatMap assigned := by
  intro plan mesh scene
  have hstatements : plan.statements = [mesh] ++ scene :: [] := by rfl
  have himports : ImportsInto scene (Slot.ofSpecifier "scene") := by
    refine ⟨Json.literal "https://b.test/scene.js", ?_⟩
    rw [Fetch.deeds_render _ (by decide)]
    exact List.mem_cons_of_mem _ List.mem_cons_self
  have hmesh : sceneConfig.registry.get? "mesh" = some (Registry.cdn "https://b.test/mesh.js" []) := rfl
  have hscene : sceneConfig.registry.get? "scene" =
      some (Registry.cdn "https://b.test/scene.js" ["mesh"]) := rfl
  have hprovides : sceneConfig.Provides "mesh" := by
    refine ⟨rfl, fun d hd => ?_⟩
    rw [hmesh, Option.some.injEq] at hd
    rw [← hd]
    exact ⟨Provider.noConfusion, Provider.noConfusion⟩
  have hneeds : sceneConfig.Needs "scene" "mesh" :=
    ⟨rfl, hprovides, _, hscene, rfl, List.mem_singleton_self _⟩
  have hedge : ∀ a b, sceneConfig.HasPeer a b → a = "scene" ∧ b = "mesh" := by
    rintro a b ⟨d, hd, hb⟩
    have hkey : a = "mesh" ∨ a = "scene" := by
      have hmem : a ∈ sceneConfig.registry.keys := Dictionary.mem_keys_of_get? hd
      have hkeys : sceneConfig.registry.keys = ["mesh", "scene"] := rfl
      simpa [hkeys] using hmem
    rcases hkey with rfl | rfl
    · rw [hmesh, Option.some.injEq] at hd
      rw [← hd] at hb
      exact absurd hb List.not_mem_nil
    · rw [hscene, Option.some.injEq] at hd
      rw [← hd] at hb
      exact ⟨rfl, List.mem_singleton.1 hb⟩
  have hacyclic : ∀ a, ¬ TransGen sceneConfig.HasPeer a a := by
    intro a ha
    obtain ⟨b, hb, -⟩ := TransGen.head'_iff.1 ha
    obtain ⟨c, -, hc⟩ := TransGen.tail'_iff.1 ha
    exact absurd ((hedge a b hb).1.symm.trans (hedge c a hc).2) (by decide)
  obtain ⟨-, -, -, -, hcount, -, -, hbefore⟩ := plan_orders sceneConfig ["scene"]
  exact ⟨hstatements, himports, hneeds, hacyclic, hcount "scene" List.mem_cons_self rfl,
    (hbefore [mesh] scene [] "scene" hstatements himports "mesh" hneeds).2 hacyclic⟩

end Loader

end LivePreview
