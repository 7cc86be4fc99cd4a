import LivePreview.Proofs.Frame.Link
/-!
# LivePreview.Proofs.Frame.Convergence

**The bridge ends up with the document that the host desires.** What the bridge will hold when
everything under way has come to it (`Link.destined`) does not change when a message is put under way or
delivered, so the invariant speaks of that document alone: it is the prepared form of the desired one,
unless the bridge has been replaced and the host has not heard of it. When nothing is under way, the
bridge holds the document it is destined to hold.
-/

namespace LivePreview.Frame

/-- The document that is held after some messages. -/
def shownAll (held : Option String) (messages : List Message) : Option String :=
  messages.foldl Message.shown held

@[simp] theorem shownAll_nil (held : Option String) : shownAll held [] = held := rfl

theorem shownAll_cons (held : Option String) (message : Message) (later : List Message) :
    shownAll held (message :: later) = shownAll (message.shown held) later := rfl

/-- A document at the end decides. -/
theorem shownAll_concat (held : Option String) (messages : List Message) (html : String) :
    shownAll held (messages ++ [.setHtml html]) = some (Embed.prepare html) := by
  simp [shownAll, List.foldl_append, Message.shown]

namespace Link

/-- The document that the bridge will hold when it has got everything. -/
def destined (l : Link) : Option String :=
  shownAll l.bridge.held l.underway

/-- What holds of a link in every run, where `documents` were supplied in its course and `heard`
tells whether the host has heard of the present bridge. -/
structure Consistent (l : Link) (documents : List String) (heard : Bool) : Prop where
  proper : l.bridge.Proper
  /-- Only supplied documents are under way. -/
  underway : ∀ message ∈ l.underway, ∃ html ∈ documents, message = .setHtml html
  desired : ∀ html, l.host.desired = some html → html ∈ documents
  held : ∀ document, l.bridge.held = some document →
    ∃ html ∈ documents, document = Embed.prepare html
  /-- A host that desires nothing has never posted anything. -/
  idle : l.host.desired = none → l.underway = [] ∧ l.bridge.held = none
  destined : heard = true → l.destined = l.host.desired.map Embed.prepare

theorem consistent_start (window : Nat) (origin : String) :
    (start window origin).Consistent [] true where
  proper := Bridge.proper_new origin
  underway := by intro message hm; exact absurd hm (List.not_mem_nil)
  desired := by intro html hd; exact absurd hd (by simp [start])
  held := by intro document hd; exact absurd hd (by simp [start])
  idle := fun _ => ⟨rfl, rfl⟩
  destined := fun _ => rfl

namespace Consistent

variable {l : Link} {documents : List String} {heard : Bool} {host : Host} {bridge : Bridge}
  {html : String}

/-! ### Steps of the host -/

/-- The host does something that desires nothing new. -/
theorem reposts (h : l.Consistent documents heard) (hr : l.host.Reposts host) :
    ({ l with host } : Link).Consistent documents heard := by
  rcases hr.outbox with ho | ⟨html, hd, ho⟩
  · have hu : ({ l with host } : Link).underway = l.underway := by simp only [Link.underway, ho]
    refine ⟨h.proper, ?_, ?_, h.held, ?_, ?_⟩
    · rw [hu]
      exact h.underway
    · rw [hr.desired]
      exact h.desired
    · rw [hr.desired, hu]
      exact h.idle
    · rw [Link.destined, hu, hr.desired]
      exact h.destined
  · have hu : ({ l with host } : Link).underway = l.underway ++ [.setHtml html] := by
      simp only [Link.underway, ho, List.append_assoc]
    refine ⟨h.proper, ?_, ?_, h.held, ?_, ?_⟩
    · rw [hu]
      intro message hm
      rcases List.mem_append.1 hm with hm | hm
      · exact h.underway message hm
      · exact ⟨html, h.desired html hd, List.mem_singleton.1 hm⟩
    · rw [hr.desired]
      exact h.desired
    · intro hn
      rw [hr.desired, hd] at hn
      exact absurd hn (by simp)
    · intro _
      rw [Link.destined, hu, shownAll_concat, hr.desired, hd]
      rfl

/-- The host takes a new document. -/
theorem supplies (h : l.Consistent documents heard) (hs : l.host.Supplies html host) :
    ({ l with host } : Link).Consistent (documents ++ [html]) heard := by
  have hu : ({ l with host } : Link).underway = l.underway ++ [.setHtml html] := by
    simp only [Link.underway, hs.outbox, List.append_assoc]
  refine ⟨h.proper, ?_, ?_, ?_, ?_, ?_⟩
  · rw [hu]
    intro message hm
    rcases List.mem_append.1 hm with hm | hm
    · obtain ⟨old, ho, rfl⟩ := h.underway message hm
      exact ⟨old, List.mem_append_left _ ho, rfl⟩
    · exact ⟨html, List.mem_append_right _ (List.mem_singleton_self html), List.mem_singleton.1 hm⟩
  · intro new hn
    rw [hs.desired, Option.some.injEq] at hn
    exact List.mem_append_right _ (List.mem_singleton.2 hn.symm)
  · intro document hd
    obtain ⟨old, ho, hprepared⟩ := h.held document hd
    exact ⟨old, List.mem_append_left _ ho, hprepared⟩
  · intro hn
    rw [hs.desired] at hn
    exact absurd hn (by simp)
  · intro _
    rw [Link.destined, hu, shownAll_concat, hs.desired]
    rfl

/-- When the frame has loaded, the host has heard of the bridge: what it desires is posted again. -/
theorem frameLoaded (h : l.Consistent documents heard) :
    ({ l with host := l.host.frameLoaded } : Link).Consistent documents true := by
  have hr := h.reposts (Host.reposts_post l.host)
  refine { hr with destined := fun _ => ?_ }
  cases hd : l.host.desired with
  | none =>
    obtain ⟨hu, hheld⟩ := h.idle hd
    have hpost : l.host.frameLoaded = l.host := Host.post_of_none hd
    rw [hpost, Link.destined, hu, shownAll_nil, hheld, hd]
    rfl
  | some html =>
    have hpost : l.host.frameLoaded = _ := Host.post_of_some hd
    have hu : ({ l with host := l.host.frameLoaded } : Link).underway =
        l.underway ++ [.setHtml html] := by
      simp only [Link.underway, hpost, List.append_assoc]
    rw [Link.destined, hu, shownAll_concat, hpost, hd]
    rfl

/-! ### Steps of the channel and the bridge -/

/-- The bridge does something that does not touch the document it holds. -/
theorem bridge_keeps (h : l.Consistent documents heard) (hp : bridge.Proper)
    (hb : bridge.held = l.bridge.held) :
    ({ l with bridge } : Link).Consistent documents heard where
  proper := hp
  underway := h.underway
  desired := h.desired
  held := by rw [hb]; exact h.held
  idle := by rw [hb]; exact h.idle
  destined := by rw [Link.destined, hb]; exact h.destined

/-- Putting messages under way changes neither their order nor their number. -/
theorem post (h : l.Consistent documents heard) : (l.step .post).Consistent documents heard := by
  have hu : (l.step .post).underway = l.underway := by
    simp [Link.underway, step, Host.takeOutbox]
  refine ⟨h.proper, ?_, h.desired, h.held, ?_, ?_⟩
  · rw [hu]
    exact h.underway
  · rw [hu]
    exact h.idle
  · rw [Link.destined, hu]
    exact h.destined

/-- A delivery shows the oldest message, and what the bridge is destined to hold stays the same. -/
theorem deliver (h : l.Consistent documents heard) :
    (l.step .deliver).Consistent documents heard := by
  cases hc : l.channel with
  | nil => simpa only [step, hc] using h
  | cons message later =>
    have hstep : l.step .deliver =
        { l with channel := later, bridge := (l.bridge.receive l.bridge.origin message).2 } := by
      simp only [step, hc]
    have hu : l.underway = message :: (later ++ l.host.outbox) := by
      simp only [Link.underway, hc, List.cons_append]
    have hmem : message ∈ l.underway := by
      rw [hu]
      exact List.mem_cons_self
    rw [hstep]
    refine ⟨h.proper.receive _ _, ?_, h.desired, ?_, ?_, ?_⟩
    · intro m hm
      refine h.underway m ?_
      rw [hu]
      exact List.mem_cons_of_mem _ hm
    · intro document hd
      obtain ⟨html, hh, rfl⟩ := h.underway message hmem
      rw [Bridge.held_receive, Message.shown, Option.some.injEq] at hd
      exact ⟨html, hh, hd.symm⟩
    · intro hn
      have hnil := (h.idle hn).1
      rw [hu] at hnil
      exact absurd hnil (List.cons_ne_nil _ _)
    · -- The message goes over from those under way to the one that is shown.
      intro hh
      have hd := h.destined hh
      rw [Link.destined, hu, shownAll_cons] at hd
      rw [Link.destined, Bridge.held_receive]
      exact hd

/-- A new bridge holds nothing, and the host has not heard of it yet. -/
theorem replaced (h : l.Consistent documents heard) (origin : String) :
    (l.step (.replaced origin)).Consistent documents false where
  proper := Bridge.proper_new origin
  underway := fun message hm => h.underway message (List.mem_append_right _ hm)
  desired := h.desired
  held := by intro document hd; exact absurd hd (by simp [step])
  idle := fun hn => ⟨(List.append_eq_nil_iff.1 (h.idle hn).1).2, rfl⟩
  destined := fun hf => absurd hf (by decide)

/-! ### All steps -/

theorem step (h : l.Consistent documents heard) (event : Event) :
    (l.step event).Consistent (documents ++ (l.supplied? event).toList) (event.heard heard) := by
  -- All events but two supply no document.
  have hnew : ∀ {m : Link} {b : Bool}, m.Consistent documents b →
      m.Consistent (documents ++ (none : Option String).toList) b := by
    intro m b hm
    simpa using hm
  cases event with
  | beginBuild => exact hnew (h.reposts (Host.reposts_beginBuild l.host))
  | completeBuild ticket html =>
    by_cases ht : ticket = l.host.generation
    · obtain ⟨hok, hs⟩ := Host.supplies_completeBuild ht html
      rw [supplied?, if_pos hok]
      exact h.supplies hs
    · simp only [Link.step, supplied?, Host.completeBuild_of_ne ht, Bool.false_eq_true, if_false]
      exact hnew h
  | setContent html =>
    have hok := (Host.supplies_completeBuild (h := l.host.beginBuild.2) rfl html).1
    rw [supplied?, show l.host.beginBuild.1 = l.host.beginBuild.2.generation from rfl, if_pos hok]
    exact h.supplies (Host.supplies_setContent l.host html)
  | frameLoaded => exact hnew h.frameLoaded
  | hostReceives sender message => exact hnew (h.reposts (Host.reposts_receive l.host sender message))
  | post => exact hnew h.post
  | deliver => exact hnew h.deliver
  | «foreign» origin message =>
    simp only [Link.step]
    split
    · exact hnew h
    · next hne =>
      rw [Bridge.receive_of_ne hne]
      exact hnew h
  | innerLoaded => exact hnew (h.bridge_keeps h.proper.innerLoaded (Bridge.held_innerLoaded h.proper))
  | innerSends message => exact hnew (h.bridge_keeps (h.proper.relay message) (Bridge.held_relay _ _))
  | collect => exact hnew (h.bridge_keeps h.proper.takeOutbox (Bridge.held_takeOutbox _))
  | replaced origin => exact hnew (h.replaced origin)

/-- A run keeps the invariant. -/
theorem run (h : l.Consistent documents heard) (events : List Event) :
    (l.run events).Consistent (documents ++ l.supplied events)
      (events.foldl Event.heard heard) := by
  induction events generalizing l documents heard with
  | nil => simpa only [Link.run, supplied, List.foldl_nil, List.append_nil] using h
  | cons event events ih =>
    have := ih (h.step event)
    rwa [List.append_assoc] at this

/-- When nothing is under way, the bridge holds what the host desires. -/
theorem held_eq (h : l.Consistent documents true) (hu : l.underway = []) :
    l.bridge.held = l.host.desired.map Embed.prepare := by
  have hd := h.destined rfl
  rwa [Link.destined, hu] at hd

end Consistent

/-! ### Draining -/

theorem step_deliver_host (l : Link) : (l.step .deliver).host = l.host := by
  simp only [step]
  split <;> rfl

theorem step_deliver_channel (l : Link) : (l.step .deliver).channel = l.channel.tail := by
  simp only [step]
  split
  · next hc => rw [hc, List.tail_nil]
  · next hc => rw [hc, List.tail_cons]

/-- Deliveries take the oldest messages off the channel and leave the host alone. -/
theorem run_deliver (l : Link) (n : Nat) :
    (l.run (List.replicate n .deliver)).host = l.host ∧
      (l.run (List.replicate n .deliver)).channel = l.channel.drop n := by
  induction n generalizing l with
  | zero => exact ⟨rfl, rfl⟩
  | succ n ih =>
    obtain ⟨hh, hc⟩ := ih (l.step .deliver)
    rw [List.replicate_succ]
    refine ⟨hh.trans (step_deliver_host l), hc.trans ?_⟩
    rw [step_deliver_channel, List.drop_tail]

/-- A drained link has nothing under way, and its host desires what it desired before. -/
theorem drained_spec (l : Link) :
    l.drained.channel = [] ∧ l.drained.host.outbox = [] ∧
      l.drained.host.desired = l.host.desired := by
  obtain ⟨hh, hc⟩ := run_deliver (l.step .post) l.underway.length
  have hrun : l.drained = (l.step .post).run (List.replicate l.underway.length .deliver) := rfl
  have hu : (l.step .post).channel = l.underway := rfl
  rw [hrun, hh, hc, hu]
  exact ⟨List.drop_length, rfl, rfl⟩

/-- Draining does not make the host hear less of the bridge. -/
theorem heard_drainage (l : Link) : l.drainage.foldl Event.heard true = true := by
  have hd : ∀ n, (List.replicate n Event.deliver).foldl Event.heard true = true := by
    intro n
    induction n with
    | zero => rfl
    | succ n ih => exact ih
  exact hd l.underway.length

/-- Once the frame has loaded and the link is drained, the bridge holds what the host desires. -/
theorem Consistent.drained {l : Link} {documents : List String} {heard : Bool}
    (h : l.Consistent documents heard) :
    let d := (l.step .frameLoaded).drained;
    d.channel = [] ∧ d.host.outbox = [] ∧ d.host.desired = l.host.desired ∧
      d.bridge.held = l.host.desired.map Embed.prepare := by
  intro d
  obtain ⟨hc, ho, hd⟩ := drained_spec (l.step .frameLoaded)
  have hdesired : d.host.desired = l.host.desired := hd.trans (Host.reposts_post l.host).desired
  have hrun := h.frameLoaded.run (l.step .frameLoaded).drainage
  rw [heard_drainage] at hrun
  have hu : d.underway = [] := by rw [Link.underway, hc, ho, List.append_nil]
  refine ⟨hc, ho, hdesired, ?_⟩
  rw [← hdesired]
  exact hrun.held_eq hu

end Link

/-- **Convergence.** In every state that a new host and a new bridge can come to: before the inner
frame is ready it shows nothing, and from then on nothing is kept; the document that the bridge holds
is the prepared form of a supplied one; and if the frame has loaded since the bridge was last replaced
and nothing is under way, the bridge holds the document that the host desires. Whatever has happened,
loading the frame and draining the link leads to such a state. -/
theorem run_converges (window : Nat) (origin : String) (events : List Event) :
    let start := Link.start window origin
    let l := start.run events
    (l.bridge.listening = false → l.bridge.inner = none) ∧
      (l.bridge.listening = true → l.bridge.pending = none) ∧
      (∀ document, l.bridge.held = some document →
        ∃ html ∈ start.supplied events, document = Embed.prepare html) ∧
      (loadedSince events = true → l.channel = [] → l.host.outbox = [] →
        ∀ html, l.host.desired = some html → l.bridge.held = some (Embed.prepare html)) ∧
      (let d := (l.step .frameLoaded).drained;
        d.channel = [] ∧ d.host.outbox = [] ∧ d.host.desired = l.host.desired ∧
          d.bridge.held = l.host.desired.map Embed.prepare) := by
  intro start l
  have h : l.Consistent (start.supplied events) (loadedSince events) :=
    (Link.consistent_start window origin).run events
  refine ⟨h.proper.early, h.proper.late, h.held, ?_, ?_⟩
  · intro hheard hc ho html hd
    rw [hheard] at h
    have hu : l.underway = [] := by rw [Link.underway, hc, ho, List.append_nil]
    rw [h.held_eq hu, hd]
    rfl
  · exact h.drained

/-- A document that was lost with the old bridge is held by the new one once the frame has loaded and
the channel is empty. -/
theorem run_converges_replaced :
    let events : List Event :=
      [.setContent "<p>a</p>", .post, .deliver, .setContent "<p>b</p>", .post, .replaced "https://b.test",
        .innerLoaded, .frameLoaded, .post, .deliver]
    let l := (Link.start 7 "https://a.test").run events
    loadedSince events = true ∧ l.channel = [] ∧ l.host.outbox = [] ∧
      l.host.desired = some "<p>b</p>" ∧ l.bridge.held = some (Embed.prepare "<p>b</p>") := by
  intro events l
  exact ⟨rfl, rfl, rfl, rfl,
    (run_converges 7 "https://a.test" events).2.2.2.1 rfl rfl rfl "<p>b</p>" rfl⟩

end LivePreview.Frame
