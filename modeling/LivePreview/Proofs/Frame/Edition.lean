import Mathlib.Data.List.InsertIdx
import LivePreview.Proofs.Frame.Convergence
/-!
# LivePreview.Proofs.Frame.Edition

**Older builds never come back.** A document together with the ticket of the build that supplied it is
an *edition*. A `Ledger` follows a link and keeps, beside every document that it holds somewhere, the
edition that the document belongs to; messages may be lost on the way, but they are never reordered.

Design points:

* The ledger only watches. Its link takes the steps that it would take without a ledger, and the
  editions agree with the documents in it (`Ledger.Faithful`).
* Everything that the bridge holds or has still to get was posted before, in this order, and the
  tickets that are posted never go down (`Ledger.Ascending`). The invariant carries a floor that no
  edition from now on falls below; whatever the bridge holds can be taken as the floor.
-/

namespace LivePreview.Frame

/-- A document, with the ticket of the build that supplied it. -/
structure Edition where
  ticket : Nat
  html : String
  deriving Repr, DecidableEq

/-- The message that posts an edition. -/
def Edition.message (e : Edition) : Message := .setHtml e.html

/-- The document that the bridge shows for an edition. -/
def Edition.document (e : Edition) : String := Embed.prepare e.html

/-! ### The number of the latest build -/

namespace Host

variable {h h' : Host}

theorem generation_post (h : Host) : h.post.generation = h.generation := by
  obtain ⟨_, hpost⟩ := exists_post_eq h
  rw [hpost]

theorem generation_completeBuild (h : Host) (ticket : Nat) (html : String) :
    (h.completeBuild ticket html).2.generation = h.generation := by
  obtain ⟨_, _, hcomplete⟩ := exists_completeBuild_eq h ticket html
  rw [hcomplete]

theorem generation_setContent (h : Host) (html : String) :
    (h.setContent html).2.generation = h.generation + 1 :=
  generation_completeBuild h.beginBuild.2 h.beginBuild.1 html

theorem generation_receive (h : Host) (sender : Nat) (message : Message) :
    (h.receive sender message).2.generation = h.generation := by
  obtain ⟨_, _, _, _, _, hreceive⟩ := exists_receive_eq h sender message
  rw [hreceive]

/-- What the host had posted stays in front of what it posts. -/
theorem Reposts.prefix_outbox (hr : h.Reposts h') : h.outbox <+: h'.outbox := by
  rcases hr.outbox with ho | ⟨html, -, ho⟩
  · simp only [ho]
    exact List.prefix_refl _
  · rw [ho]
    exact List.prefix_append _ _

theorem Supplies.prefix_outbox {html : String} (hs : h.Supplies html h') :
    h.outbox <+: h'.outbox := by
  rw [hs.outbox]
  exact List.prefix_append _ _

end Host

/-! ### Links that may lose messages -/

/-- What can happen to a link that may lose messages. -/
inductive LossyEvent
  | event (event : Event)
  /-- The message at this place of the channel is lost. -/
  | lost (place : Nat)

namespace Link

/-- The link after an event. -/
def lossyStep (l : Link) : LossyEvent → Link
  | .event event => l.step event
  | .lost place => { l with channel := l.channel.eraseIdx place }

/-- The link after a run. -/
def lossyRun (l : Link) (events : List LossyEvent) : Link :=
  events.foldl lossyStep l

/-- The build that an event completes successfully. -/
def completed? (l : Link) : Event → Option Edition
  | .completeBuild ticket html =>
    if (l.host.completeBuild ticket html).1 then some ⟨ticket, html⟩ else none
  | .setContent html =>
    let (ticket, host) := l.host.beginBuild
    if (host.completeBuild ticket html).1 then some ⟨ticket, html⟩ else none
  | _ => none

/-- The messages that the host posts in an event. They join the ones that it has posted before; only
when those are put under way, nothing is posted. -/
def posted (l : Link) : Event → List Message
  | .post => []
  | event => (l.step event).host.outbox.drop l.host.outbox.length

/-- The messages that the bridge had still to get before an event and has still to get after it. -/
def remaining (l : Link) : Event → List Message
  | .deliver => l.channel.tail ++ l.host.outbox
  | .replaced _ => l.host.outbox
  | _ => l.underway

/-- The builds that are completed successfully in the course of a run. -/
def completions (l : Link) : List LossyEvent → List Edition
  | [] => []
  | .event event :: events => (l.completed? event).toList ++ (l.step event).completions events
  | .lost place :: events => (l.lossyStep (.lost place)).completions events

/-- The messages that the host posts in the course of a run. -/
def postings (l : Link) : List LossyEvent → List Message
  | [] => []
  | .event event :: events => l.posted event ++ (l.step event).postings events
  | .lost place :: events => (l.lossyStep (.lost place)).postings events

/-! ### What an event does to the documents -/

/-- An event leaves the host desiring the latest edition, and the host has posted this one or
nothing. If a build is completed in the event, it is the latest one. -/
structure Posts (l : Link) (event : Event) (latest : Option Edition) : Prop where
  desired : latest.map (·.html) = (l.step event).host.desired
  posted : l.posted event = [] ∨ ∃ e, latest = some e ∧ l.posted event = [e.message]
  completed : ∀ e, l.completed? event = some e → e.ticket = (l.step event).host.generation

variable {l : Link} {event : Event} {latest : Option Edition}

/-- An event in which the host desires nothing new. -/
theorem posts_of_reposts (hl : latest.map (·.html) = l.host.desired)
    (hr : l.host.Reposts (l.step event).host) (hc : l.completed? event = none)
    (hp : l.posted event = (l.step event).host.outbox.drop l.host.outbox.length) :
    l.Posts event (l.completed? event <|> latest) := by
  rw [hc]
  refine ⟨hl.trans hr.desired.symm, ?_, fun e he => absurd (hc.symm.trans he) (by simp)⟩
  rw [hp]
  rcases hr.outbox with ho | ⟨html, hd, ho⟩
  · rw [ho]
    exact .inl List.drop_length
  · obtain ⟨e, he, rfl⟩ := Option.map_eq_some_iff.1 (hl.trans hd)
    rw [ho]
    exact .inr ⟨e, he, List.drop_left⟩

/-- An event in which a build is completed. -/
theorem posts_of_supplies {e : Edition} (hs : l.host.Supplies e.html (l.step event).host)
    (hc : l.completed? event = some e) (ht : e.ticket = (l.step event).host.generation)
    (hp : l.posted event = (l.step event).host.outbox.drop l.host.outbox.length) :
    l.Posts event (l.completed? event <|> latest) := by
  rw [hc]
  refine ⟨hs.desired.symm, .inr ⟨e, rfl, ?_⟩, fun e' he => ?_⟩
  · rw [hp, hs.outbox]
    exact List.drop_left
  · rw [hc, Option.some.injEq] at he
    rw [← he]
    exact ht

theorem reposts_of_eq (h : (l.step event).host = l.host) : l.host.Reposts (l.step event).host := by
  rw [h]
  exact ⟨rfl, .inl rfl⟩

theorem step_foreign_host (l : Link) (origin : String) (message : Message) :
    (l.step (.foreign origin message)).host = l.host := by
  simp only [step]
  split <;> rfl

theorem posts (hl : latest.map (·.html) = l.host.desired) (event : Event) :
    l.Posts event (l.completed? event <|> latest) := by
  cases event with
  | beginBuild => exact posts_of_reposts hl (Host.reposts_beginBuild l.host) rfl rfl
  | completeBuild ticket html =>
    by_cases ht : ticket = l.host.generation
    · obtain ⟨hok, hs⟩ := Host.supplies_completeBuild ht html
      exact posts_of_supplies (e := ⟨ticket, html⟩) hs (if_pos hok)
        (ht.trans (Host.generation_completeBuild l.host ticket html).symm) rfl
    · have hno := Host.completeBuild_of_ne ht html
      refine posts_of_reposts hl (reposts_of_eq ?_) ?_ rfl
      · rw [step, hno]
      · simp only [completed?, hno, Bool.false_eq_true, if_false]
  | setContent html =>
    have hok := (Host.supplies_completeBuild (h := l.host.beginBuild.2) rfl html).1
    exact posts_of_supplies (e := ⟨l.host.beginBuild.1, html⟩) (Host.supplies_setContent l.host html)
      (if_pos hok) (Host.generation_setContent l.host html).symm rfl
  | frameLoaded => exact posts_of_reposts hl (Host.reposts_post l.host) rfl rfl
  | hostReceives sender message =>
    exact posts_of_reposts hl (Host.reposts_receive l.host sender message) rfl rfl
  | post => exact ⟨hl, .inl rfl, fun e he => absurd he (by simp [completed?])⟩
  | deliver => exact posts_of_reposts hl (reposts_of_eq (step_deliver_host l)) rfl rfl
  | «foreign» origin message =>
    exact posts_of_reposts hl (reposts_of_eq (step_foreign_host l origin message)) rfl rfl
  | innerLoaded | innerSends _ | collect | replaced _ =>
    exact posts_of_reposts hl (reposts_of_eq rfl) rfl rfl

/-- An event of the host alone puts what it posts behind what is under way. -/
theorem underway_of_prefix (hc : (l.step event).channel = l.channel)
    (hp : l.host.outbox <+: (l.step event).host.outbox) :
    (l.step event).underway =
      l.underway ++ (l.step event).host.outbox.drop l.host.outbox.length := by
  have hsplit := List.prefix_iff_eq_append.1 hp
  rw [underway, underway, hc, List.append_assoc, hsplit]

/-- What the bridge has still to get after an event. -/
theorem underway_step (l : Link) (event : Event) :
    (l.step event).underway = l.remaining event ++ l.posted event := by
  cases event with
  | beginBuild => exact underway_of_prefix rfl (List.prefix_refl _)
  | completeBuild ticket html =>
    by_cases ht : ticket = l.host.generation
    · exact underway_of_prefix rfl (Host.supplies_completeBuild ht html).2.prefix_outbox
    · refine underway_of_prefix rfl ?_
      simp only [step, Host.completeBuild_of_ne ht]
      exact List.prefix_refl _
  | setContent html => exact underway_of_prefix rfl (Host.supplies_setContent l.host html).prefix_outbox
  | frameLoaded => exact underway_of_prefix rfl (Host.reposts_post l.host).prefix_outbox
  | hostReceives sender message =>
    exact underway_of_prefix rfl (Host.reposts_receive l.host sender message).prefix_outbox
  | post => simp [underway, step, Host.takeOutbox, remaining, posted]
  | deliver =>
    rw [posted, step_deliver_host, List.drop_length, List.append_nil, remaining, underway, step_deliver_host]
    · cases hc : l.channel with
      | nil => simp [step, hc]
      | cons message later => simp [step, hc]
    · exact Event.noConfusion
  | «foreign» origin message =>
    refine underway_of_prefix ?_ ?_
    · simp only [step]
      split <;> rfl
    · simp only [step_foreign_host]
      exact List.prefix_refl _
  | innerLoaded | innerSends _ | collect => exact underway_of_prefix rfl (List.prefix_refl _)
  | replaced _ => simp [underway, step, remaining, posted]

theorem generation_le_step (l : Link) (event : Event) :
    l.host.generation ≤ (l.step event).host.generation := by
  cases event with
  | beginBuild => exact Nat.le_succ _
  | completeBuild ticket html => exact Nat.le_of_eq (Host.generation_completeBuild l.host ticket html).symm
  | setContent html =>
    rw [step, Host.generation_setContent]
    exact Nat.le_succ _
  | frameLoaded => exact Nat.le_of_eq (Host.generation_post l.host).symm
  | hostReceives sender message =>
    exact Nat.le_of_eq (Host.generation_receive l.host sender message).symm
  | deliver => exact Nat.le_of_eq (congrArg Host.generation (step_deliver_host l)).symm
  | «foreign» origin message =>
    exact Nat.le_of_eq (congrArg Host.generation (step_foreign_host l origin message)).symm
  | post | innerLoaded | innerSends _ | collect | replaced _ => exact Nat.le_refl _

end Link

/-! ### Ledgers -/

/-- A link, with the editions of its documents. -/
structure Ledger where
  link : Link
  /-- The edition that the host desires: the one that was completed last. -/
  latest : Option Edition := none
  /-- The editions that the host has posted, in order. -/
  posted : List Edition := []
  /-- The editions that the bridge has still to get, the oldest first. -/
  underway : List Edition := []
  /-- The edition that the bridge holds. -/
  held : Option Edition := none

namespace Ledger

/-- The ledger of a new host and a new bridge. -/
def start (window : Nat) (origin : String) : Ledger :=
  { link := .start window origin }

/-- The edition that the host desires after an event. -/
def latestAfter (t : Ledger) (event : Event) : Option Edition :=
  t.link.completed? event <|> t.latest

/-- The editions that the host posts in an event: always the one that it desires. -/
def fresh (t : Ledger) (event : Event) : List Edition :=
  (t.link.posted event).flatMap fun _ => (t.latestAfter event).toList

/-- The editions that the bridge had still to get before an event and has still to get after it. -/
def remaining (t : Ledger) : Event → List Edition
  | .deliver => if t.link.channel.isEmpty then t.underway else t.underway.tail
  | .replaced _ => t.underway.drop t.link.channel.length
  | _ => t.underway

/-- The edition that the bridge holds after an event. -/
def heldAfter (t : Ledger) : Event → Option Edition
  | .deliver => if t.link.channel.isEmpty then t.held else t.underway.head?
  | .replaced _ => none
  | _ => t.held

/-- The ledger after an event. -/
def step (t : Ledger) : LossyEvent → Ledger
  | .event event =>
    { link := t.link.step event
      latest := t.latestAfter event
      posted := t.posted ++ t.fresh event
      underway := t.remaining event ++ t.fresh event
      held := t.heldAfter event }
  | .lost place => { t with
      link := t.link.lossyStep (.lost place)
      underway :=
        if place < t.link.channel.length then t.underway.eraseIdx place else t.underway }

/-- The ledger after a run. -/
def run (t : Ledger) (events : List LossyEvent) : Ledger :=
  events.foldl step t

/-- The editions agree with the documents of the link. -/
structure Faithful (t : Ledger) : Prop where
  proper : t.link.bridge.Proper
  latest : t.latest.map (·.html) = t.link.host.desired
  underway : t.underway.map Edition.message = t.link.underway
  held : t.held.map Edition.document = t.link.bridge.held

/-- Tickets never go down, in the order in which the host posts editions and in which they reach the
bridge, and what the bridge can come to hold from now on does not fall below the floor. -/
structure Ascending (floor : Nat) (t : Ledger) : Prop where
  posted : (t.posted ++ t.latest.toList).Pairwise (·.ticket ≤ ·.ticket)
  bounded : ∀ e ∈ t.posted ++ t.latest.toList, e.ticket ≤ t.link.host.generation
  order : (t.held.toList ++ t.underway).Sublist t.posted
  above : ∀ e ∈ t.held.toList ++ t.underway ++ t.latest.toList, floor ≤ e.ticket
  reached : floor ≤ t.link.host.generation

variable {t : Ledger} {floor : Nat}

theorem link_run (t : Ledger) (events : List LossyEvent) :
    (t.run events).link = t.link.lossyRun events := by
  induction events generalizing t with
  | nil => rfl
  | cons event events ih =>
    refine (ih (t.step event)).trans ?_
    cases event <;> rfl

/-! ### The editions agree with the documents -/

theorem mem_fresh {e : Edition} (he : e ∈ t.fresh event) : e ∈ (t.latestAfter event).toList := by
  obtain ⟨-, -, he⟩ := List.mem_flatMap.1 he
  exact he

theorem fresh_cases (h : t.Faithful) (event : Event) :
    t.fresh event = [] ∧ t.link.posted event = [] ∨
      ∃ e, t.latestAfter event = some e ∧ t.fresh event = [e] ∧
        t.link.posted event = [e.message] := by
  rcases (Link.posts h.latest event).posted with hp | ⟨e, he, hp⟩
  · exact .inl ⟨by rw [fresh, hp]; rfl, hp⟩
  · have hl : t.latestAfter event = some e := he
    exact .inr ⟨e, hl, by rw [fresh, hp, hl]; rfl, hp⟩

theorem map_fresh (h : t.Faithful) (event : Event) :
    (t.fresh event).map Edition.message = t.link.posted event := by
  rcases fresh_cases h event with ⟨hf, hp⟩ | ⟨e, -, hf, hp⟩
  · rw [hf, hp]
    rfl
  · rw [hf, hp]
    rfl

theorem map_remaining (h : t.Faithful) (event : Event) :
    (t.remaining event).map Edition.message = t.link.remaining event := by
  cases event with
  | deliver =>
    simp only [remaining, Link.remaining]
    cases hc : t.link.channel with
    | nil =>
      have hu := h.underway
      rw [Link.underway, hc] at hu
      simpa only [List.isEmpty_nil, if_true, List.tail_nil] using hu
    | cons message later =>
      have hu := h.underway
      rw [Link.underway, hc] at hu
      simp only [List.isEmpty_cons, Bool.false_eq_true, if_false, List.map_tail, hu,
        List.cons_append, List.tail_cons]
  | replaced _ =>
    simp only [remaining, Link.remaining, List.map_drop, h.underway, Link.underway, List.drop_left]
  | _ => exact h.underway

/-- A delivery shows the oldest edition under way. -/
theorem held_deliver (h : t.Faithful) :
    (t.heldAfter .deliver).map Edition.document = (t.link.step .deliver).bridge.held := by
  simp only [heldAfter, Link.step]
  cases hc : t.link.channel with
  | nil => simpa only [List.isEmpty_nil, if_true] using h.held
  | cons message later =>
    have hu := h.underway
    rw [Link.underway, hc] at hu
    obtain ⟨e, es, he, rfl, -⟩ := List.map_eq_cons_iff.1 hu
    simp only [List.isEmpty_cons, Bool.false_eq_true, if_false, he, List.head?_cons]
    rw [Bridge.held_receive]
    rfl

theorem held_step (h : t.Faithful) (event : Event) :
    (t.heldAfter event).map Edition.document = (t.link.step event).bridge.held := by
  cases event with
  | deliver => exact held_deliver h
  | replaced _ => rfl
  | innerLoaded => exact h.held.trans (Bridge.held_innerLoaded h.proper).symm
  | innerSends message => exact h.held.trans (Bridge.held_relay _ _).symm
  | «foreign» origin message =>
    simp only [Link.step]
    split
    · exact h.held
    · next hne =>
      rw [Bridge.receive_of_ne hne]
      exact h.held
  | _ => exact h.held

theorem proper_step (h : t.link.bridge.Proper) (event : Event) :
    (t.link.step event).bridge.Proper := by
  cases event with
  | deliver =>
    simp only [Link.step]
    split
    · exact h
    · exact h.receive _ _
  | «foreign» origin message =>
    simp only [Link.step]
    split
    · exact h
    · exact h.receive _ _
  | innerLoaded => exact h.innerLoaded
  | innerSends message => exact h.relay message
  | collect => exact h.takeOutbox
  | replaced origin => exact Bridge.proper_new origin
  | _ => exact h

/-- A message that is lost takes its edition with it. -/
theorem Faithful.lost (h : t.Faithful) (place : Nat) : (t.step (.lost place)).Faithful := by
  refine ⟨h.proper, h.latest, ?_, h.held⟩
  simp only [step, Link.lossyStep, Link.underway]
  split
  · next hlt =>
    rw [← List.eraseIdx_append_of_lt_length hlt, ← List.eraseIdx_map, h.underway, Link.underway]
  · next hge =>
    rw [List.eraseIdx_of_length_le (Nat.le_of_not_lt hge), h.underway, Link.underway]

theorem Faithful.step (h : t.Faithful) (event : LossyEvent) : (t.step event).Faithful := by
  cases event with
  | lost place => exact h.lost place
  | event event =>
    refine ⟨proper_step h.proper event, (Link.posts h.latest event).desired, ?_, held_step h event⟩
    refine Eq.trans List.map_append ?_
    rw [map_remaining h, map_fresh h]
    exact (Link.underway_step t.link event).symm

theorem faithful_start (window : Nat) (origin : String) : (start window origin).Faithful :=
  ⟨Bridge.proper_new origin, rfl, rfl, rfl⟩

theorem Faithful.run (h : t.Faithful) (events : List LossyEvent) : (t.run events).Faithful := by
  induction events generalizing t with
  | nil => exact h
  | cons event events ih => exact ih (h.step event)

/-! ### The tickets never go down -/

/-- What the bridge holds and has still to get comes from what it held and had still to get. -/
theorem kept_sublist (t : Ledger) (event : Event) :
    ((t.heldAfter event).toList ++ t.remaining event).Sublist (t.held.toList ++ t.underway) := by
  cases event with
  | deliver =>
    simp only [heldAfter, remaining]
    split
    · exact List.Sublist.refl _
    · cases t.underway with
      | nil => exact List.nil_sublist _
      | cons e es => exact List.sublist_append_right _ _
  | replaced _ => exact (List.drop_sublist _ _).trans (List.sublist_append_right _ _)
  | _ => exact List.Sublist.refl _

/-- The latest edition has the highest ticket, and it is the old one or has a new ticket. -/
theorem latest_cases (h : t.Faithful) (event : Event) :
    t.latestAfter event = t.latest ∨
      ∃ e, t.latestAfter event = some e ∧ e.ticket = (t.link.step event).host.generation := by
  cases hc : t.link.completed? event with
  | none => exact .inl (by rw [latestAfter, hc]; rfl)
  | some e =>
    exact .inr ⟨e, by rw [latestAfter, hc]; rfl, (Link.posts h.latest event).completed e hc⟩

/-- Completing a build puts an edition with the highest ticket behind those that were posted. -/
theorem Ascending.latest (ha : t.Ascending floor) (h : t.Faithful) (event : Event) :
    (t.posted ++ (t.latestAfter event).toList).Pairwise (·.ticket ≤ ·.ticket) ∧
      ∀ e ∈ t.posted ++ (t.latestAfter event).toList,
        e.ticket ≤ (t.link.step event).host.generation := by
  have hg := Link.generation_le_step t.link event
  rcases latest_cases h event with hl | ⟨e, hl, ht⟩
  · rw [hl]
    exact ⟨ha.posted, fun e he => Nat.le_trans (ha.bounded e he) hg⟩
  · have hold : ∀ e' ∈ t.posted, e'.ticket ≤ e.ticket := by
      intro e' he'
      rw [ht]
      exact Nat.le_trans (ha.bounded e' (List.mem_append_left _ he')) hg
    rw [hl]
    refine ⟨?_, fun e' he' => ?_⟩
    · refine List.pairwise_append.2 ⟨(List.pairwise_append.1 ha.posted).1, List.pairwise_singleton _ _, ?_⟩
      intro e' he' e'' he''
      rw [List.mem_singleton.1 he'']
      exact hold e' he'
    · rcases List.mem_append.1 he' with he' | he'
      · exact ht ▸ hold e' he'
      · simp only [List.mem_singleton.1 he', ht]
        exact Nat.le_refl _

/-- Posting the latest edition once more keeps the order. -/
theorem pairwise_post {xs fresh : List Edition} {latest : Option Edition}
    (h : (xs ++ latest.toList).Pairwise (·.ticket ≤ ·.ticket))
    (hf : fresh = [] ∨ ∃ e, latest = some e ∧ fresh = [e]) :
    (xs ++ fresh ++ latest.toList).Pairwise (·.ticket ≤ ·.ticket) := by
  rcases hf with rfl | ⟨e, rfl, rfl⟩
  · rw [List.append_nil]
    exact h
  · refine List.pairwise_append.2 ⟨h, List.pairwise_singleton _ _, fun a ha b hb => ?_⟩
    rw [List.mem_singleton.1 hb]
    rcases List.mem_append.1 ha with ha | ha
    · exact (List.pairwise_append.1 h).2.2 a ha e (List.mem_singleton_self e)
    · simp only [List.mem_singleton.1 ha]
      exact Nat.le_refl _

theorem Ascending.event (ha : t.Ascending floor) (h : t.Faithful) (event : Event) :
    (t.step (.event event)).Ascending floor := by
  obtain ⟨hsorted, hbounded⟩ := ha.latest h event
  have hg := Link.generation_le_step t.link event
  have hfresh : t.fresh event = [] ∨ ∃ e, t.latestAfter event = some e ∧ t.fresh event = [e] :=
    (fresh_cases h event).imp And.left fun ⟨e, he, hf, _⟩ => ⟨e, he, hf⟩
  refine ⟨pairwise_post hsorted hfresh, ?_, ?_, ?_, Nat.le_trans ha.reached hg⟩
  · intro e he
    refine hbounded e ?_
    simp only [step, List.mem_append] at he ⊢
    rcases he with (he | he) | he
    · exact .inl he
    · exact .inr (mem_fresh he)
    · exact .inr he
  · simp only [step, ← List.append_assoc]
    exact ((kept_sublist t event).trans ha.order).append_right _
  · have hlatest : ∀ e ∈ (t.latestAfter event).toList, floor ≤ e.ticket := by
      intro e he
      rcases latest_cases h event with hl | ⟨e', hl, ht⟩
      · exact ha.above e (List.mem_append_right _ (hl ▸ he))
      · rw [hl] at he
        rw [List.mem_singleton.1 he, ht]
        exact Nat.le_trans ha.reached hg
    intro e he
    simp only [step, ← List.append_assoc] at he
    rcases List.mem_append.1 he with he | he
    · rcases List.mem_append.1 he with he | he
      · exact ha.above e (List.mem_append_left _ ((kept_sublist t event).subset he))
      · exact hlatest e (mem_fresh he)
    · exact hlatest e he

theorem Ascending.lost (ha : t.Ascending floor) (place : Nat) :
    (t.step (.lost place)).Ascending floor := by
  have hsub : ((t.step (.lost place)).held.toList ++ (t.step (.lost place)).underway).Sublist
      (t.held.toList ++ t.underway) := by
    refine List.Sublist.append_left ?_ _
    simp only [step]
    split
    · exact List.eraseIdx_sublist _ _
    · exact List.Sublist.refl _
  exact ⟨ha.posted, ha.bounded, hsub.trans ha.order,
    fun e he => ha.above e ((hsub.append_right _).subset he), ha.reached⟩

theorem Ascending.run (ha : t.Ascending floor) (h : t.Faithful) (events : List LossyEvent) :
    (t.run events).Ascending floor := by
  induction events generalizing t with
  | nil => exact ha
  | cons event events ih =>
    refine ih ?_ (h.step event)
    cases event with
    | event event => exact ha.event h event
    | lost place => exact ha.lost place

theorem ascending_start (window : Nat) (origin : String) : (start window origin).Ascending 0 :=
  ⟨List.Pairwise.nil, fun _ he => absurd he List.not_mem_nil, List.Sublist.refl _,
    fun _ he => absurd he List.not_mem_nil, Nat.le_refl _⟩

/-- What the bridge holds is a floor for everything that it can come to hold. -/
theorem Ascending.raise (ha : t.Ascending floor) {e : Edition} (he : t.held = some e) :
    t.Ascending e.ticket := by
  have hsub : (e :: (t.underway ++ t.latest.toList)).Sublist (t.posted ++ t.latest.toList) := by
    have ho := ha.order.append_right t.latest.toList
    rwa [he] at ho
  have hle := (List.pairwise_cons.1 (ha.posted.sublist hsub)).1
  refine ⟨ha.posted, ha.bounded, ha.order, fun e' he' => ?_,
    ha.bounded e (hsub.subset List.mem_cons_self)⟩
  rw [he, List.append_assoc] at he'
  rcases List.mem_cons.1 he' with rfl | he'
  · exact Nat.le_refl _
  · exact hle e' he'

/-! ### Where the editions come from -/

/-- Every edition that the host has posted or desires is a build that was completed. -/
theorem mem_completions (t : Ledger) (events : List LossyEvent) (done : List Edition)
    (hdone : ∀ e ∈ t.posted ++ t.latest.toList, e ∈ done) :
    ∀ e ∈ (t.run events).posted ++ (t.run events).latest.toList,
      e ∈ done ++ t.link.completions events := by
  induction events generalizing t done with
  | nil => simpa only [run, Link.completions, List.foldl_nil, List.append_nil] using hdone
  | cons event events ih =>
    cases event with
    | lost place => exact ih (t.step (.lost place)) done hdone
    | event event =>
      have hlatest : ∀ e ∈ (t.latestAfter event).toList,
          e ∈ done ++ (t.link.completed? event).toList := by
        intro e he
        cases hc : t.link.completed? event with
        | none =>
          rw [latestAfter, hc] at he
          exact List.mem_append_left _ (hdone e (List.mem_append_right _ he))
        | some e' =>
          rw [latestAfter, hc] at he
          exact List.mem_append_right _ he
      have hnext := ih (t.step (.event event)) (done ++ (t.link.completed? event).toList) ?_
      · rw [List.append_assoc] at hnext
        exact hnext
      · intro e he
        simp only [step, List.mem_append] at he
        rcases he with (he | he) | he
        · exact List.mem_append_left _ (hdone e (List.mem_append_left _ he))
        · exact hlatest e (mem_fresh he)
        · exact hlatest e he

/-- The editions that are posted are those of the messages that are posted. -/
theorem map_posted_run (h : t.Faithful) (events : List LossyEvent) :
    (t.run events).posted.map Edition.message =
      t.posted.map Edition.message ++ t.link.postings events := by
  induction events generalizing t with
  | nil => exact (List.append_nil _).symm
  | cons event events ih =>
    refine (ih (h.step event)).trans ?_
    cases event with
    | lost place => rfl
    | event event =>
      simp only [step, List.map_append, map_fresh h, Link.postings, List.append_assoc]

end Ledger

/-- **Older builds never come back.** In every run that may lose messages but not reorder them, the
host posts editions of builds that were completed, and their tickets never go down. The bridge holds
the document of such an edition, and whatever it holds later has no lower ticket. A build whose ticket
is not the latest is discarded, and the host stays as it is. -/
theorem run_never_regresses (window : Nat) (origin : String) (earlier later : List LossyEvent) :
    let start := Ledger.start window origin
    let t := start.run earlier
    (t.link = start.link.lossyRun earlier ∧
      t.posted.map Edition.message = start.link.postings earlier ∧
      t.latest.map (·.html) = t.link.host.desired ∧
      t.held.map Edition.document = t.link.bridge.held ∧
      ∀ e ∈ t.posted, e ∈ start.link.completions earlier) ∧
    (t.posted.map (·.ticket)).Pairwise (· ≤ ·) ∧
    (∀ e e', t.held = some e → (t.run later).held = some e' → e.ticket ≤ e'.ticket) ∧
    ∀ (h : Host) (ticket : Nat) (html : String), ticket ≠ h.generation →
      h.completeBuild ticket html = (false, h) := by
  intro start t
  have hstart := Ledger.faithful_start window origin
  have hfaithful : t.Faithful := hstart.run earlier
  have hascending : t.Ascending 0 :=
    (Ledger.ascending_start window origin).run hstart earlier
  refine ⟨⟨Ledger.link_run start earlier, Ledger.map_posted_run hstart earlier,
    hfaithful.latest, hfaithful.held, ?_⟩, ?_, ?_, ?_⟩
  · intro e he
    exact Ledger.mem_completions start earlier []
      (fun _ hnone => absurd hnone List.not_mem_nil) e (List.mem_append_left _ he)
  · exact List.pairwise_map.2 (List.pairwise_append.1 hascending.posted).1
  · intro e e' he he'
    have hlater := (hascending.raise he).run hfaithful later
    refine hlater.above e' (List.mem_append_left _ (List.mem_append_left _ ?_))
    rw [he']
    exact List.mem_singleton_self e'
  · exact fun h ticket html ht => Host.completeBuild_of_ne ht html

/-- The first document is followed by the third one, as the second one is lost. By then the second
build comes too late. -/
theorem run_never_regresses_lossy :
    let start := Ledger.start 7 "https://a.test"
    let earlier : List LossyEvent :=
      [.event (.setContent "<p>a</p>"), .event .post, .event .deliver]
    let later : List LossyEvent :=
      [.event (.setContent "<p>b</p>"), .event (.setContent "<p>c</p>"), .event .post, .lost 0,
        .event .deliver]
    let t := start.run earlier
    t.held = some ⟨1, "<p>a</p>"⟩ ∧ (t.run later).held = some ⟨3, "<p>c</p>"⟩ ∧ 1 ≤ 3 ∧
      2 ≠ (t.run later).link.host.generation ∧
      (t.run later).link.host.completeBuild 2 "<p>b</p>" = (false, (t.run later).link.host) := by
  intro start earlier later t
  obtain ⟨-, -, hheld, hdiscards⟩ := run_never_regresses 7 "https://a.test" earlier later
  have hfirst : t.held = some ⟨1, "<p>a</p>"⟩ := rfl
  have hsecond : (t.run later).held = some ⟨3, "<p>c</p>"⟩ := by decide +kernel
  have hnumber : (t.run later).link.host.generation = 3 := rfl
  have hlate : 2 ≠ (t.run later).link.host.generation := by
    rw [hnumber]
    decide
  exact ⟨hfirst, hsecond, hheld _ _ hfirst hsecond, hlate, hdiscards _ _ _ hlate⟩

end LivePreview.Frame
