import Mathlib.Data.List.Infix
import LivePreview.Proofs.Frame.Edition
/-!
# LivePreview.Proofs.Frame.Acknowledgement

**Whom an acknowledgement is credited to.** A `Duplex` is a host and a bridge that are connected both
ways, and to nothing else; nothing is lost or reordered in either direction. The bridge answers the
documents one by one, so the acknowledgement that the host hears as the n-th answers the n-th document
that the bridge has received.

Messages carry no ticket, and the host credits an acknowledgement to the build that is the latest
when it comes. This is the build of the answered document or a later one, never an earlier one. A
build that is begun while an answer is under way is credited with it, and counts as accepted before
it is complete. Acceptance says what it should as long as nothing of an older build is under way or
unanswered.
-/

namespace LivePreview.Frame

/-! ### Counting acknowledgements -/

/-- Is the message an acknowledgement? -/
def Message.acknowledges : Message → Bool
  | accepted => true
  | _ => false

/-- How many of the messages are acknowledgements. -/
def acknowledgements (messages : List Message) : Nat :=
  messages.countP Message.acknowledges

@[simp] theorem acknowledgements_append (before after : List Message) :
    acknowledgements (before ++ after) = acknowledgements before + acknowledgements after :=
  List.countP_append

namespace Bridge

/-- The bridge answers a document once. -/
theorem acknowledgements_take (b : Bridge) (html : String) :
    acknowledgements (b.receive b.origin (.setHtml html)).2.outbox =
      acknowledgements b.outbox + 1 := by
  have ho : (b.receive b.origin (.setHtml html)).2.outbox = b.outbox ++ [Message.accepted] := by
    cases hl : b.listening <;> simp [receive, take, hl]
  rw [ho, acknowledgements_append]
  rfl

theorem acknowledgements_innerLoaded (b : Bridge) :
    acknowledgements b.innerLoaded.outbox = acknowledgements b.outbox := by
  cases hl : b.listening
  · simp [innerLoaded, hl]
  · simp [innerLoaded, hl]
    rfl

theorem acknowledgements_relay (b : Bridge) (message : Message) :
    acknowledgements (b.relay message).outbox = acknowledgements b.outbox := by
  cases message with
  | console level args =>
    simp only [relay, acknowledgements_append]
    rfl
  | _ => rfl

end Bridge

namespace Host

theorem acceptedBuild_post (h : Host) : h.post.acceptedBuild = h.acceptedBuild := by
  obtain ⟨_, hpost⟩ := exists_post_eq h
  rw [hpost]

theorem acceptedBuild_completeBuild (h : Host) (ticket : Nat) (html : String) :
    (h.completeBuild ticket html).2.acceptedBuild = h.acceptedBuild := by
  obtain ⟨_, _, hcomplete⟩ := exists_completeBuild_eq h ticket html
  rw [hcomplete]

/-- Only an acknowledgement credits a build, and it credits the latest one. -/
theorem acceptedBuild_receive (h : Host) (message : Message) :
    (h.receive h.window message).2.acceptedBuild =
      if message.acknowledges then some h.generation else h.acceptedBuild := by
  cases message with
  | loaded =>
    simp only [receive, if_true, noteLoaded, Message.acknowledges, Bool.false_eq_true, if_false]
    split
    · exact acceptedBuild_post _
    · rfl
  | _ => simp [receive, Message.acknowledges]

end Host

/-! ### Hosts and bridges that are connected both ways -/

/-- A host and a bridge that are connected both ways. -/
structure Duplex where
  ledger : Ledger
  /-- The messages under way to the host, the oldest first. -/
  replies : List Message := []
  /-- The editions that the bridge has received, in order. -/
  received : List Edition := []
  /-- How many acknowledgements the host has heard. -/
  heard : Nat := 0

/-- What can happen to a host and a bridge that are connected to nothing else. -/
inductive Exchange
  | beginBuild
  | completeBuild (ticket : Nat) (html : String)
  | setContent (html : String)
  | frameLoaded
  /-- The host's messages are put under way. -/
  | post
  /-- The oldest message under way to the bridge comes to it. -/
  | deliver
  | innerLoaded
  | innerSends (message : Message)
  /-- The bridge's messages are put under way. -/
  | answer
  /-- The oldest message under way to the host comes to it. -/
  | hear

namespace Duplex

/-- A new host and a new bridge. -/
def start (window : Nat) (origin : String) : Duplex :=
  { ledger := .start window origin }

/-- An event of the link. -/
def onLink (d : Duplex) (event : Event) : Duplex :=
  { d with ledger := d.ledger.step (.event event) }

/-- The edition that the next delivery brings. -/
def arriving (d : Duplex) : List Edition :=
  if d.ledger.link.channel.isEmpty then [] else d.ledger.underway.head?.toList

/-- The two after an event. -/
def step (d : Duplex) : Exchange → Duplex
  | .beginBuild => d.onLink .beginBuild
  | .completeBuild ticket html => d.onLink (.completeBuild ticket html)
  | .setContent html => d.onLink (.setContent html)
  | .frameLoaded => d.onLink .frameLoaded
  | .post => d.onLink .post
  | .deliver => { d.onLink .deliver with received := d.received ++ d.arriving }
  | .innerLoaded => d.onLink .innerLoaded
  | .innerSends message => d.onLink (.innerSends message)
  | .answer =>
    { d.onLink .collect with replies := d.replies ++ d.ledger.link.bridge.takeOutbox.1 }
  | .hear =>
    match d.replies with
    | [] => d
    | message :: later =>
      { d.onLink (.hostReceives d.ledger.link.host.window message) with
        replies := later
        heard := d.heard + acknowledgements [message] }

/-- The two after a run. -/
def run (d : Duplex) (events : List Exchange) : Duplex :=
  events.foldl step d

/-- What happens on the link in an event. -/
def onLink? (d : Duplex) : Exchange → Option Event
  | .beginBuild => some .beginBuild
  | .completeBuild ticket html => some (.completeBuild ticket html)
  | .setContent html => some (.setContent html)
  | .frameLoaded => some .frameLoaded
  | .post => some .post
  | .deliver => some .deliver
  | .innerLoaded => some .innerLoaded
  | .innerSends message => some (.innerSends message)
  | .answer => some .collect
  | .hear => d.replies.head?.map (.hostReceives d.ledger.link.host.window)

/-- What happens on the link in the course of a run. -/
def trace (d : Duplex) : List Exchange → List LossyEvent
  | [] => []
  | event :: events => (d.onLink? event).toList.map .event ++ (d.step event).trace events

/-- The builds that are completed successfully in the course of a run. -/
def completions (d : Duplex) (events : List Exchange) : List Edition :=
  d.ledger.link.completions (d.trace events)

/-- Whatever is under way to the bridge, or has no answer that was heard, belongs to the latest
build. -/
def Current (d : Duplex) : Prop :=
  ∀ e ∈ d.ledger.underway ++ d.received.drop d.heard, e.ticket = d.ledger.link.host.generation

variable {d : Duplex}

theorem ledger_step (d : Duplex) (event : Exchange) :
    (d.step event).ledger = d.ledger.run ((d.onLink? event).toList.map .event) := by
  cases event with
  | hear =>
    simp only [step, onLink?]
    cases d.replies <;> rfl
  | _ => rfl

theorem ledger_run (d : Duplex) (events : List Exchange) :
    (d.run events).ledger = d.ledger.run (d.trace events) := by
  induction events generalizing d with
  | nil => rfl
  | cons event events ih =>
    refine (ih (d.step event)).trans ?_
    rw [ledger_step, trace]
    exact List.foldl_append.symm

/-- What was received stays received. -/
theorem received_step (d : Duplex) (event : Exchange) : d.received <+: (d.step event).received := by
  cases event with
  | deliver => exact List.prefix_append _ _
  | hear =>
    simp only [step]
    cases d.replies <;> exact List.prefix_refl _
  | _ => exact List.prefix_refl _

theorem generation_step (d : Duplex) (event : Exchange) :
    d.ledger.link.host.generation ≤ (d.step event).ledger.link.host.generation := by
  rw [ledger_step]
  cases d.onLink? event with
  | none => exact Nat.le_refl _
  | some event => exact Link.generation_le_step d.ledger.link event

/-! ### Every document has one acknowledgement -/

/-- What holds in every run. -/
structure Accountable (d : Duplex) : Prop where
  faithful : d.ledger.Faithful
  ascending : d.ledger.Ascending 0
  /-- Every document that was received has one acknowledgement, heard or not. -/
  counted : d.heard + acknowledgements d.replies +
    acknowledgements d.ledger.link.bridge.outbox = d.received.length
  received : ∀ e ∈ d.received, e ∈ d.ledger.posted

theorem accountable_start (window : Nat) (origin : String) : (start window origin).Accountable where
  faithful := Ledger.faithful_start window origin
  ascending := Ledger.ascending_start window origin
  counted := rfl
  received := fun _ he => absurd he List.not_mem_nil

namespace Accountable

theorem ticket_le (h : d.Accountable) {e : Edition} (he : e ∈ d.received) :
    e.ticket ≤ d.ledger.link.host.generation :=
  h.ascending.bounded e (List.mem_append_left _ (h.received e he))

theorem posted_step (h : d.Accountable) (event : Event) :
    ∀ e ∈ d.received, e ∈ (d.onLink event).ledger.posted :=
  fun e he => List.mem_append_left _ (h.received e he)

/-- An event in which no document is answered. -/
theorem onLink (h : d.Accountable) (event : Event)
    (hb : acknowledgements (d.ledger.link.step event).bridge.outbox =
      acknowledgements d.ledger.link.bridge.outbox) :
    (d.onLink event).Accountable where
  faithful := h.faithful.step (.event event)
  ascending := h.ascending.event h.faithful event
  counted := (congrArg (d.heard + acknowledgements d.replies + ·) hb).trans h.counted
  received := h.posted_step event

/-- A document that is delivered is received and answered. -/
theorem deliver (h : d.Accountable) : (d.step .deliver).Accountable := by
  cases hc : d.ledger.link.channel with
  | nil =>
    have hstep : d.ledger.link.step .deliver = d.ledger.link := by simp only [Link.step, hc]
    have harriving : d.arriving = [] := by simp only [arriving, hc, List.isEmpty_nil, if_true]
    rw [step, harriving, List.append_nil]
    exact h.onLink .deliver (by rw [hstep])
  | cons message later =>
    have hu := h.faithful.underway
    rw [Link.underway, hc] at hu
    obtain ⟨e, es, hes, rfl, -⟩ := List.map_eq_cons_iff.1 hu
    have harriving : d.arriving = [e] := by
      simp only [arriving, hc, hes, List.isEmpty_cons, Bool.false_eq_true, if_false, List.head?_cons]
      rfl
    have hbridge : (d.ledger.link.step .deliver).bridge =
        (d.ledger.link.bridge.receive d.ledger.link.bridge.origin e.message).2 := by
      simp only [Link.step, hc]
    have hanswer : acknowledgements (d.ledger.link.step .deliver).bridge.outbox =
        acknowledgements d.ledger.link.bridge.outbox + 1 := by
      rw [hbridge]
      exact d.ledger.link.bridge.acknowledgements_take e.html
    have hposted : e ∈ d.ledger.posted :=
      h.ascending.order.subset (List.mem_append_right _ (hes ▸ List.mem_cons_self))
    refine ⟨h.faithful.step (.event .deliver), h.ascending.event h.faithful .deliver, ?_, ?_⟩
    · refine (congrArg (d.heard + acknowledgements d.replies + ·) hanswer).trans ?_
      have hcounted := h.counted
      simp only [step, harriving, List.length_append, List.length_singleton]
      omega
    · intro e' he'
      simp only [step, harriving] at he'
      rcases List.mem_append.1 he' with he' | he'
      · exact h.posted_step .deliver e' he'
      · rw [List.mem_singleton.1 he']
        exact List.mem_append_left _ hposted

/-- The acknowledgements go over from the bridge to the channel. -/
theorem answer (h : d.Accountable) : (d.step .answer).Accountable := by
  refine ⟨h.faithful.step (.event .collect), h.ascending.event h.faithful .collect, ?_,
    h.posted_step .collect⟩
  have hmoved := acknowledgements_append d.replies d.ledger.link.bridge.outbox
  refine Eq.trans ?_ h.counted
  refine (congrArg (d.heard + · + 0) hmoved).trans ?_
  rw [Nat.add_zero, Nat.add_assoc]

/-- An acknowledgement that is heard is taken off the channel. -/
theorem hear (h : d.Accountable) : (d.step .hear).Accountable := by
  cases hr : d.replies with
  | nil => simpa only [step, hr] using h
  | cons message later =>
    have hcounted := h.counted
    rw [hr, ← List.singleton_append, acknowledgements_append, ← Nat.add_assoc] at hcounted
    let event : Event := .hostReceives d.ledger.link.host.window message
    simp only [step, hr]
    exact ⟨h.faithful.step (.event event), h.ascending.event h.faithful event, hcounted,
      h.posted_step event⟩

theorem step (h : d.Accountable) (event : Exchange) : (d.step event).Accountable := by
  cases event with
  | deliver => exact h.deliver
  | innerLoaded => exact h.onLink _ (Bridge.acknowledgements_innerLoaded _)
  | innerSends message => exact h.onLink _ (Bridge.acknowledgements_relay _ message)
  | answer => exact h.answer
  | hear => exact h.hear
  | _ => exact h.onLink _ rfl

theorem run (h : d.Accountable) (events : List Exchange) : (d.run events).Accountable := by
  induction events generalizing d with
  | nil => exact h
  | cons event events ih => exact ih (h.step event)

/-! ### What is credited -/

/-- Either no acknowledgement is heard, or the latest build is credited with the one that answers the
first document without an answer that was heard. -/
theorem credit_step (h : d.Accountable) (event : Exchange) :
    ((d.step event).ledger.link.host.acceptedBuild = d.ledger.link.host.acceptedBuild ∧
        (d.step event).heard = d.heard) ∨
      (d.step event).ledger.link.host.acceptedBuild = some d.ledger.link.host.generation ∧
        (d.step event).heard = d.heard + 1 ∧ d.heard < d.received.length := by
  cases event with
  | completeBuild ticket html => exact .inl ⟨Host.acceptedBuild_completeBuild _ ticket html, rfl⟩
  | setContent html => exact .inl ⟨Host.acceptedBuild_completeBuild _ _ html, rfl⟩
  | frameLoaded => exact .inl ⟨Host.acceptedBuild_post _, rfl⟩
  | deliver =>
    exact .inl ⟨congrArg Host.acceptedBuild (Link.step_deliver_host d.ledger.link), rfl⟩
  | hear =>
    cases hr : d.replies with
    | nil =>
      have hstep : d.step .hear = d := by simp only [Duplex.step, hr]
      rw [hstep]
      exact .inl ⟨rfl, rfl⟩
    | cons message later =>
      have hcredit := Host.acceptedBuild_receive d.ledger.link.host message
      have hcounted := h.counted
      rw [hr, ← List.singleton_append, acknowledgements_append] at hcounted
      simp only [Duplex.step, hr]
      cases hack : message.acknowledges with
      | false =>
        have hzero : acknowledgements [message] = 0 := by
          simp only [acknowledgements, List.countP_singleton, hack, Bool.false_eq_true, if_false]
        rw [hack, if_neg Bool.false_ne_true] at hcredit
        exact .inl ⟨hcredit, by rw [hzero, Nat.add_zero]⟩
      | true =>
        have hone : acknowledgements [message] = 1 := by
          simp only [acknowledgements, List.countP_singleton, hack, if_true]
        rw [hack, if_pos rfl] at hcredit
        exact .inr ⟨hcredit, by rw [hone], by omega⟩
  | _ => exact .inl ⟨rfl, rfl⟩

end Accountable

/-- The build that is credited is that of the document answered last, or a later one. -/
def Credited (d : Duplex) : Prop :=
  ∀ g, d.ledger.link.host.acceptedBuild = some g → g ≤ d.ledger.link.host.generation ∧
    ∃ n e, d.heard = n + 1 ∧ d.received[n]? = some e ∧ e.ticket ≤ g

theorem Credited.step (hc : d.Credited) (h : d.Accountable) (event : Exchange) :
    (d.step event).Credited := by
  intro g hg
  have hgeneration := d.generation_step event
  obtain ⟨new, hnew⟩ := d.received_step event
  have hprefix : ∀ (n : Nat) (e : Edition), d.received[n]? = some e → (d.step event).received[n]? = some e := by
    intro n e he
    rw [← hnew]
    exact (List.getElem?_append_left (List.getElem?_eq_some_iff.1 he).1).trans he
  rcases h.credit_step event with ⟨hsame, hheard⟩ | ⟨hcredit, hheard, hlt⟩
  · obtain ⟨hle, n, e, hn, he, ht⟩ := hc g (hsame.symm.trans hg)
    exact ⟨Nat.le_trans hle hgeneration, n, e, hheard.trans hn, hprefix n e he, ht⟩
  · rw [hcredit, Option.some.injEq] at hg
    subst hg
    exact ⟨hgeneration, d.heard, _, hheard, hprefix _ _ (List.getElem?_eq_getElem hlt),
      h.ticket_le (List.getElem_mem hlt)⟩

theorem Credited.run (hc : d.Credited) (h : d.Accountable) (events : List Exchange) :
    (d.run events).Credited := by
  induction events generalizing d with
  | nil => exact hc
  | cons event events ih => exact ih (hc.step h event) (h.step event)

/-- The bridge has received a document of the build that is credited. -/
def Answered (d : Duplex) : Prop :=
  ∀ g, d.ledger.link.host.acceptedBuild = some g → ∃ e ∈ d.received, e.ticket = g

/-- If whatever has no answer belongs to the latest build, the latest build is credited rightly. -/
theorem Answered.step (ha : d.Answered) (h : d.Accountable) (hcurrent : d.Current)
    (event : Exchange) : (d.step event).Answered := by
  intro g hg
  rcases h.credit_step event with ⟨hsame, -⟩ | ⟨hnew, -, hlt⟩
  · obtain ⟨e, he, ht⟩ := ha g (hsame.symm.trans hg)
    exact ⟨e, (d.received_step event).subset he, ht⟩
  · rw [hnew, Option.some.injEq] at hg
    subst hg
    refine ⟨d.received[d.heard], (d.received_step event).subset (List.getElem_mem hlt), ?_⟩
    refine hcurrent _ (List.mem_append_right _ ?_)
    rw [List.drop_eq_getElem_cons hlt]
    exact List.mem_cons_self

theorem Answered.run (ha : d.Answered) (h : d.Accountable) (events : List Exchange)
    (hcurrent : ∀ before, before <+: events → (d.run before).Current) : (d.run events).Answered := by
  induction events generalizing d with
  | nil => exact ha
  | cons event events ih =>
    refine ih (ha.step h (hcurrent [] (List.nil_prefix)) event) (h.step event) ?_
    intro before hb
    exact hcurrent (event :: before) (List.cons_prefix_cons.2 ⟨rfl, hb⟩)

end Duplex

/-- **Acknowledgements are credited forwards.** In every run, the host has credited the last
acknowledgement that it has heard to the build of the document that it answers or to a later one; the
bridge has received that document, and its build was completed. If in every state of the run all that
is under way or unanswered belongs to the latest build, then the latest build counts as accepted only
when it was completed and the bridge has received a document of it. -/
theorem run_credits_forwards (window : Nat) (origin : String) (events : List Exchange) :
    let start := Duplex.start window origin
    let d := start.run events
    let host := d.ledger.link.host
    (∀ g, host.acceptedBuild = some g → g ≤ host.generation ∧
      ∃ n e, d.heard = n + 1 ∧ d.received[n]? = some e ∧ e ∈ start.completions events ∧
        e.ticket ≤ g) ∧
    ((∀ before, before <+: events → (start.run before).Current) → host.isAccepted = true →
      ∃ e ∈ d.received, e ∈ start.completions events ∧ e.ticket = host.generation) := by
  intro start d host
  have hstart := Duplex.accountable_start window origin
  have h : d.Accountable := hstart.run events
  have hnone : ∀ g, ¬ start.ledger.link.host.acceptedBuild = some g := fun _ hg => nomatch hg
  have hbuilds : ∀ e ∈ d.received, e ∈ start.completions events := by
    intro e he
    have hposted := h.received e he
    rw [Duplex.ledger_run] at hposted
    exact Ledger.mem_completions start.ledger (start.trace events) []
      (fun _ hf => absurd hf List.not_mem_nil) e (List.mem_append_left _ hposted)
  constructor
  · intro g hg
    have hcredited : d.Credited := Duplex.Credited.run (fun g hg => absurd hg (hnone g)) hstart events
    obtain ⟨hle, n, e, hn, he, ht⟩ := hcredited g hg
    exact ⟨hle, n, e, hn, he, hbuilds e (List.mem_of_getElem? he), ht⟩
  · intro hcurrent haccepted
    have hanswered : d.Answered :=
      Duplex.Answered.run (fun g hg => absurd hg (hnone g)) hstart events hcurrent
    obtain ⟨hbuild, -⟩ := Bool.and_eq_true_iff.1 haccepted
    obtain ⟨e, he, ht⟩ := hanswered host.generation (of_decide_eq_true hbuild)
    exact ⟨e, he, hbuilds e he, ht⟩

/-- An answered document, with the host hearing the answer while its build is the latest. -/
theorem run_credits_forwards_answered :
    let events : List Exchange := [.setContent "<p>a</p>", .post, .deliver, .answer, .hear]
    let start := Duplex.start 7 "https://a.test"
    let d := start.run events
    (∀ before, before <+: events → (start.run before).Current) ∧
      d.ledger.link.host.isAccepted = true ∧
      ∃ e ∈ d.received, e ∈ start.completions events ∧ e.ticket = d.ledger.link.host.generation := by
  intro events start d
  have hcurrent : ∀ before, before <+: events → (start.run before).Current := by
    intro before hb
    have hinits := List.mem_inits _ _ |>.2 hb
    simp only [events, List.inits, List.map_cons, List.map_nil, List.mem_cons, List.not_mem_nil,
      or_false] at hinits
    rcases hinits with rfl | rfl | rfl | rfl | rfl | rfl <;> (unfold Duplex.Current; decide +kernel)
  have haccepted : d.ledger.link.host.isAccepted = true := by decide +kernel
  exact ⟨hcurrent, haccepted, (run_credits_forwards 7 "https://a.test" events).2 hcurrent haccepted⟩

/-- A build that is begun while the answer to an older document is under way counts as accepted
before it is complete. -/
theorem accepted_before_completion :
    let events : List Exchange :=
      [.beginBuild, .completeBuild 1 "<p>a</p>", .post, .deliver, .answer, .beginBuild, .hear]
    let start := Duplex.start 7 "https://a.test"
    let d := start.run events
    d.ledger.link.host.isAccepted = true ∧ d.ledger.link.host.generation = 2 ∧
      start.completions events = [⟨1, "<p>a</p>"⟩] ∧ d.received = [⟨1, "<p>a</p>"⟩] := by
  decide +kernel

end LivePreview.Frame
