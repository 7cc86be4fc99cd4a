import LivePreview.Frame.Bridge
import LivePreview.Frame.Host
/-!
# LivePreview.Proofs.Frame.Link

A **link** is a host, a bridge and the messages under way from the one to the other. Its events are
everything that can happen to either side, in any order; a run is a list of events.

Design points:

* The channel is a queue: the host's messages join it at the end, and the bridge gets the oldest
  one, with its own origin. Messages of any other origin may reach the bridge at any time.
* A document counts as supplied when a build is completed with it and the host takes it.
* When the bridge is replaced, it starts anew and what was under way is lost; the host hears of it
  when the frame loads (`loadedSince`).

Each operation has one lemma that says what it does to the document that is held or desired and to
the messages that are posted; nothing behind this module unfolds an operation.
-/

namespace LivePreview.Frame

/-! ### What the operations do -/

/-- The document that is held after a message, where `held` was held before. -/
def Message.shown (held : Option String) : Message → Option String
  | setHtml html => some (Embed.prepare html)
  | _ => held

namespace Bridge

/-- The document that the bridge holds: the one in the inner frame, or the one that is kept until
the inner frame is ready. -/
def held (b : Bridge) : Option String :=
  if b.listening then b.inner else b.pending

/-- Before the inner frame is ready nothing is shown, and from then on nothing is kept. -/
structure Proper (b : Bridge) : Prop where
  early : b.listening = false → b.inner = none
  late : b.listening = true → b.pending = none

variable {b : Bridge} {origin : String}

/-- A message of the bridge's own origin is shown. -/
theorem held_receive (b : Bridge) (message : Message) :
    (b.receive b.origin message).2.held = message.shown b.held := by
  cases message <;> cases hl : b.listening <;>
    simp [receive, take, held, Message.shown, hl]

/-- A message of another origin changes nothing. -/
theorem receive_of_ne (h : origin ≠ b.origin) (message : Message) :
    (b.receive origin message).2 = b := by
  simp [receive, h]

theorem Proper.receive (h : b.Proper) (origin : String) (message : Message) :
    (b.receive origin message).2.Proper := by
  by_cases ho : origin = b.origin
  · cases message <;> cases hl : b.listening <;>
      exact ⟨by simp [Bridge.receive, take, ho, hl, h.early], by simp [Bridge.receive, take, ho, hl, h.late]⟩
  · rw [receive_of_ne ho]
    exact h

/-- The first load of the inner frame moves the document, and no load changes it. -/
theorem held_innerLoaded (h : b.Proper) : b.innerLoaded.held = b.held := by
  cases hl : b.listening <;> simp [innerLoaded, held, hl, h.early]

theorem Proper.innerLoaded (h : b.Proper) : b.innerLoaded.Proper := by
  cases hl : b.listening <;>
    exact ⟨by simp [Bridge.innerLoaded, hl], by simp [Bridge.innerLoaded, hl, h.late]⟩

@[simp] theorem held_relay (b : Bridge) (message : Message) : (b.relay message).held = b.held := by
  cases message <;> rfl

theorem Proper.relay (h : b.Proper) (message : Message) : (b.relay message).Proper := by
  cases message <;> exact ⟨h.early, h.late⟩

@[simp] theorem held_takeOutbox (b : Bridge) : b.takeOutbox.2.held = b.held := rfl

theorem Proper.takeOutbox (h : b.Proper) : b.takeOutbox.2.Proper :=
  ⟨h.early, h.late⟩

theorem proper_new (origin : String) : Proper { origin } :=
  ⟨fun _ => rfl, fun _ => rfl⟩

@[simp] theorem held_new (origin : String) : held { origin } = none := rfl

end Bridge

namespace Host

/-- The second host is the first one after an operation that desires what was desired before, and
posts it once at most. -/
structure Reposts (h h' : Host) : Prop where
  desired : h'.desired = h.desired
  outbox : h'.outbox = h.outbox ∨
    ∃ html, h.desired = some html ∧ h'.outbox = h.outbox ++ [Message.setHtml html]

/-- The second host is the first one after an operation that desires a new document and posts it. -/
structure Supplies (h : Host) (html : String) (h' : Host) : Prop where
  desired : h'.desired = some html
  outbox : h'.outbox = h.outbox ++ [Message.setHtml html]

variable {h : Host} {html : String} {ticket : Nat}

theorem reposts_beginBuild (h : Host) : h.Reposts h.beginBuild.2 :=
  ⟨rfl, .inl rfl⟩

theorem post_of_some (hd : h.desired = some html) :
    h.post = { h with outbox := h.outbox ++ [Message.setHtml html] } := by
  simp [post, hd]

theorem post_of_none (hd : h.desired = none) : h.post = h := by
  simp [post, hd]

/-- Posting changes nothing but the outbox. -/
theorem exists_post_eq (h : Host) : ∃ outbox, h.post = { h with outbox } := by
  unfold post
  split
  · exact ⟨_, rfl⟩
  · exact ⟨h.outbox, rfl⟩

theorem reposts_post (h : Host) : h.Reposts h.post := by
  cases hd : h.desired with
  | none =>
    rw [post_of_none hd]
    exact ⟨rfl, .inl rfl⟩
  | some html =>
    rw [post_of_some hd]
    exact ⟨rfl, .inr ⟨html, hd, rfl⟩⟩

/-- The build of the latest ticket supplies its document. -/
theorem supplies_completeBuild (ht : ticket = h.generation) (html : String) :
    (h.completeBuild ticket html).1 = true ∧ h.Supplies html (h.completeBuild ticket html).2 := by
  rw [completeBuild, if_pos ht]
  exact ⟨rfl, rfl, rfl⟩

/-- Any other build is discarded. -/
theorem completeBuild_of_ne (ht : ticket ≠ h.generation) (html : String) :
    h.completeBuild ticket html = (false, h) := by
  rw [completeBuild, if_neg ht]

/-- Completing a build changes nothing but the document and the outbox. -/
theorem exists_completeBuild_eq (h : Host) (ticket : Nat) (html : String) :
    ∃ desired outbox, (h.completeBuild ticket html).2 = { h with desired, outbox } := by
  by_cases ht : ticket = h.generation
  · obtain ⟨outbox, hpost⟩ := exists_post_eq { h with desired := some html }
    exact ⟨some html, outbox, by rw [completeBuild, if_pos ht, hpost]⟩
  · exact ⟨h.desired, h.outbox, by rw [completeBuild_of_ne ht]⟩

/-- A message changes neither the window nor the document nor the number of the latest build. -/
theorem exists_receive_eq (h : Host) (sender : Nat) (message : Message) :
    ∃ acceptedBuild loadedBuild resentBuild console outbox, (h.receive sender message).2 =
      { h with acceptedBuild, loadedBuild, resentBuild, console, outbox } := by
  by_cases hs : sender = h.window
  · cases message with
    | loaded =>
      simp only [receive, if_pos hs, noteLoaded]
      split
      · obtain ⟨outbox, hpost⟩ := exists_post_eq
          { h with loadedBuild := some h.generation, resentBuild := some h.generation }
        exact ⟨_, _, _, _, outbox, hpost⟩
      · exact ⟨_, _, _, _, h.outbox, rfl⟩
    | _ =>
      simp only [receive, if_pos hs]
      exact ⟨_, _, _, _, h.outbox, rfl⟩
  · simp only [receive, if_neg hs]
    exact ⟨_, _, _, _, h.outbox, rfl⟩

theorem supplies_setContent (h : Host) (html : String) : h.Supplies html (h.setContent html).2 := by
  obtain ⟨-, hs⟩ := supplies_completeBuild (h := h.beginBuild.2) rfl html
  exact ⟨hs.desired, hs.outbox⟩

theorem reposts_receive (h : Host) (sender : Nat) (message : Message) :
    h.Reposts (h.receive sender message).2 := by
  by_cases hs : sender = h.window
  · cases message with
    | loaded =>
      -- Only this message may post the document again.
      simp only [receive, if_pos hs, noteLoaded]
      split
      · exact ⟨(reposts_post _).desired, (reposts_post _).outbox⟩
      · exact ⟨rfl, .inl rfl⟩
    | _ =>
      simp only [receive, if_pos hs]
      exact ⟨rfl, .inl rfl⟩
  · simp only [receive, if_neg hs]
    exact ⟨rfl, .inl rfl⟩

end Host

/-! ### Links and events -/

/-- A host and a bridge, with the messages under way to the bridge, the oldest first. -/
structure Link where
  host : Host
  channel : List Message := []
  bridge : Bridge

/-- What can happen to a link. -/
inductive Event
  /-- The host begins a build. -/
  | beginBuild
  /-- A build is completed, in time or not. -/
  | completeBuild (ticket : Nat) (html : String)
  /-- The host is given a document at once. -/
  | setContent (html : String)
  /-- The host hears that the frame of the bridge has loaded. -/
  | frameLoaded
  /-- Any message from any window comes to the host. -/
  | hostReceives (sender : Nat) (message : Message)
  /-- The host's messages are put under way. -/
  | post
  /-- The oldest message under way comes to the bridge. -/
  | deliver
  /-- Another origin sends the bridge a message. -/
  | foreign (origin : String) (message : Message)
  /-- The inner frame loads. -/
  | innerLoaded
  /-- The inner frame sends the bridge a message. -/
  | innerSends (message : Message)
  /-- The bridge's messages are taken. -/
  | collect
  /-- A new bridge takes the place of the old one, and what was under way is lost. -/
  | replaced (origin : String)

namespace Link

/-- The link of a new host and a new bridge. -/
def start (window : Nat) (origin : String) : Link :=
  { host := { window }, bridge := { origin } }

/-- The link after an event. -/
def step (l : Link) : Event → Link
  | .beginBuild => { l with host := l.host.beginBuild.2 }
  | .completeBuild ticket html => { l with host := (l.host.completeBuild ticket html).2 }
  | .setContent html => { l with host := (l.host.setContent html).2 }
  | .frameLoaded => { l with host := l.host.frameLoaded }
  | .hostReceives sender message => { l with host := (l.host.receive sender message).2 }
  | .post => { l with host := l.host.takeOutbox.2, channel := l.channel ++ l.host.takeOutbox.1 }
  | .deliver =>
    match l.channel with
    | [] => l
    | message :: later =>
      { l with channel := later, bridge := (l.bridge.receive l.bridge.origin message).2 }
  | .foreign origin message =>
    -- The bridge's own origin sends nothing but what is delivered.
    if origin = l.bridge.origin then l
    else { l with bridge := (l.bridge.receive origin message).2 }
  | .innerLoaded => { l with bridge := l.bridge.innerLoaded }
  | .innerSends message => { l with bridge := l.bridge.relay message }
  | .collect => { l with bridge := l.bridge.takeOutbox.2 }
  | .replaced origin => { l with channel := [], bridge := { origin } }

/-- The link after a run. -/
def run (l : Link) (events : List Event) : Link :=
  events.foldl step l

/-- The document of a build that an event completes successfully. -/
def supplied? (l : Link) : Event → Option String
  | .completeBuild ticket html =>
    if (l.host.completeBuild ticket html).1 then some html else none
  | .setContent html =>
    if (l.host.beginBuild.2.completeBuild l.host.beginBuild.1 html).1 then some html else none
  | _ => none

/-- The documents of the builds that are completed successfully in the course of a run. -/
def supplied (l : Link) : List Event → List String
  | [] => []
  | event :: events => (l.supplied? event).toList ++ (l.step event).supplied events

/-- The messages that the bridge has still to get: those under way, then those of the host. -/
def underway (l : Link) : List Message :=
  l.channel ++ l.host.outbox

/-- The events that bring the bridge everything that it has still to get. -/
def drainage (l : Link) : List Event :=
  .post :: List.replicate l.underway.length .deliver

/-- The link when the bridge has got everything. -/
def drained (l : Link) : Link :=
  l.run l.drainage

end Link

/-- Has the host heard of the present bridge, if it had heard before the event exactly if `heard`? -/
def Event.heard (heard : Bool) : Event → Bool
  | replaced _ => false
  | frameLoaded => true
  | _ => heard

/-- Has the frame loaded since the bridge was last replaced, if it was at all? -/
def loadedSince (events : List Event) : Bool :=
  events.foldl Event.heard true

end LivePreview.Frame
