import Mathlib
import LivePreview.Proofs.Frame.Link
/-!
# LivePreview.Proofs.Frame.Intrusion

**Intruders have no influence.** A *session* is a host and a bridge that are operated in any order, with
the messages under way between them. `Idle` lists the operations that neither side has to heed: those
of other origins and of other windows, those that cannot be read, and those that are not meant for the
side that they reach.

An idle operation leaves the session as it is (`Idle.step_eq`), and whether an operation is idle depends
on nothing that changes in a session. So a run with idle operations put in, wherever that may be, is the
run without them, and neither its end nor the answers to the other operations tell the two apart.
-/

namespace LivePreview.Frame

/-! ### Sessions -/

/-- A host and a bridge, with the messages under way between them, the oldest first. -/
structure Session where
  host : Host
  bridge : Bridge
  toBridge : List Message := []
  toHost : List Message := []

/-- What can be done in a session. -/
inductive Operation
  | beginBuild
  | completeBuild (ticket : Nat) (html : String)
  | setContent (html : String)
  | frameLoaded
  /-- Any message from any window comes to the host. -/
  | hostReceives (sender : Nat) (message : Message)
  /-- Any text from any window comes to the host. -/
  | hostReads (sender : Nat) (text : String)
  /-- The host's messages are put under way. -/
  | hostPosts
  /-- The oldest message under way comes to the host. -/
  | hostHears
  /-- Any message from any origin comes to the bridge. -/
  | bridgeReceives (origin : String) (message : Message)
  /-- Any text from any origin comes to the bridge. -/
  | bridgeReads (origin text : String)
  | innerLoaded
  /-- The inner frame sends the bridge a message. -/
  | innerSends (message : Message)
  /-- The bridge's messages are put under way. -/
  | bridgePosts
  /-- The oldest message under way comes to the bridge. -/
  | bridgeHears

/-- What an operation gives to whoever does it. -/
inductive Answer
  | nothing
  | ticket (number : Nat)
  | completed (success : Bool)
  | reaction (reaction : Except PreviewError Reaction)
  | outcome (outcome : Except PreviewError Outcome)
  | messages (messages : List Message)

namespace Session

/-- A new host and a new bridge. -/
def start (window : Nat) (origin : String) : Session :=
  { host := { window }, bridge := { origin } }

/-- The answer to an operation, and the session after it. -/
def step (s : Session) : Operation → Answer × Session
  | .beginBuild => (.ticket s.host.beginBuild.1, { s with host := s.host.beginBuild.2 })
  | .completeBuild ticket html =>
    let (success, host) := s.host.completeBuild ticket html
    (.completed success, { s with host })
  | .setContent html =>
    let (ticket, host) := s.host.setContent html
    (.ticket ticket, { s with host })
  | .frameLoaded => (.nothing, { s with host := s.host.frameLoaded })
  | .hostReceives sender message =>
    let (reaction, host) := s.host.receive sender message
    (.reaction (.ok reaction), { s with host })
  | .hostReads sender text =>
    match s.host.receiveText sender text with
    | .ok (reaction, host) => (.reaction (.ok reaction), { s with host })
    | .error e => (.reaction (.error e), s)
  | .hostPosts =>
    let (messages, host) := s.host.takeOutbox
    (.messages messages, { s with host, toBridge := s.toBridge ++ messages })
  | .hostHears =>
    match s.toHost with
    | [] => (.nothing, s)
    | message :: toHost =>
      let (reaction, host) := s.host.receive s.host.window message
      (.reaction (.ok reaction), { s with host, toHost })
  | .bridgeReceives origin message =>
    let (outcome, bridge) := s.bridge.receive origin message
    (.outcome (.ok outcome), { s with bridge })
  | .bridgeReads origin text =>
    match s.bridge.receiveText origin text with
    | .ok (outcome, bridge) => (.outcome (.ok outcome), { s with bridge })
    | .error e => (.outcome (.error e), s)
  | .innerLoaded => (.nothing, { s with bridge := s.bridge.innerLoaded })
  | .innerSends message => (.nothing, { s with bridge := s.bridge.relay message })
  | .bridgePosts =>
    let (messages, bridge) := s.bridge.takeOutbox
    (.messages messages, { s with bridge, toHost := s.toHost ++ messages })
  | .bridgeHears =>
    match s.toBridge with
    | [] => (.nothing, s)
    | message :: toBridge =>
      let (outcome, bridge) := s.bridge.receive s.bridge.origin message
      (.outcome (.ok outcome), { s with bridge, toBridge })

/-- The answers to operations, and the session after them. -/
def run (s : Session) : List Operation → List Answer × Session
  | [] => ([], s)
  | operation :: operations =>
    let (answer, s) := s.step operation
    let (answers, s) := s.run operations
    (answer :: answers, s)

end Session

/-! ### What stays the same in a session -/

namespace Host

theorem window_post (h : Host) : h.post.window = h.window := by
  obtain ⟨_, hpost⟩ := exists_post_eq h
  rw [hpost]

theorem window_completeBuild (h : Host) (ticket : Nat) (html : String) :
    (h.completeBuild ticket html).2.window = h.window := by
  obtain ⟨_, _, hcomplete⟩ := exists_completeBuild_eq h ticket html
  rw [hcomplete]

theorem window_receive (h : Host) (sender : Nat) (message : Message) :
    (h.receive sender message).2.window = h.window := by
  obtain ⟨_, _, _, _, _, hreceive⟩ := exists_receive_eq h sender message
  rw [hreceive]

/-- A message of another window changes nothing. -/
theorem receive_of_ne {h : Host} {sender : Nat} (hs : sender ≠ h.window) (message : Message) :
    h.receive sender message = (.ignored, h) :=
  if_neg hs

end Host

namespace Bridge

theorem origin_receive (b : Bridge) (origin : String) (message : Message) :
    (b.receive origin message).2.origin = b.origin := by
  by_cases ho : origin = b.origin
  · cases message with
    | setHtml html =>
      simp only [receive, if_pos ho, take]
      split <;> rfl
    | _ => simp only [receive, if_pos ho]
  · rw [receive_of_ne ho]

theorem origin_innerLoaded (b : Bridge) : b.innerLoaded.origin = b.origin := by
  unfold innerLoaded
  split <;> rfl

theorem origin_relay (b : Bridge) (message : Message) : (b.relay message).origin = b.origin := by
  cases message <;> rfl

end Bridge

namespace Session

variable {s : Session} {sender : Nat} {origin text : String} {message : Message} {e : PreviewError}

/-- What another window sends is not even read. -/
theorem step_hostReads_of_ne (hs : sender ≠ s.host.window) (text : String) :
    s.step (.hostReads sender text) = (.reaction (.ok .ignored), s) := by
  simp only [step, Host.receiveText, if_neg hs, pure, Except.pure]

/-- A text that can be read is received as the message that it denotes. -/
theorem step_hostReads_of_ok (hp : Message.parse text = .ok message) :
    s.step (.hostReads s.host.window text) = s.step (.hostReceives s.host.window message) := by
  simp only [step, Host.receiveText, if_true, hp, bind, Except.bind, pure, Except.pure]

theorem step_hostReads_of_error (hp : Message.parse text = .error e) :
    s.step (.hostReads s.host.window text) = (.reaction (.error e), s) := by
  simp only [step, Host.receiveText, if_true, hp, bind, Except.bind]

theorem step_bridgeReads_of_ok (hp : Message.parse text = .ok message) (origin : String) :
    s.step (.bridgeReads origin text) = s.step (.bridgeReceives origin message) := by
  simp only [step, Bridge.receiveText, hp, bind, Except.bind, pure, Except.pure]

theorem step_bridgeReads_of_error (hp : Message.parse text = .error e) (origin : String) :
    s.step (.bridgeReads origin text) = (.outcome (.error e), s) := by
  simp only [step, Bridge.receiveText, hp, bind, Except.bind]

/-- The host goes on listening to the same window. -/
theorem window_step (s : Session) (operation : Operation) :
    (s.step operation).2.host.window = s.host.window := by
  cases operation with
  | completeBuild ticket html => exact Host.window_completeBuild _ ticket html
  | setContent html => exact Host.window_completeBuild _ _ html
  | frameLoaded => exact Host.window_post _
  | hostReceives sender message => exact Host.window_receive _ sender message
  | hostReads sender text =>
    by_cases hs : sender = s.host.window
    · subst hs
      cases hp : Message.parse text with
      | error e => rw [step_hostReads_of_error hp]
      | ok message =>
        rw [step_hostReads_of_ok hp]
        exact Host.window_receive _ _ message
    · rw [step_hostReads_of_ne hs]
  | hostHears =>
    simp only [step]
    split
    · rfl
    · exact Host.window_receive _ _ _
  | bridgeReads origin text =>
    cases hp : Message.parse text with
    | error e => rw [step_bridgeReads_of_error hp]
    | ok message =>
      rw [step_bridgeReads_of_ok hp]
      rfl
  | bridgeHears =>
    simp only [step]
    split <;> rfl
  | _ => rfl

/-- The bridge stays at the same origin. -/
theorem origin_step (s : Session) (operation : Operation) :
    (s.step operation).2.bridge.origin = s.bridge.origin := by
  cases operation with
  | bridgeReceives origin message => exact Bridge.origin_receive _ origin message
  | bridgeReads origin text =>
    cases hp : Message.parse text with
    | error e => rw [step_bridgeReads_of_error hp]
    | ok message =>
      rw [step_bridgeReads_of_ok hp]
      exact Bridge.origin_receive _ origin message
  | bridgeHears =>
    simp only [step]
    split
    · rfl
    · exact Bridge.origin_receive _ _ _
  | innerLoaded => exact Bridge.origin_innerLoaded _
  | innerSends message => exact Bridge.origin_relay _ message
  | hostReads sender text =>
    simp only [step]
    split <;> rfl
  | hostHears =>
    simp only [step]
    split <;> rfl
  | _ => rfl

end Session

/-! ### Idle operations -/

/-- The operations that neither the host of this window nor the bridge at this origin has to heed. -/
inductive Idle (window : Nat) (origin : String) : Operation → Prop
  | foreignMessage {sender : String} {message : Message} :
      sender ≠ origin → Idle window origin (.bridgeReceives sender message)
  | foreignText {sender text : String} :
      sender ≠ origin → Idle window origin (.bridgeReads sender text)
  | strangeMessage {sender : Nat} {message : Message} :
      sender ≠ window → Idle window origin (.hostReceives sender message)
  | strangeText {sender : Nat} {text : String} :
      sender ≠ window → Idle window origin (.hostReads sender text)
  /-- The bridge's own origin sends something other than a document. -/
  | misdirected {message : Message} :
      (∀ html, message ≠ .setHtml html) → Idle window origin (.bridgeReceives origin message)
  /-- The bridge's own origin sends a text that is not that of a document, or of no message at all. -/
  | misdirectedText {text : String} :
      (∀ html, Message.parse text ≠ .ok (.setHtml html)) → Idle window origin (.bridgeReads origin text)
  /-- The window of the bridge sends a text that is that of no message. -/
  | malformed {text : String} {e : PreviewError} :
      Message.parse text = .error e → Idle window origin (.hostReads window text)
  /-- The inner frame sends something other than an entry of the console. -/
  | unrelayed {message : Message} :
      (∀ level args, message ≠ .console level args) → Idle window origin (.innerSends message)

/-- The bridge takes in nothing but documents. -/
theorem Bridge.receive_of_ne_setHtml (b : Bridge) (origin : String) {message : Message}
    (h : ∀ html, message ≠ .setHtml html) : b.receive origin message = (.ignored, b) := by
  cases message with
  | setHtml html => exact absurd rfl (h html)
  | _ => simp only [receive, ite_self]

/-- **An idle operation changes nothing.** -/
theorem Idle.step_eq {s : Session} {operation : Operation}
    (h : Idle s.host.window s.bridge.origin operation) : (s.step operation).2 = s := by
  cases h with
  | foreignMessage ho => simp only [Session.step, Bridge.receive_of_ne ho]
  | @foreignText sender text ho =>
    cases hp : Message.parse text with
    | error e => rw [Session.step_bridgeReads_of_error hp]
    | ok message =>
      rw [Session.step_bridgeReads_of_ok hp]
      simp only [Session.step, Bridge.receive_of_ne ho]
  | strangeMessage hs => simp only [Session.step, Host.receive_of_ne hs]
  | strangeText hs => rw [Session.step_hostReads_of_ne hs]
  | misdirected hm => simp only [Session.step, Bridge.receive_of_ne_setHtml _ _ hm]
  | @misdirectedText text hm =>
    cases hp : Message.parse text with
    | error e => rw [Session.step_bridgeReads_of_error hp]
    | ok message =>
      have hno : ∀ html, message ≠ .setHtml html := fun html he => hm html (hp.trans (he ▸ rfl))
      rw [Session.step_bridgeReads_of_ok hp]
      simp only [Session.step, Bridge.receive_of_ne_setHtml _ _ hno]
  | malformed hp => rw [Session.step_hostReads_of_error hp]
  | @unrelayed message hm =>
    cases message with
    | console level args => exact absurd rfl (hm level args)
    | _ => rfl

/-! ### Runs with intruders -/

/-- An operation of a run, and whether it was put in. -/
structure Step where
  operation : Operation
  inserted : Bool

/-- The operations of the run with those that were put in. -/
def allOperations (steps : List Step) : List Operation :=
  steps.map (·.operation)

/-- The operations of the run without them. -/
def ownOperations (steps : List Step) : List Operation :=
  (steps.filter (!·.inserted)).map (·.operation)

/-- The answers to those that were not put in. -/
def ownAnswers (steps : List Step) (answers : List Answer) : List Answer :=
  ((steps.zip answers).filter (!·.1.inserted)).map (·.2)

/-- **Intruders have no influence.** If the operations that are put in a run are idle, the run with them
ends in the session in which the run without them ends, and gives the same answers to all the other
operations. -/
theorem run_unaffected (s : Session) (steps : List Step)
    (hidle : ∀ step ∈ steps, step.inserted = true →
      Idle s.host.window s.bridge.origin step.operation) :
    (s.run (allOperations steps)).2 = (s.run (ownOperations steps)).2 ∧
      ownAnswers steps (s.run (allOperations steps)).1 = (s.run (ownOperations steps)).1 := by
  induction steps generalizing s with
  | nil => exact ⟨rfl, rfl⟩
  | cons step steps ih =>
    obtain ⟨operation, inserted⟩ := step
    have hlater : ∀ step ∈ steps, step.inserted = true →
        Idle (s.step operation).2.host.window (s.step operation).2.bridge.origin step.operation := by
      rw [s.window_step, s.origin_step]
      exact fun step hs => hidle step (List.mem_cons_of_mem _ hs)
    obtain ⟨hend, hanswers⟩ := ih (s.step operation).2 hlater
    cases inserted with
    | false => exact ⟨hend, congrArg (_ :: ·) hanswers⟩
    | true =>
      -- The run without the operation goes on from the same session.
      have hstep : (s.step operation).2 = s := (hidle _ List.mem_cons_self rfl).step_eq
      rw [hstep] at hend hanswers
      refine ⟨?_, ?_⟩
      · exact (congrArg (fun s' => (s'.run (allOperations steps)).2) hstep).trans hend
      · exact (congrArg (fun s' => ownAnswers steps (s'.run (allOperations steps)).1) hstep).trans
          hanswers

/-- A document is posted, shown and acknowledged, with an intruder of each kind in between. -/
theorem run_unaffected_crowded :
    let steps : List Step := [
      ⟨.bridgeReceives "https://b.test" (.setHtml "<p>b</p>"), true⟩,
      ⟨.setContent "<p>a</p>", false⟩,
      ⟨.bridgeReads "https://b.test" "\x7bnot json", true⟩,
      ⟨.hostPosts, false⟩,
      ⟨.hostReceives 8 .accepted, true⟩,
      ⟨.bridgeHears, false⟩,
      ⟨.bridgeReceives "https://a.test" .loaded, true⟩,
      ⟨.bridgeReads "https://a.test" "\x7b\"type\":\"preview:accepted\"\x7d", true⟩,
      ⟨.hostReads 8 "\x7bnot json", true⟩,
      ⟨.bridgePosts, false⟩,
      ⟨.hostReads 7 "\x7bnot json", true⟩,
      ⟨.hostReads 7 "[\"preview:accepted\", null]", true⟩,
      ⟨.innerSends .accepted, true⟩,
      ⟨.hostHears, false⟩]
    let s := Session.start 7 "https://a.test"
    (∀ step ∈ steps, step.inserted = true →
        Idle s.host.window s.bridge.origin step.operation) ∧
      (s.run (allOperations steps)).2 = (s.run (ownOperations steps)).2 ∧
      ownAnswers steps (s.run (allOperations steps)).1 = (s.run (ownOperations steps)).1 ∧
      (s.run (allOperations steps)).2.host.isAccepted = true := by
  intro steps s
  have hmalformed : Message.parse "\x7bnot json" = .error (.malformedMessage (.fault .keyNotText)) := by
    cbv
  have hsurplus : Message.parse "[\"preview:accepted\", null]" =
      .error (.malformedMessage (.invalidLength 1 "0 elements in sequence")) := by
    cbv
  have haccepted : Message.parse "\x7b\"type\":\"preview:accepted\"\x7d" = .ok .accepted := by cbv
  have hidle : ∀ step ∈ steps, step.inserted = true →
      Idle s.host.window s.bridge.origin step.operation := by
    intro step hs hinserted
    simp only [steps, List.mem_cons, List.not_mem_nil, or_false] at hs
    rcases hs with rfl | rfl | rfl | rfl | rfl | rfl | rfl | rfl | rfl | rfl | rfl | rfl | rfl | rfl
    · exact .foreignMessage (by decide)
    · cases hinserted
    · exact .foreignText (by decide)
    · cases hinserted
    · exact .strangeMessage (by decide)
    · cases hinserted
    · exact .misdirected fun _ => Message.noConfusion
    · refine .misdirectedText fun html hread => ?_
      rw [haccepted] at hread
      cases hread
    · exact .strangeText (by decide)
    · cases hinserted
    · exact .malformed hmalformed
    · exact .malformed hsurplus
    · exact .unrelayed fun _ _ => Message.noConfusion
    · cases hinserted
  obtain ⟨hend, hanswers⟩ := run_unaffected s steps hidle
  refine ⟨hidle, hend, hanswers, ?_⟩
  rw [hend]
  rfl

end LivePreview.Frame
