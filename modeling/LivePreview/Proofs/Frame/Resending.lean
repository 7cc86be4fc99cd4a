import LivePreview.Proofs.Frame.Acknowledgement
/-!
# LivePreview.Proofs.Frame.Resending

**When a document is posted again.** A host that hears of a load posts its document again if it takes
the document for unacknowledged. It decides so by comparing numbers of builds; the *history* of a
host says what has happened to it and in what order. `Chronicle` ties the numbers to the history, and
is kept by each of the four moments of which a history consists.

The numbers are those of the latest build, and the document may belong to an older one. So an
acknowledgement keeps the document from being posted again until the next build is begun, and not until
the next document is posted. The two come to the same as long as the latest build is complete.
-/

namespace LivePreview.Frame

/-! ### Histories -/

/-- What can happen to a host, as far as it posts documents again. -/
inductive Moment
  /-- A build is begun. -/
  | begun
  /-- An acknowledgement is heard. -/
  | acknowledged
  /-- A load is heard, and the document is to be posted again for it. -/
  | resent
  /-- A document is posted, for the first time or again. -/
  | posted
  deriving Repr, DecidableEq

/-- The part of a history, the latest moment first, that comes after the last moment of a kind. -/
def since (kind : Moment) (history : List Moment) : List Moment :=
  history.takeWhile (· ≠ kind)

@[simp] theorem since_cons_self (kind : Moment) (history : List Moment) :
    since kind (kind :: history) = [] := by
  simp [since]

theorem since_cons_of_ne {kind moment : Moment} (h : moment ≠ kind) (history : List Moment) :
    since kind (moment :: history) = moment :: since kind history := by
  simp [since, h]

/-- How the numbers that a host keeps agree with its history. -/
structure Chronicle (generation : Nat) (acceptedBuild resentBuild : Option Nat) (complete : Prop)
    (history : List Moment) : Prop where
  accepted_le : ∀ g, acceptedBuild = some g → g ≤ generation
  resent_le : ∀ g, resentBuild = some g → g ≤ generation
  accepted : acceptedBuild = some generation ↔ .acknowledged ∈ since .begun history
  resent : resentBuild = some generation ↔ .resent ∈ since .begun history
  /-- A document of the latest build is posted after the build is begun. -/
  complete : complete → since .posted history ⊆ since .begun history

namespace Chronicle

variable {generation : Nat} {acceptedBuild resentBuild : Option Nat} {complete : Prop}
  {history : List Moment}

theorem start : Chronicle 0 none none False [] where
  accepted_le := fun _ h => nomatch h
  resent_le := fun _ h => nomatch h
  accepted := by simp [since]
  resent := by simp [since]
  complete := False.elim

/-- A build that is begun has no answer yet and is not complete. -/
theorem begun (h : Chronicle generation acceptedBuild resentBuild complete history)
    {complete' : Prop} (hc : ¬ complete') :
    Chronicle (generation + 1) acceptedBuild resentBuild complete' (.begun :: history) where
  accepted_le := fun g hg => Nat.le_succ_of_le (h.accepted_le g hg)
  resent_le := fun g hg => Nat.le_succ_of_le (h.resent_le g hg)
  accepted := by
    have hnew : acceptedBuild ≠ some (generation + 1) :=
      fun hg => Nat.not_succ_le_self generation (h.accepted_le _ hg)
    simp [hnew]
  resent := by
    have hnew : resentBuild ≠ some (generation + 1) :=
      fun hg => Nat.not_succ_le_self generation (h.resent_le _ hg)
    simp [hnew]
  complete := fun hcomplete => absurd hcomplete hc

theorem acknowledged (h : Chronicle generation acceptedBuild resentBuild complete history) :
    Chronicle generation (some generation) resentBuild complete (.acknowledged :: history) where
  accepted_le := fun g hg => Nat.le_of_eq (Option.some.inj hg).symm
  resent_le := h.resent_le
  accepted := by simp [since_cons_of_ne]
  resent := by simp [since_cons_of_ne, h.resent]
  complete := fun hc => by
    rw [since_cons_of_ne (by decide), since_cons_of_ne (by decide)]
    exact List.cons_subset_cons _ (h.complete hc)

theorem resending (h : Chronicle generation acceptedBuild resentBuild complete history) :
    Chronicle generation acceptedBuild (some generation) complete (.resent :: history) where
  accepted_le := h.accepted_le
  resent_le := fun g hg => Nat.le_of_eq (Option.some.inj hg).symm
  accepted := by simp [since_cons_of_ne, h.accepted]
  resent := by simp [since_cons_of_ne]
  complete := fun hc => by
    rw [since_cons_of_ne (by decide), since_cons_of_ne (by decide)]
    exact List.cons_subset_cons _ (h.complete hc)

/-- Nothing has happened since a document was posted just now. -/
theorem posted (h : Chronicle generation acceptedBuild resentBuild complete history)
    (complete' : Prop) :
    Chronicle generation acceptedBuild resentBuild complete' (.posted :: history) where
  accepted_le := h.accepted_le
  resent_le := h.resent_le
  accepted := by simp [since_cons_of_ne, h.accepted]
  resent := by simp [since_cons_of_ne, h.resent]
  complete := fun _ => by simp

end Chronicle

/-! ### What the host keeps -/

namespace Host

theorem resentBuild_post (h : Host) : h.post.resentBuild = h.resentBuild := by
  obtain ⟨_, hpost⟩ := exists_post_eq h
  rw [hpost]

theorem resentBuild_completeBuild (h : Host) (ticket : Nat) (html : String) :
    (h.completeBuild ticket html).2.resentBuild = h.resentBuild := by
  obtain ⟨_, _, hcomplete⟩ := exists_completeBuild_eq h ticket html
  rw [hcomplete]

/-- What a message does to the numbers that the host keeps, by the reaction to it. -/
theorem receive_cases (h : Host) (sender : Nat) (message : Message) :
    let reaction := (h.receive sender message).1
    let h' := (h.receive sender message).2
    (reaction = .acknowledged ∧ h'.acceptedBuild = some h.generation ∧
        h'.resentBuild = h.resentBuild) ∨
      (reaction = .resent ∧ h'.acceptedBuild = h.acceptedBuild ∧
        h'.resentBuild = some h.generation) ∨
      (reaction ≠ .acknowledged ∧ reaction ≠ .resent ∧ h'.acceptedBuild = h.acceptedBuild ∧
        h'.resentBuild = h.resentBuild) := by
  intro reaction h'
  by_cases hs : sender = h.window
  · cases message with
    | accepted =>
      have hreceive : h.receive sender .accepted = (_, _) := if_pos hs
      exact .inl ⟨congrArg Prod.fst hreceive, congrArg (·.2.acceptedBuild) hreceive,
        congrArg (·.2.resentBuild) hreceive⟩
    | loaded =>
      have hreceive : h.receive sender .loaded = h.noteLoaded := if_pos hs
      simp only [reaction, h', hreceive, noteLoaded]
      split
      · exact .inr (.inl ⟨rfl, acceptedBuild_post _, resentBuild_post _⟩)
      · exact .inr (.inr ⟨Reaction.noConfusion, Reaction.noConfusion, rfl, rfl⟩)
    | setHtml html =>
      have hreceive : h.receive sender (.setHtml html) = (.ignored, h) := if_pos hs
      simp [reaction, h', hreceive]
    | console level args =>
      have hreceive : h.receive sender (.console level args) = (_, _) := if_pos hs
      simp [reaction, h', hreceive]
  · have hreceive : h.receive sender message = (.ignored, h) := if_neg hs
    simp [reaction, h', hreceive]

/-- The host posts again what is neither acknowledged nor posted again, by the numbers it keeps. -/
theorem receive_loaded_resent_iff (h : Host) :
    (h.receive h.window .loaded).1 = .resent ↔
      h.desired ≠ none ∧ h.acceptedBuild ≠ some h.generation ∧ h.resentBuild ≠ some h.generation := by
  simp only [receive, if_true, noteLoaded]
  split
  · next hcond => simpa [Option.isSome_iff_ne_none, and_assoc] using hcond
  · next hcond => simpa [Option.isSome_iff_ne_none, and_assoc] using hcond

end Host

namespace Link

/-- What an event is to the host, apart from the documents that it posts. -/
def noted (l : Link) : Event → List Moment
  | .beginBuild | .setContent _ => [.begun]
  | .hostReceives sender message =>
    match (l.host.receive sender message).1 with
    | .acknowledged => [.acknowledged]
    | .resent => [.resent]
    | _ => []
  | _ => []

/-- The moments of an event, the latest first. -/
def moments (l : Link) (event : Event) : List Moment :=
  (l.posted event).map (fun _ => .posted) ++ l.noted event

/-- What an event does to the numbers that the host keeps, by what it is to the host. -/
theorem noted_cases (l : Link) (event : Event) :
    let host := l.host
    let host' := (l.step event).host
    (l.noted event = [.begun] ∧ host'.generation = host.generation + 1 ∧
        host'.acceptedBuild = host.acceptedBuild ∧ host'.resentBuild = host.resentBuild) ∨
      (l.noted event = [.acknowledged] ∧ host'.generation = host.generation ∧
        host'.acceptedBuild = some host.generation ∧ host'.resentBuild = host.resentBuild) ∨
      (l.noted event = [.resent] ∧ host'.generation = host.generation ∧
        host'.acceptedBuild = host.acceptedBuild ∧ host'.resentBuild = some host.generation) ∨
      (l.noted event = [] ∧ host'.generation = host.generation ∧
        host'.acceptedBuild = host.acceptedBuild ∧ host'.resentBuild = host.resentBuild) := by
  intro host host'
  cases event with
  | beginBuild => exact .inl ⟨rfl, rfl, rfl, rfl⟩
  | setContent html =>
    exact .inl ⟨rfl, Host.generation_setContent _ html, Host.acceptedBuild_completeBuild _ _ html,
      Host.resentBuild_completeBuild _ _ html⟩
  | completeBuild ticket html =>
    exact .inr (.inr (.inr ⟨rfl, Host.generation_completeBuild _ ticket html,
      Host.acceptedBuild_completeBuild _ ticket html, Host.resentBuild_completeBuild _ ticket html⟩))
  | frameLoaded =>
    exact .inr (.inr (.inr ⟨rfl, Host.generation_post _, Host.acceptedBuild_post _,
      Host.resentBuild_post _⟩))
  | hostReceives sender message =>
    have hg := Host.generation_receive l.host sender message
    rcases l.host.receive_cases sender message with
      ⟨hreaction, ha, hr⟩ | ⟨hreaction, ha, hr⟩ | ⟨hnot, hnot', ha, hr⟩
    · exact .inr (.inl ⟨by simp only [noted, hreaction], hg, ha, hr⟩)
    · exact .inr (.inr (.inl ⟨by simp only [noted, hreaction], hg, ha, hr⟩))
    · refine .inr (.inr (.inr ⟨?_, hg, ha, hr⟩))
      unfold noted
      dsimp only
      split
      · next h => exact absurd h hnot
      · next h => exact absurd h hnot'
      · rfl
  | deliver =>
    have hsame : host' = host := step_deliver_host l
    rw [hsame]
    exact .inr (.inr (.inr ⟨rfl, rfl, rfl, rfl⟩))
  | «foreign» origin message =>
    have hsame : host' = host := step_foreign_host l origin message
    rw [hsame]
    exact .inr (.inr (.inr ⟨rfl, rfl, rfl, rfl⟩))
  | post | innerLoaded | innerSends _ | collect | replaced _ =>
    exact .inr (.inr (.inr ⟨rfl, rfl, rfl, rfl⟩))

/-- A build that is completed is posted. -/
theorem posted_ne_nil {l : Link} {event : Event} {e : Edition} (h : l.completed? event = some e) :
    l.posted event ≠ [] := by
  have hdrop : ∀ {html : String} {host : Host}, l.host.Supplies html host →
      host.outbox.drop l.host.outbox.length ≠ [] := by
    intro html host hs
    rw [hs.outbox, List.drop_left]
    exact List.cons_ne_nil _ _
  cases event with
  | completeBuild ticket html =>
    by_cases ht : ticket = l.host.generation
    · exact hdrop (Host.supplies_completeBuild ht html).2
    · simp only [completed?, Host.completeBuild_of_ne ht, Bool.false_eq_true, if_false] at h
      cases h
  | setContent html => exact hdrop (Host.supplies_setContent l.host html)
  | _ => cases h

end Link

/-! ### Runs -/

namespace Ledger

variable {t : Ledger} {history : List Moment}

/-- The numbers that the host keeps agree with its history; the latest build is complete if the host
desires its edition. -/
def Chronicled (t : Ledger) (history : List Moment) : Prop :=
  Chronicle t.link.host.generation t.link.host.acceptedBuild t.link.host.resentBuild
    (t.latest.map (·.ticket) = some t.link.host.generation) history

theorem chronicled_start (window : Nat) (origin : String) : (start window origin).Chronicled [] :=
  { Chronicle.start with complete := fun h => nomatch h }

/-- The host desires no edition of a build that is still to be begun. -/
theorem ticket_ne_of_ascending (ha : t.Ascending 0) :
    t.latest.map (·.ticket) ≠ some (t.link.host.generation + 1) := by
  intro h
  obtain ⟨e, he, ht⟩ := Option.map_eq_some_iff.1 h
  have hle := ha.bounded e (List.mem_append_right _ (by simp [he]))
  omega

theorem Chronicled.step (hc : t.Chronicled history) (h : t.Faithful) (ha : t.Ascending 0)
    (event : Event) :
    (t.step (.event event)).Chronicled (t.link.moments event ++ history) := by
  -- First what is heard or begun, with the edition that was desired before; then what is posted.
  have hnoted : Chronicle (t.link.step event).host.generation
      (t.link.step event).host.acceptedBuild (t.link.step event).host.resentBuild
      (t.latest.map (·.ticket) = some (t.link.step event).host.generation)
      (t.link.noted event ++ history) := by
    rcases t.link.noted_cases event with
      ⟨hn, hg, hacc, hres⟩ | ⟨hn, hg, hacc, hres⟩ | ⟨hn, hg, hacc, hres⟩ | ⟨hn, hg, hacc, hres⟩ <;>
      rw [hn, hg, hacc, hres]
    · exact Chronicle.begun hc (ticket_ne_of_ascending ha)
    · exact Chronicle.acknowledged hc
    · exact Chronicle.resending hc
    · exact hc
  unfold Chronicled
  rw [Link.moments, List.append_assoc]
  rcases fresh_cases h event with ⟨-, hp⟩ | ⟨e, -, -, hp⟩
  · have hlatest : (t.step (.event event)).latest = t.latest := by
      cases hcompleted : t.link.completed? event with
      | none =>
        simp only [Ledger.step, latestAfter, hcompleted]
        rfl
      | some e => exact absurd hp (Link.posted_ne_nil hcompleted)
    rw [hp, hlatest]
    exact hnoted
  · rw [hp]
    exact hnoted.posted _

end Ledger

namespace Duplex

variable {d : Duplex} {past : List Moment}

/-- The moments of an event, the latest first. -/
def moments (d : Duplex) (event : Exchange) : List Moment :=
  (d.onLink? event).elim [] d.ledger.link.moments

/-- What happens to the host in the course of a run, the latest moment first. -/
def history (d : Duplex) : List Exchange → List Moment
  | [] => []
  | event :: events => (d.step event).history events ++ d.moments event

theorem chronicled_step (hc : d.ledger.Chronicled past) (h : d.Accountable) (event : Exchange) :
    (d.step event).ledger.Chronicled (d.moments event ++ past) := by
  rw [ledger_step, moments]
  cases d.onLink? event with
  | none => exact hc
  | some event => exact hc.step h.faithful h.ascending event

theorem chronicled_run (hc : d.ledger.Chronicled past) (h : d.Accountable)
    (events : List Exchange) :
    (d.run events).ledger.Chronicled (d.history events ++ past) := by
  induction events generalizing d past with
  | nil => exact hc
  | cons event events ih =>
    have hnext := ih (chronicled_step hc h event) (h.step event)
    rwa [← List.append_assoc] at hnext

end Duplex

/-- **Only what is unanswered is posted again.** In every run, a load makes the host post its document
again exactly if it desires one, and has neither heard an acknowledgement nor posted again since the
latest build was begun. If the latest build is complete, no acknowledgement has been heard since the
document was last posted either. -/
theorem run_resends_unanswered (window : Nat) (origin : String) (events : List Exchange) :
    let start := Duplex.start window origin
    let d := start.run events
    let host := d.ledger.link.host
    let history := start.history events
    let resends := (host.receive host.window .loaded).1 = .resent
    (resends ↔ host.desired ≠ none ∧ .acknowledged ∉ since .begun history ∧
      .resent ∉ since .begun history) ∧
    (resends → d.ledger.latest.map (·.ticket) = some host.generation →
      .acknowledged ∉ since .posted history) := by
  intro start d host history resends
  have hstart := Duplex.accountable_start window origin
  have hchronicle : d.ledger.Chronicled history := by
    have hrun := Duplex.chronicled_run (Ledger.chronicled_start window origin) hstart events
    rwa [List.append_nil] at hrun
  have hresends : resends ↔ host.desired ≠ none ∧ .acknowledged ∉ since .begun history ∧
      .resent ∉ since .begun history := by
    rw [← hchronicle.accepted, ← hchronicle.resent]
    exact host.receive_loaded_resent_iff
  refine ⟨hresends, fun hr hcomplete hack => ?_⟩
  exact (hresends.1 hr).2.1 (hchronicle.complete hcomplete hack)

/-- The load of an older document is heard while the newer one is under way: it is posted twice, and
neither posting was answered before. -/
theorem run_resends_unanswered_late :
    let events : List Exchange :=
      [.setContent "<p>a</p>", .post, .deliver, .innerLoaded, .innerLoaded, .answer, .hear,
        .setContent "<p>b</p>"]
    let start := Duplex.start 7 "https://a.test"
    let d := start.run events
    d.replies = [.loaded] ∧ (d.ledger.link.host.receive 7 .loaded).1 = .resent ∧
      d.ledger.latest.map (·.ticket) = some d.ledger.link.host.generation ∧
      .acknowledged ∉ since .posted (start.history events) := by
  intro events start d
  have hresent : (d.ledger.link.host.receive 7 .loaded).1 = .resent := by rfl
  have hlatest : d.ledger.latest.map (·.ticket) = some d.ledger.link.host.generation := by rfl
  exact ⟨by rfl, hresent, hlatest,
    (run_resends_unanswered 7 "https://a.test" events).2 hresent hlatest⟩

/-- A document that is acknowledged is posted again if its load is heard when the next build is begun
and not yet complete. -/
theorem acknowledged_document_resent :
    let events : List Exchange :=
      [.setContent "<p>a</p>", .post, .deliver, .answer, .hear, .beginBuild, .innerLoaded,
        .innerLoaded, .answer]
    let start := Duplex.start 7 "https://a.test"
    let d := start.run events
    let host := d.ledger.link.host
    d.replies = [.loaded] ∧ (host.receive host.window .loaded).1 = .resent ∧
      host.desired = some "<p>a</p>" ∧
      (host.receive host.window .loaded).2.outbox = [.setHtml "<p>a</p>"] ∧
      .acknowledged ∈ since .posted (start.history events) := by
  intro events start d host
  exact ⟨by rfl, by rfl, by rfl, by rfl, by decide +kernel⟩

end LivePreview.Frame
