import LivePreview.Proofs.Frame.Resending
/-!
# LivePreview.Proofs.Frame.Posting

**How often a host posts.** A host is called in any order; what it posts in a call is what the call hands
out or leaves in the outbox, and was not there before. It posts a document when a build is completed,
when the frame of the bridge has loaded and there is something to show, and when it reacts to a message
by posting again.

The last kind feeds on itself: what is posted again is loaded again. It comes to an end because a host
keeps the number of the build for which it has posted again last (`Accounts.resent`), and numbers of builds
never go down. None of this depends on how the host came to be in its state.
-/

namespace LivePreview.Frame

/-! ### Calls -/

/-- What is done with a host. -/
inductive Call
  | beginBuild
  | completeBuild (ticket : Nat) (html : String)
  | setContent (html : String)
  | frameLoaded
  /-- Any message from any window comes to the host. -/
  | receive (sender : Nat) (message : Message)
  /-- Any text from any window comes to the host. -/
  | receiveText (sender : Nat) (text : String)
  | takeOutbox

/-- Neither a build nor a load of the frame: nothing but messages and the post. -/
def Call.Calm : Call → Prop
  | receive _ _ | receiveText _ _ | takeOutbox => True
  | _ => False

namespace Host

/-- The host after a call. A text that cannot be read leaves it as it is. -/
def after (h : Host) : Call → Host
  | .beginBuild => h.beginBuild.2
  | .completeBuild ticket html => (h.completeBuild ticket html).2
  | .setContent html => (h.setContent html).2
  | .frameLoaded => h.frameLoaded
  | .receive sender message => (h.receive sender message).2
  | .receiveText sender text =>
    match h.receiveText sender text with
    | .ok (_, host) => host
    | .error _ => h
  | .takeOutbox => h.takeOutbox.2

/-- The host after a run. -/
def run (h : Host) (calls : List Call) : Host :=
  calls.foldl after h

/-- The reaction to a message. -/
def reaction? (h : Host) : Call → Option Reaction
  | .receive sender message => some (h.receive sender message).1
  | .receiveText sender text => (h.receiveText sender text).toOption.map (·.1)
  | _ => none

/-- The messages that a call hands out. -/
def handed (h : Host) : Call → List Message
  | .takeOutbox => h.takeOutbox.1
  | _ => []

/-- The messages that are handed out in the course of a run. -/
def handings (h : Host) : List Call → List Message
  | [] => []
  | call :: calls => h.handed call ++ (h.after call).handings calls

/-- The messages that the host posts in a call. -/
def posted (h : Host) (call : Call) : List Message :=
  (h.handed call ++ (h.after call).outbox).drop h.outbox.length

/-- The messages that the host posts in the course of a run. -/
def postings (h : Host) : List Call → List Message
  | [] => []
  | call :: calls => h.posted call ++ (h.after call).postings calls

/-! ### Why a host posts -/

/-- Does the call complete a build successfully? -/
def completes (h : Host) : Call → Bool
  | .completeBuild ticket html => (h.completeBuild ticket html).1
  | .setContent html => (h.beginBuild.2.completeBuild h.beginBuild.1 html).1
  | _ => false

/-- Has the frame of the bridge loaded while a document is desired? -/
def reloads (h : Host) : Call → Bool
  | .frameLoaded => h.desired.isSome
  | _ => false

/-- Does the host react to the call by posting its document again? -/
def resends (h : Host) (call : Call) : Bool :=
  h.reaction? call = some .resent

/-- The calls of a run with a property, each given by the number of the latest build when it is made. -/
def during (property : Host → Call → Bool) (h : Host) : List Call → List Nat
  | [] => []
  | call :: calls =>
    (if property h call then [h.generation] else []) ++ during property (h.after call) calls

/-- What is said of a call by the reasons to post. -/
structure Accounts (h : Host) (call : Call) : Prop where
  /-- What is in the outbox is handed out or stays there, in front of what is posted. -/
  outbox : h.outbox ++ h.posted call = h.handed call ++ (h.after call).outbox
  documents : ∀ message ∈ h.posted call, ∃ html, message = .setHtml html
  /-- There is one message for each reason. -/
  reasons : (h.posted call).length =
    (h.completes call).toNat + (h.reloads call).toNat + (h.resends call).toNat
  generation_le : h.generation ≤ (h.after call).generation
  /-- The host posts again only once for a build. -/
  resent : h.resends call = true → h.resentBuild ≠ some h.generation ∧
    (h.after call).resentBuild = some h.generation ∧ (h.after call).generation = h.generation
  kept : h.resends call = false → (h.after call).resentBuild = h.resentBuild

variable {h : Host} {call : Call}

/-! ### What a call does -/

/-- A message makes the host post again, or leaves its outbox as it is. -/
theorem receive_outbox (h : Host) (sender : Nat) (message : Message) :
    let reaction := (h.receive sender message).1
    let h' := (h.receive sender message).2
    (reaction = .resent ∧ h.resentBuild ≠ some h.generation ∧
        h'.resentBuild = some h.generation ∧ ∃ html, h'.outbox = h.outbox ++ [.setHtml html]) ∨
      (reaction ≠ .resent ∧ h'.resentBuild = h.resentBuild ∧ h'.outbox = h.outbox) := by
  intro reaction h'
  by_cases hs : sender = h.window
  · subst hs
    cases message with
    | loaded =>
      have hreceive : h.receive h.window .loaded = h.noteLoaded := if_pos rfl
      by_cases hr : reaction = .resent
      · obtain ⟨hdesired, hanswered, hresent⟩ := (receive_loaded_resent_iff h).1 hr
        obtain ⟨html, hhtml⟩ := Option.ne_none_iff_exists'.1 hdesired
        left
        refine ⟨hr, hresent, ?_, html, ?_⟩ <;>
          simp [h', hreceive, noteLoaded, hhtml, hanswered, hresent, post]
      · have hno := mt (receive_loaded_resent_iff h).2 hr
        right
        refine ⟨hr, ?_, ?_⟩ <;>
          · simp only [h', hreceive, noteLoaded]
            split
            · next hyes => simp [Option.isSome_iff_ne_none] at hyes hno; tauto
            · rfl
    | _ => exact .inr ⟨by simp [reaction, receive], by simp [h', receive], by simp [h', receive]⟩
  · exact .inr ⟨by simp [reaction, receive, hs], by simp [h', receive, hs], by simp [h', receive, hs]⟩

/-- A call that neither posts nor hands out anything. -/
theorem accounts_idle (hhanded : h.handed call = []) (ho : (h.after call).outbox = h.outbox)
    (hcompletes : h.completes call = false) (hreloads : h.reloads call = false)
    (hresends : h.resends call = false) (hg : h.generation ≤ (h.after call).generation)
    (hr : (h.after call).resentBuild = h.resentBuild) : h.Accounts call := by
  have hposted : h.posted call = [] := by simp [posted, hhanded, ho]
  exact ⟨by simp [hposted, hhanded, ho], by simp [hposted],
    by simp [hposted, hcompletes, hreloads, hresends], hg, by simp [hresends], fun _ => hr⟩

/-- A call in which a document is posted, because of a build or of a frame that has loaded. -/
theorem accounts_posting {html : String} (hhanded : h.handed call = [])
    (ho : (h.after call).outbox = h.outbox ++ [.setHtml html])
    (hreason : (h.completes call).toNat + (h.reloads call).toNat = 1)
    (hresends : h.resends call = false) (hg : h.generation ≤ (h.after call).generation)
    (hr : (h.after call).resentBuild = h.resentBuild) : h.Accounts call := by
  have hposted : h.posted call = [.setHtml html] := by simp [posted, hhanded, ho]
  exact ⟨by simp [hposted, hhanded, ho], by simp [hposted], by simp [hposted, hreason, hresends], hg,
    by simp [hresends], fun _ => hr⟩

/-- A call in which a document is posted again. -/
theorem accounts_resending {html : String} (hhanded : h.handed call = [])
    (ho : (h.after call).outbox = h.outbox ++ [.setHtml html]) (hcompletes : h.completes call = false)
    (hreloads : h.reloads call = false) (hresends : h.resends call = true)
    (hg : (h.after call).generation = h.generation) (hne : h.resentBuild ≠ some h.generation)
    (hr : (h.after call).resentBuild = some h.generation) : h.Accounts call := by
  have hposted : h.posted call = [.setHtml html] := by simp [posted, hhanded, ho]
  exact ⟨by simp [hposted, hhanded, ho], by simp [hposted],
    by simp [hposted, hcompletes, hreloads, hresends], hg.ge, fun _ => ⟨hne, hr, hg⟩,
    by simp [hresends]⟩

theorem accounts_receive (h : Host) (sender : Nat) (message : Message) :
    h.Accounts (.receive sender message) := by
  have hg := generation_receive h sender message
  have hreaction : h.resends (.receive sender message) =
      decide ((h.receive sender message).1 = .resent) := by
    simp [resends, reaction?]
  rcases h.receive_outbox sender message with ⟨hr, hne, hbuild, html, ho⟩ | ⟨hr, hbuild, ho⟩
  · have hresends : h.resends (.receive sender message) = true := by simp [hreaction, hr]
    exact accounts_resending rfl ho rfl rfl hresends hg hne hbuild
  · have hresends : h.resends (.receive sender message) = false := by simp [hreaction, hr]
    exact accounts_idle rfl ho rfl rfl hresends hg.ge hbuild

/-- A text is received as the message that it denotes, or not at all. -/
theorem receiveText_cases (h : Host) (sender : Nat) (text : String) :
    (h.after (.receiveText sender text) = h ∧ h.resends (.receiveText sender text) = false) ∨
      ∃ message, h.after (.receiveText sender text) = h.after (.receive sender message) ∧
        h.resends (.receiveText sender text) = h.resends (.receive sender message) := by
  by_cases hs : sender = h.window
  · cases hp : Message.parse text with
    | error e =>
      have htext : h.receiveText sender text = .error e := by
        simp [receiveText, hs, hp, bind, Except.bind]
      exact .inl ⟨by simp [after, htext], by simp [resends, reaction?, htext, Except.toOption]⟩
    | ok message =>
      have htext : h.receiveText sender text = .ok (h.receive sender message) := by
        simp [receiveText, hs, hp, bind, Except.bind, pure, Except.pure]
      exact .inr ⟨message, by simp [after, htext],
        by simp [resends, reaction?, htext, Except.toOption]⟩
  · have htext : h.receiveText sender text = .ok (.ignored, h) := by
      simp [receiveText, hs, pure, Except.pure]
    exact .inl ⟨by simp [after, htext], by simp [resends, reaction?, htext, Except.toOption]⟩

theorem accounts_receiveText (h : Host) (sender : Nat) (text : String) :
    h.Accounts (.receiveText sender text) := by
  rcases h.receiveText_cases sender text with ⟨hafter, hresends⟩ | ⟨message, hafter, hresends⟩
  · exact accounts_idle rfl (by rw [hafter]) rfl rfl hresends (by rw [hafter]) (by rw [hafter])
  · have haccounts := accounts_receive h sender message
    have hposted : h.posted (.receiveText sender text) = h.posted (.receive sender message) := by
      simp only [posted, hafter, handed]
    refine ⟨?_, ?_, ?_, ?_, ?_, ?_⟩
    · rw [hposted, hafter]
      exact haccounts.outbox
    · rw [hposted]
      exact haccounts.documents
    · rw [hposted, hresends]
      exact haccounts.reasons
    · rw [hafter]
      exact haccounts.generation_le
    · rw [hafter, hresends]
      exact haccounts.resent
    · rw [hafter, hresends]
      exact haccounts.kept

/-- **Every call accounts for what it posts.** -/
theorem accounts (h : Host) (call : Call) : h.Accounts call := by
  cases call with
  | beginBuild => exact accounts_idle rfl rfl rfl rfl rfl (Nat.le_succ _) rfl
  | completeBuild ticket html =>
    have hg := generation_completeBuild h ticket html
    have hkept := resentBuild_completeBuild h ticket html
    by_cases ht : ticket = h.generation
    · obtain ⟨hok, hs⟩ := supplies_completeBuild ht html
      exact accounts_posting rfl hs.outbox (by simp [completes, reloads, hok]) rfl hg.ge hkept
    · have hno := completeBuild_of_ne ht html
      refine accounts_idle rfl ?_ (by simp [completes, hno]) rfl rfl hg.ge hkept
      simp [after, hno]
  | setContent html =>
    have hok : h.completes (.setContent html) = true :=
      (supplies_completeBuild (h := h.beginBuild.2) rfl html).1
    have hg := generation_setContent h html
    refine accounts_posting rfl (supplies_setContent h html).outbox ?_ rfl ?_ ?_
    · simp [hok, reloads]
    · exact hg.symm ▸ Nat.le_succ _
    · exact resentBuild_completeBuild h.beginBuild.2 _ html
  | frameLoaded =>
    cases hd : h.desired with
    | none =>
      have hpost : h.after .frameLoaded = h := post_of_none hd
      exact accounts_idle rfl (by rw [hpost]) rfl (by simp [reloads, hd]) rfl (by rw [hpost])
        (by rw [hpost])
    | some html =>
      have hpost : h.after .frameLoaded = { h with outbox := h.outbox ++ [.setHtml html] } :=
        post_of_some hd
      exact accounts_posting rfl (by rw [hpost]) (by simp [completes, reloads, hd]) rfl
        (by rw [hpost]) (by rw [hpost])
  | receive sender message => exact accounts_receive h sender message
  | receiveText sender text => exact accounts_receiveText h sender text
  | takeOutbox =>
    have hposted : h.posted .takeOutbox = [] := by simp [posted, handed, after, takeOutbox]
    refine ⟨?_, by simp [hposted], by simp [hposted, completes, reloads, resends, reaction?],
      Nat.le_refl _, (absurd · Bool.false_ne_true), fun _ => rfl⟩
    simp [hposted, handed, after, takeOutbox]

/-! ### What a run does -/

theorem outbox_run (h : Host) (calls : List Call) :
    h.outbox ++ h.postings calls = h.handings calls ++ (h.run calls).outbox := by
  induction calls generalizing h with
  | nil => simp [postings, handings, run]
  | cons call calls ih =>
    calc h.outbox ++ h.postings (call :: calls)
      _ = h.handed call ++ ((h.after call).outbox ++ (h.after call).postings calls) := by
          rw [postings, ← List.append_assoc, (h.accounts call).outbox, List.append_assoc]
      _ = h.handings (call :: calls) ++ (h.run (call :: calls)).outbox := by
          rw [ih, ← List.append_assoc]
          rfl

theorem postings_documents (h : Host) (calls : List Call) :
    ∀ message ∈ h.postings calls, ∃ html, message = .setHtml html := by
  induction calls generalizing h with
  | nil => simp [postings]
  | cons call calls ih =>
    intro message hm
    rcases List.mem_append.1 hm with hm | hm
    · exact (h.accounts call).documents message hm
    · exact ih _ message hm

theorem length_during (property : Host → Call → Bool) (h : Host) (call : Call) (calls : List Call) :
    (during property h (call :: calls)).length =
      (property h call).toNat + (during property (h.after call) calls).length := by
  cases hp : property h call <;> simp [during, hp, Nat.add_comm]

/-- There is one message for each reason. -/
theorem length_postings (h : Host) (calls : List Call) :
    (h.postings calls).length = (during completes h calls).length +
      (during reloads h calls).length + (during resends h calls).length := by
  induction calls generalizing h with
  | nil => rfl
  | cons call calls ih =>
    rw [postings, List.length_append, ih, (h.accounts call).reasons, length_during, length_during,
      length_during]
    omega

/-- The host posts again for builds from the latest one on, and not for one for which it just has. -/
theorem forall_resends (h : Host) (calls : List Call) :
    ∀ g ∈ during resends h calls, h.generation ≤ g ∧
      (h.resentBuild = some h.generation → g ≠ h.generation) := by
  induction calls generalizing h with
  | nil => simp [during]
  | cons call calls ih =>
    intro g hg
    cases hr : h.resends call with
    | true =>
      obtain ⟨hne, hbuild, hsame⟩ := (h.accounts call).resent hr
      simp only [during, hr, if_true, List.singleton_append, List.mem_cons] at hg
      refine ⟨?_, fun hnow => absurd hnow hne⟩
      rcases hg with rfl | hg
      · exact Nat.le_refl _
      · exact hsame ▸ (ih _ g hg).1
    | false =>
      have hkept := (h.accounts call).kept hr
      have hle := (h.accounts call).generation_le
      simp only [during, hr, Bool.false_eq_true, if_false, List.nil_append] at hg
      obtain ⟨hfloor, hfresh⟩ := ih _ g hg
      refine ⟨Nat.le_trans hle hfloor, fun hnow he => ?_⟩
      -- The number did not change, so neither did the reason not to post again.
      have hsame : (h.after call).generation = h.generation := by omega
      exact hfresh (by rw [hkept, hnow, hsame]) (by rw [he, hsame])

/-- **No build is posted again twice** because of messages. -/
theorem pairwise_resends (h : Host) (calls : List Call) :
    (during resends h calls).Pairwise (· < ·) := by
  induction calls generalizing h with
  | nil => exact .nil
  | cons call calls ih =>
    cases hr : h.resends call with
    | false => simpa [during, hr] using ih (h.after call)
    | true =>
      obtain ⟨-, hbuild, hsame⟩ := (h.accounts call).resent hr
      simp only [during, hr, if_true, List.singleton_append, List.pairwise_cons]
      refine ⟨fun g hg => ?_, ih _⟩
      obtain ⟨hfloor, hfresh⟩ := forall_resends (h.after call) calls g hg
      rw [hsame] at hfloor hfresh
      exact Nat.lt_of_le_of_ne hfloor (Ne.symm (hfresh hbuild))

/-- A calm call starts no build. -/
theorem generation_of_calm (hc : call.Calm) : (h.after call).generation = h.generation := by
  cases call with
  | receive sender message => exact generation_receive h sender message
  | receiveText sender text =>
    rcases h.receiveText_cases sender text with ⟨hafter, -⟩ | ⟨message, hafter, -⟩
    · rw [hafter]
    · rw [hafter]
      exact generation_receive h sender message
  | takeOutbox => rfl
  | _ => exact hc.elim

/-- In a calm stretch the host only posts again, and only for the latest build. -/
theorem during_of_calm {calls : List Call} (hc : ∀ call ∈ calls, call.Calm) (h : Host) :
    during completes h calls = [] ∧ during reloads h calls = [] ∧
      ∀ g ∈ during resends h calls, g = h.generation := by
  induction calls generalizing h with
  | nil => simp [during]
  | cons call calls ih =>
    obtain ⟨hcall, hcalls⟩ := List.forall_mem_cons.1 hc
    obtain ⟨hcompletes, hreloads, hresends⟩ := ih hcalls (h.after call)
    have hsame := generation_of_calm (h := h) hcall
    have hreason : h.completes call = false ∧ h.reloads call = false := by
      cases call with
      | receive _ _ | receiveText _ _ | takeOutbox => exact ⟨rfl, rfl⟩
      | _ => exact hcall.elim
    refine ⟨by simp [during, hreason, hcompletes], by simp [during, hreason, hreloads], ?_⟩
    intro g hg
    rcases List.mem_append.1 hg with hg | hg
    · split at hg
      · exact List.mem_singleton.1 hg
      · exact absurd hg List.not_mem_nil
    · exact (hresends g hg).trans hsame

end Host

/-- **Posting again is bounded.** From any state of a host on, and whatever is done with it: each posted
message is a document, and is handed out or still in the outbox. The host reacts to messages by posting
again at most once for each number of a build, in ascending order. While there are only messages and the
outbox is taken, it posts at most once. There is one posting for each build that is completed, for each
load of the frame while a document is desired, and for each reaction by posting again. -/
theorem run_posts_bounded (h : Host) (calls : List Call) :
    let posted := h.postings calls
    h.outbox ++ posted = h.handings calls ++ (h.run calls).outbox ∧
      (∀ message ∈ posted, ∃ html, message = .setHtml html) ∧
      (Host.during Host.resends h calls).Pairwise (· < ·) ∧
      ((∀ call ∈ calls, call.Calm) → posted.length ≤ 1) ∧
      posted.length = (Host.during Host.completes h calls).length +
        (Host.during Host.reloads h calls).length + (Host.during Host.resends h calls).length := by
  intro posted
  have hlength := h.length_postings calls
  have hascending := h.pairwise_resends calls
  refine ⟨h.outbox_run calls, h.postings_documents calls, hascending, fun hc => ?_, hlength⟩
  obtain ⟨hcompletes, hreloads, hresends⟩ := Host.during_of_calm hc h
  -- Numbers that ascend and are all the same are one at most.
  have honce : (Host.during Host.resends h calls).length ≤ 1 := by
    match hlist : Host.during Host.resends h calls with
    | [] => exact Nat.zero_le 1
    | [_] => exact Nat.le_refl 1
    | g :: g' :: more =>
      rw [hlist] at hascending hresends
      have hlt := (List.pairwise_cons.1 hascending).1 g' List.mem_cons_self
      have hg := hresends g List.mem_cons_self
      have hg' := hresends g' (List.mem_cons_of_mem _ List.mem_cons_self)
      omega
  rw [hcompletes, hreloads] at hlength
  have hsame : posted.length = (Host.during Host.resends h calls).length := by simpa using hlength
  exact hsame ▸ honce

/-- A load that is heard twice makes the host post its document again once, in spite of what other windows
send in between. -/
theorem run_posts_bounded_loads :
    let h := Host.run { window := 7 } [.setContent "<p>a</p>", .takeOutbox]
    let calls : List Call :=
      [.receive 8 .accepted, .receive 7 .loaded, .receive 8 .loaded, .takeOutbox, .receive 7 .loaded]
    (∀ call ∈ calls, call.Calm) ∧ Host.during Host.resends h calls = [1] ∧
      h.postings calls = [.setHtml "<p>a</p>"] ∧ (h.postings calls).length ≤ 1 := by
  intro h calls
  have hc : ∀ call ∈ calls, call.Calm := by simp [calls, Call.Calm]
  exact ⟨hc, rfl, rfl, (run_posts_bounded h calls).2.2.2.1 hc⟩

end LivePreview.Frame
