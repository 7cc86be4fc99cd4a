import LivePreview.Proofs.Frame.Edition
import LivePreview.Proofs.Frame.Intrusion
/-!
# LivePreview.Proofs.Frame.Reporting

**The bridge reports what happens, and the host hears each report once.** `Session.due` says what the
bridge owes the host for an operation, and nothing in it refers to an outbox: a document of the bridge's
own origin is acknowledged, every load of the inner frame but the first one is told, an entry of the
console is passed on as it is.

Each step adds to the outbox what is due, empties it into the queue, or takes the oldest message from the
queue to the host (`outbox_step`, `toHost_step`, `console_step`). So along a run what is due, what was
handed out and what was delivered are one list, cut at the outbox and at the queue.
-/

namespace LivePreview.Frame

/-! ### What is due -/

/-- What the bridge answers a message of its own origin. -/
def Message.answer : Message → List Message
  | setHtml _ => [accepted]
  | _ => []

/-- What the bridge passes on of a message of the inner frame. -/
def Message.relayed : Message → List Message
  | console level args => [console level args]
  | _ => []

/-- How often the inner frame loads in the course of an operation. -/
def Operation.loads : Operation → Nat
  | innerLoaded => 1
  | _ => 0

/-- Everything that is handed out by the bridge in the course of a run. -/
def handedOut (operations : List Operation) (answers : List Answer) : List Message :=
  (operations.zip answers).flatMap fun
    | (.bridgePosts, .messages messages) => messages
    | _ => []

/-- The entry of the console that a message makes when it comes during this build. -/
def Message.logged? (generation : Nat) : Message → Option ConsoleEntry
  | console level args => some ⟨generation, level, args⟩
  | _ => none

/-- Whatever the operation brings to the host comes from another window or has been posted by the
bridge. -/
def Operation.Genuine (window : Nat) : Operation → Prop
  | hostReceives sender _ => sender ≠ window
  | hostReads sender _ => sender ≠ window
  | _ => True

namespace Session

/-- The message of the bridge's own origin that an operation brings to the bridge. -/
def arrival? (s : Session) : Operation → Option Message
  | .bridgeReceives origin message => if origin = s.bridge.origin then some message else none
  | .bridgeReads origin text =>
    if origin = s.bridge.origin then (Message.parse text).toOption else none
  | .bridgeHears => s.toBridge.head?
  | _ => none

/-- What the bridge owes the host for an operation before which the inner frame has loaded `loads`
times. -/
def due (s : Session) (loads : Nat) : Operation → List Message
  | .innerLoaded => if loads = 0 then [] else [.loaded]
  | .innerSends message => message.relayed
  | operation => (s.arrival? operation).toList.flatMap Message.answer

/-- What the bridge owes the host for a run, in order. -/
def dues (s : Session) (loads : Nat) : List Operation → List Message
  | [] => []
  | operation :: operations =>
    s.due loads operation ++ (s.step operation).2.dues (loads + operation.loads) operations

/-- The message that an operation takes from the queue to the host, with the build that is the latest
then. -/
def delivery? (s : Session) : Operation → Option (Nat × Message)
  | .hostHears => s.toHost.head?.map (s.host.generation, ·)
  | _ => none

/-- What a run takes from the queue to the host, in order. -/
def deliveries (s : Session) : List Operation → List (Nat × Message)
  | [] => []
  | operation :: operations =>
    (s.delivery? operation).toList ++ (s.step operation).2.deliveries operations

end Session

/-! ### What an operation does to the outbox of the bridge -/

namespace Bridge

theorem outbox_receive (b : Bridge) (message : Message) :
    (b.receive b.origin message).2.outbox = b.outbox ++ message.answer := by
  cases message with
  | setHtml html =>
    simp only [receive, if_true, take, Message.answer]
    split <;> rfl
  | _ => simp only [receive, if_true, Message.answer, List.append_nil]

theorem outbox_innerLoaded (b : Bridge) :
    b.innerLoaded.outbox = b.outbox ++ if b.listening then [Message.loaded] else [] := by
  cases hl : b.listening <;> simp [innerLoaded, hl]

theorem outbox_relay (b : Bridge) (message : Message) :
    (b.relay message).outbox = b.outbox ++ message.relayed := by
  cases message with
  | console level args => rfl
  | _ => exact (List.append_nil _).symm

/-- Messages do not make the inner frame ready. -/
theorem listening_receive (b : Bridge) (origin : String) (message : Message) :
    (b.receive origin message).2.listening = b.listening := by
  by_cases ho : origin = b.origin
  · cases message with
    | setHtml html =>
      simp only [receive, if_pos ho, take]
      split <;> rfl
    | _ => simp only [receive, if_pos ho]
  · rw [receive_of_ne ho]

theorem listening_innerLoaded (b : Bridge) : b.innerLoaded.listening = true := by
  cases hl : b.listening <;> simp [innerLoaded, hl]

theorem listening_relay (b : Bridge) (message : Message) :
    (b.relay message).listening = b.listening := by
  cases message <;> rfl

end Bridge

namespace Session

variable {s : Session} {loads : Nat}

/-- The messages that an operation hands out. -/
def handed (s : Session) (operation : Operation) : List Message :=
  handedOut [operation] [(s.step operation).1]

/-- A message that comes to the bridge is answered if it is of the bridge's own origin. -/
theorem outbox_receives (s : Session) (origin : String) (message : Message) :
    (s.bridge.receive origin message).2.outbox =
      s.bridge.outbox ++ (s.arrival? (.bridgeReceives origin message)).toList.flatMap Message.answer := by
  by_cases ho : origin = s.bridge.origin
  · subst ho
    simp [arrival?, Bridge.outbox_receive]
  · simp [arrival?, ho, Bridge.receive_of_ne ho]

/-- The bridge is listening once the inner frame has loaded. -/
theorem listening_step (operation : Operation) (h : s.bridge.listening = decide (loads ≠ 0)) :
    (s.step operation).2.bridge.listening = decide (loads + operation.loads ≠ 0) := by
  cases operation with
  | innerLoaded => simp [step, Operation.loads, Bridge.listening_innerLoaded]
  | bridgeReceives origin message => exact (Bridge.listening_receive _ origin message).trans h
  | bridgeReads origin text =>
    cases hp : Message.parse text with
    | error e =>
      rw [step_bridgeReads_of_error hp]
      exact h
    | ok message =>
      rw [step_bridgeReads_of_ok hp]
      exact (Bridge.listening_receive _ origin message).trans h
  | bridgeHears =>
    simp only [step]
    split
    · exact h
    · exact (Bridge.listening_receive _ _ _).trans h
  | innerSends message => exact (Bridge.listening_relay _ message).trans h
  | hostReads sender text =>
    simp only [step]
    split <;> exact h
  | hostHears =>
    simp only [step]
    split <;> exact h
  | _ => exact h

/-- What is due is put into the outbox, and only what is in it is handed out. -/
theorem outbox_step (operation : Operation) (h : s.bridge.listening = decide (loads ≠ 0)) :
    s.bridge.outbox ++ s.due loads operation =
      s.handed operation ++ (s.step operation).2.bridge.outbox := by
  cases operation with
  | innerLoaded =>
    have hout := Bridge.outbox_innerLoaded s.bridge
    rw [h] at hout
    by_cases hz : loads = 0 <;> simpa [hz, handed, handedOut, due, step] using hout.symm
  | innerSends message =>
    exact (Bridge.outbox_relay s.bridge message).symm
  | bridgeReceives origin message => exact (s.outbox_receives origin message).symm
  | bridgeReads origin text =>
    cases hp : Message.parse text with
    | error e => simp [handed, handedOut, due, arrival?, step_bridgeReads_of_error hp, hp, Except.toOption]
    | ok message =>
      have harrival : s.arrival? (.bridgeReads origin text) =
          s.arrival? (.bridgeReceives origin message) := by
        simp only [arrival?, hp, Except.toOption]
      show _ ++ (s.arrival? (.bridgeReads origin text)).toList.flatMap Message.answer = _
      rw [handed, step_bridgeReads_of_ok hp, harrival]
      exact (s.outbox_receives origin message).symm
  | bridgeHears =>
    cases hq : s.toBridge with
    | nil => simp [handed, handedOut, due, arrival?, step, hq]
    | cons message later =>
      have hout := Bridge.outbox_receive s.bridge message
      simpa [handed, handedOut, due, arrival?, step, hq] using hout.symm
  | bridgePosts => simp [handed, handedOut, due, arrival?, step, Bridge.takeOutbox]
  | hostReads sender text =>
    simp only [handed, step]
    split <;> exact List.append_nil _
  | hostHears =>
    simp only [handed, step]
    split <;> exact List.append_nil _
  | _ => exact List.append_nil _

/-- What is handed out is put into the queue, and only the oldest message of it is delivered. -/
theorem toHost_step (s : Session) (operation : Operation) :
    s.toHost ++ s.handed operation =
      (s.delivery? operation).toList.map (·.2) ++ (s.step operation).2.toHost := by
  cases operation with
  | hostHears =>
    cases hq : s.toHost <;> simp [handed, handedOut, delivery?, step, hq]
  | bridgePosts => simp [handed, handedOut, delivery?, step]
  | bridgeReads origin text =>
    simp only [handed, step]
    split <;> exact List.append_nil _
  | hostReads sender text =>
    simp only [handed, step]
    split <;> exact List.append_nil _
  | bridgeHears =>
    simp only [handed, step]
    split <;> exact List.append_nil _
  | _ => exact List.append_nil _

/-- The entry that a delivered message makes. -/
def logged? (delivery : Nat × Message) : Option ConsoleEntry :=
  delivery.2.logged? delivery.1

end Session

/-! ### What an operation does to the console of the host -/

namespace Host

theorem console_post (h : Host) : h.post.console = h.console := by
  obtain ⟨_, hpost⟩ := exists_post_eq h
  rw [hpost]

theorem console_completeBuild (h : Host) (ticket : Nat) (html : String) :
    (h.completeBuild ticket html).2.console = h.console := by
  obtain ⟨_, _, hcomplete⟩ := exists_completeBuild_eq h ticket html
  rw [hcomplete]

/-- A message of the window makes the entry that it is, and no other. -/
theorem console_receive (h : Host) (message : Message) :
    (h.receive h.window message).2.console =
      h.console ++ (message.logged? h.generation).toList := by
  cases message with
  | loaded =>
    simp only [receive, if_true, noteLoaded, Message.logged?, Option.toList_none, List.append_nil]
    split
    · exact console_post _
    · rfl
  | console level args => simp only [receive, if_true, Message.logged?, Option.toList_some]
  | _ => simp only [receive, if_true, Message.logged?, Option.toList_none, List.append_nil]

end Host

namespace Session

variable {s : Session} {loads window : Nat}

/-- Only what is delivered makes entries. -/
theorem console_step (operation : Operation) (hg : operation.Genuine s.host.window) :
    (s.step operation).2.host.console =
      s.host.console ++ (s.delivery? operation).toList.filterMap logged? := by
  cases operation with
  | completeBuild ticket html =>
    exact (Host.console_completeBuild _ ticket html).trans (List.append_nil _).symm
  | setContent html =>
    exact (Host.console_completeBuild _ _ html).trans (List.append_nil _).symm
  | frameLoaded => exact (Host.console_post _).trans (List.append_nil _).symm
  | hostReceives sender message =>
    simp only [step, Host.receive_of_ne hg]
    exact (List.append_nil _).symm
  | hostReads sender text =>
    rw [step_hostReads_of_ne hg]
    exact (List.append_nil _).symm
  | hostHears =>
    cases hq : s.toHost with
    | nil => simp [step, delivery?, hq]
    | cons message later =>
      have hconsole := Host.console_receive s.host message
      cases he : message.logged? s.host.generation <;>
        simpa [step, delivery?, hq, logged?, he] using hconsole
  | bridgeReads origin text =>
    simp only [step]
    split <;> exact (List.append_nil _).symm
  | bridgeHears =>
    simp only [step]
    split <;> exact (List.append_nil _).symm
  | _ => exact (List.append_nil _).symm

/-- The number of the latest build never decreases. -/
theorem generation_le_step (s : Session) (operation : Operation) :
    s.host.generation ≤ (s.step operation).2.host.generation := by
  cases operation with
  | beginBuild => exact Nat.le_succ _
  | completeBuild ticket html => exact (Host.generation_completeBuild _ ticket html).ge
  | setContent html =>
    show _ ≤ (s.host.setContent html).2.generation
    rw [Host.generation_setContent]
    exact Nat.le_succ _
  | frameLoaded => exact (Host.generation_post _).ge
  | hostReceives sender message => exact (Host.generation_receive _ sender message).ge
  | hostReads sender text =>
    by_cases hs : sender = s.host.window
    · subst hs
      cases hp : Message.parse text with
      | error e => rw [step_hostReads_of_error hp]
      | ok message =>
        rw [step_hostReads_of_ok hp]
        exact (Host.generation_receive _ _ message).ge
    · rw [step_hostReads_of_ne hs]
  | hostHears =>
    simp only [step]
    split
    · exact Nat.le_refl _
    · exact (Host.generation_receive _ _ _).ge
  | bridgeReads origin text =>
    simp only [step]
    split <;> exact Nat.le_refl _
  | bridgeHears =>
    simp only [step]
    split <;> exact Nat.le_refl _
  | _ => exact Nat.le_refl _

/-! ### What a run does -/

theorem handedOut_run (s : Session) (operation : Operation) (operations : List Operation) :
    handedOut (operation :: operations) (s.run (operation :: operations)).1 =
      s.handed operation ++ handedOut operations ((s.step operation).2.run operations).1 := by
  simp [run, handed, handedOut]

/-- What was in the outbox and what is due afterwards is what is handed out and what is left. -/
theorem outbox_run (operations : List Operation) (h : s.bridge.listening = decide (loads ≠ 0)) :
    s.bridge.outbox ++ s.dues loads operations =
      handedOut operations (s.run operations).1 ++ (s.run operations).2.bridge.outbox := by
  induction operations generalizing s loads with
  | nil => exact List.append_nil _
  | cons operation operations ih =>
    have hstep := outbox_step operation h
    have hrest := ih (listening_step operation h)
    calc s.bridge.outbox ++ s.dues loads (operation :: operations)
      _ = s.handed operation ++ ((s.step operation).2.bridge.outbox ++
            (s.step operation).2.dues (loads + operation.loads) operations) := by
          rw [dues, ← List.append_assoc, hstep, List.append_assoc]
      _ = handedOut (operation :: operations) (s.run (operation :: operations)).1 ++
            (s.run (operation :: operations)).2.bridge.outbox := by
          rw [hrest, handedOut_run, List.append_assoc]
          rfl

/-- What was in the queue and what is handed out afterwards is what is delivered and what is left. -/
theorem toHost_run (s : Session) (operations : List Operation) :
    s.toHost ++ handedOut operations (s.run operations).1 =
      (s.deliveries operations).map (·.2) ++ (s.run operations).2.toHost := by
  induction operations generalizing s with
  | nil => exact List.append_nil _
  | cons operation operations ih =>
    calc s.toHost ++ handedOut (operation :: operations) (s.run (operation :: operations)).1
      _ = (s.delivery? operation).toList.map (·.2) ++ ((s.step operation).2.toHost ++
            handedOut operations ((s.step operation).2.run operations).1) := by
          rw [handedOut_run, ← List.append_assoc, s.toHost_step operation, List.append_assoc]
      _ = (s.deliveries (operation :: operations)).map (·.2) ++
            (s.run (operation :: operations)).2.toHost := by
          rw [ih, deliveries, List.map_append, List.append_assoc]
          rfl

/-- The console grows by the entries that are delivered. -/
theorem console_run (operations : List Operation)
    (hg : ∀ operation ∈ operations, operation.Genuine s.host.window) :
    (s.run operations).2.host.console =
      s.host.console ++ (s.deliveries operations).filterMap logged? := by
  induction operations generalizing s with
  | nil => exact (List.append_nil _).symm
  | cons operation operations ih =>
    have hlater : ∀ later ∈ operations, later.Genuine (s.step operation).2.host.window := by
      rw [s.window_step]
      exact fun later hl => hg later (List.mem_cons_of_mem _ hl)
    have hrun : (s.run (operation :: operations)).2.host.console =
        ((s.step operation).2.run operations).2.host.console := rfl
    rw [hrun, ih hlater, console_step operation (hg operation List.mem_cons_self), deliveries,
      List.filterMap_append, List.append_assoc]

/-- Whatever is delivered in a run is delivered during the latest build or a later one. -/
theorem generation_le_deliveries (s : Session) (operations : List Operation) :
    ∀ d ∈ s.deliveries operations, s.host.generation ≤ d.1 := by
  induction operations generalizing s with
  | nil => exact fun _ hd => absurd hd List.not_mem_nil
  | cons operation operations ih =>
    intro d hd
    rcases List.mem_append.1 hd with hd | hd
    · cases operation with
      | hostHears =>
        obtain ⟨message, -, rfl⟩ := Option.map_eq_some_iff.1 (Option.mem_toList.1 hd)
        exact Nat.le_refl _
      | _ => exact absurd hd List.not_mem_nil
    · exact Nat.le_trans (s.generation_le_step operation) (ih _ d hd)

/-- The builds of the deliveries never decrease. -/
theorem pairwise_deliveries (s : Session) (operations : List Operation) :
    (s.deliveries operations).Pairwise fun d e => d.1 ≤ e.1 := by
  induction operations generalizing s with
  | nil => exact List.Pairwise.nil
  | cons operation operations ih =>
    refine List.pairwise_append.2 ⟨?_, ih _, fun d hd e he => ?_⟩
    · cases s.delivery? operation <;> simp
    · have hle := (s.step operation).2.generation_le_deliveries operations e he
      cases operation with
      | hostHears =>
        obtain ⟨message, -, rfl⟩ := Option.map_eq_some_iff.1 (Option.mem_toList.1 hd)
        exact Nat.le_trans (s.generation_le_step .hostHears) hle
      | _ => exact absurd hd List.not_mem_nil

theorem generation_of_logged? {d : Nat × Message} {e : ConsoleEntry} (h : logged? d = some e) :
    e.generation = d.1 := by
  obtain ⟨generation, message⟩ := d
  cases message with
  | console level args => rw [← Option.some.inj h]
  | _ => exact nomatch h

end Session

/-- **The bridge reports exactly what happens, and the host hears each report once.** In every run,
what the bridge has handed out and what is left in its outbox is what is due, in order; what has been
delivered to the host and what is left in the queue is what was handed out, in order; and the console of
the host is the entries among what has been delivered, each as it was sent and with the build that was
the latest when it came. -/
theorem run_reports_once (window : Nat) (origin : String) (operations : List Operation)
    (hg : ∀ operation ∈ operations, operation.Genuine window) :
    let start := Session.start window origin
    let handed := handedOut operations (start.run operations).1
    let s := (start.run operations).2
    handed ++ s.bridge.outbox = start.dues 0 operations ∧
      (start.deliveries operations).map (·.2) ++ s.toHost = handed ∧
      s.host.console = (start.deliveries operations).filterMap Session.logged? ∧
      (s.host.console.map (·.generation)).Pairwise (· ≤ ·) := by
  intro start handed s
  have hconsole : s.host.console = (start.deliveries operations).filterMap Session.logged? :=
    Session.console_run operations hg
  refine ⟨(Session.outbox_run operations rfl).symm, (start.toHost_run operations).symm, hconsole, ?_⟩
  rw [hconsole, List.pairwise_map]
  refine (start.pairwise_deliveries operations).filterMap _ fun d e hle a ha b hb => ?_
  rw [Session.generation_of_logged? ha, Session.generation_of_logged? hb]
  exact hle

/-- A document comes before the inner frame is ready, another one after it has loaded twice; the
entries of its console are delivered while builds go on, and with a false entry of another window in
between. -/
theorem run_reports_once_chatty :
    let entry (text : String) : Message := .console .log [.string text]
    let operations : List Operation := [
      .bridgeReceives "https://a.test" (.setHtml "<p>a</p>"), .innerLoaded, .innerLoaded,
      .innerSends (entry "a"), .bridgePosts, .beginBuild, .hostHears, .hostHears, .hostHears,
      .bridgeReceives "https://b.test" (.setHtml "<p>b</p>"), .innerSends .accepted,
      .hostReceives 8 (entry "false"), .innerSends (entry "b"), .setContent "<p>c</p>", .bridgePosts,
      .hostHears, .innerLoaded]
    let start := Session.start 7 "https://a.test"
    let s := (start.run operations).2
    (∀ operation ∈ operations, operation.Genuine 7) ∧
      start.dues 0 operations = [.accepted, .loaded, entry "a", entry "b", .loaded] ∧
      (start.deliveries operations).map (·.2) = [.accepted, .loaded, entry "a", entry "b"] ∧
      (start.deliveries operations).filterMap Session.logged? =
        [⟨1, .log, [.string "a"]⟩, ⟨2, .log, [.string "b"]⟩] ∧
      s.bridge.outbox = [.loaded] ∧ s.toHost = [] := by
  intro entry operations start s
  have hg : ∀ operation ∈ operations, operation.Genuine 7 := by
    intro operation ho
    simp only [operations, List.mem_cons, List.not_mem_nil, or_false] at ho
    rcases ho with rfl | rfl | rfl | rfl | rfl | rfl | rfl | rfl | rfl | rfl | rfl | rfl | rfl | rfl |
      rfl | rfl | rfl
    all_goals first | trivial | exact (by decide : 8 ≠ 7)
  obtain ⟨hdues, hqueue, hconsole, -⟩ := run_reports_once 7 "https://a.test" operations hg
  have hhanded : handedOut operations (start.run operations).1 =
    [.accepted, .loaded, entry "a", entry "b"] := rfl
  have houtbox : s.bridge.outbox = [.loaded] := rfl
  have hempty : s.toHost = [] := rfl
  have hentries : s.host.console = [⟨1, .log, [.string "a"]⟩, ⟨2, .log, [.string "b"]⟩] := rfl
  rw [hhanded, houtbox] at hdues
  rw [hhanded, hempty, List.append_nil] at hqueue
  exact ⟨hg, hdues.symm, hqueue, hconsole.symm.trans hentries, houtbox, hempty⟩

end LivePreview.Frame
