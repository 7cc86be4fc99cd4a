import LivePreview.Frame.Message
import LivePreview.Proofs.Json.Kept
/-!
# LivePreview.Proofs.Frame.Message

**Messages come through their text.** A message is written as an object whose text is read as the same
message (`parse_text_of_kept`), provided that the values in it are of the kind that a reader keeps. They
always are in a message that was read: its fields were kept once before the message knew its kind
(`kept_of_parse`), and a second time when they were put into it, under a higher limit, which keeps the
same. So a text that denotes a message may be written in any of the ways that denote it; what is written
of the message is one of them, and stays as it is from then on.
-/

namespace LivePreview.Frame

open Json (Problem Tree Value ItemsExact ItemsOrdered)

/-- The values in a message. -/
def Message.values : Message → List Value
  | console _ args => args
  | _ => []

namespace Message

variable {m : Message}

/-- Are the values as they are when a reader has kept them in a field? -/
def Kept (values : List Value) : Prop :=
  ItemsOrdered values ∧ Json.itemsDepth values < fieldDepth - 1

/-- A message takes one level of its text, and the arguments of an entry of the console another. -/
theorem kept_values_iff :
    Kept m.values ↔ ItemsOrdered m.values ∧ m.json.depth < Json.depthLimit := by
  have hdepth : m.json.depth < Json.depthLimit ↔ Json.itemsDepth m.values < fieldDepth - 1 := by
    cases m with
    | console level args =>
      simp only [json, values, Value.depth, Json.membersDepth, fieldDepth, Json.depthLimit]
      omega
    | _ => exact iff_of_true (show 1 < 128 by decide) (show 0 < 126 by decide)
  exact and_congr_right fun _ => hdepth.symm

/-! ### Reading what was written -/

theorem exact_json (h : ItemsExact m.values) : m.json.Exact := by
  cases m with
  | console level args => exact ⟨trivial, trivial, h, trivial⟩
  | setHtml html => exact ⟨trivial, trivial, trivial⟩
  | _ => exact ⟨trivial, trivial⟩

theorem reading_name (level : ConsoleLevel) :
    ConsoleLevel.reading (.string (.ok level.name)) = .ok level := by
  cases level <;> rfl

theorem argsReading_itemTrees {args : List Value} (hargs : Kept args) :
    argsReading (.array (Json.itemTrees args)) = .ok args := by
  rw [argsReading, Json.list, Json.mapM_value]
  exact Json.valueItems_mono _ (by decide) (Json.valueItems_trees args hargs.1 _ hargs.2)

/-- An entry of the console is read from its kind, its level and its arguments. -/
theorem reading_console (level : ConsoleLevel) {content : Tree} {kept : Value} {args : List Value}
    (hkept : Json.value fieldDepth content = .ok kept) (hargs : argsReading content = .ok args) :
    reading (.object [(.string (.ok "type"), .string (.ok Kind.console.name)),
      (.string (.ok "level"), .string (.ok level.name)), (.string (.ok "args"), content)]) =
      .ok (console level args) := by
  have htaken : takeMembers none [(.string (.ok "type"), .string (.ok Kind.console.name)),
      (.string (.ok "level"), .string (.ok level.name)), (.string (.ok "args"), content)] =
      .ok (some .console, [(.string (.ok "level"), .string (.ok level.name)),
        (.string (.ok "args"), content)]) := by
    have hkind : Kind.reading (.string (.ok Kind.console.name)) = .ok .console := rfl
    simp [takeMembers, Json.key, Json.value, hkind, hkept, bind, Except.bind, pure, Except.pure]
  have hput : Kind.console.form.putMembers {}
      [(.string (.ok "level"), .string (.ok level.name)), (.string (.ok "args"), content)] =
      .ok { level := some level, args := some args } := by
    rw [Json.RecordForm.putMembers_known (rfl : Kind.console.form.put "level" = some _), Json.once,
      reading_name]
    change Kind.console.form.putMembers { level := some level } _ = _
    rw [Json.RecordForm.putMembers_known (rfl : Kind.console.form.put "args" = some _), Json.once,
      hargs]
    rfl
  rw [reading, htaken]
  change Kind.console.form.putMembers {} _ >>= Kind.console.form.finish = _
  rw [hput]
  rfl

/-- The tree of a message is read as the message. -/
theorem reading_json (h : Kept m.values) : reading m.json.tree = .ok m := by
  cases m with
  | setHtml html => rfl
  | accepted => rfl
  | loaded => rfl
  | console level args =>
    obtain ⟨hordered, hdepth⟩ : Kept args := h
    have hkept : Json.value fieldDepth (.array (Json.itemTrees args)) = .ok (.array args) :=
      Json.value_tree (.array args) hordered _ (by rw [Value.depth]; omega)
    exact reading_console level hkept (argsReading_itemTrees ⟨hordered, hdepth⟩)

/-- A message with values that a reader keeps is read from its text. -/
theorem parse_text_of_kept (hexact : ItemsExact m.values) (hkept : Kept m.values) :
    Message.parse m.text = .ok m := by
  rw [Message.parse, Message.text, Json.parse_written (exact_json hexact), reading_json hkept]
  rfl

/-! ### What was read -/

variable {kind : Kind} {draft next : Draft} {field : String} {content : Tree} {members : List (Tree × Tree)}
  {items : List Tree} {put : Tree → Draft → Except Problem Draft}

/-- Every member besides the kind was kept. -/
theorem kept_of_takeMembers {known chosen : Option Kind} {others : List (Tree × Tree)}
    (h : takeMembers known members = .ok (chosen, others)) :
    ∀ member ∈ others, ∃ v, Json.value fieldDepth member.2 = .ok v := by
  induction members generalizing known chosen others with
  | nil =>
    obtain rfl := (Prod.mk.inj (Except.ok.inj h)).2
    exact fun _ hm => absurd hm List.not_mem_nil
  | cons member members ih =>
    obtain ⟨name, content⟩ := member
    obtain ⟨key, -, h⟩ := Json.bind_eq_ok_iff.1 h
    split at h
    · cases known with
      | some _ => exact nomatch h
      | none =>
        obtain ⟨kind, -, htaken⟩ := Json.bind_eq_ok_iff.1 h
        exact ih htaken
    · obtain ⟨v, hkept, h⟩ := Json.bind_eq_ok_iff.1 h
      obtain ⟨⟨chosen, more⟩, htaken, h⟩ := Json.bind_eq_ok_iff.1 h
      obtain rfl := (Prod.mk.inj (Except.ok.inj h)).2
      intro member hm
      rcases List.mem_cons.1 hm with rfl | hm
      · exact ⟨v, hkept⟩
      · exact ih htaken member hm

/-- Every item was kept. -/
theorem kept_of_forIn {α : Type} {result : α} (rest : Unit → Except Problem α)
    (h : (do
      for item in items do
        let _ ← Json.value fieldDepth item
      rest ()) = .ok result) :
    (∀ item ∈ items, ∃ v, Json.value fieldDepth item = .ok v) ∧ rest () = .ok result := by
  induction items with
  | nil => exact ⟨fun _ hm => absurd hm List.not_mem_nil, h⟩
  | cons item items ih =>
    rw [List.forIn_cons] at h
    cases hkept : Json.value fieldDepth item with
    | error problem =>
      rw [hkept] at h
      exact nomatch h
    | ok v =>
      rw [hkept] at h
      obtain ⟨hitems, hrest⟩ := ih h
      exact ⟨List.forall_mem_cons.2 ⟨⟨v, hkept⟩, hitems⟩, hrest⟩

/-- Arguments that are read from a field that was kept are what was kept. -/
theorem kept_of_argsReading {v : Value} {args : List Value} (hkept : Json.value fieldDepth content = .ok v)
    (hargs : argsReading content = .ok args) : Kept args := by
  obtain ⟨items, rfl, hitems⟩ := Json.list_eq_ok_iff.1 hargs
  obtain ⟨kept, hvalues, -⟩ := Json.bind_eq_ok_iff.1 (hkept : Json.valueItems (fieldDepth - 1) items >>= _ = _)
  rw [Json.mapM_value, Json.valueItems_mono items (by decide) hvalues] at hitems
  obtain rfl := Except.ok.inj hitems
  exact Json.kept_valueItems items (by decide) hvalues

/-- What a field puts into the draft of a message was kept. -/
theorem kept_of_put {v : Value} (hput : kind.form.put field = some put)
    (hkept : Json.value fieldDepth content = .ok v) (h : put content draft = .ok next)
    (hdraft : ∀ args ∈ draft.args, Kept args) : ∀ args ∈ next.args, Kept args := by
  change Draft.put kind field = some put at hput
  unfold Draft.put at hput
  split at hput
  case h_4 => exact nomatch hput
  all_goals
    obtain ⟨-, value, hvalue, rfl⟩ := Json.once_eq_ok_iff.1 (Option.some.inj hput ▸ h)
  case h_3 =>
    rintro args ⟨⟩
    exact kept_of_argsReading hkept hvalue
  all_goals exact hdraft

/-- The message of a draft has the values of the draft. -/
theorem kept_of_finish (h : kind.form.finish draft = .ok m) (hdraft : ∀ args ∈ draft.args, Kept args) :
    Kept m.values := by
  have hnone : Kept [] := ⟨trivial, by decide⟩
  cases kind with
  | accepted => exact Except.ok.inj h ▸ hnone
  | loaded => exact Except.ok.inj h ▸ hnone
  | setHtml =>
    obtain ⟨html, -, h⟩ := Json.bind_eq_ok_iff.1 h
    exact Except.ok.inj h ▸ hnone
  | console =>
    obtain ⟨level, -, h⟩ := Json.bind_eq_ok_iff.1 h
    rw [← Except.ok.inj h]
    cases hargs : draft.args with
    | none => exact hnone
    | some args => exact hdraft args hargs

/-- A message whose fields stand in an array has values that were kept. -/
theorem kept_of_readItems (hitems : ∀ item ∈ items, ∃ v, Json.value fieldDepth item = .ok v)
    (h : kind.readItems items = .ok m) : Kept m.values := by
  obtain ⟨⟨record, more⟩, hread, h⟩ := Json.bind_eq_ok_iff.1 h
  dsimp only at h
  split at h
  · obtain rfl := Except.ok.inj h
    obtain ⟨last, hlast, hfinish⟩ := Json.RecordForm.readItems_eq_ok hread
    refine kept_of_finish hfinish (Json.RecordForm.putItems_induction
      (motive := fun d => ∀ args ∈ d.args, Kept args) (fun hm hput hnext hdraft => ?_) hlast nofun)
    obtain ⟨v, hkept⟩ := hitems _ hm
    exact kept_of_put hput hkept hnext hdraft
  · exact nomatch h

/-- The values of a message that was read are as a reader keeps them. -/
theorem kept_of_reading {tree : Tree} (h : reading tree = .ok m) : Kept m.values := by
  unfold reading at h
  split at h
  · obtain ⟨⟨known, others⟩, htaken, h⟩ := Json.bind_eq_ok_iff.1 h
    obtain ⟨kind, -, h⟩ := Json.bind_eq_ok_iff.1 h
    obtain ⟨last, hlast, hfinish⟩ := Json.bind_eq_ok_iff.1 h
    refine kept_of_finish hfinish (Json.RecordForm.putMembers_induction
      (motive := fun d => ∀ args ∈ d.args, Kept args) (fun hm hput hnext hdraft => ?_) hlast nofun)
    obtain ⟨v, hkept⟩ := kept_of_takeMembers htaken _ hm
    exact kept_of_put hput hkept hnext hdraft
  · exact nomatch h
  · obtain ⟨kind, -, h⟩ := Json.bind_eq_ok_iff.1 h
    obtain ⟨hitems, h⟩ := kept_of_forIn (fun _ => kind.readItems _) h
    exact kept_of_readItems hitems h
  · exact absurd h Json.mismatch_ne_ok

theorem kept_of_parse {text : String} (h : Message.parse text = .ok m) : Kept m.values := by
  rw [Message.parse] at h
  cases hread : Json.parse reading text with
  | error problem =>
    rw [hread] at h
    exact nomatch h
  | ok result =>
    rw [hread] at h
    obtain rfl := Except.ok.inj h
    exact kept_of_reading (Json.reading_of_parse hread)

/-- A message comes back from its text, if its numbers are exact, the members of its objects in order
and its values no deeper than a reader goes. Of a message that is read from any text only the numbers
need to be exact: it comes back from the text that is written of it, which therefore stays the same. -/
theorem parse_text :
    (∀ m : Message, ItemsExact m.values → ItemsOrdered m.values → m.json.depth < Json.depthLimit →
      Message.parse m.text = .ok m) ∧
    ∀ (text : String) (m : Message), Message.parse text = .ok m → ItemsExact m.values →
      Message.parse m.text = .ok m ∧ (Message.parse m.text).map Message.text = .ok m.text := by
  constructor
  · intro m hexact hordered hdepth
    exact parse_text_of_kept hexact (kept_values_iff.2 ⟨hordered, hdepth⟩)
  · intro text m hparse hexact
    have hagain : Message.parse m.text = .ok m := parse_text_of_kept hexact (kept_of_parse hparse)
    exact ⟨hagain, by rw [hagain]; rfl⟩

/-- An entry of the console with every kind of value. -/
def mixedEntry : Message :=
  .console .warn [.null, .string "\"\x01😀\n", .object [("a", .number (.integer (-(2 ^ 63)))),
    ("b", .array [.bool true, .number (.integer (2 ^ 64 - 1))])]]

/-- Another text of the entry: its kind comes last, there is a field that messages do not have, a member
of the object is given twice, and some characters are escaped. -/
def mixedText : String :=
  " \x7b\"args\": [null, \"\\u0022\\u0001\\ud83d\\uDE00\\n\", \x7b\"b\":[true,18446744073709551615],\"a\":0,"
    ++ "\"a\":-9223372036854775808\x7d],\n\"x\": 1.5, \"level\" :\"warn\",\"type\":\"console\"\x7d"

theorem parse_text_mixed :
    Message.parse mixedEntry.text = .ok mixedEntry ∧
    ∃ m, Message.parse mixedText = .ok m ∧ m.text = mixedEntry.text ∧ Message.parse m.text = .ok m := by
  have hordered : ItemsOrdered mixedEntry.values := by
    refine ⟨trivial, trivial, ⟨?_, trivial, ?_, trivial⟩, trivial⟩
    · decide
    · exact ⟨trivial, trivial, trivial⟩
  refine ⟨parse_text.1 mixedEntry (by decide) hordered (by decide), ?_⟩
  have hread : (match Message.parse mixedText with
      | .ok m => m.text == mixedEntry.text && decide (ItemsExact m.values)
      | .error _ => false) = true := by
    decide +kernel
  cases hparse : Message.parse mixedText with
  | error e =>
    rw [hparse] at hread
    exact nomatch hread
  | ok m =>
    rw [hparse, Bool.and_eq_true, beq_iff_eq, decide_eq_true_iff] at hread
    exact ⟨m, rfl, hread.1, (parse_text.2 mixedText m hparse hread.2).1⟩

end Message

end LivePreview.Frame
