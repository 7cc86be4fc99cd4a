import LivePreview.Json.Reading
/-!
# LivePreview.Proofs.Json.Record

**What a reading that succeeds has read.** Every step of it has succeeded (`bind_eq_ok_iff`); a field
that may be given once was not given before; and the members of a record are put into the draft one
after the other, so what every field keeps is kept by all of them.
-/

namespace LivePreview.Json

variable {α β δ : Type}

/-- Steps that follow each other succeed together. -/
theorem bind_eq_ok_iff {ε : Type} {first : Except ε α} {second : α → Except ε β} {result : β} :
    (first >>= second) = .ok result ↔ ∃ value, first = .ok value ∧ second value = .ok result := by
  cases first <;> simp [bind, Except.bind]

/-- A text that is read as a value of a type is a tree that is. -/
theorem reading_of_parse {reading : Reading α} {json : String} {value : α}
    (h : parse reading json = .ok value) : reading (read json.toList).1 = .ok value := by
  unfold parse at h
  cases hread : read json.toList with
  | mk tree behind =>
    rw [hread] at h
    obtain ⟨result, hresult, hbehind⟩ := bind_eq_ok_iff.1 h
    have hsame : result = value := by
      cases behind with
      | none => exact nomatch hbehind
      | some rest =>
        dsimp only at hbehind
        split at hbehind
        · exact Except.ok.inj hbehind
        · exact nomatch hbehind
    exact hsame ▸ hresult

theorem once_eq_ok_iff {name : String} {old : δ → Option α} {reading : Reading α} {keep : δ → α → δ}
    {tree : Tree} {draft next : δ} :
    once name old reading keep tree draft = .ok next ↔
      old draft = none ∧ ∃ value, reading tree = .ok value ∧ keep draft value = next := by
  unfold once
  cases old draft with
  | some value => simp
  | none => cases reading tree <;> simp [bind, Except.bind, pure, Except.pure]

theorem mismatch_ne_ok {expected : String} {tree : Tree} {value : α} :
    mismatch expected tree ≠ .ok value := by
  intro h
  obtain ⟨found, -, h⟩ := bind_eq_ok_iff.1 h
  exact nomatch h

theorem list_eq_ok_iff {reading : Reading α} {tree : Tree} {values : List α} :
    list reading tree = .ok values ↔
      ∃ items, tree = .array items ∧ items.mapM reading = .ok values := by
  cases tree with
  | array items => simp [list]
  | _ => simp [list, mismatch_ne_ok]

/-! ### Objects of texts -/

/-- The tree of an object of texts. -/
def textObject (entries : List (String × String)) : Tree :=
  .object (entries.map fun entry => (.string (.ok entry.1), .string (.ok entry.2)))

/-- An object of texts is read as the dictionary of its entries. -/
theorem dictionary_textObject (entries : List (String × String)) :
    dictionary text (textObject entries) = .ok (.ofList entries) := by
  have hfold : ∀ d : Dictionary String,
      (entries.map fun entry => (Tree.string (.ok entry.1), Tree.string (.ok entry.2))).foldlM
        (fun d member => do
          let k ← key member.1
          return d.insert k (← text member.2)) d =
        Except.ok (ε := Problem) (entries.foldl (fun d e => d.insert e.1 e.2) d) := by
    induction entries with
    | nil => exact fun _ => rfl
    | cons entry entries ih => exact fun d => ih (d.insert entry.1 entry.2)
  exact hfold .empty

/-! ### Members of records -/

namespace RecordForm

variable {form : RecordForm δ α} {draft last : δ} {members : List (Tree × Tree)}

/-- Members are put into the draft in order. -/
theorem putMembers_append (draft : δ) (before after : List (Tree × Tree)) :
    form.putMembers draft (before ++ after) =
      form.putMembers draft before >>= (form.putMembers · after) := by
  induction before generalizing draft with
  | nil => rfl
  | cons member before ih =>
    obtain ⟨name, content⟩ := member
    rw [List.cons_append, putMembers, putMembers]
    cases key name with
    | error e => rfl
    | ok field =>
      dsimp only [bind, Except.bind]
      cases form.put field with
      | none =>
        dsimp only
        cases skip content with
        | error e => rfl
        | ok _ => exact ih draft
      | some put =>
        dsimp only
        cases put content draft with
        | error e => rfl
        | ok next => exact ih next

/-- A member of a known field is put into the draft. -/
theorem putMembers_known {field : String} {put : Tree → δ → Except Problem δ}
    (hput : form.put field = some put) (content : Tree) (more : List (Tree × Tree)) :
    form.putMembers draft ((.string (.ok field), content) :: more) =
      put content draft >>= (form.putMembers · more) := by
  rw [putMembers, key]
  dsimp only [bind, Except.bind]
  rw [hput]

/-- What every member keeps is kept by all members together. -/
theorem putMembers_induction {motive : δ → Prop}
    (step : ∀ {name field put content draft next}, (name, content) ∈ members →
      form.put field = some put → put content draft = .ok next → motive draft → motive next)
    (h : form.putMembers draft members = .ok last) (hd : motive draft) : motive last := by
  induction members generalizing draft with
  | nil => exact Except.ok.inj h ▸ hd
  | cons member members ih =>
    obtain ⟨name, content⟩ := member
    rw [putMembers] at h
    obtain ⟨field, -, h⟩ := bind_eq_ok_iff.1 h
    cases hput : form.put field with
    | none =>
      rw [hput] at h
      obtain ⟨-, -, h⟩ := bind_eq_ok_iff.1 h
      exact ih (fun hm => step (List.mem_cons_of_mem _ hm)) h hd
    | some put =>
      rw [hput] at h
      obtain ⟨next, hcontent, h⟩ := bind_eq_ok_iff.1 h
      exact ih (fun hm => step (List.mem_cons_of_mem _ hm)) h
        (step List.mem_cons_self hput hcontent hd)

/-- An item of a known field is put into the draft. -/
theorem putItems_known {field : String} {put : Tree → δ → Except Problem δ}
    (hput : form.put field = some put) (fields : List String) (item : Tree) (items : List Tree) :
    form.putItems (field :: fields) draft (item :: items) =
      put item draft >>= fun next => form.putItems fields next items := by
  rw [putItems, hput]

/-- What every item keeps is kept by all items together. -/
theorem putItems_induction {motive : δ → Prop} {fields : List String} {items more : List Tree}
    (step : ∀ {field put content draft next}, content ∈ items → form.put field = some put →
      put content draft = .ok next → motive draft → motive next)
    (h : form.putItems fields draft items = .ok (last, more)) (hd : motive draft) : motive last := by
  induction fields generalizing draft items with
  | nil => exact (Prod.mk.inj (Except.ok.inj h)).1 ▸ hd
  | cons field fields ih =>
    cases items with
    | nil => exact (Prod.mk.inj (Except.ok.inj h)).1 ▸ hd
    | cons item items =>
      rw [putItems] at h
      cases hput : form.put field with
      | none =>
        rw [hput] at h
        exact ih (fun hm => step (List.mem_cons_of_mem _ hm)) h hd
      | some put =>
        rw [hput] at h
        obtain ⟨next, hcontent, h⟩ := bind_eq_ok_iff.1 h
        exact ih (fun hm => step (List.mem_cons_of_mem _ hm)) h
          (step List.mem_cons_self hput hcontent hd)

/-- The record of an array is made from a draft that its items were put into. -/
theorem readItems_eq_ok {items more : List Tree} {record : α}
    (h : form.readItems items = .ok (record, more)) :
    ∃ last, form.putItems form.fields form.empty items = .ok (last, more) ∧
      form.finish last = .ok record := by
  obtain ⟨⟨last, rest⟩, hlast, h⟩ := bind_eq_ok_iff.1 h
  dsimp only at h
  cases hfinish : form.finish last with
  | error problem =>
    rw [hfinish] at h
    cases problem <;> exact nomatch h
  | ok result =>
    rw [hfinish] at h
    obtain ⟨rfl, rfl⟩ := Prod.mk.inj (Except.ok.inj h)
    exact ⟨last, hlast, hfinish⟩

end RecordForm

end LivePreview.Json
