import Mathlib.Tactic.ByContra
import LivePreview.Proofs.Dictionary
import LivePreview.Proofs.Json.Record
import LivePreview.Proofs.Json.Written
/-!
# LivePreview.Proofs.Json.Fields

**Records and dictionaries member by member.** The draft of a record keeps its fields apart from each
other (`Fields`), so the order of the members does not matter: members that name each field at most once
are put into the draft whatever stands between them that the record does not know
(`Fields.putMembers_textTrees`). In the same way the entries of a dictionary may be written in any order
(`dictionary_textTrees`).
-/

namespace LivePreview.Json

variable {α δ ι : Type}

/-! ### Records -/

namespace RecordForm

variable {form : RecordForm δ α} {draft : δ}

/-- A member of a field that the record does not know is passed over. -/
theorem putMembers_unknown {field : String} (hput : form.put field = none) {content : Tree}
    (hskip : skip content = .ok ()) (more : List (Tree × Tree)) :
    form.putMembers draft ((.string (.ok field), content) :: more) = form.putMembers draft more := by
  rw [putMembers, key]
  dsimp only [bind, Except.bind]
  rw [hput]
  dsimp only
  rw [hskip]

/-- The fields of a record, each kept in a place of its own. -/
structure Fields (form : RecordForm δ α) (ι : Type) where
  name : ι → String
  Content : ι → Type
  reading : (i : ι) → Reading (Content i)
  get : (i : ι) → δ → Option (Content i)
  set : (i : ι) → δ → Content i → δ
  name_injective : Function.Injective name
  put_name : ∀ i, form.put (name i) = some (once (name i) (get i) (reading i) (set i))
  put_other : ∀ field, (∀ i, name i ≠ field) → form.put field = none
  get_set : ∀ i draft x, get i (set i draft x) = some x
  get_set_of_ne : ∀ i j draft x, i ≠ j → get i (set j draft x) = get i draft
  get_empty : ∀ i, get i form.empty = none

namespace Fields

variable {fields : Fields form ι} {members : List (String × Value)}

/-- Members are put into the draft if each field is named at most once, counting what the draft has. -/
theorem exists_putMembers (draft : δ)
    (hfree : ∀ i, (fields.get i draft).isSome → fields.name i ∉ members.map (·.1))
    (honce : ∀ i, (members.map (·.1)).count (fields.name i) ≤ 1)
    (hread : ∀ i v, (fields.name i, v) ∈ members → ∃ x, fields.reading i v.textTree = .ok x) :
    ∃ last, form.putMembers draft (memberTextTrees members) = .ok last ∧
      (∀ i, fields.name i ∉ members.map (·.1) → fields.get i last = fields.get i draft) ∧
      ∀ i v, (fields.name i, v) ∈ members →
        ∃ x, fields.reading i v.textTree = .ok x ∧ fields.get i last = some x := by
  induction members generalizing draft with
  | nil => exact ⟨draft, rfl, fun _ _ => rfl, fun _ _ hm => absurd hm List.not_mem_nil⟩
  | cons member members ih =>
    obtain ⟨name, v⟩ := member
    simp only [List.map_cons, List.mem_cons, Prod.mk.injEq] at hfree hread ⊢
    simp only [List.map_cons, List.count_cons] at honce
    have hmore : ∀ i, (members.map (·.1)).count (fields.name i) ≤ 1 := fun i =>
      Nat.le_trans (Nat.le_add_right _ _) (honce i)
    have hbehind : ∀ i v, (fields.name i, v) ∈ members → ∃ x, fields.reading i v.textTree = .ok x :=
      fun i v hm => hread i v (.inr hm)
    by_cases hname : ∃ i, fields.name i = name
    · obtain ⟨i, rfl⟩ := hname
      obtain ⟨x, hx⟩ := hread i v (.inl ⟨rfl, rfl⟩)
      have hnew : fields.get i draft = none := by
        by_contra hsome
        exact hfree i (Option.isSome_iff_ne_none.2 hsome) (.inl rfl)
      have hlater : fields.name i ∉ members.map (·.1) := by
        have hcount := honce i
        simp only [BEq.rfl, if_true] at hcount
        exact List.count_eq_zero.1 (by omega)
      have hset : ∀ j, (fields.get j (fields.set i draft x)).isSome →
          fields.name j ∉ members.map (·.1) := by
        intro j hj hm
        by_cases he : j = i
        · exact hlater (he ▸ hm)
        · rw [fields.get_set_of_ne j i _ _ he] at hj
          exact hfree j hj (.inr hm)
      obtain ⟨last, hlast, hkept, hgiven⟩ := ih (fields.set i draft x) hset hmore hbehind
      refine ⟨last, ?_, fun j hj => ?_, fun j w hm => ?_⟩
      · rw [memberTextTrees, putMembers_known (fields.put_name i),
          once_eq_ok_iff.2 ⟨hnew, x, hx, rfl⟩]
        exact hlast
      · rw [not_or] at hj
        rw [hkept j hj.2, fields.get_set_of_ne j i _ _ fun he => hj.1 (he ▸ rfl)]
      · rcases hm with ⟨hsame, rfl⟩ | hm
        · obtain rfl := fields.name_injective hsame
          exact ⟨x, hx, by rw [hkept j hlater, fields.get_set]⟩
        · exact hgiven j w hm
    · have hunknown : form.put name = none := fields.put_other name fun i hi => hname ⟨i, hi⟩
      obtain ⟨last, hlast, hkept, hgiven⟩ := ih draft (fun j hj hm => hfree j hj (.inr hm)) hmore hbehind
      refine ⟨last, ?_, fun j hj => hkept j fun hm => hj (.inr hm), fun j w hm => ?_⟩
      · rw [memberTextTrees, putMembers_unknown hunknown (skip_textTree v)]
        exact hlast
      · rcases hm with ⟨hsame, -⟩ | hm
        · exact absurd ⟨j, hsame⟩ hname
        · exact hgiven j w hm

/-- **Members are put into the draft field by field**, whatever their order and whatever else there
is. -/
theorem putMembers_textTrees {content : (i : ι) → fields.Content i}
    (honce : ∀ i, (members.map (·.1)).count (fields.name i) ≤ 1)
    (hread : ∀ i v, (fields.name i, v) ∈ members → fields.reading i v.textTree = .ok (content i)) :
    ∃ last, form.putMembers form.empty (memberTextTrees members) = .ok last ∧
      ∀ i, fields.get i last =
        if fields.name i ∈ members.map (·.1) then some (content i) else none := by
  obtain ⟨last, hlast, hkept, hgiven⟩ := fields.exists_putMembers form.empty
    (fun i hsome => by rw [fields.get_empty] at hsome; cases hsome) honce
    (fun i v hm => ⟨content i, hread i v hm⟩)
  refine ⟨last, hlast, fun i => ?_⟩
  split
  · next hname =>
    obtain ⟨⟨name, v⟩, hm, he⟩ := List.mem_map.1 hname
    obtain rfl : name = fields.name i := he
    obtain ⟨x, hx, hlast⟩ := hgiven i v hm
    rw [hlast, Except.ok.inj (hx.symm.trans (hread i v hm))]
  · next hname => rw [hkept i hname, fields.get_empty]

end Fields

end RecordForm

/-! ### Dictionaries -/

/-- Takes a member of an object into a dictionary. -/
def takeMember (reading : Reading α) (d : Dictionary α) (member : Tree × Tree) :
    Except Problem (Dictionary α) := do
  let k ← key member.1
  return d.insert k (← reading member.2)

section Entries

variable {reading : Reading α} {d : Dictionary α} {members : List (String × Value)}

theorem takeMember_text {name : String} {v : Value} {x : α} (hx : reading v.textTree = .ok x) :
    takeMember reading d (.string (.ok name), v.textTree) = .ok (d.insert name x) := by
  rw [takeMember, key, hx]
  rfl

/-- Entries that are those of a dictionary under their keys are found under them, and whatever was
there before is found under all other keys. -/
theorem exists_foldlM_textTrees (start : Dictionary α) (hkeys : ∀ key ∈ members.map (·.1), key ∈ d.keys)
    (hread : ∀ key v, (key, v) ∈ members → ∀ x ∈ d.get? key, reading v.textTree = .ok x) :
    ∃ last, (memberTextTrees members).foldlM (takeMember reading) start = .ok last ∧
      ∀ key, (key ∈ members.map (·.1) → last.get? key = d.get? key) ∧
        (key ∉ members.map (·.1) → last.get? key = start.get? key) := by
  induction members generalizing start with
  | nil => exact ⟨start, rfl, fun key => ⟨fun hm => absurd hm List.not_mem_nil, fun _ => rfl⟩⟩
  | cons member members ih =>
    obtain ⟨name, v⟩ := member
    obtain ⟨x, hx⟩ := Dictionary.exists_of_mem_keys (hkeys name List.mem_cons_self)
    have hv : reading v.textTree = .ok x := hread name v List.mem_cons_self x hx
    obtain ⟨last, hlast, hget⟩ := ih (start.insert name x)
      (fun k hm => hkeys k (List.mem_cons_of_mem _ hm)) fun k w hm => hread k w (List.mem_cons_of_mem _ hm)
    refine ⟨last, ?_, fun k => ?_⟩
    · rw [memberTextTrees, List.foldlM_cons, takeMember_text hv]
      exact hlast
    · obtain ⟨hnamed, hother⟩ := hget k
      rw [Dictionary.get?_insert] at hother
      rw [List.map_cons, List.mem_cons]
      by_cases hmore : k ∈ members.map (·.1)
      · exact ⟨fun _ => hnamed hmore, fun hnot => absurd (.inr hmore) hnot⟩
      · have hlater := hother hmore
        split at hlater
        · next hsame => exact ⟨fun _ => by rw [hlater, hsame, hx], fun hnot => absurd (.inl hsame) hnot⟩
        · next hsame => exact ⟨fun hm => absurd hm (not_or.2 ⟨hsame, hmore⟩), fun _ => hlater⟩

/-- **A dictionary is read from its entries in any order.** -/
theorem dictionary_textTrees (hkeys : ∀ key, key ∈ members.map (·.1) ↔ key ∈ d.keys)
    (hread : ∀ key v, (key, v) ∈ members → ∀ x ∈ d.get? key, reading v.textTree = .ok x) :
    dictionary reading (.object (memberTextTrees members)) = .ok d := by
  obtain ⟨last, hlast, hget⟩ := exists_foldlM_textTrees .empty (fun key => (hkeys key).1) hread
  have hsame : last = d := by
    refine Dictionary.ext_get? fun key => ?_
    by_cases hm : key ∈ members.map (·.1)
    · exact (hget key).1 hm
    · rw [(hget key).2 hm, Dictionary.get?_empty,
        Dictionary.get?_of_not_mem_keys fun hk => hm ((hkeys key).2 hk)]
  rw [← hsame]
  exact hlast

end Entries

end LivePreview.Json
