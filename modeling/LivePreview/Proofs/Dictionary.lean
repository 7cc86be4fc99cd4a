import LivePreview.Dictionary
/-!
# LivePreview.Proofs.Dictionary

**Keys and entries.** The keys of a dictionary are the texts that have a value, one each. Entries that are
listed in ascending order of their keys make up a dictionary of just these entries
(`entries_ofList`).
-/

namespace LivePreview

namespace Dictionary

variable {α : Type} {d : Dictionary α} {entries : List (String × α)} {key : String} {value : α}

theorem mem_entries_of_get? (h : d.get? key = some value) : (key, value) ∈ d.entries := by
  obtain ⟨entry, hf, rfl⟩ := Option.map_eq_some_iff.1 h
  have hkey : entry.1 = key := by simpa using List.find?_some hf
  rw [← hkey]
  exact List.mem_of_find?_eq_some hf

theorem mem_keys_of_get? (h : d.get? key = some value) : key ∈ d.keys :=
  List.mem_map_of_mem (mem_entries_of_get? h)

/-- A dictionary has one value for each key. -/
theorem get?_of_mem (h : (key, value) ∈ d.entries) : d.get? key = some value := by
  have hfirst : ∀ {entries : List (String × α)}, entries.Pairwise (·.1 < ·.1) →
      (key, value) ∈ entries → entries.find? (·.1 == key) = some (key, value) := by
    intro entries hascending hm
    induction entries with
    | nil => exact absurd hm List.not_mem_nil
    | cons entry rest ih =>
      rw [List.pairwise_cons] at hascending
      rcases List.mem_cons.1 hm with rfl | hm
      · simp
      · have hne : entry.1 ≠ key := fun he =>
          String.lt_irrefl _ (he ▸ hascending.1 _ hm)
        rw [List.find?_cons_of_neg (by simpa using hne), ih hascending.2 hm]
  rw [get?, hfirst d.ascending h]
  rfl

/-- A dictionary is what is found under its keys. -/
theorem ext_get? {a b : Dictionary α} (h : ∀ key, a.get? key = b.get? key) : a = b := by
  have hmem (entry : String × α) : entry ∈ a.entries ↔ entry ∈ b.entries :=
    ⟨fun hm => mem_entries_of_get? ((h entry.1).symm.trans (get?_of_mem hm)),
      fun hm => mem_entries_of_get? ((h entry.1).trans (get?_of_mem hm))⟩
  have hnodup (d : Dictionary α) : d.entries.Nodup :=
    d.ascending.imp fun {x y} hlt (he : x = y) => String.lt_irrefl y.1 (he ▸ hlt)
  have hperm : a.entries.Perm b.entries := (List.perm_ext_iff_of_nodup (hnodup a) (hnodup b)).2 hmem
  refine Dictionary.ext (hperm.eq_of_pairwise (fun x y _ _ hxy hyx => ?_) a.ascending b.ascending)
  exact absurd (String.lt_trans hxy hyx) (String.lt_irrefl _)

theorem exists_of_mem_keys (h : key ∈ d.keys) : ∃ value, d.get? key = some value := by
  obtain ⟨entry, he, rfl⟩ := List.mem_map.1 h
  exact ⟨entry.2, get?_of_mem he⟩

theorem get?_of_not_mem_keys (h : key ∉ d.keys) : d.get? key = none :=
  Option.eq_none_iff_forall_ne_some.2 fun _ hvalue => h (mem_keys_of_get? hvalue)

theorem mem_keys_insert {other : String} :
    key ∈ (d.insert other value).keys ↔ key = other ∨ key ∈ d.keys := by
  constructor
  · intro h
    obtain ⟨found, hfound⟩ := exists_of_mem_keys h
    rw [get?_insert] at hfound
    split at hfound
    · next he => exact .inl he
    · exact .inr (mem_keys_of_get? hfound)
  · rintro (rfl | h)
    · exact mem_keys_of_get? ((get?_insert d key key value).trans (if_pos rfl))
    · by_cases he : key = other
      · exact mem_keys_of_get? ((get?_insert d other key value).trans (if_pos he))
      · obtain ⟨found, hfound⟩ := exists_of_mem_keys h
        exact mem_keys_of_get? ((get?_insert d other key value).trans ((if_neg he).trans hfound))

/-- The keys are those of the entries. -/
theorem mem_keys_ofList : key ∈ (ofList entries).keys ↔ key ∈ entries.map (·.1) := by
  have hfold : ∀ d : Dictionary α, key ∈ (entries.foldl (fun d e => d.insert e.1 e.2) d).keys ↔
      key ∈ entries.map (·.1) ∨ key ∈ d.keys := by
    induction entries with
    | nil => simp
    | cons entry entries ih =>
      intro d
      rw [List.foldl_cons, ih, mem_keys_insert, List.map_cons, List.mem_cons, or_left_comm, or_assoc]
  exact (hfold .empty).trans (or_iff_left List.not_mem_nil)

theorem mem_ofList {e : String × α} (h : e ∈ (ofList entries).entries) : e ∈ entries := by
  have hfold : ∀ d : Dictionary α,
      e ∈ (entries.foldl (fun d e => d.insert e.1 e.2) d).entries → e ∈ entries ∨ e ∈ d.entries := by
    clear h
    induction entries with
    | nil => exact fun d h => .inr h
    | cons entry entries ih =>
      intro d h
      rcases ih _ h with h | h
      · exact .inl (List.mem_cons_of_mem _ h)
      · rcases mem_insertEntry h with rfl | h
        · exact .inl List.mem_cons_self
        · exact .inr h
  exact (hfold .empty h).resolve_right List.not_mem_nil

/-! ### Entries in order -/

theorem insertEntry_of_forall_lt (h : ∀ entry ∈ entries, entry.1 < key)
    (value : α) : insertEntry key value entries = entries ++ [(key, value)] := by
  induction entries with
  | nil => rfl
  | cons entry entries ih =>
    have hlt : entry.1 < key := h entry List.mem_cons_self
    have hnot : ¬key < entry.1 := fun hgt => String.lt_irrefl _ (String.lt_trans hlt hgt)
    rw [insertEntry, if_neg hnot, if_pos hlt, ih fun other ho => h other (List.mem_cons_of_mem _ ho)]
    rfl

/-- Entries in ascending order stay as they are. -/
theorem entries_ofList (h : entries.Pairwise (·.1 < ·.1)) :
    (ofList entries).entries = entries := by
  have hfold : ∀ d : Dictionary α, (∀ front ∈ d.entries, ∀ entry ∈ entries, front.1 < entry.1) →
      (entries.foldl (fun d e => d.insert e.1 e.2) d).entries = d.entries ++ entries := by
    induction entries with
    | nil => simp
    | cons entry entries ih =>
      intro d hd
      rw [List.pairwise_cons] at h
      have hinsert : (d.insert entry.1 entry.2).entries = d.entries ++ [entry] :=
        insertEntry_of_forall_lt (fun front hf => hd front hf entry List.mem_cons_self) entry.2
      rw [List.foldl_cons, ih h.2, hinsert, List.append_assoc, List.singleton_append]
      intro front hf other ho
      rw [hinsert, List.mem_append, List.mem_singleton] at hf
      rcases hf with hf | rfl
      · exact hd front hf other (List.mem_cons_of_mem _ ho)
      · exact h.1 other ho
  exact hfold .empty fun _ hf => absurd hf List.not_mem_nil

end Dictionary

end LivePreview
