/-!
# LivePreview.Dictionary

A **dictionary** maps texts to values and lists its entries in ascending order of the keys,
compared code point by code point. The order is part of the type, so two dictionaries with the
same entries are equal, and whatever is written from one comes out in one order only.
-/

namespace LivePreview

/-- Entries in strictly ascending order of their keys. -/
structure Dictionary (α : Type) where
  /-- The entries. -/
  entries : List (String × α)
  /-- The keys ascend. -/
  ascending : entries.Pairwise (·.1 < ·.1)

namespace Dictionary

variable {α : Type}

/-- The dictionary without entries. -/
def empty : Dictionary α := ⟨[], .nil⟩

instance : Inhabited (Dictionary α) := ⟨empty⟩

instance : EmptyCollection (Dictionary α) := ⟨empty⟩

/-- Puts an entry in its place; an entry with the same key gives way. -/
def insertEntry (key : String) (value : α) : List (String × α) → List (String × α)
  | [] => [(key, value)]
  | (k, v) :: rest =>
    if key < k then (key, value) :: (k, v) :: rest
    else if k < key then (k, v) :: insertEntry key value rest
    else (key, value) :: rest

theorem mem_insertEntry {key : String} {value : α} {entries : List (String × α)}
    {entry : String × α} (h : entry ∈ insertEntry key value entries) :
    entry = (key, value) ∨ entry ∈ entries := by
  induction entries with
  | nil => simpa [insertEntry] using h
  | cons e rest ih =>
    obtain ⟨k, v⟩ := e
    simp only [insertEntry] at h
    split at h
    · simpa using h
    · split at h
      · simp only [List.mem_cons] at h ⊢
        rcases h with h | h
        · exact .inr (.inl h)
        · exact (ih h).imp id .inr
      · simp only [List.mem_cons] at h ⊢
        exact h.imp id .inr

/-- Texts that are in neither order are equal. -/
theorem eq_of_not_lt {a b : String} (h₁ : ¬a < b) (h₂ : ¬b < a) : a = b :=
  String.le_antisymm h₂ h₁

theorem insertEntry_ascending (key : String) (value : α) {entries : List (String × α)}
    (h : entries.Pairwise (·.1 < ·.1)) : (insertEntry key value entries).Pairwise (·.1 < ·.1) := by
  induction entries with
  | nil => simp [insertEntry]
  | cons e rest ih =>
    obtain ⟨k, v⟩ := e
    rw [List.pairwise_cons] at h
    simp only [insertEntry]
    split
    · next hk =>
      refine List.pairwise_cons.2 ⟨?_, List.pairwise_cons.2 h⟩
      intro e he
      rcases List.mem_cons.1 he with rfl | he
      · exact hk
      · exact String.lt_trans hk (h.1 e he)
    · split
      · next hk =>
        refine List.pairwise_cons.2 ⟨?_, ih h.2⟩
        intro e he
        rcases mem_insertEntry he with rfl | he
        · exact hk
        · exact h.1 e he
      · next h₁ h₂ =>
        refine List.pairwise_cons.2 ⟨?_, h.2⟩
        intro e he
        have := h.1 e he
        rwa [eq_of_not_lt h₂ h₁] at this

/-- The dictionary with one entry put in or replaced. -/
def insert (d : Dictionary α) (key : String) (value : α) : Dictionary α :=
  ⟨insertEntry key value d.entries, insertEntry_ascending key value d.ascending⟩

/-- The value of a key. -/
def get? (d : Dictionary α) (key : String) : Option α :=
  (d.entries.find? (·.1 == key)).map (·.2)

/-- Has the key a value? -/
def contains (d : Dictionary α) (key : String) : Bool :=
  d.entries.any (·.1 == key)

/-- The number of entries. -/
def size (d : Dictionary α) : Nat :=
  d.entries.length

/-- The keys, in ascending order. -/
def keys (d : Dictionary α) : List String :=
  d.entries.map (·.1)

/-- The dictionary of a list of entries; of two with one key the later counts. -/
def ofList (entries : List (String × α)) : Dictionary α :=
  entries.foldl (fun d e => d.insert e.1 e.2) empty

@[ext] theorem ext {a b : Dictionary α} (h : a.entries = b.entries) : a = b := by
  cases a; cases b; simp_all

/-- The new value is found under its key, and nothing else changes. -/
theorem find?_insertEntry (key k : String) (value : α) (entries : List (String × α))
    (h : entries.Pairwise (·.1 < ·.1)) :
    ((insertEntry key value entries).find? (·.1 == k)).map (·.2) =
      if k = key then some value else (entries.find? (·.1 == k)).map (·.2) := by
  induction entries with
  | nil =>
    by_cases hk : k = key
    · simp [insertEntry, hk]
    · simp [insertEntry, hk, Ne.symm hk]
  | cons e rest ih =>
    obtain ⟨k', v⟩ := e
    rw [List.pairwise_cons] at h
    simp only [insertEntry]
    split
    · by_cases hk : k = key
      · simp [hk]
      · simp [hk, Ne.symm hk]
    · split
      · next h₁ h₂ =>
        by_cases hk : k = key
        · have hne : k' ≠ k := by
            rintro rfl
            exact String.lt_irrefl _ (hk ▸ h₂)
          have hb : (k' == k) = false := by simp [hne]
          rw [List.find?_cons, hb]
          simpa [hk] using ih h.2
        · rw [List.find?_cons, List.find?_cons]
          cases hb : k' == k
          · simpa [hk] using ih h.2
          · simp [hk]
      · next h₁ h₂ =>
        have hkk := eq_of_not_lt h₁ h₂
        by_cases hk : k = key
        · simp [hk]
        · simp [hk, Ne.symm hk, ← hkk]

theorem get?_insert (d : Dictionary α) (key k : String) (value : α) :
    (d.insert key value).get? k = if k = key then some value else d.get? k :=
  find?_insertEntry key k value d.entries d.ascending

@[simp] theorem get?_empty (k : String) : (empty : Dictionary α).get? k = none := rfl

end Dictionary

end LivePreview
