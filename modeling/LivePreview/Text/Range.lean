/-!
# LivePreview.Text.Range

A **range table** lists the code points of a character class as closed intervals in
ascending order. Membership walks the table and stops at the first interval that ends at or
after the code point, so a look-up never reads past the place where the answer is known.
-/

namespace LivePreview.Text

/-- Closed intervals of code points, in ascending order. -/
abbrev Ranges := List (Nat × Nat)

/-- Does `n` lie in one of the intervals? -/
def Ranges.has : Ranges → Nat → Bool
  | [], _ => false
  | (low, high) :: rest, n =>
    if n ≤ high then decide (low ≤ n) else Ranges.has rest n

/-- A hit lies in an interval of the table. -/
theorem Ranges.exists_of_has {table : Ranges} {n : Nat} (h : table.has n = true) :
    ∃ r ∈ table, r.1 ≤ n ∧ n ≤ r.2 := by
  induction table with
  | nil => simp [Ranges.has] at h
  | cons r rest ih =>
    obtain ⟨low, high⟩ := r
    unfold Ranges.has at h
    split at h
    · next hn => exact ⟨(low, high), by simp, by simpa using h, hn⟩
    · obtain ⟨r, hr, hb⟩ := ih h
      exact ⟨r, by simp [hr], hb⟩

end LivePreview.Text
