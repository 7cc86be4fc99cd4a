import Mathlib.Data.List.Basic
/-!
# LivePreview.Proofs.FirstOccurrence

**Lists without repetition.** Where something is listed once although it came up several times, it
stands where it came up first. So a search finds the same in both lists, and dropping repetitions
before a selection, or before the elements are renamed, changes nothing about dropping them in the
end.
-/

namespace LivePreview

variable {α β : Type} [DecidableEq α] [DecidableEq β]

/-- Repetitions can be dropped before a selection or behind it. -/
theorem filter_eraseDups (p : α → Bool) (l : List α) :
    l.eraseDups.filter p = (l.filter p).eraseDups := by
  induction h : l.length using Nat.strongRecOn generalizing l with
  | _ n ih =>
    cases l with
    | nil => rfl
    | cons a l =>
      have hless : (l.filter fun b => !b == a).length < n := by
        rw [← h, List.length_cons]
        exact Nat.lt_succ_of_le (List.length_filter_le _ l)
      have hrest := ih _ hless _ rfl
      have hswap : (l.filter fun b => !b == a).filter p = (l.filter p).filter fun b => !b == a := by
        simp only [List.filter_filter, Bool.and_comm]
      rw [List.eraseDups_cons]
      by_cases hp : p a = true
      · rw [List.filter_cons_of_pos hp, List.filter_cons_of_pos hp, List.eraseDups_cons, hrest, hswap]
      · rw [List.filter_cons_of_neg hp, List.filter_cons_of_neg hp, hrest, hswap]
        -- What is not selected need not be dropped.
        rw [List.filter_eq_self.2 fun b hb => ?_]
        have hpb := (List.mem_filter.1 hb).2
        simp only [Bool.not_eq_true', beq_eq_false_iff_ne]
        rintro rfl
        exact hp hpb

/-- The first element stays, and goes wherever else it stands. -/
theorem eraseDups_cons_filter (a : α) (l : List α) :
    (a :: l).eraseDups = a :: l.eraseDups.filter fun b => !b == a := by
  rw [List.eraseDups_cons, filter_eraseDups]

/-- A search finds the same. -/
theorem find?_eraseDups (p : α → Bool) (l : List α) : l.eraseDups.find? p = l.find? p := by
  induction l with
  | nil => rfl
  | cons a l ih =>
    rw [eraseDups_cons_filter]
    by_cases hp : p a = true
    · rw [List.find?_cons_of_pos hp, List.find?_cons_of_pos hp]
    · rw [List.find?_cons_of_neg hp, List.find?_cons_of_neg hp, List.find?_filter, ← ih]
      congr 1
      funext b
      by_cases hb : b = a
      · simp [hb, hp]
      · simp [hb]

/-- Repetitions can be dropped before the elements are renamed and behind it, or behind it alone. -/
theorem eraseDups_map_eraseDups (f : α → β) (l : List α) :
    (l.eraseDups.map f).eraseDups = (l.map f).eraseDups := by
  induction l with
  | nil => rfl
  | cons a l ih =>
    have hfilter : ((l.eraseDups.filter fun b => !b == a).map f).filter (fun b => !b == f a) =
        (l.eraseDups.map f).filter fun b => !b == f a := by
      rw [List.filter_map, List.filter_map, List.filter_filter]
      congr 2
      funext b
      by_cases hb : b = a
      · simp [hb]
      · simp [hb]
    rw [eraseDups_cons_filter, List.map_cons, List.map_cons, List.eraseDups_cons, List.eraseDups_cons,
      hfilter, ← filter_eraseDups, ← filter_eraseDups, ih]

/-- What is listed stands in the order in which it came up first. -/
theorem pairwise_idxOf_eraseDups (l : List α) :
    l.eraseDups.Pairwise fun a b => l.idxOf a < l.idxOf b := by
  induction l with
  | nil => exact List.Pairwise.nil
  | cons a l ih =>
    rw [eraseDups_cons_filter, List.pairwise_cons]
    constructor
    · intro b hb
      have hne : b ≠ a := by simpa using (List.mem_filter.1 hb).2
      rw [List.idxOf_cons_self, List.idxOf_cons_ne _ hne.symm]
      exact Nat.succ_pos _
    · refine List.Pairwise.imp_of_mem ?_ (ih.filter _)
      intro b c hb hc hlt
      have hb : b ≠ a := by simpa using (List.mem_filter.1 hb).2
      have hc : c ≠ a := by simpa using (List.mem_filter.1 hc).2
      rw [List.idxOf_cons_ne _ hb.symm, List.idxOf_cons_ne _ hc.symm]
      exact Nat.succ_lt_succ hlt

/-- Nothing is listed twice. -/
theorem nodup_eraseDups (l : List α) : l.eraseDups.Nodup := by
  refine (pairwise_idxOf_eraseDups l).imp ?_
  rintro a _ hlt rfl
  exact Nat.lt_irrefl _ hlt

/-- What comes up at the end is listed if it did not come up before. -/
theorem eraseDups_concat (l : List α) (a : α) :
    (l ++ [a]).eraseDups = l.eraseDups ++ if a ∈ l then [] else [a] := by
  rw [List.eraseDups_append]
  by_cases ha : a ∈ l
  · simp [List.removeAll, ha]
  · simp [List.removeAll, ha, List.eraseDups_cons]

/-- The elements at places in front of which they stand already, in order: what dropping repetitions
drops. -/
def repeats (l : List α) : List α :=
  (l.zipIdx.filter fun (a, i) => a ∈ l.take i).map (·.1)

/-- What comes up at the end is a repetition if it came up before. -/
theorem repeats_concat (l : List α) (a : α) :
    repeats (l ++ [a]) = repeats l ++ if a ∈ l then [a] else [] := by
  have hfront : (l.zipIdx.filter fun (b, i) => b ∈ (l ++ [a]).take i) =
      l.zipIdx.filter fun (b, i) => b ∈ l.take i := by
    refine List.filter_congr fun ⟨b, i⟩ hb => ?_
    have hi : i < l.length := by simpa using List.snd_lt_of_mem_zipIdx hb
    simp [List.take_append_of_le_length (Nat.le_of_lt hi)]
  have hlast : (l ++ [a]).take l.length = l := by simp
  rw [repeats, List.zipIdx_append, List.filter_append, hfront, List.map_append]
  refine congrArg (repeats l ++ ·) ?_
  by_cases ha : a ∈ l <;> simp [ha]

end LivePreview
