import LivePreview.Url.Composition
/-!
# LivePreview.Proofs.Url.Composition

**An ASCII text is its own composed form** (`composed_of_ascii`). In the tables an ASCII character
occurs only as the letter below a mark, so nothing is taken apart, nothing changes its place, and no
letter takes up what is behind it.
-/

namespace LivePreview.Url

variable {n : Nat} {text : List Nat}

/-- What is made up of two characters is not ASCII, and neither is the second one of them. -/
theorem le_of_mem_compositions : ∀ e ∈ compositions, 128 ≤ e.1 ∧ 128 ≤ e.2.2 := by
  decide +kernel

theorem le_of_mem_markClasses : ∀ e ∈ markClasses, 128 ≤ e.1 := by
  decide +kernel

theorem markClass_of_ascii (h : n < 128) : markClass n = 0 := by
  unfold markClass
  split
  · next first _ _ hfound =>
    have hfirst : 128 ≤ first := le_of_mem_markClasses _ (List.mem_of_find?_eq_some hfound)
    have hrange := List.find?_some hfound
    rw [Bool.and_eq_true, decide_eq_true_eq] at hrange
    omega
  · rfl

theorem takeApart_of_ascii (depth : Nat) (h : n < 128) : takeApart depth n = [n] := by
  cases depth with
  | zero => rfl
  | succ depth =>
    have hnone : compositions.find? (·.1 = n) = none := by
      refine List.find?_eq_none.2 fun e he hn => ?_
      have hcomposed := (le_of_mem_compositions e he).1
      rw [decide_eq_true_eq] at hn
      omega
    rw [takeApart, if_neg (by omega), hnone]

theorem compose?_of_ascii (letter : Nat) (h : n < 128) : compose? letter n = none := by
  rw [compose?, if_neg (by omega), if_neg (by omega), Option.map_eq_none_iff, List.find?_eq_none]
  intro e he hpair
  have hsecond := (le_of_mem_compositions e he).2
  rw [Bool.and_eq_true, decide_eq_true_eq, decide_eq_true_eq] at hpair
  have hn : e.2.2 = n := hpair.2
  omega

/-- A text of letters has no marks to be ordered. -/
theorem orderMarks_letters (text : List Nat) :
    orderMarks [] (text.map fun n => (n, 0)) = text.map fun n => (n, 0) := by
  induction text with
  | nil => rfl
  | cons n text ih => rw [List.map_cons, orderMarks, if_pos rfl, ih, List.reverse_nil, List.nil_append]

theorem composeFrom_of_ascii (letter : Nat) (h : ∀ n ∈ text, n < 128) :
    composeFrom letter [] (text.map fun n => (n, 0)) = letter :: text := by
  induction text generalizing letter with
  | nil => rfl
  | cons n text ih =>
    have hmore := ih n fun m hm => h m (List.mem_cons_of_mem n hm)
    rw [List.map_cons, composeFrom, if_pos rfl, compose?_of_ascii letter (h n List.mem_cons_self)]
    dsimp only
    rw [if_pos rfl, hmore, List.reverse_nil, List.map_nil, List.singleton_append]

/-- **An ASCII text is its own composed form.** -/
theorem composed_of_ascii (h : ∀ n ∈ text, n < 128) : composed text = text := by
  have hapart : text.flatMap (takeApart 4) = text := by
    rw [List.flatMap_def, List.map_congr_left fun n hn => takeApart_of_ascii 4 (h n hn), ← List.flatMap_def,
      List.flatMap_singleton']
  have hclasses : (text.map fun n => (n, markClass n)) = text.map fun n => (n, 0) :=
    List.map_congr_left fun n hn => by rw [markClass_of_ascii (h n hn)]
  rw [composed, hapart, hclasses, orderMarks_letters]
  cases text with
  | nil => rfl
  | cons n text =>
    rw [List.map_cons, composeAll, if_pos rfl]
    exact composeFrom_of_ascii n fun m hm => h m (List.mem_cons_of_mem n hm)

end LivePreview.Url
