import Mathlib.Data.List.DropRight
import LivePreview.Text.Blank
/-!
# LivePreview.Proofs.Text.Trim

**Trimming a text that is put together from parts.** Blanks at the seam between two parts decide
whether trimming reaches into the second part; every lemma here takes one of the two cases:
the part at the end is blank throughout, or it is not.
-/

namespace LivePreview.Text

variable {a b text : List Char}

/-! ### Blank texts -/

@[simp] theorem allBlank_cons (c : Char) (rest : List Char) :
    allBlank (c :: rest) = (isBlank c && allBlank rest) := rfl

@[simp] theorem allBlank_append (a b : List Char) :
    allBlank (a ++ b) = (allBlank a && allBlank b) := by
  simp only [allBlank, List.all_append]

theorem allBlank_iff : allBlank text = true ↔ ∀ c ∈ text, isBlank c = true := by
  simp [allBlank]

/-- A text that is not blank has a character that is not. -/
theorem exists_of_not_allBlank (h : allBlank text = false) : ∃ c ∈ text, isBlank c = false := by
  simpa [allBlank] using h

theorem not_allBlank_of_mem {c : Char} (hc : c ∈ text) (hb : isBlank c = false) :
    allBlank text = false := by
  cases h : allBlank text with
  | false => rfl
  | true => rw [allBlank_iff.1 h c hc] at hb; exact absurd hb (by decide)

theorem trimStart_eq_nil_iff : trimStart text = [] ↔ allBlank text = true := by
  rw [trimStart, List.dropWhile_eq_nil_iff, allBlank_iff]

/-! ### The start -/

/-- Blanks in front do not count. -/
theorem trimStart_append_of_allBlank (h : allBlank a = true) (b : List Char) :
    trimStart (a ++ b) = trimStart b :=
  List.dropWhile_append_of_pos (allBlank_iff.1 h)

/-- Behind a part that is not blank, nothing is trimmed at the start. -/
theorem trimStart_append_of_not_allBlank (h : allBlank a = false) (b : List Char) :
    trimStart (a ++ b) = trimStart a ++ b := by
  have hne : trimStart a ≠ [] := fun he => by
    rw [trimStart_eq_nil_iff.1 he] at h
    exact absurd h (by decide)
  unfold trimStart at *
  rw [List.dropWhile_append, if_neg (by simpa using hne)]

/-- What is trimmed at the start are the leading blanks. -/
theorem takeWhile_append_trimStart (text : List Char) :
    text.takeWhile isBlank ++ trimStart text = text :=
  List.takeWhile_append_dropWhile

theorem allBlank_takeWhile (text : List Char) : allBlank (text.takeWhile isBlank) = true :=
  allBlank_iff.2 fun _ hc => List.mem_takeWhile_imp hc

/-- A text that starts with a character that is not blank is not trimmed at the start. -/
theorem trimStart_cons {c : Char} (h : isBlank c = false) (rest : List Char) :
    trimStart (c :: rest) = c :: rest := by
  simp [trimStart, h]

@[simp] theorem trimStart_trimStart (text : List Char) :
    trimStart (trimStart text) = trimStart text :=
  List.dropWhile_idempotent isBlank text

/-! ### The end -/

/-- A character that stays keeps what is in front of it. -/
theorem dropEndWhile_append_cons {p : Char → Bool} {m : Char} (hm : p m = false) (a b : List Char) :
    dropEndWhile p (a ++ m :: b) = a ++ m :: dropEndWhile p b := by
  have hreverse : (a ++ m :: b).reverse = b.reverse ++ m :: a.reverse := by simp
  rw [dropEndWhile, hreverse, List.dropWhile_append]
  split
  · next he =>
    rw [dropEndWhile, List.isEmpty_iff.1 he]
    simp [hm]
  · simp [dropEndWhile]

/-- Blanks at the end do not count. -/
theorem trimEnd_append_of_allBlank (a : List Char) (h : allBlank b = true) :
    trimEnd (a ++ b) = trimEnd a := by
  have hb : ∀ c ∈ b.reverse, isBlank c = true := fun c hc =>
    allBlank_iff.1 h c (List.mem_reverse.1 hc)
  simp only [trimEnd, dropEndWhile, List.reverse_append]
  rw [List.dropWhile_append_of_pos hb]

/-- In front of a part that is not blank, nothing is trimmed at the end. -/
theorem trimEnd_append_of_not_allBlank (a : List Char) (h : allBlank b = false) :
    trimEnd (a ++ b) = a ++ trimEnd b := by
  have hr : allBlank b.reverse = false := by
    simpa only [allBlank, List.all_reverse] using h
  have ht := trimStart_append_of_not_allBlank hr a.reverse
  simp only [trimStart] at ht
  simp only [trimEnd, dropEndWhile, List.reverse_append, ht, List.reverse_reverse]

/-- What is trimmed at the end is blank. -/
theorem exists_trimEnd_append (text : List Char) :
    ∃ blanks, allBlank blanks = true ∧ trimEnd text ++ blanks = text := by
  refine ⟨(text.reverse.takeWhile isBlank).reverse, ?_, dropEndWhile_append isBlank text⟩
  simpa only [allBlank, List.all_reverse] using allBlank_takeWhile text.reverse

/-- A text that ends with a character that is not blank is not trimmed at the end. -/
theorem trimEnd_concat {c : Char} (h : isBlank c = false) (text : List Char) :
    trimEnd (text ++ [c]) = text ++ [c] := by
  simp [trimEnd, dropEndWhile, h]

/-! ### Both ends -/

/-- A text that begins with a character that is not blank still does when it is trimmed. -/
theorem trim_cons {c : Char} (h : isBlank c = false) (rest : List Char) :
    ∃ t, trim (c :: rest) = c :: t := by
  rw [trim, trimStart_cons h]
  obtain ⟨blanks, hb, he⟩ := exists_trimEnd_append (c :: rest)
  cases ht : trimEnd (c :: rest) with
  | nil =>
    rw [ht, List.nil_append] at he
    rw [he, allBlank_cons, h] at hb
    exact absurd hb Bool.false_ne_true
  | cons d t =>
    rw [ht, List.cons_append] at he
    exact ⟨t, by rw [(List.cons.inj he).1]⟩

theorem trim_eq_nil_of_allBlank (h : allBlank text = true) : trim text = [] := by
  simp [trim, trimStart_eq_nil_iff.2 h, trimEnd, dropEndWhile]

/-- Blanks in front do not count. -/
theorem trim_append_left (h : allBlank a = true) (b : List Char) : trim (a ++ b) = trim b := by
  rw [trim, trim, trimStart_append_of_allBlank h]

/-- Blanks at the end do not count. -/
theorem trim_append_right (a : List Char) (h : allBlank b = true) : trim (a ++ b) = trim a := by
  cases ha : allBlank a with
  | true =>
    rw [trim_append_left ha, trim_eq_nil_of_allBlank h, trim_eq_nil_of_allBlank ha]
  | false =>
    rw [trim, trim, trimStart_append_of_not_allBlank ha, trimEnd_append_of_allBlank _ h]

end LivePreview.Text
