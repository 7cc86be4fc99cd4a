import LivePreview.Proofs.Script.Literal
import LivePreview.Proofs.Text.Trim
import LivePreview.Script.Cursor
/-!
# LivePreview.Proofs.Script.Cursor

**A cursor only goes forward.** Whatever a reader takes stands between the cursor it was given and the one
it gives back, and both count their bytes right (`Advances`). Behind a token the cursor also knows where
the token ended; a mark, a word or a string ends with a character that is no blank (`Closes`).
-/

namespace LivePreview.Script

open Text (byteSize isBlank)

/-- What is skipped stands in front of the rest, and its bytes are counted. -/
theorem skipSpace_eq_append (text : List Char) :
    ∃ gap, text = gap ++ (skipSpace text).1 ∧ (skipSpace text).2.1 = byteSize gap := by
  fun_induction skipSpace text with
  | case1 => exact ⟨[], rfl, rfl⟩
  | case2 rest last size fresh hskip ih =>
    rw [hskip] at ih
    obtain ⟨gap, hgap, hsize⟩ := ih
    simp only at hgap hsize
    refine ⟨'/' :: '/' :: (rest.takeWhile (!isLineEnd ·) ++ gap), ?_, ?_⟩
    · simp [← hgap]
    · have hslash : Text.charBytes '/' = 1 := by decide
      simp only [hsize, Text.byteSize_cons, Text.byteSize_append, hslash]
      omega
  | case3 rest inner after hcut last size fresh hskip ih =>
    rw [hskip] at ih
    obtain ⟨gap, hgap, hsize⟩ := ih
    simp only at hgap hsize
    have hrest := Text.cutAt?_append hcut
    refine ⟨'/' :: '*' :: (inner ++ ['*', '/'] ++ gap), ?_, ?_⟩
    · simp [hrest, hgap]
    · have hmarks : Text.charBytes '/' = 1 ∧ Text.charBytes '*' = 1 := by decide
      simp only [hsize, Text.byteSize_cons, Text.byteSize_append, Text.byteSize_nil, hmarks]
      omega
  | case4 => exact ⟨[], rfl, rfl⟩
  | case5 c rest _ _ hspace last size fresh hskip ih =>
    rw [hskip] at ih
    obtain ⟨gap, hgap, hsize⟩ := ih
    exact ⟨c :: gap, congrArg (List.cons c) hgap, congrArg (Text.charBytes c + ·) hsize⟩
  | case6 => exact ⟨[], rfl, rfl⟩

namespace Cursor

variable {a b c next last : Cursor} {taken : Taken}

/-- Does `next` stand further on in the script? -/
def Advances (c next : Cursor) : Prop :=
  ∃ taken, c.rest = taken ++ next.rest ∧ next.start = c.start + byteSize taken

/-- Does `next` stand further on, behind a text that ends where it says, and with no blank? -/
def Closes (c next : Cursor) : Prop :=
  ∃ text gap, c.rest = text ++ (gap ++ next.rest) ∧ next.stop = c.start + byteSize text ∧
    next.start = next.stop + byteSize gap ∧ ∃ last, text.getLast? = some last ∧ isBlank last = false

theorem Advances.refl (c : Cursor) : Advances c c :=
  ⟨[], rfl, rfl⟩

theorem Advances.trans (h : Advances a b) (g : Advances b c) : Advances a c := by
  obtain ⟨first, hfirst, hb⟩ := h
  obtain ⟨second, hsecond, hc⟩ := g
  refine ⟨first ++ second, by rw [hfirst, hsecond, List.append_assoc], ?_⟩
  rw [hc, hb, Text.byteSize_append, Nat.add_assoc]

theorem Advances.closes (h : Advances a b) (g : Closes b c) : Closes a c := by
  obtain ⟨first, hfirst, hb⟩ := h
  obtain ⟨text, gap, hrest, hstop, hstart, last, hlast, hblank⟩ := g
  refine ⟨first ++ text, gap, by rw [hfirst, hrest, List.append_assoc], ?_, hstart, last, ?_, hblank⟩
  · rw [hstop, hb, Text.byteSize_append, Nat.add_assoc]
  · rw [List.getLast?_append, hlast]
    rfl

theorem Closes.advances (h : Closes a b) : Advances a b := by
  obtain ⟨text, gap, hrest, hstop, hstart, -⟩ := h
  refine ⟨text ++ gap, by rw [hrest, List.append_assoc], ?_⟩
  rw [hstart, hstop, Text.byteSize_append, Nat.add_assoc]

/-- Spaces are skipped forward. -/
theorem advances_skip (c : Cursor) : Advances c c.skip := by
  obtain ⟨gap, hgap, hsize⟩ := skipSpace_eq_append c.rest
  exact ⟨gap, hgap, congrArg (c.start + ·) hsize⟩

theorem advances_behind (h : taken.1 ++ taken.2 = c.rest) : Advances c (c.behind taken) :=
  ⟨taken.1, h.symm, rfl⟩

theorem advances_next (h : taken.1 ++ taken.2 = c.rest) : Advances c (c.next taken) :=
  (advances_behind h).trans (advances_skip _)

theorem closes_next {last : Char} (h : taken.1 ++ taken.2 = c.rest)
    (hlast : taken.1.getLast? = some last) (hblank : isBlank last = false) :
    Closes c (c.next taken) := by
  obtain ⟨gap, hgap, hsize⟩ := skipSpace_eq_append taken.2
  refine ⟨taken.1, gap, ?_, rfl, congrArg (c.start + byteSize taken.1 + ·) hsize, last, hlast, hblank⟩
  rw [← h, hgap]
  rfl

theorem advances_ofScript (source : List Char) :
    Advances { rest := source, start := 0, stop := 0, fresh := true } (ofScript source) := by
  unfold ofScript
  dsimp only
  split
  · exact advances_next List.takeWhile_append_dropWhile
  · exact advances_skip _

/-! ### Tokens -/

theorem advances_word {word : String} (h : c.word? word = some next) : Advances c next := by
  obtain ⟨taken, htaken, rfl⟩ := Option.map_eq_some_iff.1 h
  exact advances_next (word?_eq_append htaken).2

theorem advances_mark {mark : String} (h : c.mark? mark = some next) : Advances c next := by
  obtain ⟨taken, htaken, rfl⟩ := Option.map_eq_some_iff.1 h
  exact advances_next (mark?_eq_append htaken).2

theorem closes_mark {mark : String} {last : Char} (hlast : mark.toList.getLast? = some last)
    (hblank : isBlank last = false) (h : c.mark? mark = some next) : Closes c next := by
  obtain ⟨taken, htaken, rfl⟩ := Option.map_eq_some_iff.1 h
  obtain ⟨hmark, hrest⟩ := mark?_eq_append htaken
  exact closes_next hrest (hmark ▸ hlast) hblank

theorem advances_identifier {name : String} (h : c.identifier? = some (name, next)) :
    Advances c next := by
  obtain ⟨⟨value, taken⟩, htaken, hnext⟩ := Option.map_eq_some_iff.1 h
  exact (Prod.mk.inj hnext).2 ▸ advances_next (identifier?_eq_append htaken)

theorem advances_name {name : String} (h : c.name? = some (name, next)) : Advances c next := by
  obtain ⟨⟨value, taken⟩, htaken, hnext⟩ := Option.map_eq_some_iff.1 h
  exact (Prod.mk.inj hnext).2 ▸ advances_next (nameWith?_eq_append htaken)

theorem closes_string {value : String} (h : c.string? = some (value, next)) : Closes c next := by
  obtain ⟨⟨value, taken⟩, htaken, hnext⟩ := Option.map_eq_some_iff.1 h
  obtain ⟨hrest, quote, hlast, hquote⟩ := string?_eq_append htaken
  have hblank : isBlank quote = false := by rcases hquote with rfl | rfl <;> decide
  exact (Prod.mk.inj hnext).2 ▸ closes_next hrest hlast hblank

/-- A statement ends with a semicolon or where it is. -/
theorem statementEnd?_cases (h : c.statementEnd? = some next) : next = c ∨ Closes c next := by
  unfold statementEnd? at h
  split at h
  · next hmark =>
    obtain rfl := Option.some.inj h
    exact .inr (closes_mark rfl (by decide : isBlank ';' = false) hmark)
  · split at h
    · exact .inl (Option.some.inj h).symm
    · exact nomatch h

theorem advances_statementEnd (h : c.statementEnd? = some next) : Advances c next := by
  rcases statementEnd?_cases h with rfl | hcloses
  · exact .refl _
  · exact hcloses.advances

end Cursor

end LivePreview.Script
