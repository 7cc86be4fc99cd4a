import LivePreview.InertLiteral
import LivePreview.Proofs.Json.Written
import LivePreview.Proofs.Text.Occurrence
/-!
# LivePreview.Proofs.InertLiteral

**Text inside a script element.** Two marks end a script or change how a page reads on inside of it:
the beginning of a closing tag and that of a comment. A text without them is `Markless`; one that is
also inert to them is `Sealed`, and may stand in front of any text. An inert literal is sealed
whatever it spells.
-/

namespace LivePreview

open Text

/-! ### Marks -/

/-- The marks that a page takes for markup inside of a script. -/
def marks : List (List Char) :=
  ["</".toList, "<!--".toList]

/-- No mark occurs in the text. -/
def Markless (text : List Char) : Prop :=
  ∀ m ∈ marks, ¬ m <:+: text

/-- The text is inert to every mark. -/
def Sealed (text : List Char) : Prop :=
  ∀ m ∈ marks, Inert m text

instance (text : List Char) : Decidable (Markless text) :=
  inferInstanceAs (Decidable (∀ _ ∈ marks, _))

instance (text : List Char) : Decidable (Sealed text) :=
  inferInstanceAs (Decidable (∀ _ ∈ marks, _))

variable {m a b text : List Char} {c : Char}

theorem mark_eq_cons (hm : m ∈ marks) : ∃ p, m = '<' :: p ∧ '<' ∉ p := by
  have hall : ∀ m ∈ marks, m = '<' :: m.tail ∧ '<' ∉ m.tail := by decide
  exact ⟨m.tail, hall m hm⟩

theorem mark_ne_nil (hm : m ∈ marks) : m ≠ [] := by
  obtain ⟨p, rfl, -⟩ := mark_eq_cons hm
  exact List.cons_ne_nil _ p

theorem Markless.of_isInfix (h : Markless b) (hi : a <:+: b) : Markless a :=
  fun m hm hocc => h m hm (hocc.trans hi)

namespace Sealed

theorem markless (h : Sealed text) : Markless text :=
  fun m hm => (h m hm).1

theorem append (ha : Sealed a) (hb : Sealed b) : Sealed (a ++ b) :=
  fun m hm => (ha m hm).append (hb m hm)

/-- Behind a sealed text, no mark comes about. -/
theorem append_markless (ha : Sealed a) (hb : Markless b) : Markless (a ++ b) :=
  fun m hm hi => hb m hm ((ha m hm).infix_append hi)

theorem of_not_mem (h : '<' ∉ text) : Sealed text := by
  intro m hm
  obtain ⟨p, rfl, -⟩ := mark_eq_cons hm
  exact inert_of_not_mem h

/-- The last character decides. -/
theorem of_concat (h : Markless (text ++ [c])) (hc : c ∉ marks.flatten) : Sealed (text ++ [c]) := by
  intro m hm
  refine inert_of_getLast? (h m hm) fun d hd hdm => hc ?_
  rw [List.getLast?_concat, Option.mem_some_iff] at hd
  rw [hd]
  exact List.mem_flatten.2 ⟨m, hm, hdm⟩

end Sealed

/-! ### Separators -/

/-- Text that holds nothing of a mark. -/
def Separates (text : List Char) : Prop :=
  text ≠ [] ∧ ∀ c ∈ text, c ∉ marks.flatten

instance (text : List Char) : Decidable (Separates text) :=
  @instDecidableAnd _ _ _ (List.decidableBAll _ _)

/-- Whatever a text without marks ends with, a separator behind it seals it. -/
theorem Markless.append_separator (ha : Markless a) (hb : Separates b) : Sealed (a ++ b) := by
  intro m hm
  have hnot : ∀ c ∈ b, c ∉ m := fun c hc h => hb.2 c hc (List.mem_flatten.2 ⟨m, hm, h⟩)
  refine inert_of_getLast? ?_ fun d hd => ?_
  · obtain ⟨c, back, rfl⟩ := List.exists_cons_of_ne_nil hb.1
    obtain ⟨p, rfl, -⟩ := mark_eq_cons hm
    have hback : ¬ '<' :: p <:+: back := fun h =>
      hnot '<' (List.mem_cons_of_mem c (h.subset List.mem_cons_self)) List.mem_cons_self
    intro hi
    exact ((infix_append_cons_iff (hnot c List.mem_cons_self) (mark_ne_nil hm)).1 hi).elim
      (ha _ hm) hback
  · rw [List.getLast?_append_of_ne_nil _ hb.1] at hd
    exact hnot d (List.mem_of_getLast? hd)

theorem Markless.intercalate {separator : String} (hs : Separates separator.toList)
    {texts : List String} (h : ∀ t ∈ texts, Markless t.toList) :
    Markless (separator.intercalate texts).toList := by
  rw [String.toList_intercalate]
  induction texts with
  | nil => exact (by decide : Markless [])
  | cons t texts ih =>
    cases texts with
    | nil => simpa using h t List.mem_cons_self
    | cons next more =>
      rw [List.map_cons, List.map_cons, List.intercalate_cons_cons]
      exact ((h t List.mem_cons_self).append_separator hs).append_markless
        (ih fun u hu => h u (List.mem_cons_of_mem t hu))

theorem Markless.joinLines {lines : List String} (h : ∀ l ∈ lines, Markless l.toList) :
    Markless (joinLines lines).toList :=
  .intercalate (by decide) h

/-! ### Strings -/

section Strings

variable {s t : String}

theorem sealed_append (hs : Sealed s.toList) (ht : Sealed t.toList) : Sealed (s ++ t).toList := by
  rw [String.toList_append]
  exact hs.append ht

theorem markless_append (hs : Sealed s.toList) (ht : Markless t.toList) :
    Markless (s ++ t).toList := by
  rw [String.toList_append]
  exact hs.append_markless ht

theorem sealed_append_separator (hs : Markless s.toList) (ht : Separates t.toList) :
    Sealed (s ++ t).toList := by
  rw [String.toList_append]
  exact hs.append_separator ht

/-- Most texts have no mark because they have no angle bracket. -/
theorem markless_of_not_mem (h : '<' ∉ s.toList) : Markless s.toList :=
  (Sealed.of_not_mem h).markless

theorem markless_joinLines_of_not_mem {lines : List String} (h : ∀ l ∈ lines, '<' ∉ l.toList) :
    Markless (Text.joinLines lines).toList :=
  markless_of_not_mem (not_mem_joinLines (by decide) h)

end Strings

/-! ### Literals -/

/-- A literal has an angle bracket only where its text has one. -/
theorem not_mem_literalChars (h : '<' ∉ text) : '<' ∉ Json.literalChars text := by
  simp only [Json.literalChars, List.mem_cons, List.mem_append, List.mem_flatMap, not_or]
  refine ⟨⟨by decide, ?_⟩, by decide, List.not_mem_nil⟩
  rintro ⟨c, hc, hm⟩
  obtain ⟨rfl, -⟩ := Json.eq_of_mem_escapeChar (by decide) (by decide) (by decide) hm
  exact h hc

/-- The replacements leave no mark: the first one takes the closing tags out, the second one the
comments, and none puts a mark together again. -/
theorem markless_inertChars (text : List Char) : Markless (inertChars text) := by
  let untagged := replaceAll "</".toList "<\\/".toList (Json.literalChars text)
  let uncommented := replaceAll "<!--".toList "<\\!--".toList untagged
  have huntagged : ¬ "</".toList <:+: untagged :=
    not_infix_replaceAll (by decide) (by decide) (by decide) _ fun _ _ hp => hp
  have hmarkless : Markless uncommented := by
    intro m hm
    rcases List.mem_cons.1 hm with rfl | hm
    · exact not_infix_replaceAll_of_not_infix (by decide) (by decide) (by decide) huntagged
    · rw [List.mem_singleton.1 hm]
      exact not_infix_replaceAll (by decide) (by decide) (by decide) _ fun _ _ hp => hp
  have hforeign : ∀ new ∈ ["\\u2028".toList, "\\u2029".toList], ∀ m ∈ marks, Foreign m new := by
    decide
  have hkeep : ∀ new ∈ ["\\u2028".toList, "\\u2029".toList], ∀ (c : Char) (t : List Char),
      Markless t → Markless (replaceAll [c] new t) := by
    intro new hnew c t ht m hm
    exact not_infix_replaceAll_of_not_infix (List.cons_ne_nil c []) (mark_ne_nil hm)
      (hforeign new hnew m hm) (ht m hm)
  exact hkeep _ (by decide) _ _ (hkeep _ (by decide) _ _ hmarkless)

/-- What stands between the quotes of an inert literal. -/
def inertBody (text : List Char) : List Char :=
  replaceAll ['\u2029'] "\\u2029".toList
    (replaceAll ['\u2028'] "\\u2028".toList
      (replaceAll "<!--".toList "<\\!--".toList
        (replaceAll "</".toList "<\\/".toList (text.flatMap Json.escapeChar))))

theorem inertChars_eq (text : List Char) : inertChars text = '"' :: inertBody text ++ ['"'] := by
  have hquoted : Json.literalChars text = '"' :: text.flatMap Json.escapeChar ++ ['"'] := rfl
  rw [inertChars, hquoted, replaceAll_enclosed (by decide) (by decide),
    replaceAll_enclosed (by decide) (by decide), replaceAll_enclosed (by decide) (by decide),
    replaceAll_enclosed (by decide) (by decide), inertBody]

/-- **An inert literal is sealed**, whatever its text is. -/
theorem sealed_inertLiteral (s : String) : Sealed (inertLiteral s).toList := by
  have hmarkless := markless_inertChars s.toList
  rw [inertLiteral, String.toList_ofList]
  rw [inertChars_eq] at hmarkless ⊢
  exact .of_concat hmarkless (by decide)

end LivePreview
