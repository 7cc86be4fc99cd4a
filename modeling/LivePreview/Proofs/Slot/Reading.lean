import LivePreview.Binding
import LivePreview.Proofs.Json.Written
import LivePreview.Proofs.Text.Readers
/-!
# LivePreview.Proofs.Slot.Reading

**The slots in a text.** `taken?` takes a slot of the environment off the front of a text, and `reads`
lists the slots that the text of an expression reads, each with whether an object is at hand in its
place. String literals are passed over, and so are the names behind a point; everything else is gone
through character by character.

Read in that way, the text of an expression reads the slots that the expression lists, in order, and
without an object at hand only those that the expression lists as such (`Expr.reads_text`).
-/

namespace LivePreview

open Text

namespace Slot

variable {text rest after : List Char} {name first second : String} {c : Char}

/-! ### A slot in front of a text -/

/-- Takes a slot of the environment off the front. -/
def taken? (text : List Char) : Option (String × List Char) := do
  let rest ← dropLead? "__env[\"".toList text
  let after ← dropLead? "\"]".toList (rest.dropWhile (· != '"'))
  return (String.ofList (rest.takeWhile (· != '"')), after)

theorem taken?_slotText (hname : '"' ∉ name.toList) (rest : List Char) :
    taken? ((Loader.slotText name).toList ++ rest) = some (name, rest) := by
  have hstop : ∀ c ∈ ("\"]".toList ++ rest).head?, (c != '"') = false :=
    forall_head_cons (by decide) _
  have htext : (Loader.slotText name).toList ++ rest =
      "__env[\"".toList ++ (name.toList ++ ("\"]".toList ++ rest)) := by
    simp [Loader.slotText]
  simp only [taken?, htext, dropLead?_append, dropWhile_append_of_stop (bne_of_not_mem hname) hstop,
    takeWhile_append_of_stop (bne_of_not_mem hname) hstop, String.ofList_toList, Option.bind_eq_bind,
    Option.bind_some]
  rfl

theorem length_of_taken? (h : taken? text = some (name, rest)) : rest.length < text.length := by
  obtain ⟨behind, hlead, h⟩ := Option.bind_eq_some_iff.1 h
  obtain ⟨after, hafter, h⟩ := Option.bind_eq_some_iff.1 h
  obtain rfl := (Prod.mk.inj (Option.some.inj h)).2
  rw [dropLead?_eq_some_iff] at hlead hafter
  have hle := (List.dropWhile_sublist (l := behind) (· != '"')).length_le
  have hpos : 0 < "__env[\"".toList.length := by decide
  rw [hafter, List.length_append] at hle
  rw [hlead, List.length_append]
  omega

/-! ### Slots in the text of an expression -/

/-- Two slots of which an object is merged, as its text begins. -/
def merged? (text : List Char) : Option (String × String × List Char) := do
  let rest ← dropLead? "Object.assign(\x7b\x7d, ".toList text
  let (first, rest) ← taken? rest
  let (second, rest) ← taken? (← dropLead? ", ".toList rest)
  let rest ← dropLead? [')'] rest
  return (first, second, rest)

theorem length_of_merged? (h : merged? text = some (first, second, rest)) :
    rest.length < text.length := by
  obtain ⟨behind, hlead, h⟩ := Option.bind_eq_some_iff.1 h
  obtain ⟨⟨one, more⟩, hone, h⟩ := Option.bind_eq_some_iff.1 h
  obtain ⟨next, hnext, h⟩ := Option.bind_eq_some_iff.1 h
  obtain ⟨⟨two, last⟩, htwo, h⟩ := Option.bind_eq_some_iff.1 h
  obtain ⟨after, hafter, h⟩ := Option.bind_eq_some_iff.1 h
  obtain rfl := (Prod.mk.inj (Prod.mk.inj (Option.some.inj h)).2).2
  rw [dropLead?_eq_some_iff] at hlead hnext hafter
  have hone := length_of_taken? hone
  have htwo := length_of_taken? htwo
  subst hlead hnext hafter
  simp only [List.length_append] at hone htwo ⊢
  omega

/-- What stands behind a string literal, from behind its first quote. -/
def behindLiteral : List Char → List Char
  | [] => []
  | '"' :: rest => rest
  | '\\' :: _ :: rest => behindLiteral rest
  | _ :: rest => behindLiteral rest

theorem length_behindLiteral_le (text : List Char) : (behindLiteral text).length ≤ text.length := by
  fun_induction behindLiteral text with
  | case1 => exact Nat.le_refl _
  | case2 => exact Nat.le_succ _
  | case3 _ _ ih | case4 _ _ _ _ ih =>
    simp only [List.length_cons]
    omega

/-- A slot that is read. -/
structure Read where
  slot : String
  /-- Is an object at hand in its place: one without properties as the second of two values, or one
  that it is merged into? -/
  guarded : Bool

/-- The slots that the text of an expression reads, in order. -/
def reads : List Char → List Read
  | [] => []
  | c :: rest =>
    match _h : taken? (c :: rest) with
    | some (name, after) => ⟨name, startsWith " || \x7b\x7d".toList after⟩ :: reads after
    | none =>
      match _h : merged? (c :: rest) with
      | some (first, second, after) => ⟨first, true⟩ :: ⟨second, true⟩ :: reads after
      | none =>
        if c = '"' then reads (behindLiteral rest)
        else if c = '.' then reads (rest.dropWhile isIdentPart)
        else reads rest
termination_by text => text.length
decreasing_by
  · exact length_of_taken? _h
  · exact length_of_merged? _h
  · exact Nat.lt_succ_of_le (length_behindLiteral_le rest)
  · exact Nat.lt_succ_of_le (List.dropWhile_sublist _).length_le
  · exact Nat.lt_succ_self _

/-- Where neither begins, the text is gone through character by character. -/
theorem reads_cons (hslot : taken? (c :: rest) = none) (hmerge : merged? (c :: rest) = none) :
    reads (c :: rest) =
      if c = '"' then reads (behindLiteral rest)
      else if c = '.' then reads (rest.dropWhile isIdentPart)
      else reads rest := by
  rw [reads]
  split
  · next h' =>
    rw [hslot] at h'
    cases h'
  · split
    · next h' =>
      rw [hmerge] at h'
      cases h'
    · rfl

theorem taken?_eq_none (h : c ≠ '_') : taken? (c :: rest) = none := by
  have hlead : dropLead? "__env[\"".toList (c :: rest) = none := if_neg (Ne.symm h)
  rw [taken?, hlead]
  rfl

theorem merged?_eq_none (h : c ≠ 'O') : merged? (c :: rest) = none := by
  have hlead : dropLead? "Object.assign(\x7b\x7d, ".toList (c :: rest) = none := if_neg (Ne.symm h)
  rw [merged?, hlead]
  rfl

/-- May something other than a passage that reads nothing begin with `c`? -/
def isMark (c : Char) : Bool :=
  c == '_' || c == 'O' || c == '"' || c == '.'

/-- A text without such characters reads nothing. -/
theorem reads_plain (text : String) (h : text.toList.any isMark = false) (rest : List Char) :
    reads (text.toList ++ rest) = reads rest := by
  generalize text.toList = chars at h ⊢
  induction chars with
  | nil => rfl
  | cons c chars ih =>
    rw [List.any_cons, Bool.or_eq_false_iff] at h
    have hc := h.1
    simp only [isMark, Bool.or_eq_false_iff, beq_eq_false_iff_ne] at hc
    obtain ⟨⟨⟨hunderscore, hcapital⟩, hquote⟩, hpoint⟩ := hc
    rw [List.cons_append, reads_cons (taken?_eq_none hunderscore) (merged?_eq_none hcapital),
      if_neg hquote, if_neg hpoint, ih h.2]

/-- The name behind a point is no slot. -/
theorem reads_point (hname : isIdent name.toList = true)
    (hrest : ∀ c ∈ rest.head?, isIdentPart c = false) :
    reads ('.' :: (name.toList ++ rest)) = reads rest := by
  rw [reads_cons (taken?_eq_none (by decide)) (merged?_eq_none (by decide)), if_neg (by decide),
    if_pos rfl, dropWhile_append_of_stop (fun c => isIdentPart_of_mem hname) hrest]

theorem behindLiteral_append (text rest : List Char) :
    behindLiteral (text.flatMap Json.escapeChar ++ '"' :: rest) = rest := by
  induction text with
  | nil => rfl
  | cons c text ih =>
    have hdigit : ∀ n < 16, Json.hexDigit n ≠ '"' ∧ Json.hexDigit n ≠ '\\' := by decide
    have hplain : ∀ {d : Char} {behind : List Char}, d ≠ '"' ∧ d ≠ '\\' →
        behindLiteral (d :: behind) = behindLiteral behind := by
      rintro d behind ⟨hquote, hslash⟩
      rw [behindLiteral]
      · exact fun h => hquote h
      · exact fun _ _ h _ => hslash h
    rw [List.flatMap_cons, List.append_assoc]
    rcases Json.escapeChar_cases c with ⟨e, -, -, h⟩ | ⟨hcontrol, h⟩ | ⟨hquote, hslash, -, h⟩
    · rw [h]
      exact ih
    · have hhigh := hdigit (c.toNat / 16) (by omega)
      have hlow := hdigit (c.toNat % 16) (by omega)
      rw [h]
      simp only [List.cons_append, List.nil_append]
      rw [behindLiteral, hplain (by decide), hplain (by decide), hplain hhigh, hplain hlow]
      exact ih
    · rw [h]
      exact (hplain ⟨hquote, hslash⟩).trans ih

/-- A string literal reads nothing. -/
theorem reads_literal (text rest : List Char) : reads (Json.literalChars text ++ rest) = reads rest := by
  rw [Json.literalChars, List.cons_append, List.cons_append,
    reads_cons (taken?_eq_none (by decide)) (merged?_eq_none (by decide)), if_pos rfl, List.append_assoc,
    List.singleton_append, behindLiteral_append]

end Slot

end LivePreview
