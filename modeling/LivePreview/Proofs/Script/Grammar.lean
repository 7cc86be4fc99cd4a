import LivePreview.Proofs.Script.Cursor
import LivePreview.Script.Grammar
/-!
# LivePreview.Proofs.Script.Grammar

**Grammars go forward** if their tokens do: then every cursor that a grammar gives back stands further on
(`advances_of_read`). Which rules are used does not matter, as long as the tokens in them go forward too.
-/

namespace LivePreview.Script

open Cursor (Advances)

variable {ρ : Type}

namespace Grammar

mutual
/-- Do all tokens go forward? -/
def Forward : Grammar ρ → Prop
  | token f => ∀ c next : Cursor, f c = some next → Advances c next
  | rule _ | ahead _ | absent _ => True
  | seq parts => AllForward parts
  | alt options => AllForward options
  | many part | under _ part => Forward part

/-- Do all tokens of these grammars go forward? -/
def AllForward : List (Grammar ρ) → Prop
  | [] => True
  | g :: more => Forward g ∧ AllForward more
end

variable {rules : ρ → Grammar ρ} {g part : Grammar ρ} {limit : Nat} {c next : Cursor}

@[simp] theorem forward_seq {parts : List (Grammar ρ)} : (seq parts).Forward ↔ AllForward parts :=
  Iff.rfl

/-- What fits stands in front of the cursor that is given back. -/
theorem advances_of_read (hrules : ∀ name, (rules name).Forward) (hg : g.Forward)
    (h : read rules limit g c = some next) : Advances c next := by
  -- A rule is no smaller than its name, so the induction is on the limit and not on the grammar.
  induction limit generalizing g c next with
  | zero => exact nomatch h
  | succ limit ih =>
    match g with
    | token f => exact hg c next h
    | rule name => exact ih (hrules name) h
    | seq [] => exact Option.some.inj h ▸ .refl c
    | seq (part :: more) =>
      rw [read] at h
      split at h
      · next between hpart => exact (ih hg.1 hpart).trans (ih (g := seq more) hg.2 h)
      · exact nomatch h
    | alt [] => exact nomatch h
    | alt (option :: more) =>
      rw [read] at h
      split at h
      · next found hoption => exact Option.some.inj h ▸ ih hg.1 hoption
      · exact ih (g := alt more) hg.2 h
    | many part =>
      rw [read] at h
      split at h
      · next between hpart =>
        split at h
        · exact Option.some.inj h ▸ .refl c
        · exact (ih (g := part) hg hpart).trans (ih hg h)
      · exact Option.some.inj h ▸ .refl c
    | ahead part =>
      rw [read] at h
      split at h
      · exact Option.some.inj h ▸ .refl c
      · exact nomatch h
    | absent part =>
      rw [read] at h
      split at h
      · exact nomatch h
      · exact Option.some.inj h ▸ .refl c
    | under change part =>
      obtain ⟨found, hpart, rfl⟩ := Option.map_eq_some_iff.1 h
      have hfound : Advances { c with context := change c.context } found := ih (g := part) hg hpart
      exact hfound

/-- The last part of what fits in order ends where all of it ends. -/
theorem exists_of_read_seq {parts : List (Grammar ρ)} (last : Grammar ρ)
    (hrules : ∀ name, (rules name).Forward) (hparts : AllForward parts)
    (h : read rules limit (seq (parts ++ [last])) c = some next) :
    ∃ between limit, Advances c between ∧ read rules limit last between = some next := by
  induction parts generalizing limit c with
  | nil =>
    cases limit with
    | zero => exact nomatch h
    | succ limit =>
      rw [List.nil_append, read] at h
      split at h
      · next found hlast =>
        cases limit with
        | zero => exact nomatch h
        | succ more =>
          obtain rfl := Option.some.inj h
          exact ⟨c, _, .refl c, hlast⟩
      · exact nomatch h
  | cons part parts ih =>
    cases limit with
    | zero => exact nomatch h
    | succ limit =>
      rw [List.cons_append, read] at h
      split at h
      · next found hpart =>
        obtain ⟨between, last, hbetween, hlast⟩ := ih hparts.2 h
        exact ⟨between, last, (advances_of_read hrules hparts.1 hpart).trans hbetween, hlast⟩
      · exact nomatch h

/-- What may stay away does, or it fits. -/
theorem read_opt_cases (h : read rules limit (opt part) c = some next) :
    next = c ∨ ∃ limit, read rules limit part c = some next := by
  cases limit with
  | zero => exact nomatch h
  | succ limit =>
    rw [opt, read] at h
    split at h
    · next found hfound => exact .inr ⟨limit, Option.some.inj h ▸ hfound⟩
    · -- The other option takes nothing.
      match limit with
      | 0 | 1 => exact nomatch h
      | _ + 2 => exact .inl (Option.some.inj h).symm

/-- A mark ends with its last character. -/
theorem closes_of_read_mark {text : String} {last : Char}
    (htext : (literal text : Grammar ρ) = lexeme (mark? text)) (hlast : text.toList.getLast? = some last)
    (hblank : Text.isBlank last = false) (h : read rules limit (literal text) c = some next) :
    Cursor.Closes c next := by
  cases limit with
  | zero => exact nomatch h
  | succ limit =>
    rw [htext] at h
    exact Cursor.closes_mark hlast hblank h

/-! ### Tokens -/

/-- Does the reader split the text that it reads? -/
def Splits (take : List Char → Option Taken) : Prop :=
  ∀ text taken, take text = some taken → taken.1 ++ taken.2 = text

@[simp] theorem splits_word (word : String) : Splits (word? word) :=
  fun _ _ h => (word?_eq_append h).2

@[simp] theorem splits_mark (mark : String) : Splits (mark? mark) :=
  fun _ _ h => (mark?_eq_append h).2

@[simp] theorem splits_char (c : Char) : Splits (char? c) :=
  fun _ _ => char?_eq_append

@[simp] theorem splits_number : Splits number? :=
  fun _ _ => number?_eq_append

@[simp] theorem splits_regex : Splits regex? :=
  fun _ _ => regex?_eq_append

@[simp] theorem splits_templatePart (mark : Char) (followed : Bool) :
    Splits (templatePart? mark followed) :=
  fun _ _ => templatePart?_eq_append

@[simp] theorem splits_markupName : Splits markupName? :=
  fun _ _ => markupName?_eq_append

@[simp] theorem splits_markupText : Splits markupText? :=
  fun _ _ => markupText?_eq_append

@[simp] theorem splits_markupString : Splits markupString? :=
  fun _ _ => markupString?_eq_append

@[simp] theorem forward_lexeme {take : List Char → Option Taken} (h : Splits take) :
    (lexeme take : Grammar ρ).Forward := by
  intro c next hread
  obtain ⟨taken, htaken, rfl⟩ := Option.map_eq_some_iff.1 hread
  exact Cursor.advances_next (h _ _ htaken)

@[simp] theorem forward_tight {take : List Char → Option Taken} (h : Splits take) :
    (tight take : Grammar ρ).Forward := by
  intro c next hread
  obtain ⟨taken, htaken, rfl⟩ := Option.map_eq_some_iff.1 hread
  exact Cursor.advances_behind (h _ _ htaken)

@[simp] theorem forward_test (p : Cursor → Bool) : (test p : Grammar ρ).Forward := by
  intro c next hread
  dsimp only at hread
  split at hread
  · exact Option.some.inj hread ▸ .refl c
  · exact nomatch hread

@[simp] theorem forward_set {f : Cursor → Cursor} (h : ∀ c, (f c).rest = c.rest ∧ (f c).start = c.start) :
    (set f : Grammar ρ).Forward := by
  intro c next hread
  obtain rfl := Option.some.inj hread
  exact ⟨[], (h c).1.symm, (h c).2⟩

@[simp] theorem forward_literal (text : String) : (literal text : Grammar ρ).Forward := by
  unfold literal
  split
  · split <;> simp
  · trivial

@[simp] theorem forward_sameLine : (sameLine : Grammar ρ).Forward :=
  forward_test _

@[simp] theorem forward_statementEnd : (statementEnd : Grammar ρ).Forward :=
  fun _ _ => Cursor.advances_statementEnd

@[simp] theorem forward_identifier : (identifier : Grammar ρ).Forward := by
  intro c next hread
  dsimp only at hread
  split at hread
  · exact nomatch hread
  · obtain ⟨⟨value, found⟩, hfound, rfl⟩ := Option.map_eq_some_iff.1 hread
    exact Cursor.advances_identifier hfound

@[simp] theorem forward_anyName : (anyName : Grammar ρ).Forward := by
  intro c next hread
  obtain ⟨⟨value, found⟩, hfound, rfl⟩ := Option.map_eq_some_iff.1 hread
  exact Cursor.advances_name hfound

@[simp] theorem forward_string : (string : Grammar ρ).Forward := by
  intro c next hread
  obtain ⟨⟨value, found⟩, hfound, rfl⟩ := Option.map_eq_some_iff.1 hread
  exact (Cursor.closes_string hfound).advances

@[simp] theorem forward_number : (number : Grammar ρ).Forward :=
  forward_lexeme splits_number

@[simp] theorem forward_closeAngle : (closeAngle : Grammar ρ).Forward :=
  forward_lexeme (splits_char '>')

/-! ### Combinations -/

@[simp] theorem allForward_nil : AllForward ([] : List (Grammar ρ)) :=
  trivial

@[simp] theorem allForward_cons {more : List (Grammar ρ)} :
    AllForward (part :: more) ↔ part.Forward ∧ AllForward more :=
  Iff.rfl

@[simp] theorem forward_rule (name : ρ) : (rule name : Grammar ρ).Forward :=
  trivial

@[simp] theorem forward_alt {options : List (Grammar ρ)} : (alt options).Forward ↔ AllForward options :=
  Iff.rfl

@[simp] theorem forward_many : (many part).Forward ↔ part.Forward :=
  Iff.rfl

@[simp] theorem forward_ahead (part : Grammar ρ) : (ahead part).Forward :=
  trivial

@[simp] theorem forward_absent (part : Grammar ρ) : (absent part).Forward :=
  trivial

@[simp] theorem forward_under {change : Context → Context} : (under change part).Forward ↔ part.Forward :=
  Iff.rfl

@[simp] theorem forward_opt : (opt part).Forward ↔ part.Forward := by
  simp [opt]

@[simp] theorem forward_some1 : (some1 part).Forward ↔ part.Forward := by
  simp [some1]

@[simp] theorem forward_separated {mark : String} : (separated mark part).Forward ↔ part.Forward := by
  simp [separated]

@[simp] theorem forward_listOf : (listOf part).Forward ↔ part.Forward := by
  simp [listOf]

@[simp] theorem forward_oneOf (texts : List String) : (oneOf texts : Grammar ρ).Forward := by
  rw [oneOf, forward_alt]
  induction texts with
  | nil => trivial
  | cons text texts ih => exact ⟨forward_literal text, ih⟩

end Grammar

end LivePreview.Script
