import LivePreview.Proofs.Text.Words
import LivePreview.Text.Reader
/-!
# LivePreview.Proofs.Text.Readers

**What readers take off the front.** A keyword, a gap or a name in front of a text is taken as a whole,
if the text does not go on with it: behind a gap stands something *solid*, behind a name something that
cannot stand in a name. What a reader finds in front of a character that it does not take does not depend
on what is behind that character (`wordGap?_stop`).
-/

namespace LivePreview

open Text

variable {w : String} {c stop : Char} {a b gap spaces text rest : List Char}

/-! ### Texts that begin with no blank -/

/-- Does the text begin with no blank? -/
def StartsSolid (text : List Char) : Prop :=
  ∀ c ∈ text.head?, isBlank c = false

instance (text : List Char) : Decidable (StartsSolid text) :=
  Option.decidableForallMem text.head?

theorem StartsSolid.append (ha : StartsSolid a) (hb : StartsSolid b) : StartsSolid (a ++ b) := by
  cases a with
  | nil => exact hb
  | cons x a => exact ha

theorem StartsSolid.of_front (hne : a ≠ []) (h : StartsSolid a) (rest : List Char) :
    StartsSolid (a ++ rest) := by
  cases a with
  | nil => exact absurd rfl hne
  | cons x a => exact h

theorem head_of_isIdent {name rest : List Char} (h : isIdent name = true) :
    ∀ c ∈ (name ++ rest).head?, isIdentStart c = true := by
  cases name with
  | nil => exact absurd h Bool.false_ne_true
  | cons d name =>
    rw [isIdent, Bool.and_eq_true] at h
    exact forall_head_cons h.1 (name ++ rest)

theorem startsSolid_of_isIdent {name : List Char} (h : isIdent name = true) (rest : List Char) :
    StartsSolid (name ++ rest) :=
  fun c hc => isBlank_of_isIdentPart (isIdentPart_of_isIdentStart (head_of_isIdent h c hc))

theorem StartsSolid.trimStart_eq (h : StartsSolid text) : trimStart text = text := by
  cases text with
  | nil => rfl
  | cons c rest => exact trimStart_cons (h c rfl) rest

/-! ### Gaps -/

/-- Blanks in front of something solid are a gap of their own. -/
theorem StartsSolid.trimStart_gap (h : StartsSolid text) (hb : allBlank gap = true) :
    trimStart (gap ++ text) = text := by
  rw [trimStart_append_of_allBlank hb, h.trimStart_eq]

theorem StartsSolid.trimStart_space (h : StartsSolid text) : trimStart (' ' :: text) = text :=
  h.trimStart_gap (by decide : allBlank [' '] = true)

theorem StartsSolid.gap?_gap (h : StartsSolid text) (hne : gap ≠ []) (hb : allBlank gap = true) :
    gap? (gap ++ text) = some text := by
  cases gap with
  | nil => exact absurd rfl hne
  | cons c gap =>
    rw [allBlank_cons, Bool.and_eq_true] at hb
    rw [List.cons_append, gap?, if_pos hb.1, h.trimStart_gap hb.2]

theorem StartsSolid.gap?_space (h : StartsSolid text) : gap? (' ' :: text) = some text :=
  h.gap?_gap (List.cons_ne_nil ' ' []) (by decide)

/-- Where there is a gap, there is a blank. -/
theorem head_of_gap? (h : gap? text = some rest) : ∃ c ∈ text.head?, isBlank c = true := by
  cases text with
  | nil => exact absurd h (by simp [gap?])
  | cons c text =>
    refine ⟨c, rfl, ?_⟩
    rw [gap?] at h
    split at h
    · assumption
    · exact absurd h (by simp)

theorem StartsSolid.gap?_eq_none (h : StartsSolid text) : gap? text = none := by
  rw [Option.eq_none_iff_forall_ne_some]
  intro rest hr
  obtain ⟨c, hc, hb⟩ := head_of_gap? hr
  rw [h c hc] at hb
  cases hb

/-- Spaces are skipped up to the first other character. -/
theorem skipSpaces_append (hs : ∀ c ∈ spaces, isSpaceOrTab c = true)
    (h : ∀ c ∈ text.head?, isSpaceOrTab c = false) : skipSpaces (spaces ++ text) = text :=
  dropWhile_append_of_stop hs h

/-! ### Words -/

theorem word?_append (w : String) (rest : List Char) : word? w (w.toList ++ rest) = some rest :=
  dropLead?_append w.toList rest

theorem word?_eq_some_iff : word? w text = some rest ↔ text = w.toList ++ rest :=
  dropLead?_eq_some_iff

/-- The first character decides that a word is not there. -/
theorem word?_eq_none (hw : w.toList.head? = some c) (h : ∀ d ∈ text.head?, d ≠ c) :
    word? w text = none := by
  rw [Option.eq_none_iff_forall_ne_some]
  intro rest hr
  rw [word?_eq_some_iff] at hr
  refine h c ?_ rfl
  rw [hr, List.head?_append, hw]
  rfl

theorem wordGap?_eq_none (hw : w.toList.head? = some c) (h : ∀ d ∈ text.head?, d ≠ c) :
    wordGap? w text = none := by
  rw [wordGap?, word?_eq_none hw h]
  rfl

/-- A keyword and the gap behind it are taken up to something solid. -/
theorem StartsSolid.wordGap?_gap (h : StartsSolid text) (hne : gap ≠ []) (hb : allBlank gap = true) :
    wordGap? w (w.toList ++ (gap ++ text)) = some text := by
  rw [wordGap?, word?_append, Option.bind_some, h.gap?_gap hne hb]

theorem StartsSolid.skipWordGap_gap (h : StartsSolid text) (hne : gap ≠ [])
    (hb : allBlank gap = true) : skipWordGap w (w.toList ++ (gap ++ text)) = text := by
  rw [skipWordGap, h.wordGap?_gap hne hb]
  rfl

/-- Where the word is missing or nothing separates it, nothing is skipped. -/
theorem skipWordGap_of_none (h : wordGap? w text = none) : skipWordGap w text = text := by
  rw [skipWordGap, h]
  rfl

/-! ### Marks -/

theorem skipChar_self (c : Char) (text : List Char) : skipChar c (c :: text) = text :=
  if_pos rfl

theorem skipChar_eq_self (h : ∀ d ∈ text.head?, d ≠ c) : skipChar c text = text := by
  cases text with
  | nil => rfl
  | cons d text => exact if_neg (h d rfl)

theorem between?_eq_none {opening closing : Char} (h : ∀ c ∈ text.head?, c ≠ opening) :
    between? opening closing text = none := by
  cases text with
  | nil => rfl
  | cons c text => rw [between?, if_neg (h c rfl)]

/-- What stands between two marks. -/
theorem between?_append {opening closing : Char} (h : closing ∉ text) (rest : List Char) :
    between? opening closing (opening :: (text ++ closing :: rest)) = some (text, rest) := by
  have hall : ∀ c ∈ text, (c != closing) = true := by
    intro c hc
    rw [bne_iff_ne]
    rintro rfl
    exact h hc
  rw [between?, if_pos rfl, List.dropWhile_append_of_pos hall, List.takeWhile_append_of_pos hall]
  simp

/-! ### In front of a stop -/

theorem trimStart_stop (hs : isBlank stop = false) (a rest : List Char) :
    trimStart (a ++ stop :: rest) = trimStart a ++ stop :: rest := by
  cases ha : allBlank a with
  | true =>
    rw [trimStart_append_of_allBlank ha, trimStart_cons hs, trimStart_eq_nil_iff.2 ha]
    rfl
  | false => exact trimStart_append_of_not_allBlank ha _

theorem skipSpaces_stop (hs : isSpaceOrTab stop = false) (a rest : List Char) :
    skipSpaces (a ++ stop :: rest) = skipSpaces a ++ stop :: rest := by
  unfold skipSpaces
  rw [List.dropWhile_append]
  split
  · next he => rw [List.isEmpty_iff.1 he, List.dropWhile_cons, hs]; rfl
  · rfl

theorem dropLead?_stop {lead : List Char} (h : stop ∉ lead) (a rest : List Char) :
    dropLead? lead (a ++ stop :: rest) = (dropLead? lead a).map (· ++ stop :: rest) := by
  induction lead generalizing a with
  | nil => rfl
  | cons d lead ih =>
    rw [List.mem_cons, not_or] at h
    cases a with
    | nil => exact if_neg (Ne.symm h.1)
    | cons c a =>
      rw [List.cons_append, dropLead?, dropLead?]
      split
      · exact ih h.2 a
      · rfl

/-- A stop ends a gap. -/
theorem gap?_stop (hs : isBlank stop = false) (a rest : List Char) :
    gap? (a ++ stop :: rest) = (gap? a).map (· ++ stop :: rest) := by
  cases a with
  | nil => simp [gap?, hs]
  | cons c a =>
    rw [List.cons_append, gap?, gap?, trimStart_stop hs]
    split <;> rfl

/-- Whether a keyword with a gap is there is decided in front of a stop. -/
theorem wordGap?_stop (hw : stop ∉ w.toList) (hs : isBlank stop = false) (a rest : List Char) :
    wordGap? w (a ++ stop :: rest) = (wordGap? w a).map (· ++ stop :: rest) := by
  rw [wordGap?, wordGap?, word?, dropLead?_stop hw]
  cases h : dropLead? w.toList a with
  | none => simp [word?, h]
  | some b => simp [word?, h, gap?_stop hs]

end LivePreview
