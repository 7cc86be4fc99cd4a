import LivePreview.Proofs.Text.Trim
import LivePreview.Text.Search
import LivePreview.Text.Word
/-!
# LivePreview.Proofs.Text.Words

**Words and the gaps between them.** A text is *unbroken* if it holds no blank. Collapsing blanks and
splitting into words go over an unbroken text at once, and no character of an identifier is blank.
-/

namespace LivePreview.Text

variable {w gap rest text : List Char}

/-! ### Classes of characters -/

/-- A character of a class is none of those that are not in it. -/
theorem ne_of_class {p : Char → Bool} {c mark : Char} (h : p c = true) (hm : p mark = false) :
    c ≠ mark := by
  rintro rfl
  exact Bool.false_ne_true (hm.symm.trans h)

theorem not_mem_of_class {p : Char → Bool} {c : Char} {marks : List Char} (h : p c = true)
    (hm : marks.any p = false) : c ∉ marks :=
  fun hc => List.any_eq_false.1 hm c hc h

/-- A text whose characters are of a class has no other. -/
theorem not_mem_of_forall_class {p : Char → Bool} {mark : Char} (h : ∀ c ∈ text, p c = true)
    (hm : p mark = false) : mark ∉ text :=
  fun hc => ne_of_class (h mark hc) hm rfl

/-- Is `n` the code point of a character that belongs to a word? -/
def isWordCode (n : Nat) : Bool :=
  if n < 128 then (65 ≤ n && n ≤ 90) || (97 ≤ n && n ≤ 122) || (48 ≤ n && n ≤ 57) || n == 95
  else wordRanges.has n

theorem isWord_eq (c : Char) : isWord c = isWordCode c.toNat := by
  have hu : (c == '_') = (c.toNat == 95) := by
    rw [Bool.eq_iff_iff, beq_iff_eq, beq_iff_eq]
    exact ⟨fun h => by rw [h]; rfl, fun h => Char.toNat_inj.1 h⟩
  simp only [isWord, isWordCode, isAsciiAlnum, isAsciiLetter, isDigit, hu]

/-- The tables of blanks and of word characters have no code point in common. -/
theorem isWord_of_isBlank {c : Char} (h : isBlank c = true) : isWord c = false := by
  have hall : ∀ r ∈ blankRanges, ∀ n ∈ List.range' r.1 (r.2 + 1 - r.1), isWordCode n = false := by
    decide +kernel
  obtain ⟨r, hr, hlow, hhigh⟩ := Ranges.exists_of_has h
  rw [isWord_eq]
  exact hall r hr c.toNat (List.mem_range'_1.2 ⟨hlow, by omega⟩)

theorem isBlank_of_isIdentPart {c : Char} (h : isIdentPart c = true) : isBlank c = false := by
  cases hb : isBlank c with
  | false => rfl
  | true =>
    rw [isIdentPart, isWord_of_isBlank hb, Bool.false_or] at h
    rw [eq_of_beq h] at hb
    exact absurd hb (by decide)

theorem isIdentPart_of_isIdentStart {c : Char} (h : isIdentStart c = true) :
    isIdentPart c = true := by
  simp only [isIdentStart, Bool.or_eq_true, beq_iff_eq] at h
  rcases h with (h | rfl) | rfl
  · have hlt : c.toNat < 128 := by
      simp only [isAsciiLetter, Bool.or_eq_true, Bool.and_eq_true, decide_eq_true_eq] at h
      omega
    simp [isIdentPart, isWord, isAsciiAlnum, hlt, h]
  · decide
  · decide

/-- Every character of an identifier may stand inside one. -/
theorem isIdentPart_of_mem {name : List Char} (h : isIdent name = true) {c : Char} (hc : c ∈ name) :
    isIdentPart c = true := by
  cases name with
  | nil => exact absurd hc List.not_mem_nil
  | cons d rest =>
    rw [isIdent, Bool.and_eq_true] at h
    rcases List.mem_cons.1 hc with rfl | hc
    · exact isIdentPart_of_isIdentStart h.1
    · exact List.all_eq_true.1 h.2 c hc

theorem ne_nil_of_isIdent {name : List Char} (h : isIdent name = true) : name ≠ [] := by
  rintro rfl
  exact absurd h Bool.false_ne_true

/-- Only capital letters have a small letter of their own. -/
theorem toNat_toLower (c : Char) :
    c.toLower.toNat = if 65 ≤ c.toNat ∧ c.toNat ≤ 90 then c.toNat + 32 else c.toNat := by
  unfold Char.toLower
  split
  · next h =>
    have hlow : 65 ≤ c.toNat := UInt32.le_iff_toNat_le.1 h.1
    have hhigh : c.toNat ≤ 90 := UInt32.le_iff_toNat_le.1 h.2
    rw [if_pos ⟨hlow, hhigh⟩]
    show (c.val + 32).toNat = c.toNat + 32
    have h32 : (32 : UInt32).toNat = 32 := rfl
    rw [UInt32.toNat_add, h32]
    have hval : c.val.toNat = c.toNat := rfl
    exact Nat.mod_eq_of_lt (by omega)
  · next h =>
    refine (if_neg fun hc => h ⟨?_, ?_⟩).symm
    · exact UInt32.le_iff_toNat_le.2 hc.1
    · exact UInt32.le_iff_toNat_le.2 hc.2

theorem toLower_toLower (c : Char) : c.toLower.toLower = c.toLower := by
  refine Char.toNat_inj.1 ?_
  rw [toNat_toLower, toNat_toLower]
  split_ifs <;> omega

theorem lowerAscii_lowerAscii (text : List Char) : lowerAscii (lowerAscii text) = lowerAscii text := by
  rw [lowerAscii, lowerAscii, List.map_map]
  exact List.map_congr_left fun c _ => toLower_toLower c

/-- A text without a character is made up of others. -/
theorem bne_of_not_mem {mark : Char} (h : mark ∉ text) : ∀ c ∈ text, (c != mark) = true :=
  fun _ hc => bne_iff_ne.2 fun he => h (he ▸ hc)

/-- Characters of a class go up to the first one that is not in it. -/
theorem takeWhile_append_of_stop {p : Char → Bool} {a s : List Char} (ha : ∀ c ∈ a, p c = true)
    (hs : ∀ c ∈ s.head?, p c = false) : (a ++ s).takeWhile p = a := by
  rw [List.takeWhile_append_of_pos ha]
  cases s with
  | nil => exact List.append_nil a
  | cons c s => rw [List.takeWhile_cons_of_neg (by simp [hs c rfl]), List.append_nil]

theorem dropWhile_append_of_stop {p : Char → Bool} {a s : List Char} (ha : ∀ c ∈ a, p c = true)
    (hs : ∀ c ∈ s.head?, p c = false) : (a ++ s).dropWhile p = s := by
  rw [List.dropWhile_append_of_pos ha]
  cases s with
  | nil => rfl
  | cons c s => rw [List.dropWhile_cons_of_neg (by simp [hs c rfl])]

/-- Where the characters of a class end is decided by the text. -/
theorem eq_of_append_eq {p : Char → Bool} {a b s t : List Char} (h : a ++ s = b ++ t)
    (ha : ∀ c ∈ a, p c = true) (hb : ∀ c ∈ b, p c = true) (hs : ∀ c ∈ s.head?, p c = false)
    (ht : ∀ c ∈ t.head?, p c = false) : a = b ∧ s = t := by
  have he : a = b := by
    rw [← takeWhile_append_of_stop ha hs, h, takeWhile_append_of_stop hb ht]
  rw [he] at h
  exact ⟨he, List.append_cancel_left h⟩

/-- What is so of a character is so of the first one of a text that begins with it. -/
theorem forall_head_cons {p : Char → Prop} {c : Char} (h : p c) (rest : List Char) :
    ∀ d ∈ (c :: rest).head?, p d := by
  intro d hd
  rw [← Option.some.inj hd]
  exact h

/-- An identifier is taken off the front up to the first character that cannot stand in it. -/
theorem takeIdent?_of_isIdent {name : List Char} (h : isIdent name = true)
    (hr : ∀ c ∈ rest.head?, isIdentPart c = false) : takeIdent? (name ++ rest) = some (name, rest) := by
  cases name with
  | nil => exact absurd h Bool.false_ne_true
  | cons d name =>
    rw [isIdent, Bool.and_eq_true] at h
    have hall : ∀ c ∈ name, isIdentPart c = true := List.all_eq_true.1 h.2
    rw [List.cons_append, takeIdent?, if_pos h.1, takeWhile_append_of_stop hall hr,
      dropWhile_append_of_stop hall hr]

/-! ### Unbroken texts -/

/-- Does the text hold no blank? -/
def Unbroken (text : List Char) : Prop :=
  ∀ c ∈ text, isBlank c = false

instance (text : List Char) : Decidable (Unbroken text) :=
  List.decidableBAll (fun c => isBlank c = false) text

theorem unbroken_of_isIdent {name : List Char} (h : isIdent name = true) : Unbroken name :=
  fun _ hc => isBlank_of_isIdentPart (isIdentPart_of_mem h hc)

theorem Unbroken.append {a b : List Char} (ha : Unbroken a) (hb : Unbroken b) : Unbroken (a ++ b) := by
  intro c hc
  rcases List.mem_append.1 hc with hc | hc
  · exact ha c hc
  · exact hb c hc

/-- Nothing is stripped from a text that begins and ends with a character that is not in the class. -/
theorem stripWhile_eq_self {p : Char → Bool} (hs : ∀ c ∈ text.head?, p c = false)
    (he : ∀ c ∈ text.getLast?, p c = false) : stripWhile p text = text := by
  cases text with
  | nil => rfl
  | cons c rest =>
    rw [stripWhile, List.dropWhile_cons_of_neg (by simp [hs c rfl])]
    obtain ⟨front, d, hd⟩ := List.eq_nil_or_concat (c :: rest) |>.resolve_left (List.cons_ne_nil c rest)
    rw [List.concat_eq_append] at hd
    rw [hd] at he ⊢
    have hlast : p d = false := he d (by simp)
    simp [dropEndWhile, hlast]

/-- A text that begins and ends with a character that is not blank is trimmed. -/
theorem trim_eq_self (hs : ∀ c ∈ text.head?, isBlank c = false)
    (he : ∀ c ∈ text.getLast?, isBlank c = false) : trim text = text :=
  stripWhile_eq_self hs he

/-! ### Collapsing -/

/-- An unbroken text stays. -/
theorem collapseBlanks_append (h : Unbroken w) (rest : List Char) :
    collapseBlanks (w ++ rest) = w ++ collapseBlanks rest := by
  induction w with
  | nil => rfl
  | cons c w ih =>
    have hc := h c List.mem_cons_self
    rw [List.cons_append, collapseBlanks.eq_def]
    simp only [hc, Bool.false_eq_true, if_false]
    rw [ih fun d hd => h d (List.mem_cons_of_mem c hd)]
    rfl

/-- A gap becomes one space. -/
theorem collapseBlanks_gap (hne : gap ≠ []) (hb : allBlank gap = true)
    (hr : ∀ c ∈ rest.head?, isBlank c = false) :
    collapseBlanks (gap ++ rest) = ' ' :: collapseBlanks rest := by
  induction gap with
  | nil => exact absurd rfl hne
  | cons c gap ih =>
    rw [allBlank_cons, Bool.and_eq_true] at hb
    rw [List.cons_append, collapseBlanks.eq_def]
    simp only [hb.1, if_true]
    cases gap with
    | nil =>
      cases rest with
      | nil => rfl
      | cons d rest => simp [hr d rfl]
    | cons d gap =>
      have hd := hb.2
      rw [allBlank_cons, Bool.and_eq_true] at hd
      rw [List.cons_append] at ih ⊢
      simp only [hd.1, if_true]
      exact ih (List.cons_ne_nil d gap) hb.2

/-! ### Splitting -/

theorem words_go_append (h : Unbroken w) (word rest : List Char) :
    words.go (w ++ rest) word = words.go rest (w.reverse ++ word) := by
  induction w generalizing word with
  | nil => rfl
  | cons c w ih =>
    have hc := h c List.mem_cons_self
    rw [List.cons_append, words.go.eq_def]
    simp only [hc, Bool.false_eq_true, if_false]
    rw [ih fun d hd => h d (List.mem_cons_of_mem c hd)]
    simp

theorem words_of_unbroken (h : Unbroken w) (hne : w ≠ []) : words w = [w] := by
  have hgo := words_go_append h [] []
  rw [List.append_nil, List.append_nil] at hgo
  rw [words, hgo]
  cases hr : w.reverse with
  | nil => exact absurd (List.reverse_eq_nil_iff.1 hr) hne
  | cons c back =>
    rw [words.go, ← hr, List.reverse_reverse]
    exact fun h => absurd h (List.cons_ne_nil c back)

/-- The first word ends at the first blank. -/
theorem words_append_space (h : Unbroken w) (hne : w ≠ []) (rest : List Char) :
    words (w ++ ' ' :: rest) = w :: words rest := by
  have hgo := words_go_append h [] (' ' :: rest)
  rw [List.append_nil] at hgo
  rw [words, hgo]
  have hspace : isBlank ' ' = true := by decide
  cases hr : w.reverse with
  | nil => exact absurd (List.reverse_eq_nil_iff.1 hr) hne
  | cons c back =>
    rw [words.go, if_pos hspace, ← hr, List.reverse_reverse]
    rfl

theorem splitAtChar_of_not_mem {mark : Char} (h : mark ∉ text) : splitAtChar mark text = [text] := by
  induction text with
  | nil => rfl
  | cons c text ih =>
    rw [List.mem_cons, not_or] at h
    rw [splitAtChar, if_neg (Ne.symm h.1), ih h.2]

/-- The first part ends at the first mark. -/
theorem splitAtChar_append {mark : Char} (h : mark ∉ text) (rest : List Char) :
    splitAtChar mark (text ++ mark :: rest) = text :: splitAtChar mark rest := by
  induction text with
  | nil => rw [List.nil_append, splitAtChar, if_pos rfl]
  | cons c text ih =>
    rw [List.mem_cons, not_or] at h
    rw [List.cons_append, splitAtChar, if_neg (Ne.symm h.1), ih h.2]

theorem splitAtChar_eq_splitOn (mark : Char) (text : List Char) :
    splitAtChar mark text = text.splitOn mark := by
  induction text with
  | nil => rfl
  | cons c text ih =>
    rw [splitAtChar, List.splitOn_cons_eq_if_modifyHead, ih]
    simp only [beq_iff_eq]
    cases hparts : text.splitOn mark with
    | nil => exact absurd hparts (List.splitOn_ne_nil mark text)
    | cons first others => rfl

/-- No part holds the mark. -/
theorem not_mem_of_mem_splitAtChar {mark : Char} {part : List Char}
    (h : part ∈ splitAtChar mark text) : mark ∉ part := by
  induction text generalizing part with
  | nil =>
    rw [List.mem_singleton.1 h]
    exact List.not_mem_nil
  | cons c text ih =>
    rw [splitAtChar] at h
    split at h
    · rcases List.mem_cons.1 h with rfl | h
      · exact List.not_mem_nil
      · exact ih h
    · next hc =>
      split at h
      · rw [List.mem_singleton.1 h, List.mem_singleton]
        exact Ne.symm hc
      · next first others hparts =>
        rw [hparts] at ih
        rcases List.mem_cons.1 h with rfl | h
        · exact List.not_mem_cons_of_ne_of_not_mem (Ne.symm hc) (ih List.mem_cons_self)
        · exact ih (List.mem_cons_of_mem first h)

/-- The parts are the texts without the mark that make up the text with a mark between them. -/
theorem splitAtChar_eq_iff {mark : Char} {parts : List (List Char)} :
    splitAtChar mark text = parts ↔
      parts ≠ [] ∧ [mark].intercalate parts = text ∧ ∀ part ∈ parts, mark ∉ part := by
  constructor
  · rintro rfl
    refine ⟨?_, ?_, fun part => not_mem_of_mem_splitAtChar⟩
    · rw [splitAtChar_eq_splitOn]
      exact List.splitOn_ne_nil mark text
    · rw [splitAtChar_eq_splitOn]
      exact List.intercalate_splitOn mark
  · rintro ⟨hne, rfl, hparts⟩
    rw [splitAtChar_eq_splitOn]
    exact List.splitOn_intercalate mark hparts hne

/-- The first part goes up to the first mark. -/
theorem exists_splitAtChar_eq_cons (mark : Char) (text : List Char) :
    ∃ others, splitAtChar mark text = text.takeWhile (· != mark) :: others := by
  induction text with
  | nil => exact ⟨[], rfl⟩
  | cons c text ih =>
    obtain ⟨others, hothers⟩ := ih
    by_cases hc : c = mark
    · exact ⟨splitAtChar mark text, by simp [splitAtChar, hc]⟩
    · exact ⟨others, by simp [splitAtChar, hc, hothers]⟩

/-- Two texts with a mark between them are split apart from each other. -/
theorem splitAtChar_append_cons (mark : Char) (text rest : List Char) :
    splitAtChar mark (text ++ mark :: rest) = splitAtChar mark text ++ splitAtChar mark rest := by
  induction text with
  | nil => simp [splitAtChar]
  | cons c text ih =>
    obtain ⟨others, hothers⟩ := exists_splitAtChar_eq_cons mark text
    rw [List.cons_append, splitAtChar, splitAtChar, ih, hothers]
    split <;> rfl

theorem not_mem_intercalate {sep : List Char} {c : Char} {texts : List (List Char)} (hc : c ∉ sep)
    (h : ∀ text ∈ texts, c ∉ text) : c ∉ sep.intercalate texts := by
  induction texts with
  | nil => exact List.not_mem_nil
  | cons text texts ih =>
    have htext := h text List.mem_cons_self
    cases texts with
    | nil => simpa using htext
    | cons next later =>
      have hlater := ih fun other ho => h other (List.mem_cons_of_mem _ ho)
      rw [List.intercalate_cons_cons]
      simp [htext, hc, hlater]

theorem infix_intercalate {mark : Char} {part : List Char} {parts : List (List Char)}
    (h : part ∈ parts) : part <:+: [mark].intercalate parts := by
  induction parts with
  | nil => exact absurd h List.not_mem_nil
  | cons first others ih =>
    cases others with
    | nil =>
      obtain rfl := List.mem_singleton.1 h
      simp
    | cons second later =>
      rw [List.intercalate_cons_cons, List.append_assoc]
      rcases List.mem_cons.1 h with rfl | h
      · exact (List.prefix_append part _).isInfix
      · exact (ih h).trans ((List.suffix_append [mark] _).trans (List.suffix_append first _)).isInfix

theorem infix_of_mem_splitAtChar {mark : Char} {part : List Char}
    (h : part ∈ splitAtChar mark text) : part <:+: text := calc
  part <:+: [mark].intercalate (splitAtChar mark text) := infix_intercalate h
  _ = text := (splitAtChar_eq_iff.1 rfl).2.1

/-- Nothing happens to a text that does not hold what is replaced. -/
theorem map_ite_of_not_mem {mark new : Char} (h : mark ∉ text) :
    text.map (fun c => if c = mark then new else c) = text := by
  refine (List.map_congr_left fun c hc => ?_).trans (List.map_id text)
  rw [if_neg fun he : c = mark => h (he ▸ hc), id]

end LivePreview.Text
