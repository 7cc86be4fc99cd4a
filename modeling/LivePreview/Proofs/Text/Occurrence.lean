import Mathlib.Data.List.Infix
import LivePreview.Text.Join
import LivePreview.Text.Search
/-!
# LivePreview.Proofs.Text.Occurrence

**What occurs in a text that is put together.** A mark may occur in two texts one after the other
though it occurs in neither of them, when the first one ends with its beginning. A text that does not
is *inert* to the mark: whatever is put behind it, the mark occurs there alone. Texts with a separator
between them that has nothing of the mark keep their occurrences apart as well.
-/

namespace LivePreview.Text

variable {m a b text : List Char}

/-- The number of places at which a mark begins. -/
def occurrences (m : List Char) : List Char → Nat
  | [] => 0
  | c :: rest => (if m <+: c :: rest then 1 else 0) + occurrences m rest

theorem occurrences_eq_zero_iff (hm : m ≠ []) : occurrences m text = 0 ↔ ¬ m <:+: text := by
  induction text with
  | nil => simp [occurrences, hm]
  | cons c rest ih =>
    rw [occurrences, List.infix_cons_iff, not_or, Nat.add_eq_zero_iff, ih]
    simp

/-! ### Inert texts -/

/-- The mark does not occur in the text, and the text does not end with its beginning. -/
def Inert (m text : List Char) : Prop :=
  ¬ m <:+: text ∧ ∀ lead ∈ m.inits, lead <:+ text → lead = []

instance (m text : List Char) : Decidable (Inert m text) :=
  inferInstanceAs (Decidable (_ ∧ _))

theorem Inert.eq_nil_of_suffix (h : Inert m text) {lead rest : List Char} (hm : m = lead ++ rest)
    (hs : lead <:+ text) : lead = [] :=
  h.2 lead ((List.mem_inits _ _).2 ⟨rest, hm.symm⟩) hs

/-- Behind an inert text, a mark occurs only in what stands there. -/
theorem Inert.infix_append (h : Inert m a) (hi : m <:+: a ++ b) : m <:+: b := by
  rcases List.infix_append_iff.1 hi with hi | hi | ⟨lead, rest, hm, hlead, hrest⟩
  · exact absurd hi h.1
  · exact hi
  · rw [h.eq_nil_of_suffix hm hlead, List.nil_append] at hm
    rw [hm]
    exact hrest.isInfix

theorem Inert.append (ha : Inert m a) (hb : Inert m b) : Inert m (a ++ b) := by
  refine ⟨fun hi => hb.1 (ha.infix_append hi), fun lead hl hs => ?_⟩
  obtain ⟨rest, hm⟩ := (List.mem_inits _ _).1 hl
  rcases List.suffix_or_suffix_of_suffix hs (List.suffix_append a b) with hs | ⟨front, rfl⟩
  · exact hb.2 lead hl hs
  · -- What the beginning takes of the first text is a beginning, too.
    obtain ⟨before, hbefore⟩ := hs
    rw [← List.append_assoc] at hbefore
    rw [List.append_assoc] at hm
    have hfront := ha.eq_nil_of_suffix hm.symm ⟨before, List.append_cancel_right hbefore⟩
    rw [hfront] at hl ⊢
    exact hb.2 _ hl (List.suffix_refl _)

theorem Inert.of_cons {c : Char} (h : Inert m (c :: text)) : Inert m text :=
  ⟨fun hi => h.1 (List.infix_cons hi), fun lead hl hs => h.2 lead hl (hs.trans (List.suffix_cons c text))⟩

/-- Nothing of a mark is in a text without its first character. -/
theorem inert_of_not_mem {c : Char} {p : List Char} (h : c ∉ text) : Inert (c :: p) text := by
  refine ⟨fun hi => h (hi.subset List.mem_cons_self), fun lead hl hs => ?_⟩
  obtain ⟨rest, hm⟩ := (List.mem_inits _ _).1 hl
  cases lead with
  | nil => rfl
  | cons d lead =>
    obtain rfl : d = c := (List.cons.inj hm).1
    exact absurd (hs.subset List.mem_cons_self) h

/-- A text is inert if its last character is none of the mark's. -/
theorem inert_of_getLast? (hf : ¬ m <:+: text) (hl : ∀ c ∈ text.getLast?, c ∉ m) :
    Inert m text := by
  refine ⟨hf, fun lead hlead hs => ?_⟩
  obtain ⟨rest, hm⟩ := (List.mem_inits _ _).1 hlead
  rcases List.eq_nil_or_concat lead with rfl | ⟨front, c, rfl⟩
  · rfl
  · obtain ⟨before, rfl⟩ := hs
    refine absurd ?_ (hl c (by simp))
    rw [← hm]
    simp

theorem occurrences_append (h : Inert m a) (b : List Char) :
    occurrences m (a ++ b) = occurrences m b := by
  induction a with
  | nil => rfl
  | cons c a ih =>
    have hnot : ¬ m <+: c :: (a ++ b) := by
      intro hp
      rcases List.prefix_or_prefix_of_prefix hp (List.prefix_append (c :: a) b) with hp | ⟨rest, hm⟩
      · exact h.1 hp.isInfix
      · exact absurd (h.eq_nil_of_suffix hm.symm (List.suffix_refl _)) (List.cons_ne_nil c a)
    rw [List.cons_append, occurrences, if_neg hnot, Nat.zero_add, ih h.of_cons]

/-! ### Separators -/

/-- A mark that begins before a character that it has not ends before it. -/
theorem prefix_append_cons_iff {c : Char} (hc : c ∉ m) : m <+: a ++ c :: b ↔ m <+: a := by
  refine ⟨fun hp => ?_, fun hp => hp.trans (List.prefix_append _ _)⟩
  rcases List.prefix_or_prefix_of_prefix hp (List.prefix_append a (c :: b)) with hp | ⟨rest, rfl⟩
  · exact hp
  · cases rest with
    | nil => simp
    | cons d rest =>
      have hd := (List.prefix_append_right_inj a).1 hp
      exact absurd (by simp [(List.cons_prefix_cons.1 hd).1]) hc

theorem occurrences_append_cons {c : Char} (hc : c ∉ m) (hm : m ≠ []) (a b : List Char) :
    occurrences m (a ++ c :: b) = occurrences m a + occurrences m b := by
  induction a with
  | nil =>
    have hnot : ¬ m <+: c :: b := by
      intro hp
      exact hm (List.prefix_nil.1 ((prefix_append_cons_iff (a := []) hc).1 hp))
    simp only [List.nil_append, occurrences, if_neg hnot]
  | cons d a ih =>
    have hiff : m <+: d :: (a ++ c :: b) ↔ m <+: d :: a := prefix_append_cons_iff (a := d :: a) hc
    rw [List.cons_append, occurrences, occurrences, ih, Nat.add_assoc]
    simp only [hiff]

theorem infix_append_cons_iff {c : Char} (hc : c ∉ m) (hm : m ≠ []) :
    m <:+: a ++ c :: b ↔ m <:+: a ∨ m <:+: b := by
  have h := occurrences_append_cons hc hm a b
  rw [← not_iff_not, ← occurrences_eq_zero_iff hm, h, Nat.add_eq_zero_iff, not_or,
    occurrences_eq_zero_iff hm, occurrences_eq_zero_iff hm]

/-! ### Lines -/

theorem toList_joinLines_cons (line : String) {lines : List String} (h : lines ≠ []) :
    (joinLines (line :: lines)).toList = line.toList ++ '\n' :: (joinLines lines).toList := by
  obtain ⟨next, more, rfl⟩ := List.exists_cons_of_ne_nil h
  rw [joinLines, joinLines, String.toList_intercalate, String.toList_intercalate, List.map_cons,
    List.map_cons, List.intercalate_cons_cons]
  simp

/-- Each line occurs in the text. -/
theorem infix_joinLines_of_mem {line : String} {lines : List String} (h : line ∈ lines) :
    line.toList <:+: (joinLines lines).toList := by
  induction lines with
  | nil => exact absurd h List.not_mem_nil
  | cons first lines ih =>
    cases lines with
    | nil =>
      rw [List.mem_singleton.1 h]
      simp [joinLines]
    | cons next more =>
      rw [toList_joinLines_cons first (List.cons_ne_nil next more)]
      rcases List.mem_cons.1 h with rfl | h
      · exact (List.prefix_append _ _).isInfix
      · have hrest : (joinLines (next :: more)).toList <:+
            first.toList ++ '\n' :: (joinLines (next :: more)).toList :=
          (List.suffix_cons _ _).trans (List.suffix_append _ _)
        exact (ih h).trans hrest.isInfix

/-- A mark without line feed occurs within the lines. -/
theorem infix_joinLines_iff (hn : '\n' ∉ m) (hm : m ≠ []) {lines : List String} :
    m <:+: (joinLines lines).toList ↔ ∃ l ∈ lines, m <:+: l.toList := by
  induction lines with
  | nil => simp [joinLines, hm]
  | cons line lines ih =>
    cases lines with
    | nil => simp [joinLines]
    | cons next more =>
      rw [toList_joinLines_cons line (List.cons_ne_nil next more), infix_append_cons_iff hn hm, ih]
      simp

theorem not_infix_joinLines (hn : '\n' ∉ m) (hm : m ≠ []) {lines : List String}
    (h : ∀ l ∈ lines, ¬ m <:+: l.toList) : ¬ m <:+: (joinLines lines).toList := by
  rw [infix_joinLines_iff hn hm]
  exact fun ⟨l, hl, hi⟩ => h l hl hi

theorem not_mem_joinLines {c : Char} (hc : c ≠ '\n') {lines : List String}
    (h : ∀ l ∈ lines, c ∉ l.toList) : c ∉ (joinLines lines).toList := by
  rw [← List.singleton_infix_iff]
  refine not_infix_joinLines (by simpa using Ne.symm hc) (List.cons_ne_nil c []) fun l hl hi => ?_
  exact h l hl ((List.singleton_infix_iff c _).1 hi)

/-- The last line stands at the end, behind a line feed. -/
theorem suffix_joinLines {lines : List String} {last : String} (hl : 2 ≤ lines.length)
    (h : lines.getLast? = some last) : '\n' :: last.toList <:+ (joinLines lines).toList := by
  induction lines with
  | nil => cases h
  | cons line lines ih =>
    obtain ⟨next, more, rfl⟩ := List.exists_cons_of_ne_nil
      (List.length_pos_iff.1 (Nat.le_of_succ_le_succ hl))
    rw [toList_joinLines_cons line (List.cons_ne_nil next more)]
    cases more with
    | nil =>
      obtain rfl : next = last := Option.some.inj h
      simp [joinLines]
    | cons after more =>
      exact ((ih (by simp) h).trans (List.suffix_cons _ _)).trans (List.suffix_append _ _)

/-- With an empty line at the end, the text ends with a line feed. -/
theorem getLast?_joinLines {lines : List String} (hl : 2 ≤ lines.length)
    (h : lines.getLast? = some "") : (joinLines lines).toList.getLast? = some '\n' := by
  obtain ⟨front, hfront⟩ := suffix_joinLines hl h
  rw [← hfront, List.getLast?_append]
  rfl

/-! ### Finding -/

theorem startsWith_iff {lead : List Char} : startsWith lead text = true ↔ lead <+: text := by
  rw [startsWith, Option.isSome_iff_exists]
  simp only [dropLead?_eq_some_iff]
  exact ⟨fun ⟨rest, h⟩ => ⟨rest, h.symm⟩, fun ⟨rest, h⟩ => ⟨rest, h.symm⟩⟩

/-- A text is found where it occurs. -/
theorem contains_iff {sub : List Char} : contains sub text = true ↔ sub <:+: text := by
  rw [contains, Option.isSome_iff_exists]
  constructor
  · rintro ⟨⟨before, after⟩, h⟩
    exact ⟨before, after, (cutAt?_append h).symm⟩
  · intro h
    induction text with
    | nil =>
      rw [List.infix_nil.1 h]
      exact ⟨([], []), rfl⟩
    | cons c rest ih =>
      rw [cutAt?]
      cases hd : dropLead? sub (c :: rest) with
      | some after => exact ⟨([], after), rfl⟩
      | none =>
        have hrest : sub <:+: rest := by
          refine (List.infix_cons_iff.1 h).resolve_left ?_
          rintro ⟨after, hp⟩
          rw [dropLead?_eq_some_iff.2 hp.symm] at hd
          exact Option.some_ne_none _ hd
        obtain ⟨⟨before, after⟩, hcut⟩ := ih hrest
        exact ⟨(c :: before, after), by rw [hcut]; rfl⟩

/-! ### Replacing -/

variable {sub new : List Char}

theorem replaceAll_append (hsub : sub ≠ []) (after : List Char) :
    replaceAll sub new (sub ++ after) = new ++ replaceAll sub new after := by
  have hskip : ∀ n t, replaceAll.go sub new n t = replaceAll sub new (t.drop n) := by
    intro n t
    induction n generalizing t with
    | zero => rfl
    | succ n ih =>
      cases t with
      | nil => rfl
      | cons d t => exact ih t
  have hstart : startsWith sub (sub ++ after) = true := startsWith_iff.2 (List.prefix_append _ _)
  obtain ⟨c, tail, rfl⟩ := List.exists_cons_of_ne_nil hsub
  rw [List.cons_append] at hstart ⊢
  rw [replaceAll, replaceAll.go, if_pos hstart, hskip]
  simp

theorem replaceAll_cons {c : Char} {rest : List Char} (h : ¬ sub <+: c :: rest) :
    replaceAll sub new (c :: rest) = c :: replaceAll sub new rest := by
  rw [replaceAll, replaceAll.go, if_neg fun hs => h (startsWith_iff.1 hs)]
  rfl

/-- Nothing is replaced where the first character of what is looked for does not occur. -/
theorem replaceAll_append_of_not_mem {x : Char} {p front : List Char} (h : x ∉ front) (rest : List Char) :
    replaceAll (x :: p) new (front ++ rest) = front ++ replaceAll (x :: p) new rest := by
  induction front with
  | nil => rfl
  | cons d front ih =>
    rw [List.mem_cons, not_or] at h
    have hnot : ¬ x :: p <+: d :: (front ++ rest) := fun hp => h.1 (List.cons_prefix_cons.1 hp).1
    rw [List.cons_append, replaceAll_cons hnot, ih h.2, List.cons_append]

/-- The induction along a replacement: over what is replaced, and over what is kept. -/
theorem replaceAll_induction (hsub : sub ≠ []) {motive : List Char → List Char → Prop}
    (nil : motive [] [])
    (hit : ∀ after, motive after (replaceAll sub new after) →
      motive (sub ++ after) (new ++ replaceAll sub new after))
    (keep : ∀ c rest, ¬ sub <+: c :: rest → motive rest (replaceAll sub new rest) →
      motive (c :: rest) (c :: replaceAll sub new rest)) (text : List Char) :
    motive text (replaceAll sub new text) := by
  induction h : text.length using Nat.strongRecOn generalizing text with
  | _ n ih =>
    cases text with
    | nil => exact nil
    | cons c rest =>
      rw [List.length_cons] at h
      by_cases hp : sub <+: c :: rest
      · obtain ⟨after, hafter⟩ := hp
        have hpos := List.length_pos_iff.2 hsub
        have hlen := congrArg List.length hafter
        rw [List.length_append, List.length_cons] at hlen
        rw [← hafter, replaceAll_append hsub]
        exact hit after (ih after.length (by omega) after rfl)
      · rw [replaceAll_cons hp]
        exact keep c rest hp (ih rest.length (by omega) rest rfl)

/-- What stands at the front stood there before, if nothing of it can have been put there. -/
theorem prefix_of_prefix_replaceAll {n : Char} {tail : List Char} (hsub : sub ≠ []) :
    ∀ text p, n ∉ p → p <+: replaceAll sub (n :: tail) text → p <+: text := by
  intro text
  refine replaceAll_induction (motive := fun text out => ∀ p, n ∉ p → p <+: out → p <+: text)
    hsub ?_ ?_ ?_ text
  · exact fun p _ hp => hp
  · intro after _ p hn hp
    cases p with
    | nil => exact List.nil_prefix
    | cons d p =>
      obtain rfl : d = n := (List.cons_prefix_cons.1 hp).1
      exact absurd List.mem_cons_self hn
  · intro c rest _ ih p hn hp
    cases p with
    | nil => exact List.nil_prefix
    | cons d p =>
      obtain ⟨hd, hp⟩ := List.cons_prefix_cons.1 hp
      exact List.cons_prefix_cons.2 ⟨hd, ih p (fun hm => hn (List.mem_cons_of_mem _ hm)) hp⟩

/-- The text cannot be part of the mark where it is put in: it does not begin like a rest of the mark,
and it is inert to it. -/
def Foreign (m : List Char) : List Char → Prop
  | [] => False
  | c :: rest => c ∉ m.tail ∧ Inert m (c :: rest)

instance (m : List Char) : (text : List Char) → Decidable (Foreign m text)
  | [] => inferInstanceAs (Decidable False)
  | _ :: _ => inferInstanceAs (Decidable (_ ∧ _))

/-- Once it is replaced by something foreign wherever it stood, a mark does not occur. The mark may be
what is replaced, or something that did not occur before. -/
theorem not_infix_replaceAll (hsub : sub ≠ []) (hm : m ≠ []) (hnew : Foreign m new) (text : List Char)
    (h : ∀ s, s <:+ text → m <+: s → sub <+: s) : ¬ m <:+: replaceAll sub new text := by
  obtain ⟨x, p, rfl⟩ := List.exists_cons_of_ne_nil hm
  cases new with
  | nil => exact hnew.elim
  | cons n tail =>
    obtain ⟨hn, hinert⟩ := hnew
    revert h
    refine replaceAll_induction (motive := fun text out =>
      (∀ s, s <:+ text → x :: p <+: s → sub <+: s) → ¬ x :: p <:+: out) hsub ?_ ?_ ?_ text
    · intro _ hi
      exact hm (List.infix_nil.1 hi)
    · intro after ih h hi
      exact ih (fun s hs => h s (hs.trans (List.suffix_append sub after))) (hinert.infix_append hi)
    · intro c rest hnot ih h hi
      rcases List.infix_cons_iff.1 hi with hi | hi
      · -- The mark begins here, and then it began here before.
        obtain ⟨rfl, hp⟩ := List.cons_prefix_cons.1 hi
        have hp := prefix_of_prefix_replaceAll hsub rest p hn hp
        exact hnot (h _ (List.suffix_refl _) (List.cons_prefix_cons.2 ⟨rfl, hp⟩))
      · exact ih (fun s hs => h s (hs.trans (List.suffix_cons c rest))) hi

/-- A mark that does not occur does not come about. -/
theorem not_infix_replaceAll_of_not_infix (hsub : sub ≠ []) (hm : m ≠ []) (hnew : Foreign m new)
    (h : ¬ m <:+: text) : ¬ m <:+: replaceAll sub new text :=
  not_infix_replaceAll hsub hm hnew text fun _ hs hp => absurd (hp.isInfix.trans hs.isInfix) h

/-- What stands at the end stays, if it is nothing of what is replaced. -/
theorem replaceAll_concat {d : Char} (hsub : sub ≠ []) (hd : d ∉ sub) (text : List Char) :
    replaceAll sub new (text ++ [d]) = replaceAll sub new text ++ [d] := by
  refine replaceAll_induction (motive := fun text out =>
    replaceAll sub new (text ++ [d]) = out ++ [d]) hsub ?_ ?_ ?_ text
  · have hnot : ¬ sub <+: [d] := fun hp =>
      hsub (List.prefix_nil.1 ((prefix_append_cons_iff (a := []) hd).1 hp))
    exact replaceAll_cons hnot
  · intro after ih
    rw [List.append_assoc, replaceAll_append hsub, ih, List.append_assoc]
  · intro c rest hnot ih
    have hnot : ¬ sub <+: c :: (rest ++ [d]) := fun hp =>
      hnot ((prefix_append_cons_iff (a := c :: rest) hd).1 hp)
    rw [List.cons_append, replaceAll_cons hnot, ih, List.cons_append]

/-- A character at both ends stays there, if it is nothing of what is replaced. -/
theorem replaceAll_enclosed {d : Char} (hsub : sub ≠ []) (hd : d ∉ sub) (text : List Char) :
    replaceAll sub new (d :: text ++ [d]) = d :: replaceAll sub new text ++ [d] := by
  have hfront : ¬ sub <+: d :: text := by
    intro hp
    obtain ⟨x, p, rfl⟩ := List.exists_cons_of_ne_nil hsub
    exact hd (List.mem_cons.2 (.inl (List.cons_prefix_cons.1 hp).1.symm))
  rw [replaceAll_concat hsub hd, replaceAll_cons hfront]

theorem not_mem_replaceAll {c : Char} (h : c ∉ new) (hne : new ≠ []) (text : List Char) :
    c ∉ replaceAll [c] new text := by
  obtain ⟨d, tail, rfl⟩ := List.exists_cons_of_ne_nil hne
  have hforeign : Foreign [c] (d :: tail) := And.intro List.not_mem_nil (inert_of_not_mem h)
  rw [← List.singleton_infix_iff]
  exact not_infix_replaceAll (List.cons_ne_nil c []) (List.cons_ne_nil c []) hforeign text
    fun _ _ hp => hp

theorem not_mem_replaceAll_of_not_mem {c : Char} (hsub : sub ≠ []) (hne : new ≠ []) (h : c ∉ new)
    (hc : c ∉ text) : c ∉ replaceAll sub new text := by
  obtain ⟨d, tail, rfl⟩ := List.exists_cons_of_ne_nil hne
  have hforeign : Foreign [c] (d :: tail) := And.intro List.not_mem_nil (inert_of_not_mem h)
  rw [← List.singleton_infix_iff] at hc ⊢
  exact not_infix_replaceAll_of_not_infix hsub (List.cons_ne_nil c []) hforeign hc

/-! ### Letter case -/

/-- Only letters get a small letter. -/
theorem eq_of_toLower_eq {c d : Char} (hc : c.toNat < 97) (h : d.toLower = c) : d = c := by
  unfold Char.toLower at h
  split at h
  · next hd =>
    have hlow : 65 ≤ d.val.toNat := UInt32.le_iff_toNat_le.1 hd.1
    have hhigh : d.val.toNat ≤ 90 := UInt32.le_iff_toNat_le.1 hd.2
    have hval : (d.val + 32).toNat = c.toNat := congrArg Char.toNat h
    rw [UInt32.toNat_add] at hval
    have h32 : (32 : UInt32).toNat = 32 := rfl
    omega
  · exact h

/-- What is inert to a mark is inert to a longer one. -/
theorem Inert.longer (h : Inert m text) (rest : List Char) : Inert (m ++ rest) text := by
  refine ⟨fun hi => h.1 ((List.prefix_append m rest).isInfix.trans hi), fun lead hl hs => ?_⟩
  have hlead : lead <+: m ++ rest := (List.mem_inits _ _).1 hl
  rcases List.prefix_or_prefix_of_prefix hlead (List.prefix_append m rest) with hp | hp
  · exact h.2 lead ((List.mem_inits _ _).2 hp) hs
  · exact absurd (hp.isInfix.trans hs.isInfix) h.1

/-- To a mark without letters, a text is inert in any case of its letters. -/
theorem inert_lowerAscii (hm : m.all fun c => c.toNat < 97) (h : Inert m text) :
    Inert m (lowerAscii text) := by
  have hm : ∀ c ∈ m, c.toNat < 97 := by simpa using hm
  have hback : ∀ t : List Char, t.map Char.toLower ⊆ m → t.map Char.toLower = t := by
    intro t ht
    conv_rhs => rw [← List.map_id t]
    exact List.map_congr_left fun d hd =>
      (eq_of_toLower_eq (hm _ (ht (List.mem_map_of_mem hd))) rfl).symm
  refine ⟨fun hi => h.1 ?_, fun lead hl hs => h.2 lead hl ?_⟩
  · obtain ⟨before, after, he⟩ := hi
    obtain ⟨front, t₂, rfl, hfront, -⟩ := List.map_eq_append_iff.1 he.symm
    obtain ⟨t₁, t, rfl, -, ht⟩ := List.map_eq_append_iff.1 hfront
    rw [← ht, hback t (by rw [ht]; exact List.Subset.refl m)]
    exact List.infix_append t₁ t t₂
  · obtain ⟨before, he⟩ := hs
    obtain ⟨t₁, t, rfl, -, ht⟩ := List.map_eq_append_iff.1 he.symm
    have hsub : lead ⊆ m := ((List.mem_inits _ _).1 hl).subset
    rw [← ht, hback t (by rw [ht]; exact hsub)]
    exact List.suffix_append t₁ t

end LivePreview.Text
