import LivePreview.Text.Utf8
/-!
# LivePreview.Proofs.Text.Utf8

**Texts with the same bytes are equal.** The bytes of a character tell where they end, so they can be
read off the front of any bytes, and a text character by character. The lenient reader reads them as
that text (`decodeLossy_encode`). The order of texts is that of their bytes (`encode_lt`).
-/

namespace LivePreview.Text

/-- A cut behind a first part goes through the second one. -/
theorem dropBytes_add_append (n : Nat) (a b : List Char) :
    dropBytes (byteSize a + n) (a ++ b) = dropBytes n b := by
  induction a with
  | nil => rw [byteSize_nil, Nat.zero_add, List.nil_append]
  | cons c a ih =>
    have hc := charBytes_pos c
    obtain ⟨m, hm⟩ : ∃ m, byteSize (c :: a) + n = m + 1 := ⟨charBytes c + byteSize a + n - 1, by
      rw [byteSize_cons]
      omega⟩
    have hrest : m + 1 - charBytes c = byteSize a + n := by
      rw [← hm, byteSize_cons]
      omega
    rw [hm, List.cons_append, dropBytes, hrest, ih]

theorem takeBytes_add_append (n : Nat) (a b : List Char) :
    takeBytes (byteSize a + n) (a ++ b) = a ++ takeBytes n b := by
  have h := takeBytes_append_dropBytes (byteSize a + n) (a ++ b)
  rw [dropBytes_add_append] at h
  refine List.append_cancel_right (h.trans ?_)
  rw [List.append_assoc, takeBytes_append_dropBytes]

/-- Items that are spelled one after the other can be read back, if each spelling says something and
can be read off the front. -/
theorem eq_of_flatMap_eq {α β : Type} {spell : α → List β} {p : α → Prop}
    (hne : ∀ a, spell a ≠ [])
    (hfront : ∀ a b s t, p a → p b → spell a ++ s = spell b ++ t → a = b ∧ s = t) {items others : List α}
    (hi : ∀ a ∈ items, p a) (ho : ∀ a ∈ others, p a)
    (h : items.flatMap spell = others.flatMap spell) : items = others := by
  induction items generalizing others with
  | nil =>
    cases others with
    | nil => rfl
    | cons b others =>
      rw [List.flatMap_nil, List.flatMap_cons] at h
      exact absurd (List.append_eq_nil_iff.1 h.symm).1 (hne b)
  | cons a items ih =>
    cases others with
    | nil =>
      rw [List.flatMap_nil, List.flatMap_cons] at h
      exact absurd (List.append_eq_nil_iff.1 h).1 (hne a)
    | cons b others =>
      rw [List.flatMap_cons, List.flatMap_cons] at h
      obtain ⟨rfl, hrest⟩ := hfront a b _ _ (hi a List.mem_cons_self) (ho b List.mem_cons_self) h
      have hi' : ∀ x ∈ items, p x := fun x hx => hi x (List.mem_cons_of_mem _ hx)
      have ho' : ∀ x ∈ others, p x := fun x hx => ho x (List.mem_cons_of_mem _ hx)
      rw [ih hi' ho' hrest]

theorem encodeChar_ne_nil (c : Char) : encodeChar c ≠ [] := by
  intro h
  have hl := length_encodeChar c
  have hp := charBytes_pos c
  rw [h, List.length_nil] at hl
  omega

/-- The code point of the first character and the bytes behind it. The first byte tells how many
follow, and each of them has six bits of the code point. -/
def firstCode? : List Nat → Option (Nat × List Nat)
  | b₁ :: rest =>
    if b₁ < 0xC0 then some (b₁, rest)
    else
      match rest with
      | b₂ :: rest =>
        if b₁ < 0xE0 then some ((b₁ - 0xC0) * 0x40 + (b₂ - 0x80), rest)
        else
          match rest with
          | b₃ :: rest =>
            if b₁ < 0xF0 then
              some ((b₁ - 0xE0) * 0x1000 + (b₂ - 0x80) * 0x40 + (b₃ - 0x80), rest)
            else
              match rest with
              | b₄ :: rest =>
                some ((b₁ - 0xF0) * 0x40000 + (b₂ - 0x80) * 0x1000 + (b₃ - 0x80) * 0x40 +
                  (b₄ - 0x80), rest)
              | [] => none
          | [] => none
      | [] => none
  | [] => none

theorem firstCode?_encodeChar (c : Char) (s : List Nat) :
    firstCode? (encodeChar c ++ s) = some (c.toNat, s) := by
  unfold encodeChar
  dsimp only
  generalize c.toNat = n
  split
  · have h₁ : n < 0xC0 := by omega
    simp only [List.cons_append, List.nil_append, firstCode?, if_pos h₁]
  · split
    · have h₁ : ¬ 0xC0 + n / 0x40 < 0xC0 := by omega
      have h₂ : 0xC0 + n / 0x40 < 0xE0 := by omega
      have hn : (0xC0 + n / 0x40 - 0xC0) * 0x40 + (0x80 + n % 0x40 - 0x80) = n := by omega
      simp only [List.cons_append, List.nil_append, firstCode?, if_neg h₁, if_pos h₂, hn]
    · split
      · have h₁ : ¬ 0xE0 + n / 0x1000 < 0xC0 := by omega
        have h₂ : ¬ 0xE0 + n / 0x1000 < 0xE0 := by omega
        have h₃ : 0xE0 + n / 0x1000 < 0xF0 := by omega
        have hn : (0xE0 + n / 0x1000 - 0xE0) * 0x1000 + (0x80 + n / 0x40 % 0x40 - 0x80) * 0x40 +
            (0x80 + n % 0x40 - 0x80) = n := by omega
        simp only [List.cons_append, List.nil_append, firstCode?, if_neg h₁, if_neg h₂, if_pos h₃, hn]
      · have h₁ : ¬ 0xF0 + n / 0x40000 < 0xC0 := by omega
        have h₂ : ¬ 0xF0 + n / 0x40000 < 0xE0 := by omega
        have h₃ : ¬ 0xF0 + n / 0x40000 < 0xF0 := by omega
        have hn : (0xF0 + n / 0x40000 - 0xF0) * 0x40000 + (0x80 + n / 0x1000 % 0x40 - 0x80) * 0x1000 +
            (0x80 + n / 0x40 % 0x40 - 0x80) * 0x40 + (0x80 + n % 0x40 - 0x80) = n := by omega
        simp only [List.cons_append, List.nil_append, firstCode?, if_neg h₁, if_neg h₂, if_neg h₃, hn]

/-- Where the bytes of a character end is decided by the bytes. -/
theorem encodeChar_front {a b : Char} {s t : List Nat} (h : encodeChar a ++ s = encodeChar b ++ t) :
    a = b ∧ s = t := by
  have hread : some (a.toNat, s) = some (b.toNat, t) := by
    rw [← firstCode?_encodeChar a s, h, firstCode?_encodeChar]
  have hpair := Prod.mk.inj (Option.some.inj hread)
  exact ⟨Char.toNat_inj.1 hpair.1, hpair.2⟩

/-- A text can be read back from its bytes. -/
theorem encode_injective {text other : List Char} (h : encode text = encode other) : text = other :=
  eq_of_flatMap_eq (p := fun _ => True) encodeChar_ne_nil (fun _ _ _ _ _ _ => encodeChar_front)
    (fun _ _ => trivial) (fun _ _ => trivial) h

theorem lt_of_mem_encode {text : List Char} {b : Nat} (h : b ∈ encode text) : b < 256 := by
  obtain ⟨c, -, hb⟩ := List.mem_flatMap.1 h
  have hc : c.toNat < 0x110000 := by
    rcases c.valid with hc | ⟨-, hc⟩
    · exact Nat.lt_trans hc (by decide)
    · exact hc
  simp only [encodeChar] at hb
  repeat' split at hb
  all_goals
    simp only [List.mem_cons, List.not_mem_nil, or_false] at hb
    omega

/-! ### Reading back -/

theorem leadByte?_two {n : Nat} (hlow : 0x80 ≤ n) (hhigh : n < 0x800) :
    leadByte? (0xC0 + n / 0x40) = some (1, 0x80, 0xBF, n / 0x40) := by
  have hbyte : (decide (0xC2 ≤ 0xC0 + n / 0x40) && decide (0xC0 + n / 0x40 ≤ 0xDF)) = true := by
    simp only [Bool.and_eq_true, decide_eq_true_eq]
    omega
  rw [leadByte?, if_pos hbyte, Nat.add_sub_cancel_left]

/-- The second of three bytes is within the bounds that the first one sets. -/
theorem leadByte?_three {n : Nat} (hlow : 0x800 ≤ n) (hhigh : n < 0x10000)
    (hvalid : n < 0xD800 ∨ 0xDFFF < n) :
    ∃ low high, leadByte? (0xE0 + n / 0x1000) = some (2, low, high, n / 0x1000) ∧
      low ≤ 0x80 + n / 0x40 % 0x40 ∧ 0x80 + n / 0x40 % 0x40 ≤ high := by
  have hlead : n / 0x1000 < 16 := by omega
  unfold leadByte?
  by_cases h0 : n / 0x1000 = 0
  · refine ⟨0xA0, 0xBF, ?_, by omega, by omega⟩
    simp [h0]
  · by_cases hD : n / 0x1000 = 0xD
    · refine ⟨0x80, 0x9F, ?_, by omega, by omega⟩
      simp [hD]
    · refine ⟨0x80, 0xBF, ?_, by omega, by omega⟩
      generalize n / 0x1000 = lead at *
      have h1 : ¬ 0xE0 + lead ≤ 0xDF := by omega
      have h3 : 0xE0 + lead ≠ 0xED := by omega
      have h4 : 0xE1 ≤ 0xE0 + lead := by omega
      have h5 : 0xE0 + lead ≤ 0xEF := by omega
      simp [h0, h1, h3, h4, h5]

/-- So is the second of four bytes. -/
theorem leadByte?_four {n : Nat} (hlow : 0x10000 ≤ n) (hhigh : n < 0x110000) :
    ∃ low high, leadByte? (0xF0 + n / 0x40000) = some (3, low, high, n / 0x40000) ∧
      low ≤ 0x80 + n / 0x1000 % 0x40 ∧ 0x80 + n / 0x1000 % 0x40 ≤ high := by
  have hlead : n / 0x40000 < 5 := by omega
  unfold leadByte?
  by_cases h0 : n / 0x40000 = 0
  · refine ⟨0x90, 0xBF, ?_, by omega, by omega⟩
    simp [h0]
  · by_cases h4 : n / 0x40000 = 4
    · refine ⟨0x80, 0x8F, ?_, by omega, by omega⟩
      simp [h4]
    · refine ⟨0x80, 0xBF, ?_, by omega, by omega⟩
      obtain h | h | h : n / 0x40000 = 1 ∨ n / 0x40000 = 2 ∨ n / 0x40000 = 3 := by omega
      all_goals simp [h]

/-- What is read ahead of the last byte of a sequence. -/
theorem decodeLossy_go_more {missing low high value b : Nat} (hm : 1 < missing) (hl : low ≤ b)
    (hh : b ≤ high) (rest : List Nat) :
    decodeLossy.go (some ⟨missing, low, high, value⟩) (b :: rest) =
      decodeLossy.go (some ⟨missing - 1, 0x80, 0xBF, value * 0x40 + (b - 0x80)⟩) rest := by
  rw [decodeLossy.go, if_pos (by simp [hl, hh])]
  exact if_neg (by simpa using hm)

theorem decodeLossy_go_last {low high value b : Nat} (hl : low ≤ b) (hh : b ≤ high)
    (rest : List Nat) :
    decodeLossy.go (some ⟨1, low, high, value⟩) (b :: rest) =
      Char.ofNat (value * 0x40 + (b - 0x80)) :: decodeLossy.go none rest := by
  rw [decodeLossy.go, if_pos (by simp [hl, hh])]
  exact if_pos (Nat.le_refl 1)

theorem decodeLossy_go_lead {b missing low high value : Nat} (hb : 0x80 ≤ b)
    (h : leadByte? b = some (missing, low, high, value)) (rest : List Nat) :
    decodeLossy.go none (b :: rest) = decodeLossy.go (some ⟨missing, low, high, value⟩) rest := by
  rw [decodeLossy.go, beginByte, if_neg (by omega), h]
  rfl

theorem decodeLossy_go_encodeChar (c : Char) (rest : List Nat) :
    decodeLossy.go none (encodeChar c ++ rest) = c :: decodeLossy.go none rest := by
  have hvalid : c.toNat < 0xD800 ∨ 0xDFFF < c.toNat ∧ c.toNat < 0x110000 := c.valid
  have hchar : Char.ofNat c.toNat = c := Char.ofNat_toNat c
  unfold encodeChar
  dsimp only
  generalize c.toNat = n at hvalid hchar
  split
  · next hn =>
    rw [List.cons_append, List.nil_append, decodeLossy.go, beginByte, if_pos hn, hchar]
    rfl
  · next h₁ =>
    split
    · next h₂ =>
      have hn : n / 0x40 * 0x40 + (0x80 + n % 0x40 - 0x80) = n := by omega
      simp only [List.cons_append, List.nil_append]
      rw [decodeLossy_go_lead (by omega) (leadByte?_two (by omega) h₂),
        decodeLossy_go_last (by omega) (by omega), hn, hchar]
    · next h₂ =>
      split
      · next h₃ =>
        obtain ⟨low, high, hlead, hl, hh⟩ := leadByte?_three (n := n) (by omega) h₃ (by omega)
        have hn : (n / 0x1000 * 0x40 + (0x80 + n / 0x40 % 0x40 - 0x80)) * 0x40 +
            (0x80 + n % 0x40 - 0x80) = n := by omega
        simp only [List.cons_append, List.nil_append]
        rw [decodeLossy_go_lead (by omega) hlead, decodeLossy_go_more (by decide) hl hh,
          decodeLossy_go_last (by omega) (by omega), hn, hchar]
      · next h₃ =>
        obtain ⟨low, high, hlead, hl, hh⟩ := leadByte?_four (n := n) (by omega) (by omega)
        have hn : ((n / 0x40000 * 0x40 + (0x80 + n / 0x1000 % 0x40 - 0x80)) * 0x40 +
            (0x80 + n / 0x40 % 0x40 - 0x80)) * 0x40 + (0x80 + n % 0x40 - 0x80) = n := by omega
        simp only [List.cons_append, List.nil_append]
        rw [decodeLossy_go_lead (by omega) hlead, decodeLossy_go_more (by decide) hl hh,
          decodeLossy_go_more (by decide) (by omega) (by omega),
          decodeLossy_go_last (by omega) (by omega), hn, hchar]

/-- **A text is read back from its bytes.** -/
theorem decodeLossy_encode (text : List Char) : decodeLossy (encode text) = text := by
  induction text with
  | nil => rfl
  | cons c text ih =>
    rw [decodeLossy, encode, List.flatMap_cons, decodeLossy_go_encodeChar]
    exact congrArg (c :: ·) ih

/-- The bytes of a text in ASCII are its code points. -/
theorem decode?_encode_of_ascii {text : List Char} (h : ∀ c ∈ text, c.toNat < 128) :
    decode? (encode text) = some text := by
  induction text with
  | nil => rfl
  | cons c text ih =>
    have hc : c.toNat < 0x80 := h c List.mem_cons_self
    have hbytes : encode (c :: text) = c.toNat :: encode text := by
      rw [encode, List.flatMap_cons, encodeChar, if_pos hc]
      rfl
    have hrest := ih fun d hd => h d (List.mem_cons_of_mem c hd)
    rw [decode?] at hrest ⊢
    rw [hbytes, decode?.go, if_pos hc, hrest, Char.ofNat_toNat]
    rfl

/-! ### Order -/

/-- Of two characters, the one with the smaller code point has the smaller bytes, whatever follows. -/
theorem encodeChar_append_lt {a b : Char} (h : a < b) (s t : List Nat) :
    encodeChar a ++ s < encodeChar b ++ t := by
  have hcode : a.toNat < b.toNat := h
  unfold encodeChar
  dsimp only
  generalize a.toNat = m at hcode ⊢
  generalize b.toNat = n at hcode ⊢
  -- Fewer bytes begin with a smaller one; of equally many, the first that differ decide.
  repeat' split
  all_goals
    simp only [List.cons_append, List.nil_append, List.cons_lt_cons_iff]
    omega

/-- The smaller text has the smaller bytes. -/
theorem encode_lt {text other : List Char} (h : text < other) : encode text < encode other := by
  induction text generalizing other with
  | nil =>
    cases other with
    | nil => exact absurd h (List.lt_irrefl [])
    | cons d other =>
      obtain ⟨b, bytes, hd⟩ := List.exists_cons_of_ne_nil (encodeChar_ne_nil d)
      have hbytes : encode (d :: other) = b :: (bytes ++ encode other) := by
        rw [encode, List.flatMap_cons, hd]
        rfl
      rw [hbytes]
      exact List.nil_lt_cons b _
  | cons c text ih =>
    cases other with
    | nil => exact absurd h (List.not_lt_nil _)
    | cons d other =>
      rw [encode, encode, List.flatMap_cons, List.flatMap_cons]
      rcases List.cons_lt_cons_iff.1 h with hchar | ⟨rfl, hrest⟩
      · exact encodeChar_append_lt hchar _ _
      · exact List.append_left_lt (ih hrest)

end LivePreview.Text
