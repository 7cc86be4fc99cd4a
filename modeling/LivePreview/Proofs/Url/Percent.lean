import Mathlib.Data.List.Basic
import LivePreview.Proofs.Text.Utf8
import LivePreview.Url.Percent
/-!
# LivePreview.Proofs.Url.Percent

**What is encoded stays as it is.** A percent sign and the digits behind it are never encoded
themselves. So an encoded text holds nothing that is encoded (`IsEncoded`), and encoding it again
changes nothing. Decoding gives back the byte that a percent sign stands for.
-/

namespace LivePreview.Url

open Text

variable {set : EncodeSet} {text other : List Char} {c : Char} {b n : Nat}

/-! ### Digits -/

theorem hexValue?_upperHex (h : n < 16) : hexValue? (upperHex n) = some n := by
  have hall : ∀ n < 16, hexValue? (upperHex n) = some n := by decide
  exact hall n h

/-- The characters in which an encoded byte is written. -/
def percentChars : List Char := "%0123456789ABCDEF".toList

theorem mem_percentChars_of_mem_percentByte (hb : b < 256) (h : c ∈ percentByte b) :
    c ∈ percentChars := by
  have hdigit : ∀ n < 16, upperHex n ∈ percentChars := by decide
  simp only [percentByte, List.mem_cons, List.not_mem_nil, or_false] at h
  rcases h with rfl | rfl | rfl
  · decide
  · exact hdigit _ (by omega)
  · exact hdigit _ (by omega)

/-! ### Encoding -/

/-- Is `c` an ASCII character that can be seen? -/
def isVisible (c : Char) : Bool :=
  33 ≤ c.toNat && c.toNat ≤ 126

theorem isVisible_of_isAsciiAlnum {c : Char} (h : isAsciiAlnum c = true) : isVisible c = true := by
  simp only [isAsciiAlnum, isAsciiLetter, isDigit, Bool.or_eq_true, Bool.and_eq_true,
    decide_eq_true_eq] at h
  simp only [isVisible, Bool.and_eq_true, decide_eq_true_eq]
  omega

/-- Is there nothing in the text that is encoded in this part of an address, and no space? -/
def IsEncoded (set : EncodeSet) (text : List Char) : Prop :=
  ∀ c ∈ text, isVisible c = true ∧ c ∉ set

instance (set : EncodeSet) (text : List Char) : Decidable (IsEncoded set text) :=
  List.decidableBAll (fun c => isVisible c = true ∧ c ∉ set) text

theorem IsEncoded.append (h : IsEncoded set text) (ho : IsEncoded set other) :
    IsEncoded set (text ++ other) := by
  intro c hc
  rcases List.mem_append.1 hc with hc | hc
  · exact h c hc
  · exact ho c hc

theorem IsEncoded.cons (hc : isVisible c = true ∧ c ∉ set) (h : IsEncoded set text) :
    IsEncoded set (c :: text) :=
  List.forall_mem_cons.2 ⟨hc, h⟩

theorem encodeChar_of_visible (hv : isVisible c = true) (hc : c ∉ set) : encodeChar set c = [c] := by
  simp only [isVisible, Bool.and_eq_true, decide_eq_true_eq] at hv
  refine if_neg ?_
  simp only [Bool.or_eq_true, decide_eq_true_eq, List.contains_iff_mem, hc, or_false]
  omega

theorem percentEncode_of_isEncoded (h : IsEncoded set text) : percentEncode set text = text := by
  rw [percentEncode, List.flatMap_congr fun c hc => encodeChar_of_visible (h c hc).1 (h c hc).2,
    List.flatMap_singleton']

/-- A character is kept, or written as bytes. -/
theorem encodeChar_eq_or (set : EncodeSet) (c : Char) :
    (encodeChar set c = [c] ∧ 32 ≤ c.toNat ∧ c.toNat < 127 ∧ c ∉ set) ∨
      encodeChar set c = (Text.encodeChar c).flatMap percentByte := by
  unfold encodeChar
  split
  · exact .inr rfl
  · next h =>
    simp only [Bool.or_eq_true, decide_eq_true_eq, List.contains_iff_mem, not_or] at h
    exact .inl ⟨rfl, by omega, by omega, h.2⟩

theorem percentEncode_eq_nil (h : percentEncode set text = []) : text = [] := by
  cases text with
  | nil => rfl
  | cons c text =>
    rw [percentEncode, List.flatMap_cons, List.append_eq_nil_iff] at h
    rcases encodeChar_eq_or set c with ⟨hkept, -⟩ | hbytes
    · exact absurd (hkept.symm.trans h.1) (List.cons_ne_nil c [])
    · obtain ⟨b, bytes, hc⟩ := List.exists_cons_of_ne_nil (encodeChar_ne_nil c)
      rw [hbytes, hc] at h
      exact absurd h.1 (List.cons_ne_nil _ _)

/-- What is not a percent sign or a digit behind it was there before, and may stand for itself. -/
theorem mem_percentEncode (h : c ∈ percentEncode set text) :
    c ∈ percentChars ∨ c ∈ text ∧ 32 ≤ c.toNat ∧ c.toNat < 127 ∧ c ∉ set := by
  obtain ⟨d, hd, h⟩ := List.mem_flatMap.1 h
  rcases encodeChar_eq_or set d with ⟨hkept, hbounds⟩ | hbytes
  · rw [hkept, List.mem_singleton] at h
    rw [h]
    exact .inr ⟨hd, hbounds⟩
  · rw [hbytes] at h
    obtain ⟨b, hb, h⟩ := List.mem_flatMap.1 h
    have hb : b ∈ encode [d] := by simpa [encode] using hb
    exact .inl (mem_percentChars_of_mem_percentByte (lt_of_mem_encode hb) h)

/-- In a part in which spaces are encoded, and percent signs and digits are not, an encoded text holds
nothing that is encoded. -/
theorem isEncoded_percentEncode (hset : IsEncoded set percentChars) (hspace : ' ' ∈ set)
    (text : List Char) : IsEncoded set (percentEncode set text) := by
  intro c hc
  rcases mem_percentEncode hc with hchars | ⟨-, hlow, hhigh, hnot⟩
  · exact hset c hchars
  · have hne : c.toNat ≠ ' '.toNat := fun h => hnot (Char.toNat_inj.1 h ▸ hspace)
    have hcode : ' '.toNat = 32 := rfl
    refine ⟨?_, hnot⟩
    simp only [isVisible, Bool.and_eq_true, decide_eq_true_eq]
    omega

/-! ### Decoding -/

theorem percentDecode_cons (h : c ≠ '%') (rest : List Char) :
    percentDecode (c :: rest) = Text.encodeChar c ++ percentDecode rest := by
  rw [percentDecode.eq_def]
  split
  · next he => cases he
  · next he =>
    injection he with he
    exact absurd he h
  · next he =>
    injection he with hc hrest
    rw [hc, hrest]

/-- A text without percent signs stands for its own bytes. -/
theorem percentDecode_of_not_mem (h : '%' ∉ text) : percentDecode text = encode text := by
  induction text with
  | nil => rw [percentDecode]; rfl
  | cons c text ih =>
    rw [List.mem_cons, not_or] at h
    rw [percentDecode_cons (Ne.symm h.1), ih h.2]
    rfl

theorem percentDecode_percentByte (hb : b < 256) (rest : List Char) :
    percentDecode (percentByte b ++ rest) = b :: percentDecode rest := by
  rw [percentByte, List.cons_append, List.cons_append, List.cons_append, List.nil_append,
    percentDecode, hexValue?_upperHex (by omega), hexValue?_upperHex (by omega)]
  exact congrArg (· :: percentDecode rest) (by omega)

end LivePreview.Url
