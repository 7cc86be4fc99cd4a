import LivePreview.Proofs.Text.Utf8
import LivePreview.Slot
/-!
# LivePreview.Proofs.Slot

**Different specifiers have different slots.** A byte is spelled by one letter or digit, or by an
underscore and two hexadecimal digits; as the underscore stands only in front of digits, the bytes of
a specifier can be read back from its slot.
-/

namespace LivePreview.Slot

open Text

/-- Does a byte stand for itself? -/
def isPlainByte (b : Nat) : Bool :=
  (48 ≤ b && b ≤ 57) || (65 ≤ b && b ≤ 90) || (97 ≤ b && b ≤ 122)

theorem spellByte_of_plain {b : Nat} (h : isPlainByte b = true) : spellByte b = [Char.ofNat b] :=
  if_pos h

theorem spellByte_of_not_plain {b : Nat} (h : isPlainByte b = false) :
    spellByte b = ['_', Json.hexDigit (b / 16), Json.hexDigit (b % 16)] :=
  if_neg (by rw [isPlainByte] at h; rw [h]; exact Bool.false_ne_true)

theorem spellByte_ne_nil (b : Nat) : spellByte b ≠ [] := by
  unfold spellByte
  split <;> exact List.cons_ne_nil _ _

theorem toNat_ofNat_of_lt {n : Nat} (h : n < 256) : (Char.ofNat n).toNat = n := by
  have hv : n.isValidChar := .inl (by omega)
  rw [Char.ofNat, dif_pos hv]
  rfl

theorem ofNat_ne_underscore {b : Nat} (hb : b < 256) (h : isPlainByte b = true) :
    Char.ofNat b ≠ '_' := by
  intro he
  have hn : b = 95 := by rw [← toNat_ofNat_of_lt hb, he]; rfl
  rw [hn] at h
  exact absurd h (by decide)

theorem hexDigit_injective {m n : Nat} (hm : m < 16) (hn : n < 16)
    (h : Json.hexDigit m = Json.hexDigit n) : m = n := by
  have digit_toNat : ∀ k < 16, (Json.hexDigit k).toNat = if k < 10 then 48 + k else 87 + k := by
    decide
  have ht := congrArg Char.toNat h
  rw [digit_toNat m hm, digit_toNat n hn] at ht
  split at ht <;> split at ht <;> omega

/-- The spelling of a byte can be read off the front. -/
theorem spellByte_front {b c : Nat} {s t : List Char} (hb : b < 256) (hc : c < 256)
    (h : spellByte b ++ s = spellByte c ++ t) : b = c ∧ s = t := by
  cases hpb : isPlainByte b <;> cases hpc : isPlainByte c
  · rw [spellByte_of_not_plain hpb, spellByte_of_not_plain hpc] at h
    simp only [List.cons_append, List.nil_append, List.cons.injEq, true_and] at h
    have hhigh := hexDigit_injective (by omega) (by omega) h.1
    have hlow := hexDigit_injective (by omega) (by omega) h.2.1
    exact ⟨by omega, h.2.2⟩
  · rw [spellByte_of_not_plain hpb, spellByte_of_plain hpc, List.cons_append, List.cons_append] at h
    exact absurd (List.cons.inj h).1.symm (ofNat_ne_underscore hc hpc)
  · rw [spellByte_of_plain hpb, spellByte_of_not_plain hpc, List.cons_append, List.cons_append] at h
    exact absurd (List.cons.inj h).1 (ofNat_ne_underscore hb hpb)
  · rw [spellByte_of_plain hpb, spellByte_of_plain hpc] at h
    obtain ⟨hchar, hrest⟩ := List.cons.inj h
    refine ⟨?_, hrest⟩
    rw [← toNat_ofNat_of_lt hb, hchar, toNat_ofNat_of_lt hc]

theorem eq_of_ofSpecifier_eq {a b : String} (h : ofSpecifier a = ofSpecifier b) : a = b := by
  have hspelled := congrArg String.toList h
  simp only [ofSpecifier, String.toList_append, String.toList_ofList, List.append_cancel_left_eq]
    at hspelled
  have hbytes : encode a.toList = encode b.toList :=
    eq_of_flatMap_eq (p := (· < 256)) spellByte_ne_nil (fun _ _ _ _ => spellByte_front)
      (fun _ => lt_of_mem_encode) (fun _ => lt_of_mem_encode) hspelled
  exact String.toList_inj.1 (encode_injective hbytes)

end LivePreview.Slot
