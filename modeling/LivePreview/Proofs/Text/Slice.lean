import Mathlib.Data.List.Basic
import LivePreview.Proofs.Text.Utf8
/-!
# LivePreview.Proofs.Text.Slice

**Slices between byte positions.** A text can be cut at a position where no character goes on, which a
look at one byte tells (`isBoundary`). These positions are the sizes of what stands in front of a cut
(`isBoundary_iff`), so a slice that is in bounds is a part of the text (`slice?_eq_some_iff`), and slices that
meet make up a slice (`slice?_trans`). A byte that is an ASCII character stands for itself only, so that a
scan for such characters may go byte by byte.
-/

namespace LivePreview.Text

variable {text front mid back : List Char} {c m : Char} {a b i : Nat}

/-! ### The bytes of a character -/

/-- The first byte of a character is no continuation byte, and all others are. -/
theorem exists_encodeChar_eq (c : Char) :
    ∃ first more, encodeChar c = first :: more ∧ isContinuation first = false ∧
      (∀ b ∈ more, isContinuation b = true) ∧
      (c.toNat < 128 ∧ first = c.toNat ∧ more = [] ∨ 128 ≤ c.toNat ∧ 128 ≤ first) := by
  simp only [encodeChar, isContinuation, Bool.and_eq_true, Bool.and_eq_false_iff, decide_eq_true_eq,
    decide_eq_false_iff_not]
  generalize c.toNat = n
  split
  · next h => exact ⟨n, [], rfl, by omega, fun b hb => absurd hb List.not_mem_nil, .inl ⟨h, rfl, rfl⟩⟩
  · have hmore : ∀ k, 128 ≤ 128 + k % 64 ∧ 128 + k % 64 < 192 := fun k => by omega
    split
    · refine ⟨_, _, rfl, by omega, ?_, .inr (by omega)⟩
      simp only [List.mem_cons, List.not_mem_nil, or_false, forall_eq]
      exact hmore _
    · split
      · refine ⟨_, _, rfl, by omega, ?_, .inr (by omega)⟩
        simp only [List.mem_cons, List.not_mem_nil, or_false, forall_eq_or_imp, forall_eq]
        exact ⟨hmore _, hmore _⟩
      · refine ⟨_, _, rfl, by omega, ?_, .inr (by omega)⟩
        simp only [List.mem_cons, List.not_mem_nil, or_false, forall_eq_or_imp, forall_eq]
        exact ⟨hmore _, hmore _, hmore _⟩

theorem le_of_isContinuation (h : isContinuation b = true) : 128 ≤ b := by
  simp only [isContinuation, Bool.and_eq_true, decide_eq_true_eq] at h
  exact h.1

theorem encodeChar_of_lt (h : c.toNat < 128) : encodeChar c = [c.toNat] :=
  if_pos h

@[simp] theorem encode_nil : encode [] = [] := rfl

@[simp] theorem encode_cons (c : Char) (text : List Char) :
    encode (c :: text) = encodeChar c ++ encode text := rfl

@[simp] theorem encode_append (a b : List Char) : encode (a ++ b) = encode a ++ encode b :=
  List.flatMap_append

/-- Behind a first part stand the bytes of the second one. -/
theorem drop_encode (front back : List Char) :
    (encode (front ++ back)).drop (byteSize front) = encode back := by
  rw [encode_append, ← length_encode, List.drop_left]

/-- The first byte is an ASCII character where the text begins with it. -/
theorem head?_encode (hm : m.toNat < 128) :
    (encode text).head? = some m.toNat ↔ text.head? = some m := by
  cases text with
  | nil => simp
  | cons c text =>
    obtain ⟨first, more, hc, -, -, hfirst⟩ := exists_encodeChar_eq c
    rw [encode_cons, hc, List.cons_append, List.head?_cons, List.head?_cons, Option.some.injEq,
      Option.some.injEq, ← Char.toNat_inj]
    omega

/-! ### Boundaries -/

/-- Can the text be cut at the byte position `i`? There it begins, ends, or goes on with the first byte of a
character. -/
def isBoundary (text : List Char) (i : Nat) : Bool :=
  i == 0 || i == byteSize text || (encode text)[i]?.any fun b => !isContinuation b

theorem exists_of_not_continuation (h : (encode text)[i]? = some b) (hb : isContinuation b = false) :
    ∃ front back, text = front ++ back ∧ byteSize front = i := by
  induction text generalizing i with
  | nil => simp at h
  | cons c text ih =>
    by_cases hi : i = 0
    · exact ⟨[], c :: text, rfl, hi.symm⟩
    · obtain ⟨first, more, hc, -, hmore, -⟩ := exists_encodeChar_eq c
      by_cases hlt : i < charBytes c
      · -- Within a character there are continuation bytes only.
        have hlt : i < (encodeChar c).length := by rwa [length_encodeChar]
        rw [encode_cons, List.getElem?_append_left hlt, hc, List.getElem?_cons, if_neg hi] at h
        rw [hmore b (List.mem_of_getElem? h)] at hb
        cases hb
      · rw [encode_cons, List.getElem?_append_right (by rw [length_encodeChar]; omega),
          length_encodeChar] at h
        obtain ⟨front, back, rfl, hfront⟩ := ih h
        exact ⟨c :: front, back, rfl, by rw [byteSize_cons]; omega⟩

/-- **A boundary** is a position between what stands in front of it and what stands behind it. -/
theorem isBoundary_iff :
    isBoundary text i = true ↔ ∃ front back, text = front ++ back ∧ byteSize front = i := by
  simp only [isBoundary, Bool.or_eq_true, beq_iff_eq, Option.any_eq_true, Bool.not_eq_true']
  constructor
  · rintro ((rfl | rfl) | ⟨b, hb, hfirst⟩)
    · exact ⟨[], text, rfl, rfl⟩
    · exact ⟨text, [], (List.append_nil text).symm, rfl⟩
    · exact exists_of_not_continuation hb hfirst
  · rintro ⟨front, back, rfl, rfl⟩
    cases back with
    | nil => exact .inl (.inr (by rw [List.append_nil]))
    | cons c back =>
      obtain ⟨first, more, hc, hfirst, -⟩ := exists_encodeChar_eq c
      refine .inr ⟨first, ?_, hfirst⟩
      rw [encode_append, List.getElem?_append_right (Nat.le_of_eq (length_encode front)),
        length_encode, Nat.sub_self, encode_cons, hc]
      rfl

/-! ### Slices -/

/-- The text between two byte positions. There is none if the second position is in front of the first one
or behind the end of the text, or if one of them falls into a character. -/
def slice? (text : List Char) (a b : Nat) : Option (List Char) :=
  if a ≤ b ∧ b ≤ byteSize text ∧ isBoundary text a = true ∧ isBoundary text b = true then
    some (takeBytes (b - a) (dropBytes a text))
  else none

/-- A part of a text is the slice between what stands in front of it and behind it. -/
theorem slice?_append (front mid back : List Char) :
    slice? (front ++ (mid ++ back)) (byteSize front) (byteSize front + byteSize mid) = some mid := by
  have hfirst : isBoundary (front ++ (mid ++ back)) (byteSize front) = true :=
    isBoundary_iff.2 ⟨front, mid ++ back, rfl, rfl⟩
  have hsecond : isBoundary (front ++ (mid ++ back)) (byteSize front + byteSize mid) = true :=
    isBoundary_iff.2 ⟨front ++ mid, back, by rw [List.append_assoc], byteSize_append front mid⟩
  have hle : byteSize front + byteSize mid ≤ byteSize (front ++ (mid ++ back)) := by
    simp only [byteSize_append]
    omega
  rw [slice?, if_pos ⟨Nat.le_add_right _ _, hle, hfirst, hsecond⟩, dropBytes_append,
    Nat.add_sub_cancel_left, takeBytes_append]

/-- **A slice** is a part of the text. -/
theorem slice?_eq_some_iff :
    slice? text a b = some mid ↔
      ∃ front back, text = front ++ (mid ++ back) ∧ a = byteSize front ∧
        b = byteSize front + byteSize mid := by
  constructor
  · intro h
    obtain ⟨⟨hab, -, hfirst, hsecond⟩, hmid⟩ := Option.ite_none_right_eq_some.1 h
    obtain ⟨front, rest, htext, rfl⟩ := isBoundary_iff.1 hfirst
    obtain ⟨before, back, hbefore, rfl⟩ := isBoundary_iff.1 hsecond
    -- The first position is in front of the second one, so its front is a part of the other.
    have hprefix : front <+: before := by
      rcases List.prefix_or_prefix_of_prefix (⟨rest, htext.symm⟩ : front <+: text)
        ⟨back, hbefore.symm⟩ with hp | ⟨more, rfl⟩
      · exact hp
      · have hmore : more.length ≤ byteSize more := length_le_byteSize more
        rw [byteSize_append] at hab
        have hnil : more = [] := List.eq_nil_of_length_eq_zero (by omega)
        exact ⟨[], by rw [hnil, List.append_nil, List.append_nil]⟩
    obtain ⟨part, rfl⟩ := hprefix
    have hslice := slice?_append front part back
    rw [← List.append_assoc, ← hbefore, ← byteSize_append, h, Option.some.injEq] at hslice
    subst hslice
    exact ⟨front, back, by rw [hbefore, List.append_assoc], rfl, byteSize_append front mid⟩
  · rintro ⟨front, back, rfl, rfl, rfl⟩
    exact slice?_append front mid back

/-- The end of a slice would fall into the second character. -/
example : slice? ['a', 'é'] 0 2 = none := by decide

theorem slice?_all (text : List Char) : slice? text 0 (byteSize text) = some text :=
  slice?_eq_some_iff.2 ⟨[], [], (List.append_nil text).symm, rfl, (Nat.zero_add _).symm⟩

/-- What a slice begins with is the slice up to there. -/
theorem slice?_left {x y : List Char} (h : slice? text a b = some (x ++ y)) :
    slice? text a (a + byteSize x) = some x := by
  obtain ⟨front, back, rfl, rfl, -⟩ := slice?_eq_some_iff.1 h
  rw [List.append_assoc]
  exact slice?_append front x (y ++ back)

/-- What a slice ends with is the slice from there on. -/
theorem slice?_right {x y : List Char} (h : slice? text a b = some (x ++ y)) :
    slice? text (a + byteSize x) b = some y := by
  obtain ⟨front, back, rfl, rfl, rfl⟩ := slice?_eq_some_iff.1 h
  rw [List.append_assoc, ← List.append_assoc front, byteSize_append, ← Nat.add_assoc, ← byteSize_append]
  exact slice?_append (front ++ x) y back

theorem add_byteSize_of_slice? (h : slice? text a b = some mid) : a + byteSize mid = b := by
  obtain ⟨front, back, -, rfl, rfl⟩ := slice?_eq_some_iff.1 h
  rfl

/-- Slices that meet make up a slice. -/
theorem slice?_trans {c : Nat} {x y : List Char} (hx : slice? text a b = some x)
    (hy : slice? text b c = some y) : slice? text a c = some (x ++ y) := by
  obtain ⟨front, back, htext, rfl, rfl⟩ := slice?_eq_some_iff.1 hx
  obtain ⟨before, rest, rfl, hbefore, rfl⟩ := slice?_eq_some_iff.1 hy
  -- Both parts in front of the place where the slices meet have the same size.
  have hfront : before = front ++ x := by
    have htake := congrArg (takeBytes (byteSize before)) htext
    rwa [takeBytes_append, ← hbefore, ← byteSize_append, ← List.append_assoc, takeBytes_append] at htake
  refine slice?_eq_some_iff.2 ⟨front, rest, by rw [hfront, List.append_assoc, List.append_assoc], rfl, ?_⟩
  rw [hfront, byteSize_append, byteSize_append, Nat.add_assoc]

/-- The bytes between two positions. There are none if the second position is in front of the first one or
behind the end. -/
def bytesBetween? (bytes : List Nat) (a b : Nat) : Option (List Nat) :=
  if a ≤ b ∧ b ≤ bytes.length then some ((bytes.drop a).take (b - a)) else none

theorem bytesBetween?_encode (front mid back : List Char) :
    bytesBetween? (encode (front ++ (mid ++ back))) (byteSize front) (byteSize front + byteSize mid) =
      some (encode mid) := by
  have hle : byteSize front + byteSize mid ≤ (encode (front ++ (mid ++ back))).length := by
    simp only [length_encode, byteSize_append]
    omega
  rw [bytesBetween?, if_pos ⟨Nat.le_add_right _ _, hle⟩, Nat.add_sub_cancel_left, drop_encode,
    encode_append, ← length_encode, List.take_left]

end LivePreview.Text
