import Mathlib.Algebra.Group.Int.Defs
import Mathlib.Tactic.SplitIfs
import LivePreview.Json.Reading
/-!
# LivePreview.Proofs.Json.Numeral

**Numerals.** What stands for a number behind its sign is digits, a fraction or none, and an exponent or
none (`Numeral`). A numeral is read to its end, whatever follows that could not belong to it
(`readNumber_numeral`); and every number is written as one, except that a double without a finite value
is written as `null` (`text_float`).
-/

namespace LivePreview.Json

open Text (isDigit)

/-! ### Digits -/

/-- Does nothing follow that could belong to a number? -/
def Ends (rest : List Char) : Prop :=
  ∀ c ∈ rest.head?, isDigit c = false ∧ c ≠ '.' ∧ c ≠ 'e' ∧ c ≠ 'E'

theorem ends_nil : Ends [] := by
  simp [Ends]

theorem ends_cons {c : Char} {rest : List Char} :
    Ends (c :: rest) ↔ isDigit c = false ∧ c ≠ '.' ∧ c ≠ 'e' ∧ c ≠ 'E' := by
  simp [Ends]

theorem isDigit_of_mem_toDigits {n : Nat} {c : Char} (h : c ∈ Nat.toDigits 10 n) :
    isDigit c = true := by
  have hdigit := Nat.isDigit_of_mem_toDigits (by decide) (by decide) h
  simpa [Char.isDigit, isDigit, UInt32.le_iff_toNat_le] using hdigit

theorem le_ofDigitChars (digits : List Char) (value : Nat) :
    value ≤ Nat.ofDigitChars 10 digits value := by
  induction digits generalizing value with
  | nil => simp
  | cons c digits ih =>
    rw [Nat.ofDigitChars_cons]
    exact Nat.le_trans (by omega) (ih _)

theorem Ends.noPoint {rest : List Char} (h : Ends rest) :
    ∀ c ∈ rest.head?, isDigit c = false ∧ c ≠ '.' :=
  fun c hc => ⟨(h c hc).1, (h c hc).2.1⟩

theorem Ends.noDigit {rest : List Char} (h : Ends rest) : ∀ c ∈ rest.head?, isDigit c = false :=
  fun c hc => (h c hc).1

theorem Ends.noLetter {rest : List Char} (h : Ends rest) :
    (rest.head?.any fun e => e == 'e' || e == 'E') = false := by
  cases rest with
  | nil => rfl
  | cons c rest => simp [ends_cons.1 h]

/-- Digits of a number below the bound are all taken. -/
theorem gather_eq {bound value : Nat} {digits : List Char}
    (h : Nat.ofDigitChars 10 digits value < bound) :
    gather bound value digits = (Nat.ofDigitChars 10 digits value, digits.length) := by
  induction digits generalizing value with
  | nil => simp [gather]
  | cons c digits ih =>
    rw [Nat.ofDigitChars_cons, Nat.mul_comm] at h ⊢
    have hnext : value * 10 + (c.toNat - 48) < bound := Nat.lt_of_le_of_lt (le_ofDigitChars _ _) h
    simp only [gather, hnext, if_true]
    exact congrArg (fun taken : Nat × Nat => (taken.1, taken.2 + 1)) (ih h)

/-- Only the zero begins with a zero. -/
theorem eq_nil_of_toDigits {n : Nat} {digits : List Char} (h : Nat.toDigits 10 n = '0' :: digits) :
    digits = [] := by
  induction n using Nat.strongRecOn generalizing digits with
  | _ n ih =>
    by_cases hn : n < 10
    · rw [Nat.toDigits_of_lt_base hn] at h
      exact (List.cons.inj h).2.symm
    · rw [Nat.toDigits_of_base_le (by decide) (by omega)] at h
      cases hfront : Nat.toDigits 10 (n / 10) with
      | nil => exact absurd hfront Nat.toDigits_ne_nil
      | cons c front =>
        rw [hfront, List.cons_append, List.cons.injEq] at h
        obtain rfl := h.1
        obtain rfl := ih (n / 10) (by omega) hfront
        have hzero : n / 10 = 0 := by
          rw [← Nat.ofDigitChars_ten_toDigits (n := n / 10), hfront]
          rfl
        omega

/-- The digits of a text are those in front of what is none. -/
theorem span_digits {digits rest : List Char} (h : ∀ c ∈ digits, isDigit c = true)
    (hrest : ∀ c ∈ rest.head?, isDigit c = false) :
    (digits ++ rest).takeWhile isDigit = digits ∧ (digits ++ rest).dropWhile isDigit = rest := by
  have hnone : rest.takeWhile isDigit = [] ∧ rest.dropWhile isDigit = rest := by
    cases rest with
    | nil => exact ⟨rfl, rfl⟩
    | cons c rest => simp [hrest c rfl]
  rw [List.takeWhile_append_of_pos h, List.dropWhile_append_of_pos h, hnone.1, hnone.2, List.append_nil]
  exact ⟨rfl, rfl⟩

/-- Are these digits, at least one? -/
structure Digits (digits : List Char) : Prop where
  ne_nil : digits ≠ []
  digit : ∀ c ∈ digits, isDigit c = true

/-- Are these digits, and is a zero in front of them the only one? -/
structure WholeDigits (digits : List Char) : Prop extends Digits digits where
  lead : ∀ more, digits = '0' :: more → more = []

theorem wholeDigits_toDigits (n : Nat) : WholeDigits (Nat.toDigits 10 n) :=
  ⟨⟨Nat.toDigits_ne_nil, fun _ => isDigit_of_mem_toDigits⟩, fun _ => eq_nil_of_toDigits⟩

section Whole

variable (negative : Bool) {whole fraction tail : List Char} {digits count all used : Nat}

/-- A number is read behind its whole digits. -/
theorem WholeDigits.exists_cons (h : WholeDigits whole) (htail : ∀ d ∈ tail.head?, isDigit d = false) :
    ∃ c after, whole ++ tail = c :: after ∧ isDigit c = true ∧
      (c == '0' && after.head?.any isDigit) = false := by
  obtain ⟨⟨hne, hdigit⟩, hlead⟩ := h
  cases whole with
  | nil => exact absurd rfl hne
  | cons c whole =>
    refine ⟨c, whole ++ tail, rfl, hdigit c List.mem_cons_self, ?_⟩
    by_cases hc : c = '0'
    · obtain rfl := hlead whole (by rw [hc])
      cases tail with
      | nil => simp
      | cons d tail => simp [htail d rfl]
    · simp [hc]

/-- Whole digits are read up to what is neither a digit nor a point. -/
theorem readNumber_whole (h : WholeDigits whole)
    (hgather : gather (Nat.pow 2 64) 0 whole = (digits, count))
    (htail : ∀ d ∈ tail.head?, isDigit d = false ∧ d ≠ '.') :
    readNumber negative (whole ++ tail) =
      if whole.length - count = 0 && !(tail.head?.any fun e => e == 'e' || e == 'E') then
        (.number (Json.whole negative digits), some tail)
      else readTail negative digits (whole.length - count : Nat) tail := by
  have hnoDigit : ∀ d ∈ tail.head?, isDigit d = false := fun d hd => (htail d hd).1
  obtain ⟨htake, hdrop⟩ := span_digits h.digit hnoDigit
  obtain ⟨c, after, hfront, hc, hzero⟩ := h.exists_cons hnoDigit
  rw [hfront] at htake hdrop ⊢
  simp only [readNumber, hc, hzero, htake, hdrop, hgather, Bool.not_true, Bool.false_eq_true, if_false]
  cases tail with
  | nil => rfl
  | cons d tail =>
    have hpoint : d ≠ '.' := (htail d rfl).2
    simp [hpoint]

/-- Whole digits are read up to a point, and then the digits behind it. -/
theorem readNumber_point (h : WholeDigits whole)
    (hgather : gather (Nat.pow 2 64) 0 whole = (digits, count))
    (hfraction : Digits fraction) (hbehind : gather (Nat.pow 2 64) digits fraction = (all, used))
    (htail : ∀ d ∈ tail.head?, isDigit d = false) :
    readNumber negative (whole ++ '.' :: (fraction ++ tail)) =
      readTail negative all ((whole.length - count : Nat) - (used : Int)) tail := by
  have hnoDigit : ∀ d ∈ ('.' :: (fraction ++ tail)).head?, isDigit d = false :=
    fun d hd => Option.some.inj hd ▸ rfl
  have hsome : fraction.isEmpty = false := List.isEmpty_eq_false_iff.2 hfraction.ne_nil
  obtain ⟨htake, hdrop⟩ := span_digits h.digit hnoDigit
  obtain ⟨hdigits, hafter⟩ := span_digits hfraction.digit htail
  obtain ⟨c, after, hfront, hc, hzero⟩ := h.exists_cons hnoDigit
  rw [hfront] at htake hdrop ⊢
  simp only [readNumber, hc, hzero, htake, hdrop, hgather, hdigits, hafter, hbehind, hsome,
    Bool.not_true, Bool.false_eq_true, if_false]

end Whole

/-- The digits of a number are read, whatever follows that does not belong to it. -/
theorem readNumber_toDigits (negative : Bool) {n : Nat} (hn : n < Nat.pow 2 64) {rest : List Char}
    (hrest : Ends rest) :
    readNumber negative (Nat.toDigits 10 n ++ rest) = (.number (whole negative n), some rest) := by
  have hgather : gather (Nat.pow 2 64) 0 (Nat.toDigits 10 n) = (n, (Nat.toDigits 10 n).length) := by
    rw [gather_eq (by rwa [Nat.ofDigitChars_ten_toDigits]), Nat.ofDigitChars_ten_toDigits]
  rw [readNumber_whole negative (wholeDigits_toDigits n) hgather hrest.noPoint, Nat.sub_self,
    hrest.noLetter]
  rfl

/-! ### Numerals -/

/-- How a number is spelled behind its sign. -/
structure Numeral where
  /-- The digits in front of the point. -/
  whole : List Char
  /-- The digits behind the point; there is no point if there are none. -/
  fraction : List Char := []
  /-- The sign and the digits of the exponent. -/
  exponent : Option (Char × List Char) := none

namespace Numeral

/-- The point and what is behind it. -/
def fractionText : List Char → List Char
  | [] => []
  | digits => '.' :: digits

theorem fractionText_of_ne_nil {digits : List Char} (h : digits ≠ []) :
    fractionText digits = '.' :: digits := by
  cases digits with
  | nil => exact absurd rfl h
  | cons c digits => rfl

/-- The letter and what is behind it. -/
def exponentText : Option (Char × List Char) → List Char
  | none => []
  | some (sign, digits) => 'e' :: sign :: digits

/-- The text of a numeral. -/
def text (n : Numeral) : List Char :=
  n.whole ++ (fractionText n.fraction ++ exponentText n.exponent)

/-- Is the numeral spelled with digits where digits have to stand? -/
structure Proper (n : Numeral) : Prop where
  whole : WholeDigits n.whole
  fraction : ∀ c ∈ n.fraction, isDigit c = true
  exponent : ∀ e ∈ n.exponent, (e.1 = '+' ∨ e.1 = '-') ∧ Digits e.2

theorem Proper.exists_cons {n : Numeral} (hn : n.Proper) :
    ∃ c more, n.text = c :: more ∧ isDigit c = true := by
  obtain ⟨whole, fraction, exponent⟩ := n
  obtain ⟨⟨hne, hdigit⟩, -⟩ := hn.whole
  cases whole with
  | nil => exact absurd rfl hne
  | cons c whole => exact ⟨c, _, rfl, hdigit c List.mem_cons_self⟩

end Numeral

open Numeral (fractionText exponentText)

theorem readExponent_digits (negative : Bool) (digits : Nat) (start : Int) {sign : Char}
    {power : List Char} (hsign : sign = '+' ∨ sign = '-') (hpower : Digits power) :
    ∃ value, ∀ rest, Ends rest →
      readExponent negative digits start (sign :: (power ++ rest)) = (.number value, some rest) := by
  obtain ⟨hne, hdigit⟩ := hpower
  cases power with
  | nil => exact absurd rfl hne
  | cons c power =>
    have hc : isDigit c = true := hdigit c List.mem_cons_self
    cases hgather : gather (Nat.pow 2 31) 0 (c :: power) with
    | mk size count =>
      -- What is read depends on the digits alone.
      let value (down : Bool) : Except Fault Number :=
        if count < (c :: power).length then
          if digits != 0 && !down then .error .numberOutOfRange else float? negative 0 0
        else float? negative digits (if down then start - size else start + size)
      refine ⟨value (sign == '-'), fun rest hrest => ?_⟩
      obtain ⟨htake, hdrop⟩ := span_digits hdigit hrest.noDigit
      rw [List.cons_append] at htake hdrop ⊢
      rcases hsign with rfl | rfl
      all_goals
        simp only [readExponent, hc, htake, hdrop, hgather, Bool.not_true, Bool.false_eq_true, if_false]
        rfl

theorem readTail_exponent (negative : Bool) (digits : Nat) (start : Int)
    {exponent : Option (Char × List Char)}
    (h : ∀ e ∈ exponent, (e.1 = '+' ∨ e.1 = '-') ∧ Digits e.2) :
    ∃ value, ∀ rest, Ends rest →
      readTail negative digits start (exponentText exponent ++ rest) = (.number value, some rest) := by
  cases exponent with
  | some e =>
    obtain ⟨value, hvalue⟩ := readExponent_digits negative digits start (h e rfl).1 (h e rfl).2
    exact ⟨value, hvalue⟩
  | none =>
    refine ⟨float? negative digits start, fun rest hrest => ?_⟩
    cases rest with
    | nil => rfl
    | cons c rest =>
      obtain ⟨-, -, he, hE⟩ := ends_cons.1 hrest
      rw [exponentText, List.nil_append, readTail]
      · exact fun _ hc => he (List.cons.inj hc).1
      · exact fun _ hc => hE (List.cons.inj hc).1

/-- An exponent goes on from the digits of a number without adding to them. -/
theorem exponentText_noPoint {rest : List Char} (hrest : Ends rest)
    (exponent : Option (Char × List Char)) :
    ∀ d ∈ (exponentText exponent ++ rest).head?, isDigit d = false ∧ d ≠ '.' := by
  cases exponent with
  | none => exact hrest.noPoint
  | some e =>
    intro d hd
    obtain rfl : 'e' = d := Option.some.inj hd
    decide

/-- A numeral is read to its end, whatever follows that does not belong to it. -/
theorem readNumber_numeral (negative : Bool) {n : Numeral} (hn : n.Proper) :
    ∃ value, ∀ rest, Ends rest →
      readNumber negative (n.text ++ rest) = (.number value, some rest) := by
  obtain ⟨whole, fraction, exponent⟩ := n
  obtain ⟨hwhole, hfraction, hexponent⟩ := hn
  cases hgather : gather (Nat.pow 2 64) 0 whole with
  | mk digits count =>
    cases fraction with
    | cons f fraction =>
      cases hbehind : gather (Nat.pow 2 64) digits (f :: fraction) with
      | mk all used =>
        obtain ⟨value, hvalue⟩ := readTail_exponent negative all
          ((whole.length - count : Nat) - (used : Int)) hexponent
        refine ⟨value, fun rest hrest => ?_⟩
        have hread := readNumber_point negative hwhole hgather
          ⟨List.cons_ne_nil f fraction, hfraction⟩ hbehind
          (fun d hd => (exponentText_noPoint hrest exponent d hd).1)
        simpa [Numeral.text, fractionText] using hread.trans (hvalue rest hrest)
    | nil =>
      obtain ⟨value, hvalue⟩ :=
        readTail_exponent negative digits (whole.length - count : Nat) hexponent
      have hread {rest : List Char} (hrest : Ends rest) := readNumber_whole negative
        hwhole hgather (exponentText_noPoint hrest exponent)
      cases exponent with
      | some e =>
        refine ⟨value, fun rest hrest => ?_⟩
        have hletter :
            (exponentText (some e) ++ rest).head?.any (fun e => e == 'e' || e == 'E') = true := rfl
        have hresult := hread hrest
        rw [hletter, Bool.not_true, Bool.and_false, if_neg Bool.false_ne_true,
          hvalue rest hrest] at hresult
        simpa [Numeral.text, fractionText] using hresult
      | none =>
        -- Digits beyond 64 bits make even a whole number a double.
        refine ⟨if whole.length - count = 0 then Json.whole negative digits else value,
          fun rest hrest => ?_⟩
        have hresult := hread hrest
        rw [hvalue rest hrest] at hresult
        rw [exponentText, List.nil_append, hrest.noLetter, Bool.not_false, Bool.and_true] at hresult
        simp only [Numeral.text, fractionText, exponentText, List.append_nil]
        rw [hresult]
        by_cases hdropped : whole.length - count = 0 <;> simp [hdropped]

end LivePreview.Json

/-! ### Doubles -/

namespace LivePreview.Decimal

open Json (Numeral WholeDigits)

variable {b : Binary} {d : Digits}

/-- A point that is taken is not zero, which no other number is near to. -/
theorem Binary.ne_zero_of_nearest? {n value : Nat} (h : b.nearest? n = some value) : value ≠ 0 := by
  unfold nearest? at h
  dsimp only at h
  split at h
  · next hbelow _ =>
    obtain ⟨-, hne⟩ := Bool.and_eq_true_iff.1 hbelow
    have hpoint := bne_iff_ne.1 hne
    split_ifs at h
    · exact Option.some.inj h ▸ hpoint
    · exact Option.some.inj h ▸ Nat.succ_ne_zero _
    · exact Option.some.inj h ▸ hpoint
    · exact Option.some.inj h ▸ Nat.succ_ne_zero _
  · next hbelow _ =>
    obtain ⟨-, hne⟩ := Bool.and_eq_true_iff.1 hbelow
    exact Option.some.inj h ▸ bne_iff_ne.1 hne
  · exact Option.some.inj h ▸ Nat.succ_ne_zero _
  · cases h

theorem Binary.unit_pos : 0 < Nat.pow 2 1076 := by
  decide +kernel

theorem Binary.search_value_ne_zero {n tries : Nat} (h : step (n - tries) ≤ b.scaled * tenPower) :
    (b.search n tries).value ≠ 0 := by
  induction tries generalizing n with
  | zero =>
    have hstep : 0 < step n := Nat.mul_pos (Nat.pow_pos (by decide)) unit_pos
    exact Nat.ne_of_gt (Nat.div_pos h hstep)
  | succ tries ih =>
    unfold search
    split
    · next hnearest => exact ne_zero_of_nearest? hnearest
    · exact ih (by rwa [show n - 1 - tries = n - (tries + 1) by omega])

/-- The shortest digits of a number other than zero are not zero. -/
theorem Binary.shortest_value_ne_zero (h : b.mantissa ≠ 0) : b.shortest.value ≠ 0 := by
  refine search_value_ne_zero ?_
  have hpower : Nat.pow 2 1076 ≤ tenPower := by decide +kernel
  have hscaled : 0 < b.scaled := by
    have hmantissa := Nat.pos_of_ne_zero h
    exact Nat.mul_pos (by omega) (Nat.pow_pos (by decide))
  -- The number is at least one on the scale that its digits are counted on.
  have hlarge : 0 < b.scaled * tenPower / Nat.pow 2 1076 :=
    Nat.div_pos (Nat.le_trans hpower (Nat.le_mul_of_pos_left _ hscaled)) unit_pos
  generalize hX : b.scaled * tenPower / Nat.pow 2 1076 = X at hlarge ⊢
  have hcount : 10 ^ (digitCount X - 19) ≤ X := by
    by_cases hshort : digitCount X - 19 = 0
    · rw [hshort]
      exact hlarge
    · have hiff := Nat.length_toDigits_le_iff (n := X) (b := 10) (by decide) (Nat.pos_of_ne_zero hshort)
      have hnot : ¬ (Nat.toDigits 10 X).length ≤ digitCount X - 19 := by
        show ¬ digitCount X ≤ digitCount X - 19
        omega
      exact Nat.not_lt.1 (mt hiff.2 hnot)
  calc step (digitCount X - 19) ≤ X * Nat.pow 2 1076 := Nat.mul_le_mul_right _ hcount
    _ ≤ b.scaled * tenPower := hX ▸ Nat.div_mul_le_self _ _

theorem Digits.trimmed_value_ne_zero (h : d.value ≠ 0) (fuel : Nat) : (d.trimmed fuel).value ≠ 0 := by
  induction fuel generalizing d with
  | zero => exact h
  | succ fuel ih =>
    unfold trimmed
    split_ifs with hten
    · exact ih (d := ⟨d.value / 10, d.exponent + 1⟩) (show d.value / 10 ≠ 0 by omega)
    · exact h

/-- Are these the digits of a number other than zero? No zero stands in front. -/
structure Leading (digits : List Char) : Prop extends Json.Digits digits where
  lead : ∀ more, digits ≠ '0' :: more

theorem leading_toDigits {n : Nat} (h : n ≠ 0) : Leading (Nat.toDigits 10 n) := by
  refine ⟨(Json.wholeDigits_toDigits n).toDigits, fun more hmore => ?_⟩
  have hzero : Nat.ofDigitChars 10 (Nat.toDigits 10 n) 0 = 0 := by
    rw [hmore, Json.eq_nil_of_toDigits hmore]
    rfl
  rw [Nat.ofDigitChars_ten_toDigits] at hzero
  exact h hzero

section Forms

variable {digits : List Char}

theorem isDigit_zeros (n : Nat) : ∀ c ∈ List.replicate n '0', Text.isDigit c = true := by
  intro c hc
  rw [List.eq_of_mem_replicate hc]
  rfl

/-- What begins like the digits can stand in front of a point. -/
theorem Leading.wholeDigits (h : Leading digits) {front : List Char} (hhead : front.head? = digits.head?)
    (hd : ∀ c ∈ front, Text.isDigit c = true) : WholeDigits front := by
  obtain ⟨⟨hne, -⟩, hlead⟩ := h
  cases digits with
  | nil => exact absurd rfl hne
  | cons c digits =>
    refine ⟨⟨fun he => ?_, hd⟩, fun more hmore => ?_⟩
    · rw [he] at hhead
      cases hhead
    · rw [hmore] at hhead
      exact absurd (Option.some.inj hhead ▸ rfl) (hlead digits)

theorem Leading.wholeDigits_take (h : Leading digits) {n : Nat} (hn : n ≠ 0) :
    WholeDigits (digits.take n) :=
  h.wholeDigits (by rw [List.head?_take, if_neg hn]) fun c hc => h.digit c (List.mem_of_mem_take hc)

/-- Digits, and zeros for the places that are left in front of the point. -/
theorem Leading.padded (h : Leading digits) (n : Nat) :
    ∃ numeral : Numeral, numeral.Proper ∧
      digits ++ List.replicate n '0' ++ ['.', '0'] = numeral.text := by
  refine ⟨⟨digits ++ List.replicate n '0', ['0'], none⟩,
    ⟨h.wholeDigits (by simp [List.head?_eq_some_head h.ne_nil]) fun c hc => ?_, isDigit_zeros 1, nofun⟩,
    ?_⟩
  · exact (List.mem_append.1 hc).elim (h.digit c) (isDigit_zeros n c)
  · simp [Numeral.text, Numeral.fractionText, Numeral.exponentText]

/-- Digits with a point between them. -/
theorem Leading.pointed (h : Leading digits) {n : Nat} (hn : n ≠ 0) (hlt : n < digits.length) :
    ∃ numeral : Numeral, numeral.Proper ∧ digits.take n ++ '.' :: digits.drop n = numeral.text := by
  have hmore : digits.drop n ≠ [] := by
    rw [ne_eq, List.drop_eq_nil_iff]
    omega
  refine ⟨⟨digits.take n, digits.drop n, none⟩, ⟨h.wholeDigits_take hn, fun c hc => ?_, nofun⟩, ?_⟩
  · exact h.digit c (List.mem_of_mem_drop hc)
  · simp [Numeral.text, Numeral.fractionText_of_ne_nil hmore, Numeral.exponentText]

/-- Zeros behind the point, then the digits. -/
theorem Leading.small (h : Leading digits) (n : Nat) :
    ∃ numeral : Numeral, numeral.Proper ∧
      '0' :: '.' :: List.replicate n '0' ++ digits = numeral.text := by
  have hmore : List.replicate n '0' ++ digits ≠ [] := by simp [h.ne_nil]
  refine ⟨⟨['0'], List.replicate n '0' ++ digits, none⟩,
    ⟨Json.wholeDigits_toDigits 0, fun c hc => ?_, nofun⟩, ?_⟩
  · exact (List.mem_append.1 hc).elim (isDigit_zeros n c) (h.digit c)
  · simp [Numeral.text, Numeral.fractionText_of_ne_nil hmore, Numeral.exponentText]

/-- One digit in front of the point, and an exponent. -/
theorem Leading.scientific (h : Leading digits) {sign : Char} (hsign : sign = '+' ∨ sign = '-')
    (power : Nat) :
    ∃ numeral : Numeral, numeral.Proper ∧
      digits.take 1 ++ Numeral.fractionText (digits.drop 1) ++ ['e', sign] ++ Nat.toDigits 10 power =
        numeral.text := by
  refine ⟨⟨digits.take 1, digits.drop 1, some (sign, Nat.toDigits 10 power)⟩,
    ⟨h.wholeDigits_take Nat.one_ne_zero, fun c hc => h.digit c (List.mem_of_mem_drop hc), fun e he => ?_⟩,
    ?_⟩
  · rw [← Option.some.inj he]
    exact ⟨hsign, (Json.wholeDigits_toDigits power).toDigits⟩
  · simp [Numeral.text, Numeral.exponentText]

end Forms

/-- Digits other than zero are written as a numeral. -/
theorem Digits.exists_numeral_write (h : d.value ≠ 0) :
    ∃ n : Numeral, n.Proper ∧ d.write.toList = n.text := by
  have hdigits := leading_toDigits h
  unfold write
  dsimp only
  split_ifs with hlong hinside hbehind hsign
  all_goals rw [String.toList_ofList]
  · exact hdigits.padded _
  · exact hdigits.pointed (by omega) (by omega)
  · exact hdigits.small _
  · exact hdigits.scientific (.inl rfl) _
  · exact hdigits.scientific (.inr rfl) _

theorem exists_numeral_ofBits (bits : Nat) : ofBits bits = "null" ∨
    ∃ (negative : Bool) (n : Numeral), n.Proper ∧
      (ofBits bits).toList = (if negative then ['-'] else []) ++ n.text := by
  unfold ofBits
  cases hb : Binary.ofBits? bits with
  | none => exact .inl rfl
  | some b =>
    have hsign {n : Numeral} (hn : n.Proper) {text : String} (htext : text.toList = n.text) :
        ∃ (negative : Bool) (n : Numeral), n.Proper ∧
          ((if bits / Nat.pow 2 63 % 2 = 1 then "-" else "") ++ text).toList =
            (if negative then ['-'] else []) ++ n.text := by
      refine ⟨decide (bits / Nat.pow 2 63 % 2 = 1), n, hn, ?_⟩
      rw [String.toList_append, htext]
      by_cases h : bits / Nat.pow 2 63 % 2 = 1 <;> simp [h]
    refine .inr ?_
    dsimp only
    by_cases hzero : b.mantissa = 0
    · have hproper : Numeral.Proper ⟨['0'], ['0'], none⟩ :=
        ⟨Json.wholeDigits_toDigits 0, List.forall_mem_singleton.2 rfl, nofun⟩
      have htext : "0.0".toList = Numeral.text ⟨['0'], ['0'], none⟩ := rfl
      rw [if_pos hzero]
      exact hsign hproper htext
    · obtain ⟨n, hn, htext⟩ := Digits.exists_numeral_write
        (Digits.trimmed_value_ne_zero (Binary.shortest_value_ne_zero hzero) 20)
      rw [if_neg hzero]
      exact hsign hn htext

end LivePreview.Decimal

namespace LivePreview.Json

theorem Number.text_ofNat (n : Nat) : (integer (.ofNat n)).text.toList = Nat.toDigits 10 n :=
  String.toList_ofList

theorem Number.text_negSucc (n : Nat) :
    (integer (.negSucc n)).text.toList = '-' :: Nat.toDigits 10 (n + 1) := by
  have htext : (integer (.negSucc n)).text = "-" ++ Nat.repr (n + 1) := rfl
  rw [htext, String.toList_append]
  exact congrArg (List.cons '-') String.toList_ofList

/-- **Every number is written as a numeral**, except a double without a finite value. -/
theorem Number.exists_numeral (number : Number) : number.text = "null" ∨
    ∃ (negative : Bool) (n : Numeral), n.Proper ∧
      number.text.toList = (if negative then ['-'] else []) ++ n.text := by
  have hdigits (n : Nat) : Numeral.Proper ⟨Nat.toDigits 10 n, [], none⟩ :=
    ⟨wholeDigits_toDigits n, nofun, nofun⟩
  have htext (n : Nat) : Nat.toDigits 10 n = Numeral.text ⟨Nat.toDigits 10 n, [], none⟩ :=
    (List.append_nil _).symm
  cases number with
  | float bits => exact Decimal.exists_numeral_ofBits bits.toNat
  | integer value =>
    cases value with
    | ofNat n => exact .inr ⟨false, _, hdigits n, (Number.text_ofNat n).trans (htext n)⟩
    | negSucc n =>
      exact .inr ⟨true, _, hdigits (n + 1),
        (Number.text_negSucc n).trans (congrArg (List.cons '-') (htext (n + 1)))⟩

end LivePreview.Json
