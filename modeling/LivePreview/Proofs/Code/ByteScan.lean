import LivePreview.Code.Reading
import LivePreview.Proofs.Text.Slice
import Mathlib.Data.List.TakeWhile
/-!
# LivePreview.Proofs.Code.ByteScan

**Reading code byte by byte.** A scan goes over the bytes of a text by position, jumps over comments, and in
a literal takes two bytes behind a backslash at once (`byteScan`). It may land inside a character or behind
the end of the text. But wherever it reads a byte as code, a reader of characters stands at the same place
in plain code: `byteScan_induction` carries what is known of the reader over to the result of the scan.
-/

namespace LivePreview.Code

open Text

/-! ### The scan -/

/-- The position of the first byte from `i` on that is not of this kind, or the end. -/
def skipWhile (p : Char → Bool) (bytes : List Nat) (i : Nat) : Nat :=
  if h : i < bytes.length then
    if p (Char.ofNat bytes[i]) then skipWhile p bytes (i + 1) else i
  else i
termination_by bytes.length - i

/-- The position behind the next `*/`, or one behind the end. -/
def commentEndFrom (bytes : List Nat) (i : Nat) : Nat :=
  if h : i + 1 < bytes.length then
    if bytes[i] = '*'.toNat ∧ bytes[i + 1] = '/'.toNat then i + 2 else commentEndFrom bytes (i + 1)
  else i + 2
termination_by bytes.length - i

/-- Where the scan goes on behind a byte that it does not read as code, and in which literal it is there:
in a literal, at a quote, and where a comment begins. -/
def skip? (closes : Bool) (bytes : List Nat) (i : Nat) (c : Char) :
    Option Char → Option (Nat × Option Char)
  | some quote =>
    if c = '\\' then some (i + 2, some quote)
    else if c = quote || (closes && c = '\n') then some (i + 1, none)
    else some (i + 1, some quote)
  | none =>
    if Reading.isQuote c then some (i + 1, some c)
    else if c = '/' ∧ bytes[i + 1]? = some '/'.toNat then some (skipWhile (· != '\n') bytes i, none)
    else if c = '/' ∧ bytes[i + 1]? = some '*'.toNat then some (commentEndFrom bytes (i + 2), none)
    else none

theorem le_skipWhile (p : Char → Bool) (bytes : List Nat) (i : Nat) : i ≤ skipWhile p bytes i := by
  induction i using skipWhile.induct p bytes with
  | case1 i h hp ih =>
    rw [skipWhile, dif_pos h, if_pos hp]
    exact Nat.le_of_succ_le ih
  | case2 i h hp => exact Nat.le_of_eq (by rw [skipWhile, dif_pos h, if_neg hp])
  | case3 i h => exact Nat.le_of_eq (by rw [skipWhile, dif_neg h])

theorem le_commentEndFrom (bytes : List Nat) (i : Nat) : i + 2 ≤ commentEndFrom bytes i := by
  induction i using commentEndFrom.induct bytes with
  | case1 i h hend => exact Nat.le_of_eq (by rw [commentEndFrom, dif_pos h, if_pos hend])
  | case2 i h hend ih =>
    rw [commentEndFrom, dif_pos h, if_neg hend]
    exact Nat.le_trans (Nat.le_succ _) ih
  | case3 i h => exact Nat.le_of_eq (by rw [commentEndFrom, dif_neg h])

/-- The scan goes forward. -/
theorem lt_of_skip? {closes : Bool} {bytes : List Nat} {i j : Nat} (hi : i < bytes.length)
    {quote quote' : Option Char}
    (h : skip? closes bytes i (Char.ofNat bytes[i]) quote = some (j, quote')) : i < j := by
  cases quote with
  | some q =>
    rw [skip?] at h
    split at h
    · cases h
      omega
    · split at h <;> cases h <;> omega
  | none =>
    rw [skip?] at h
    split at h
    · cases h
      omega
    · split at h
      · next hslash =>
        have hfeed : (Char.ofNat bytes[i] != '\n') = true := by
          rw [hslash.1]
          decide
        cases h
        rw [skipWhile, dif_pos hi, if_pos hfeed]
        exact le_skipWhile _ bytes (i + 1)
      · split at h
        · cases h
          have := le_commentEndFrom bytes (i + 2)
          omega
        · cases h

section Scan

variable {σ ρ : Type} (closes : Bool) (onCode : σ → Nat → Char → σ ⊕ ρ) (atEnd : ρ) (bytes : List Nat)

/-- Scans bytes from the position `i` on, where it may be in a literal. What a byte of code does is told by
`onCode`, which goes on or comes to a result; the flag tells whether a line end closes a literal. -/
def byteScan (i : Nat) (quote : Option Char) (s : σ) : ρ :=
  if h : i < bytes.length then
    match hskip : skip? closes bytes i (Char.ofNat bytes[i]) quote with
    | some (j, quote) => byteScan j quote s
    | none =>
      match onCode s i (Char.ofNat bytes[i]) with
      | .inl s => byteScan (i + 1) none s
      | .inr result => result
  else atEnd
termination_by bytes.length - i
decreasing_by
  · have := lt_of_skip? h hskip
    omega
  · omega

variable {closes onCode atEnd bytes} {i j : Nat} {b : Nat} {quote quote' : Option Char} {s : σ}

theorem byteScan_end (h : bytes.length ≤ i) : byteScan closes onCode atEnd bytes i quote s = atEnd := by
  rw [byteScan, dif_neg (by omega)]

/-- Where the scan goes on does not count behind the end. -/
theorem byteScan_min (j : Nat) :
    byteScan closes onCode atEnd bytes j quote s =
      byteScan closes onCode atEnd bytes (min bytes.length j) quote s := by
  rcases Nat.le_total bytes.length j with h | h
  · rw [Nat.min_eq_left h, byteScan_end h, byteScan_end (Nat.le_refl _)]
  · rw [Nat.min_eq_right h]

theorem byteScan_skip (hb : bytes[i]? = some b)
    (hskip : skip? closes bytes i (Char.ofNat b) quote = some (j, quote')) :
    byteScan closes onCode atEnd bytes i quote s = byteScan closes onCode atEnd bytes j quote' s := by
  obtain ⟨hi, rfl⟩ := List.getElem?_eq_some_iff.1 hb
  rw [byteScan, dif_pos hi]
  split
  · next he =>
    rw [hskip] at he
    cases he
    rfl
  · next he =>
    rw [hskip] at he
    cases he

theorem byteScan_code (hb : bytes[i]? = some b)
    (hskip : skip? closes bytes i (Char.ofNat b) quote = none) :
    byteScan closes onCode atEnd bytes i quote s =
      match onCode s i (Char.ofNat b) with
      | .inl s => byteScan closes onCode atEnd bytes (i + 1) none s
      | .inr result => result := by
  obtain ⟨hi, rfl⟩ := List.getElem?_eq_some_iff.1 hb
  rw [byteScan, dif_pos hi]
  split
  · next he =>
    rw [hskip] at he
    cases he
  · rfl

end Scan

/-! ### Bytes and characters -/

section Bytes

variable {σ ρ : Type} {closes : Bool} {onCode : σ → Nat → Char → σ ⊕ ρ} {atEnd : ρ} {bytes t : List Nat}
  {i b : Nat} {quote : Option Char} {c m : Char}

theorem ne_of_high (hc : 128 ≤ c.toNat) (hm : m.toNat < 128) : c ≠ m := by
  rintro rfl
  omega

theorem high_of_le (h : 128 ≤ b) (hb : b < 256) : 128 ≤ (Char.ofNat b).toNat := by
  have hvalid : b.isValidChar := .inl (by omega)
  rw [Char.ofNat, dif_pos hvalid]
  exact h

/-- An ASCII character is one byte, and all bytes of another one are beyond ASCII. -/
theorem exists_bytes (c : Char) :
    ∃ first more, encodeChar c = first :: more ∧ (∀ b ∈ more, 128 ≤ (Char.ofNat b).toNat) ∧
      (c.toNat < 128 ∧ Char.ofNat first = c ∧ more = [] ∨
        128 ≤ c.toNat ∧ 128 ≤ (Char.ofNat first).toNat) := by
  obtain ⟨first, more, hc, -, hmore, hfirst⟩ := exists_encodeChar_eq c
  have hbyte : ∀ b ∈ first :: more, b < 256 := by
    intro b hb
    have hencode : encode [c] = first :: more := by rw [encode_cons, hc, encode_nil, List.append_nil]
    exact lt_of_mem_encode (hencode ▸ hb)
  refine ⟨first, more, hc, fun b hb => ?_, ?_⟩
  · exact high_of_le (le_of_isContinuation (hmore b hb)) (hbyte b (List.mem_cons_of_mem first hb))
  · rcases hfirst with ⟨hlt, rfl, hnil⟩ | ⟨hle, hfirst⟩
    · exact .inl ⟨hlt, Char.ofNat_toNat c, hnil⟩
    · exact .inr ⟨hle, high_of_le hfirst (hbyte first List.mem_cons_self)⟩

/-- A byte beyond ASCII is passed over in a literal, and read as code outside. -/
theorem skip?_of_high (closes : Bool) (bytes : List Nat) (i : Nat) (hc : 128 ≤ c.toNat)
    (hquote : ∀ q ∈ quote, q.toNat < 128) :
    skip? closes bytes i c quote = quote.map fun q => (i + 1, some q) := by
  have hne : ∀ m : Char, m.toNat < 128 → c ≠ m := fun m hm => ne_of_high hc hm
  cases quote with
  | some q => simp [skip?, hne '\\' (by decide), hne q (hquote q rfl), hne '\n' (by decide)]
  | none =>
    simp [skip?, Reading.isQuote, hne '"' (by decide), hne '\'' (by decide), hne '\x60' (by decide),
      hne '/' (by decide)]

theorem getElem?_of_drop (h : bytes.drop i = b :: t) : bytes[i]? = some b ∧ bytes.drop (i + 1) = t := by
  constructor
  · have hget : (bytes.drop i)[0]? = bytes[i + 0]? := List.getElem?_drop
    rw [h, Nat.add_zero] at hget
    exact hget.symm
  · rw [← List.drop_drop, h]
    rfl

/-- Bytes beyond ASCII are passed over. -/
theorem byteScan_high (hcode : ∀ s i c, 128 ≤ c.toNat → onCode s i c = .inl s)
    (hquote : ∀ q ∈ quote, q.toNat < 128) {more : List Nat}
    (hmore : ∀ b ∈ more, 128 ≤ (Char.ofNat b).toNat) (hdrop : bytes.drop i = more ++ t) (s : σ) :
    byteScan closes onCode atEnd bytes i quote s =
      byteScan closes onCode atEnd bytes (i + more.length) quote s := by
  induction more generalizing i with
  | nil => rfl
  | cons b more ih =>
    obtain ⟨hb, hrest⟩ := getElem?_of_drop hdrop
    have hhigh := hmore b List.mem_cons_self
    have hskip := skip?_of_high closes bytes i hhigh hquote
    have ih := ih (fun b hb => hmore b (List.mem_cons_of_mem _ hb)) hrest
    rw [List.length_cons, Nat.add_comm more.length 1, ← Nat.add_assoc, ← ih]
    cases quote with
    | some q => exact byteScan_skip hb hskip
    | none => rw [byteScan_code hb hskip, hcode s i _ hhigh]

/-- Behind the first byte of a character, the scan comes to its end. -/
theorem byteScan_rest (hcode : ∀ s i c, 128 ≤ c.toNat → onCode s i c = .inl s)
    (hquote : ∀ q ∈ quote, q.toNat < 128) (hdrop : bytes.drop i = encodeChar c ++ t) (s : σ) :
    byteScan closes onCode atEnd bytes (i + 1) quote s =
      byteScan closes onCode atEnd bytes (i + charBytes c) quote s := by
  obtain ⟨first, more, hc, hmore, -⟩ := exists_bytes c
  have hlength := length_encodeChar c
  rw [hc] at hdrop hlength
  rw [byteScan_high hcode hquote hmore (getElem?_of_drop hdrop).2, ← hlength, List.length_cons,
    Nat.add_assoc, Nat.add_comm 1]

end Bytes

/-! ### The end of a comment -/

section Comments

variable {closes : Bool} {bytes : List Nat} {i b : Nat} {c : Char} {text : List Char}

theorem skipWhile_of_forall {p : Char → Bool} {x t : List Nat} (hdrop : bytes.drop i = x ++ t)
    (hx : ∀ b ∈ x, p (Char.ofNat b) = true) :
    skipWhile p bytes i = skipWhile p bytes (i + x.length) := by
  induction x generalizing i with
  | nil => rfl
  | cons b x ih =>
    obtain ⟨hget, hrest⟩ := getElem?_of_drop hdrop
    obtain ⟨hi, hb⟩ := List.getElem?_eq_some_iff.1 hget
    have hp : p (Char.ofNat bytes[i]) = true := hb ▸ hx b List.mem_cons_self
    rw [skipWhile, dif_pos hi, if_pos hp, ih hrest fun d hd => hx d (List.mem_cons_of_mem b hd),
      List.length_cons, Nat.add_comm x.length 1, Nat.add_assoc]

/-- Bytes are skipped as characters are, if all characters beyond ASCII are of one kind. -/
theorem skipWhile_encode {p : Char → Bool}
    (hp : ∀ c d : Char, 128 ≤ c.toNat → 128 ≤ d.toNat → p c = p d)
    (hdrop : bytes.drop i = encode text) : skipWhile p bytes i = i + byteSize (text.takeWhile p) := by
  induction text generalizing i with
  | nil =>
    have hlength : bytes.length ≤ i := List.drop_eq_nil_iff.1 hdrop
    rw [skipWhile, dif_neg (by omega)]
    rfl
  | cons c text ih =>
    obtain ⟨first, more, hc, hmore, hfirst⟩ := exists_bytes c
    have hsize := length_encodeChar c
    rw [hc] at hsize
    rw [encode_cons, hc] at hdrop
    obtain ⟨hget, hrest⟩ := getElem?_of_drop hdrop
    obtain ⟨hi, hb⟩ := List.getElem?_eq_some_iff.1 hget
    have hkind : p (Char.ofNat first) = p c := by
      rcases hfirst with ⟨-, he, -⟩ | ⟨hhigh, hbyte⟩
      · rw [he]
      · exact hp _ _ hbyte hhigh
    by_cases hpc : p c = true
    · have hall : ∀ b ∈ first :: more, p (Char.ofNat b) = true := by
        rw [List.forall_mem_cons, hkind]
        refine ⟨hpc, fun b hb => ?_⟩
        rcases hfirst with ⟨-, -, rfl⟩ | ⟨hhigh, -⟩
        · exact absurd hb List.not_mem_nil
        · rw [hp _ _ (hmore b hb) hhigh, hpc]
      have hdrop' : bytes.drop (i + charBytes c) = encode text := by
        rw [← List.drop_drop, hdrop, ← hsize, List.drop_left]
      rw [skipWhile_of_forall hdrop hall, hsize, ih hdrop', List.takeWhile_cons_of_pos hpc, byteSize_cons,
        Nat.add_assoc]
    · have hne : ¬p (Char.ofNat bytes[i]) = true := by rwa [hb, hkind]
      rw [skipWhile, dif_pos hi, if_neg hne, List.takeWhile_cons_of_neg hpc]
      rfl

/-- A byte that does not begin the mark at the end of a comment is passed over. -/
theorem commentEndFrom_succ (hi : i < bytes.length)
    (hne : ¬(bytes[i]? = some '*'.toNat ∧ bytes[i + 1]? = some '/'.toNat)) :
    min bytes.length (commentEndFrom bytes i) = min bytes.length (commentEndFrom bytes (i + 1)) := by
  by_cases h : i + 1 < bytes.length
  · rw [commentEndFrom, dif_pos h, if_neg]
    rintro ⟨hstar, hslash⟩
    exact hne ⟨List.getElem?_eq_some_iff.2 ⟨hi, hstar⟩, List.getElem?_eq_some_iff.2 ⟨h, hslash⟩⟩
  · -- The scan stops behind the end, one way or the other.
    have hfirst := le_commentEndFrom bytes i
    have hsecond := le_commentEndFrom bytes (i + 1)
    omega

theorem commentEndFrom_high {more t : List Nat} (hmore : ∀ b ∈ more, 128 ≤ (Char.ofNat b).toNat)
    (hdrop : bytes.drop i = more ++ t) :
    min bytes.length (commentEndFrom bytes i) =
      min bytes.length (commentEndFrom bytes (i + more.length)) := by
  induction more generalizing i with
  | nil => rfl
  | cons b more ih =>
    obtain ⟨hget, hrest⟩ := getElem?_of_drop hdrop
    have hi := (List.getElem?_eq_some_iff.1 hget).1
    have hne : bytes[i]? ≠ some '*'.toNat := by
      rw [hget]
      intro he
      exact absurd (hmore b List.mem_cons_self) (by rw [Option.some.inj he]; decide)
    rw [commentEndFrom_succ hi fun h => hne h.1, ih (fun b hb => hmore b (List.mem_cons_of_mem _ hb)) hrest,
      List.length_cons, Nat.add_comm more.length 1, Nat.add_assoc]

/-- So is a character. -/
theorem commentEndFrom_char (hdrop : bytes.drop i = encode (c :: text))
    (hne : ¬(c = '*' ∧ text.head? = some '/')) :
    min bytes.length (commentEndFrom bytes i) =
      min bytes.length (commentEndFrom bytes (i + charBytes c)) := by
  obtain ⟨first, more, hc, hmore, hfirst⟩ := exists_bytes c
  have hlength := length_encodeChar c
  rw [encode_cons, hc, List.cons_append] at hdrop
  rw [hc, List.length_cons] at hlength
  obtain ⟨hget, hrest⟩ := getElem?_of_drop hdrop
  have hmark : ¬(bytes[i]? = some '*'.toNat ∧ bytes[i + 1]? = some '/'.toNat) := by
    rintro ⟨hstar, hslash⟩
    rw [hget, Option.some.injEq] at hstar
    subst hstar
    rcases hfirst with ⟨-, rfl, rfl⟩ | ⟨-, hhigh⟩
    · rw [List.nil_append] at hrest
      rw [← List.head?_drop, hrest, head?_encode (by decide)] at hslash
      exact hne ⟨rfl, hslash⟩
    · exact absurd hhigh (by decide)
  rw [commentEndFrom_succ (List.getElem?_eq_some_iff.1 hget).1 hmark, commentEndFrom_high hmore hrest,
    ← hlength, Nat.add_comm more.length 1, Nat.add_assoc]

end Comments

/-! ### The reader beside the scan -/

namespace Reading

/-- Over this text, a reader has no code before him but quotes, slashes and stars. The line end behind a
comment counts as code. -/
def Passes (closes : Bool) : Reading → List Char → Prop
  | _, [] => True
  | place, c :: text =>
    (place.isCode = true → isQuote c = true ∨ c = '/' ∨ c = '*') ∧
      (place = .lineComment → c ≠ '\n') ∧ Passes closes (place.step closes c) text

variable {closes : Bool} {place : Reading} {c : Char} {text : List Char} {bytes : List Nat} {i : Nat}

/-- In a literal or in a block comment there is no code. -/
theorem Passes.cons (hcode : place.isCode = false) (hplace : place ≠ .lineComment)
    (h : Passes closes (place.step closes c) text) : Passes closes place (c :: text) := by
  refine ⟨fun hp => ?_, fun hp => absurd hp hplace, h⟩
  rw [hcode] at hp
  cases hp

theorem passes_lineComment (closes : Bool) (h : '\n' ∉ text) :
    Passes closes .lineComment text ∧ text.foldl (step closes) .lineComment = .lineComment := by
  induction text with
  | nil => exact ⟨trivial, rfl⟩
  | cons c text ih =>
    rw [List.mem_cons, not_or] at h
    have hstep : step closes .lineComment c = .lineComment := if_neg (Ne.symm h.1)
    obtain ⟨hpasses, hplace⟩ := ih h.2
    refine ⟨⟨fun hp => absurd hp (by decide), fun _ => Ne.symm h.1, ?_⟩, ?_⟩
    · rwa [hstep]
    · rw [List.foldl_cons, hstep, hplace]

/-- In a comment, a character that does not begin the mark at its end leaves the reader in the comment. -/
theorem step_comment (closes : Bool) (hend : ¬(c = '*' ∧ text.head? = some '/'))
    (hplace : place = .blockComment ∨ place = .blockStar ∧ c ≠ '/') :
    step closes place c = .blockComment ∨ step closes place c = .blockStar ∧ text.head? ≠ some '/' := by
  by_cases hc : c = '*'
  · subst hc
    refine .inr ⟨?_, fun hhead => hend ⟨rfl, hhead⟩⟩
    rcases hplace with rfl | ⟨rfl, -⟩ <;> rfl
  · left
    rcases hplace with rfl | ⟨rfl, hslash⟩
    · exact if_neg hc
    · rw [step, if_neg hslash, if_neg hc]

/-- The scan jumps to where the reader is at the end of the comment, or of the text. -/
theorem exists_comment (closes : Bool) (hdrop : bytes.drop i = encode text) (hi : i ≤ bytes.length)
    (hplace : place = .blockComment ∨ place = .blockStar ∧ text.head? ≠ some '/') :
    ∃ mid rest, text = mid ++ rest ∧ Passes closes place mid ∧
      (mid.foldl (step closes) place = .code ∨ rest = []) ∧
      min bytes.length (commentEndFrom bytes i) = i + byteSize mid := by
  induction text generalizing i place with
  | nil =>
    have hlength : bytes.length ≤ i := List.drop_eq_nil_iff.1 hdrop
    have hend := le_commentEndFrom bytes i
    exact ⟨[], [], rfl, trivial, .inr rfl, by rw [byteSize_nil]; omega⟩
  | cons c text ih =>
    have hlength := congrArg List.length hdrop
    rw [List.length_drop, length_encode, byteSize_cons] at hlength
    have hpos := charBytes_pos c
    have hcode : place.isCode = false ∧ place ≠ .lineComment := by
      rcases hplace with rfl | ⟨rfl, -⟩ <;> decide
    by_cases hend : c = '*' ∧ text.head? = some '/'
    · obtain ⟨rfl, hhead⟩ := hend
      obtain ⟨rest, rfl⟩ := List.head?_eq_some_iff.1 hhead
      have hstar : step closes place '*' = .blockStar := by
        rcases hplace with rfl | ⟨rfl, -⟩ <;> rfl
      refine ⟨['*', '/'], rest, rfl, .cons hcode.1 hcode.2 ?_, .inl ?_, ?_⟩
      · rw [hstar]
        exact .cons rfl (by decide) trivial
      · rw [List.foldl_cons, hstar]
        rfl
      · obtain ⟨hget, hrest⟩ := getElem?_of_drop (b := '*'.toNat) hdrop
        obtain ⟨hi, hfirst⟩ := List.getElem?_eq_some_iff.1 hget
        obtain ⟨hi', hsecond⟩ := List.getElem?_eq_some_iff.1 (getElem?_of_drop (b := '/'.toNat) hrest).1
        rw [commentEndFrom, dif_pos hi', if_pos ⟨hfirst, hsecond⟩, Nat.min_eq_right (by omega)]
        rfl
    · have hdrop' : bytes.drop (i + charBytes c) = encode text := by
        rw [← List.drop_drop, hdrop, encode_cons, ← length_encodeChar, List.drop_left]
      have hstep := step_comment closes hend
        (hplace.imp_right fun h => ⟨h.1, fun he => h.2 (congrArg some he)⟩)
      obtain ⟨mid, rest, rfl, hpasses, hplace', hmin⟩ := ih hdrop' (by omega) hstep
      refine ⟨c :: mid, rest, rfl, .cons hcode.1 hcode.2 hpasses, hplace', ?_⟩
      rw [commentEndFrom_char hdrop hend, hmin, byteSize_cons, Nat.add_assoc]

end Reading

/-- The reader stands where the scan is, in front of a text. At the end of a comment it may still be in the
comment, if a line feed or nothing follows. -/
inductive Abreast : Option Char → Reading → List Char → Prop
  | code (text : List Char) : Abreast none .code text
  | slash {text : List Char} : text.head? ≠ some '/' → text.head? ≠ some '*' → Abreast none .slash text
  | feed {text : List Char} : (∀ c ∈ text.head?, c = '\n') → Abreast none .lineComment text
  | quoted {quote : Char} (text : List Char) :
    Reading.isQuote quote = true → Abreast (some quote) (.quoted quote) text

namespace Abreast

variable {closes : Bool} {place : Reading} {c : Char} {rest : List Char}

theorem reads (h : Abreast none place (c :: rest)) :
    place.isCode = true ∨ place = .lineComment ∧ c = '\n' := by
  cases h with
  | code | slash => exact .inl rfl
  | feed hfeed => exact .inr ⟨rfl, hfeed c rfl⟩

theorem step_eq (h : Abreast none place (c :: rest)) : place.step closes c = Reading.afterCode c := by
  cases h with
  | code => rfl
  | slash hslash hstar =>
    have hne : c ≠ '/' ∧ c ≠ '*' := by simpa using And.intro hslash hstar
    rw [Reading.step, if_neg hne.1, if_neg hne.2]
  | feed hfeed =>
    obtain rfl : c = '\n' := hfeed c rfl
    rfl

/-- Where a comment begins, the reader is not behind a slash. -/
theorem eq_code (h : Abreast none place ('/' :: rest)) : place = .code := by
  cases h with
  | code => rfl
  | slash hslash => exact absurd rfl hslash
  | feed hfeed => exact absurd (hfeed '/' rfl) (by decide)

end Abreast

section Follows

variable {σ ρ : Type} (closes : Bool) (onCode : σ → Nat → Char → σ ⊕ ρ) (atEnd : ρ) (source : List Char)
  (P : List Char → Reading → σ → List Char → ρ → Prop)

/-- `P front place s text r` says that `r` is what comes out from where the reader stands at this place
between `front` and `text`. It says so of the end, and wherever it does so of the next place, it does of
this one. -/
structure Follows : Prop where
  high : ∀ s i c, 128 ≤ c.toNat → onCode s i c = .inl s
  finish : ∀ front place s, P front place s [] atEnd
  pass : ∀ {front place s r} (mid text), Reading.Passes closes place mid →
    P (front ++ mid) (mid.foldl (Reading.step closes) place) s text r → P front place s (mid ++ text) r
  idle : ∀ {front place s c text r}, 128 ≤ c.toNat →
    P (front ++ [c]) (place.step closes c) s text r → P front place s (c :: text) r
  goOn : ∀ {front place s c text s' r}, front ++ c :: text = source →
    place.isCode = true ∨ place = .lineComment ∧ c = '\n' →
    onCode s (byteSize front) c = .inl s' →
    P (front ++ [c]) (place.step closes c) s' text r → P front place s (c :: text) r
  stop : ∀ {front place s c text r}, front ++ c :: text = source →
    place.isCode = true ∨ place = .lineComment ∧ c = '\n' →
    onCode s (byteSize front) c = .inr r → P front place s (c :: text) r

/-- The scan comes to its result from wherever it stands in front of a shorter text. -/
def Settled (n : Nat) : Prop :=
  ∀ {front text : List Char} {quote : Option Char} {place : Reading} {s : σ},
    front ++ text = source → text.length < n → Abreast quote place text →
    P front place s text (byteScan closes onCode atEnd (encode source) (byteSize front) quote s)

variable {closes onCode atEnd source P}

namespace Follows

variable {front text rest : List Char} {c q : Char} {place : Reading} {s : σ}

theorem exists_byte (hsource : front ++ c :: rest = source) :
    ∃ first, (encode source)[byteSize front]? = some first ∧
      (c.toNat < 128 ∧ Char.ofNat first = c ∨ 128 ≤ c.toNat ∧ 128 ≤ (Char.ofNat first).toNat) := by
  obtain ⟨first, more, hc, -, hfirst⟩ := exists_bytes c
  have hdrop := drop_encode front (c :: rest)
  rw [hsource, encode_cons, hc, List.cons_append] at hdrop
  exact ⟨first, (getElem?_of_drop hdrop).1, hfirst.imp_left fun ⟨hlt, he, _⟩ => ⟨hlt, he⟩⟩

theorem drop_behind (hsource : front ++ c :: rest = source) :
    (encode source).drop (byteSize front + charBytes c) = encode rest := by
  have hdrop := drop_encode (front ++ [c]) rest
  rwa [List.append_assoc, List.singleton_append, hsource, byteSize_append, byteSize_cons, byteSize_nil,
    Nat.add_zero] at hdrop

theorem lt_of_isQuote (hq : Reading.isQuote q = true) : q.toNat < 128 := by
  simp only [Reading.isQuote, Bool.or_eq_true, beq_iff_eq] at hq
  rcases hq with (rfl | rfl) | rfl <;> decide

/-- Whatever a character in a literal does, the scan is behind it then. -/
theorem across (h : Follows closes onCode atEnd source P) (hsource : front ++ c :: rest = source)
    {quote : Option Char} (hquote : ∀ q ∈ quote, q.toNat < 128) :
    byteScan closes onCode atEnd (encode source) (byteSize front + 1) quote s =
      byteScan closes onCode atEnd (encode source) (byteSize (front ++ [c])) quote s := by
  have hdrop := drop_encode front (c :: rest)
  rw [hsource, encode_cons] at hdrop
  rw [byteScan_rest h.high hquote hdrop, byteSize_append, byteSize_cons, byteSize_nil, Nat.add_zero]

theorem append_cons (hsource : front ++ c :: rest = source) : front ++ [c] ++ rest = source := by
  rw [← hsource, List.append_assoc]
  rfl

/-- Over a backslash in a literal: the scan takes two bytes, the second of which may begin a longer
character. -/
theorem escape (h : Follows closes onCode atEnd source P) (hsource : front ++ '\\' :: rest = source)
    (hq : Reading.isQuote q = true) (ih : Settled closes onCode atEnd source P (rest.length + 1)) :
    P front (.quoted q) s ('\\' :: rest)
      (byteScan closes onCode atEnd (encode source) (byteSize front) (some q) s) := by
  obtain ⟨first, hget, hfirst⟩ := exists_byte hsource
  have hskip : skip? closes (encode source) (byteSize front) (Char.ofNat first) (some q) =
      some (byteSize front + 2, some q) := by
    rcases hfirst with ⟨-, he⟩ | ⟨hhigh, -⟩
    · rw [skip?, he, if_pos rfl]
    · exact absurd hhigh (by decide)
  have hone : byteSize (front ++ ['\\']) = byteSize front + 1 := by
    rw [byteSize_append]
    rfl
  have hpasses : ∀ mid, Reading.Passes closes (.escaped q) mid →
      Reading.Passes closes (.quoted q) ('\\' :: mid) := by
    intro mid hmid
    have hstep : (Reading.quoted q).step closes '\\' = .escaped q := by rw [Reading.step, if_pos rfl]
    exact .cons rfl (by simp) (hstep ▸ hmid)
  rw [byteScan_skip hget hskip]
  cases rest with
  | nil =>
    have hlength : (encode source).length ≤ byteSize front + 2 := by
      rw [length_encode, ← hsource, hone]
      omega
    rw [byteScan_end hlength]
    exact h.pass ['\\'] [] (hpasses [] trivial) (h.finish _ _ _)
  | cons d rest =>
    have hsource' : front ++ ['\\'] ++ d :: rest = source := append_cons hsource
    have hover := h.across (s := s) hsource' fun q' hq' => Option.some.inj hq' ▸ lt_of_isQuote hq
    rw [hone, Nat.add_assoc] at hover
    rw [hover, List.append_assoc]
    refine h.pass ['\\', d] rest (hpasses [d] (.cons rfl (by simp) trivial)) (ih ?_ ?_ (.quoted rest hq))
    · rw [← hsource, List.append_assoc]
      rfl
    · rw [List.length_cons]
      omega

/-- Over the next character of a literal. -/
theorem literal (h : Follows closes onCode atEnd source P) (hsource : front ++ c :: rest = source)
    (hq : Reading.isQuote q = true) (ih : Settled closes onCode atEnd source P (rest.length + 1)) :
    P front (.quoted q) s (c :: rest)
      (byteScan closes onCode atEnd (encode source) (byteSize front) (some q) s) := by
  by_cases hc : c = '\\'
  · subst hc
    exact h.escape hsource hq ih
  obtain ⟨first, hget, hfirst⟩ := exists_byte hsource
  have hquote : ∀ q' ∈ some q, q'.toNat < 128 := fun q' hq' => Option.some.inj hq' ▸ lt_of_isQuote hq
  have hskip : skip? closes (encode source) (byteSize front) (Char.ofNat first) (some q) =
      some (byteSize front + 1, if c = q || (closes && c = '\n') then none else some q) := by
    rcases hfirst with ⟨-, he⟩ | ⟨hhigh, hbyte⟩
    · rw [skip?, he, if_neg hc]
      split <;> rfl
    · have hne : c ≠ q ∧ c ≠ '\n' :=
        ⟨ne_of_high hhigh (lt_of_isQuote hq), ne_of_high hhigh (by decide)⟩
      rw [skip?_of_high closes _ _ hbyte hquote]
      simp [hne.1, hne.2]
  have habreast : Abreast (if c = q || (closes && c = '\n') then none else some q)
      ((Reading.quoted q).step closes c) rest := by
    rw [Reading.step, if_neg hc]
    split
    · exact .code rest
    · exact .quoted rest hq
  have hquote' : ∀ q' ∈ if c = q || (closes && c = '\n') then none else some q, q'.toNat < 128 := by
    intro q' hq'
    split at hq'
    · cases hq'
    · exact hquote q' hq'
  rw [byteScan_skip hget hskip, h.across hsource hquote']
  exact h.pass [c] rest (.cons rfl (by simp) trivial)
    (ih (append_cons hsource) (Nat.lt_succ_self _) habreast)

/-- Over a quote that opens a literal. -/
theorem quote (h : Follows closes onCode atEnd source P) (hsource : front ++ c :: rest = source)
    (hplace : Abreast none place (c :: rest)) (hc : Reading.isQuote c = true)
    (ih : Settled closes onCode atEnd source P (rest.length + 1)) :
    P front place s (c :: rest) (byteScan closes onCode atEnd (encode source) (byteSize front) none s) := by
  obtain ⟨first, hget, hfirst⟩ := exists_byte hsource
  have hascii := lt_of_isQuote hc
  have hskip : skip? closes (encode source) (byteSize front) (Char.ofNat first) none =
      some (byteSize front + 1, some c) := by
    rcases hfirst with ⟨-, he⟩ | ⟨hhigh, -⟩
    · rw [skip?, he, if_pos hc]
    · omega
  have hstep : place.step closes c = .quoted c := hplace.step_eq.trans (if_pos hc)
  have hpasses : Reading.Passes closes place [c] :=
    ⟨fun _ => .inl hc, fun _ he => by rw [he] at hc; exact absurd hc (by decide), trivial⟩
  rw [byteScan_skip hget hskip, h.across hsource fun q hq => Option.some.inj hq ▸ hascii]
  refine h.pass [c] rest hpasses ?_
  rw [List.foldl_cons, hstep]
  exact ih (append_cons hsource) (Nat.lt_succ_self _) (.quoted rest hc)

/-- Over a comment up to the end of its line. -/
theorem lineComment (h : Follows closes onCode atEnd source P) {more : List Char}
    (hsource : front ++ '/' :: '/' :: more = source)
    (ih : Settled closes onCode atEnd source P (more.length + 2)) :
    P front .code s ('/' :: '/' :: more)
      (byteScan closes onCode atEnd (encode source) (byteSize front) none s) := by
  have hdrop := drop_encode front ('/' :: '/' :: more)
  rw [hsource] at hdrop
  obtain ⟨hget, hbehind⟩ := getElem?_of_drop (b := '/'.toNat) hdrop
  have hskip : skip? closes (encode source) (byteSize front) '/' none =
      some (skipWhile (· != '\n') (encode source) (byteSize front), none) := by
    rw [skip?, if_neg (by decide), if_pos ⟨rfl, (getElem?_of_drop (b := '/'.toNat) hbehind).1⟩]
  -- The scan looks for the line feed from the first slash on.
  have hfeed : skipWhile (· != '\n') (encode source) (byteSize front) =
      byteSize (front ++ '/' :: '/' :: more.takeWhile (· != '\n')) := by
    have hkind : ∀ c d : Char, 128 ≤ c.toNat → 128 ≤ d.toNat → (c != '\n') = (d != '\n') := by
      intro c d hc hd
      rw [bne_iff_ne.2 (ne_of_high hc (by decide)), bne_iff_ne.2 (ne_of_high hd (by decide))]
    rw [skipWhile_encode hkind hdrop, byteSize_append]
    rfl
  have ha : '\n' ∉ more.takeWhile (· != '\n') := fun hm => absurd (List.mem_takeWhile_imp hm) (by decide)
  have hrest : ∀ c ∈ (more.dropWhile (· != '\n')).head?, c = '\n' := by
    intro c hc
    have hnot := List.head?_dropWhile_not (· != '\n') more
    rw [hc] at hnot
    simpa using hnot
  have hlength := (List.dropWhile_suffix (· != '\n') (l := more)).length_le
  have hmore := List.takeWhile_append_dropWhile (p := (· != '\n')) (l := more)
  generalize more.takeWhile (· != '\n') = a at ha hfeed hmore
  generalize more.dropWhile (· != '\n') = rest at hrest hlength hmore
  subst hmore
  obtain ⟨hpasses, hplace⟩ := Reading.passes_lineComment closes ha
  rw [byteScan_skip hget hskip, hfeed]
  refine h.pass ('/' :: '/' :: a) rest ⟨fun _ => .inr (.inl rfl), by simp, fun _ => .inr (.inl rfl),
    by simp [Reading.step], hpasses⟩ ?_
  have hfold : ('/' :: '/' :: a).foldl (Reading.step closes) .code = .lineComment := hplace
  rw [hfold]
  refine ih ?_ ?_ (.feed hrest)
  · rw [← hsource, List.append_assoc]
    rfl
  · omega

/-- Over a comment up to its mark, or to the end of the text. -/
theorem blockComment (h : Follows closes onCode atEnd source P) {more : List Char}
    (hsource : front ++ '/' :: '*' :: more = source)
    (ih : Settled closes onCode atEnd source P (more.length + 2)) :
    P front .code s ('/' :: '*' :: more)
      (byteScan closes onCode atEnd (encode source) (byteSize front) none s) := by
  have hdrop := drop_encode front ('/' :: '*' :: more)
  rw [hsource] at hdrop
  obtain ⟨hget, hbehind⟩ := getElem?_of_drop (b := '/'.toNat) hdrop
  obtain ⟨hstar, hcomment⟩ := getElem?_of_drop (b := '*'.toNat) hbehind
  have hskip : skip? closes (encode source) (byteSize front) '/' none =
      some (commentEndFrom (encode source) (byteSize front + 2), none) := by
    rw [skip?, if_neg (by decide), if_neg, if_pos ⟨rfl, hstar⟩]
    rw [hstar]
    exact fun he => absurd he.2 (by decide)
  have hmarks : charBytes '/' = 1 ∧ charBytes '*' = 1 := by decide
  have hlength : (encode source).length = byteSize front + (2 + byteSize more) := by
    rw [length_encode, ← hsource, byteSize_append, byteSize_cons, byteSize_cons]
    omega
  obtain ⟨mid, rest, rfl, hpasses, hplace, hmin⟩ :=
    Reading.exists_comment closes hcomment (by omega) (.inl rfl)
  have hfront : byteSize front + 2 + byteSize mid = byteSize (front ++ '/' :: '*' :: mid) := by
    rw [byteSize_append, byteSize_cons, byteSize_cons]
    omega
  have hsource' : (front ++ '/' :: '*' :: mid) ++ rest = source := by
    rw [← hsource, List.append_assoc]
    rfl
  rw [byteScan_skip hget hskip, byteScan_min, hmin, hfront]
  refine h.pass ('/' :: '*' :: mid) rest ⟨fun _ => .inr (.inl rfl), by simp, fun _ => .inr (.inr rfl),
    by simp [Reading.step], hpasses⟩ ?_
  rcases hplace with hplace | rfl
  · have hfold : ('/' :: '*' :: mid).foldl (Reading.step closes) .code = .code := hplace
    rw [hfold]
    refine ih hsource' ?_ (.code rest)
    rw [List.length_append]
    omega
  · have hend : (encode source).length ≤ byteSize (front ++ '/' :: '*' :: mid) := by
      rw [length_encode, ← hsource', List.append_nil]
    rw [byteScan_end hend]
    exact h.finish _ _ _

/-- Over a character of plain code. -/
theorem plain (h : Follows closes onCode atEnd source P) (hsource : front ++ c :: rest = source)
    (hplace : Abreast none place (c :: rest)) (hc : Reading.isQuote c = false)
    (hslash : c = '/' → rest.head? ≠ some '/' ∧ rest.head? ≠ some '*')
    (ih : Settled closes onCode atEnd source P (rest.length + 1)) :
    P front place s (c :: rest) (byteScan closes onCode atEnd (encode source) (byteSize front) none s) := by
  have hnone : ∀ q ∈ (none : Option Char), q.toNat < 128 := fun q hq => by cases hq
  have habreast : Abreast none (place.step closes c) rest := by
    rw [hplace.step_eq, Reading.afterCode, if_neg (Bool.eq_false_iff.1 hc)]
    split
    · next he => exact .slash (hslash he).1 (hslash he).2
    · exact .code rest
  have hgoesOn : ∀ s', P (front ++ [c]) (place.step closes c) s' rest
      (byteScan closes onCode atEnd (encode source) (byteSize front + 1) none s') := by
    intro s'
    rw [h.across hsource hnone]
    exact ih (append_cons hsource) (Nat.lt_succ_self _) habreast
  obtain ⟨first, hget, ⟨hascii, he⟩ | ⟨hhigh, hbyte⟩⟩ := exists_byte hsource
  · have hskip : skip? closes (encode source) (byteSize front) c none = none := by
      have hnext : c = '/' → (encode source)[byteSize front + 1]? = (encode rest).head? := by
        rintro rfl
        rw [← List.head?_drop]
        exact congrArg List.head? (drop_behind hsource)
      rw [skip?, if_neg (Bool.eq_false_iff.1 hc), if_neg, if_neg]
      · rintro ⟨hc, hstar⟩
        rw [hnext hc, head?_encode (by decide)] at hstar
        exact (hslash hc).2 hstar
      · rintro ⟨hc, hsecond⟩
        rw [hnext hc, head?_encode (by decide)] at hsecond
        exact (hslash hc).1 hsecond
    rw [byteScan_code hget (he ▸ hskip), he]
    cases hcode : onCode s (byteSize front) c with
    | inl s' => exact h.goOn hsource hplace.reads hcode (hgoesOn s')
    | inr r => exact h.stop hsource hplace.reads hcode
  · have hskip := skip?_of_high closes (encode source) (byteSize front) hbyte hnone
    rw [byteScan_code hget hskip, h.high _ _ _ hbyte]
    exact h.idle hhigh (hgoesOn s)

end Follows

/-- **The scan comes to what the reader comes to**, from wherever they are abreast. -/
theorem byteScan_induction (h : Follows closes onCode atEnd source P) (front text : List Char)
    {quote : Option Char} {place : Reading} {s : σ} (hsource : front ++ text = source)
    (hplace : Abreast quote place text) :
    P front place s text (byteScan closes onCode atEnd (encode source) (byteSize front) quote s) := by
  induction hn : text.length using Nat.strongRecOn generalizing front text quote place s with
  | _ n ih =>
    have hsettled : Settled closes onCode atEnd source P n :=
      fun hsource hless hplace => ih _ hless _ _ hsource hplace rfl
    cases text with
    | nil =>
      have hlength : (encode source).length ≤ byteSize front := by
        rw [length_encode, ← hsource, List.append_nil]
      rw [byteScan_end hlength]
      exact h.finish _ _ _
    | cons c rest =>
      subst hn
      cases quote with
      | some q =>
        cases hplace with
        | quoted _ hq => exact h.literal hsource hq hsettled
      | none =>
        cases hq : Reading.isQuote c with
        | true => exact h.quote hsource hplace hq hsettled
        | false =>
          by_cases hline : c = '/' ∧ rest.head? = some '/'
          · obtain ⟨rfl, hhead⟩ := hline
            obtain ⟨more, rfl⟩ := List.head?_eq_some_iff.1 hhead
            obtain rfl := hplace.eq_code
            exact h.lineComment hsource hsettled
          · by_cases hblock : c = '/' ∧ rest.head? = some '*'
            · obtain ⟨rfl, hhead⟩ := hblock
              obtain ⟨more, rfl⟩ := List.head?_eq_some_iff.1 hhead
              obtain rfl := hplace.eq_code
              exact h.blockComment hsource hsettled
            · exact h.plain hsource hplace hq (fun hc => ⟨fun hh => hline ⟨hc, hh⟩,
                fun hh => hblock ⟨hc, hh⟩⟩) hsettled

end Follows

end LivePreview.Code
