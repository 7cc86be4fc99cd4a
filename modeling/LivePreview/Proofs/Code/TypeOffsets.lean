import LivePreview.Code.TypeDeclaration
import LivePreview.Proofs.Code.ByteScan
import LivePreview.Proofs.Code.TypeComment
/-!
# LivePreview.Proofs.Code.TypeOffsets

**Type declarations by byte positions.** Declarations can also be removed by positions alone: a scan of bytes
finds where each ends (`declarationEnd?`), and the text is put together from slices (`stripTypesAt?`). The
scan ends where the walk over the declaration does (`declarationEnd?_add_byteSize`), so every slice is in
bounds, and the same is left (`stripTypesAt?_eq`).
-/

namespace LivePreview.Code

open Text

/-! ### The end of a declaration -/

/-- Does this text carry on the type in front of it? -/
def carriesOn : List Char → Bool
  | [] => false
  | c :: rest =>
    if c = '=' then rest.head? == some '>'
    else "|&?:.".toList.contains c || startsWith "extends ".toList (c :: rest)

/-- Does an alias from the position `start` on reach over the line feed at the position `feed`? -/
def reachesOver? (bytes : List Nat) (start feed : Nat) : Option Bool := do
  let line ← bytesBetween? bytes start feed
  if startsWith ['>', '='] (trimEnd (decodeLossy line)).reverse then return true
  let back := (line.map Char.ofNat).reverse.dropWhile isAsciiBlank
  if back.head?.any ("=|&,:?(<\x7b[".toList.contains ·) then return true
  let after ← bytesBetween? bytes (feed + 1) bytes.length
  return carriesOn ((after.map Char.ofNat).dropWhile isAsciiBlank)

/-- What a byte of code at the position `i` does to the depth in brackets and to whether the body was reached,
or where the declaration ends. -/
def overByte (isInterface : Bool) (bytes : List Nat) (start : Nat) :
    Nat × Bool → Nat → Char → (Nat × Bool) ⊕ Option Nat
  | (depth, inBody), i, c =>
    if c == '>' && 0 < i && bytes[i - 1]? == some '='.toNat then .inl (depth, inBody)
    else if Walk.opens c then .inl (depth + 1, inBody || (c == '\x7b' && isInterface))
    else if Walk.closes c then
      if depth - 1 == 0 && isInterface && inBody && c == '\x7d' then .inr (some (i + 1))
      else .inl (depth - 1, inBody)
    else if c == '=' && depth == 0 && !isInterface then .inl (depth, true)
    else if c == ';' && depth == 0 then .inr (some (i + 1))
    else if c == '\n' && depth == 0 && inBody && !isInterface then
      match reachesOver? bytes start i with
      | some true => .inl (depth, inBody)
      | some false => .inr (some i)
      | none => .inr none
    else .inl (depth, inBody)

/-- The position behind the declaration that begins at the position `start`. -/
def declarationEnd? (isInterface : Bool) (bytes : List Nat) (start : Nat) : Option Nat :=
  byteScan false (overByte isInterface bytes start) (some bytes.length) bytes start none (0, false)

/-! ### Line ends that an alias reaches over -/

/-- The bytes of a text, each as the character of its number. -/
def spelled (text : List Char) : List Char :=
  (encode text).map Char.ofNat

section Spelled

variable {c : Char} {text before back after lead : List Char}

theorem spelled_cons_of_lt (h : c.toNat < 128) (text : List Char) :
    spelled (c :: text) = c :: spelled text := by
  rw [spelled, encode_cons, encodeChar_of_lt h, List.singleton_append, List.map_cons, Char.ofNat_toNat]
  rfl

/-- The characters that another one is spelled with. -/
theorem exists_spelled (h : 128 ≤ c.toNat) :
    ∃ first more, (∀ d ∈ first :: more, 128 ≤ d.toNat) ∧
      ∀ text, spelled (c :: text) = first :: (more ++ spelled text) := by
  obtain ⟨first, more, hc, hmore, ⟨hlt, -, -⟩ | ⟨-, hfirst⟩⟩ := exists_bytes c
  · omega
  · refine ⟨Char.ofNat first, more.map Char.ofNat, ?_, fun text => ?_⟩
    · rw [List.forall_mem_cons, List.forall_mem_map]
      exact ⟨hfirst, hmore⟩
    · rw [spelled, encode_cons, hc, List.map_append]
      rfl

theorem isAsciiBlank_of_high (h : 128 ≤ c.toNat) : isAsciiBlank c = false := by
  have hne : ∀ m : Char, m.toNat < 128 → (c == m) = false := fun m hm =>
    beq_eq_false_iff_ne.2 (ne_of_high h hm)
  simp [isAsciiBlank, hne]

theorem dropWhile_spelled (text : List Char) :
    (spelled text).dropWhile isAsciiBlank = spelled (text.dropWhile isAsciiBlank) := by
  induction text with
  | nil => rfl
  | cons c text ih =>
    rcases Nat.lt_or_ge c.toNat 128 with h | h
    · rw [spelled_cons_of_lt h, List.dropWhile_cons, List.dropWhile_cons, ih]
      split
      · rfl
      · rw [spelled_cons_of_lt h]
    · obtain ⟨first, more, hhigh, hspelled⟩ := exists_spelled h
      rw [hspelled, List.dropWhile_cons_of_neg (by
        rw [isAsciiBlank_of_high (hhigh first List.mem_cons_self)]; decide),
        List.dropWhile_cons_of_neg (by rw [isAsciiBlank_of_high h]; decide), hspelled]

/-- The last character that is no blank is the same, or neither is an ASCII character. -/
theorem head?_dropWhile_spelled {p : Char → Bool} (hp : ∀ c, 128 ≤ c.toNat → p c = false)
    (back : List Char) :
    ((spelled back.reverse).reverse.dropWhile isAsciiBlank).head?.any p =
      (back.dropWhile isAsciiBlank).head?.any p := by
  induction back with
  | nil => rfl
  | cons c back ih =>
    have happend : spelled (c :: back).reverse = spelled back.reverse ++ spelled [c] := by
      rw [List.reverse_cons, spelled, encode_append, List.map_append]
      rfl
    rw [happend, List.reverse_append]
    rcases Nat.lt_or_ge c.toNat 128 with h | h
    · rw [spelled_cons_of_lt h]
      show ((c :: (spelled back.reverse).reverse).dropWhile isAsciiBlank).head?.any p = _
      rw [List.dropWhile_cons, List.dropWhile_cons]
      split
      · exact ih
      · rfl
    · obtain ⟨first, more, hhigh, hspelled⟩ := exists_spelled h
      rw [List.dropWhile_cons_of_neg (by rw [isAsciiBlank_of_high h]; decide)]
      obtain ⟨last, others, hlast⟩ := List.exists_cons_of_ne_nil
        (show (spelled [c]).reverse ≠ [] by rw [hspelled]; simp)
      have hmem : last ∈ first :: more := by
        have hm : last ∈ (spelled [c]).reverse := hlast ▸ List.mem_cons_self
        rw [hspelled, List.mem_reverse] at hm
        simpa [spelled] using hm
      have hblank := isAsciiBlank_of_high (hhigh last hmem)
      rw [hlast, List.cons_append, List.dropWhile_cons_of_neg (by rw [hblank]; decide), List.head?_cons,
        List.head?_cons, Option.any_some, Option.any_some, hp c h, hp last (hhigh last hmem)]

/-- A word of ASCII characters is where it is spelled. -/
theorem startsWith_spelled (hlead : ∀ c ∈ lead, c.toNat < 128) (text : List Char) :
    startsWith lead (spelled text) = startsWith lead text := by
  induction lead generalizing text with
  | nil => rfl
  | cons m lead ih =>
    cases text with
    | nil => rfl
    | cons c text =>
      rcases Nat.lt_or_ge c.toNat 128 with h | h
      · rw [spelled_cons_of_lt h, startsWith, startsWith, dropLead?, dropLead?]
        split
        · exact ih (fun d hd => hlead d (List.mem_cons_of_mem m hd)) text
        · rfl
      · obtain ⟨first, more, hhigh, hspelled⟩ := exists_spelled h
        have hm := hlead m List.mem_cons_self
        have hne : m ≠ c ∧ m ≠ first :=
          ⟨(ne_of_high h hm).symm, (ne_of_high (hhigh first List.mem_cons_self) hm).symm⟩
        rw [hspelled, startsWith, startsWith, dropLead?, dropLead?, if_neg hne.1, if_neg hne.2]

theorem head?_spelled {m : Char} (hm : m.toNat < 128) (text : List Char) :
    ((spelled text).head? == some m) = (text.head? == some m) := by
  cases text with
  | nil => rfl
  | cons c text =>
    rcases Nat.lt_or_ge c.toNat 128 with h | h
    · rw [spelled_cons_of_lt h]
      rfl
    · obtain ⟨first, more, hhigh, hspelled⟩ := exists_spelled h
      simp [hspelled, ne_of_high h hm, ne_of_high (hhigh first List.mem_cons_self) hm]

theorem contains_of_high {marks : List Char} (hmarks : ∀ m ∈ marks, m.toNat < 128) (h : 128 ≤ c.toNat) :
    marks.contains c = false := by
  rw [← Bool.not_eq_true, List.contains_iff_mem]
  exact fun hc => ne_of_high h (hmarks c hc) rfl

theorem carriesOn_spelled (text : List Char) : carriesOn (spelled text) = carriesOn text := by
  have hascii : ∀ c ∈ "extends ".toList, c.toNat < 128 := by simp
  have hextends := startsWith_spelled hascii text
  cases text with
  | nil => rfl
  | cons c text =>
    rcases Nat.lt_or_ge c.toNat 128 with h | h
    · rw [spelled_cons_of_lt h] at hextends ⊢
      rw [carriesOn, carriesOn, hextends, head?_spelled (by decide)]
    · obtain ⟨first, more, hhigh, hspelled⟩ := exists_spelled h
      have hfirst := hhigh first List.mem_cons_self
      rw [hspelled] at hextends ⊢
      rw [carriesOn, carriesOn, hextends, if_neg (ne_of_high hfirst (by decide)),
        if_neg (ne_of_high h (by decide)), contains_of_high (by simp) hfirst,
        contains_of_high (by simp) h]

/-- A walk tells this by the characters beside the line feed. -/
theorem reachesOver_eq (back after : List Char) :
    Walk.reachesOver back after =
      (startsWith ['>', '='] (back.dropWhile isBlank) ||
        (back.dropWhile isAsciiBlank).head?.any ("=|&,:?(<\x7b[".toList.contains ·) ||
        carriesOn (after.dropWhile isAsciiBlank)) := by
  unfold Walk.reachesOver
  refine congrArg₂ (· || ·) (congrArg (_ || ·) ?_) ?_
  · cases back.dropWhile isAsciiBlank <;> rfl
  · generalize after.dropWhile isAsciiBlank = text
    split
    · rfl
    · next c rest hne =>
      rw [carriesOn, if_neg hne]
    · rfl

/-- **The bytes tell** whether an alias reaches over a line feed. -/
theorem reachesOver?_eq (before back after : List Char) :
    reachesOver? (encode (before ++ (back.reverse ++ '\n' :: after))) (byteSize before)
      (byteSize before + byteSize back.reverse) = some (Walk.reachesOver back after) := by
  have hafter : bytesBetween? (encode (before ++ (back.reverse ++ '\n' :: after)))
      (byteSize before + byteSize back.reverse + 1)
      (encode (before ++ (back.reverse ++ '\n' :: after))).length = some (encode after) := by
    have hslice := bytesBetween?_encode (before ++ (back.reverse ++ ['\n'])) after []
    have hsource : before ++ (back.reverse ++ ['\n']) ++ (after ++ []) =
        before ++ (back.reverse ++ '\n' :: after) := by simp
    have hone : charBytes '\n' = 1 := by decide
    rw [hsource] at hslice
    rw [length_encode, ← hslice]
    congr 1 <;> simp [hone] <;> omega
  have hline := bytesBetween?_encode before back.reverse ('\n' :: after)
  have hhigh : ∀ c : Char, 128 ≤ c.toNat → "=|&,:?(<\x7b[".toList.contains c = false :=
    fun c => contains_of_high (by simp)
  have hback := head?_dropWhile_spelled hhigh back
  have hnext : ((encode after).map Char.ofNat).dropWhile isAsciiBlank =
      spelled (after.dropWhile isAsciiBlank) := dropWhile_spelled after
  rw [reachesOver?, hline, reachesOver_eq]
  simp only [Option.bind_eq_bind, Option.bind_some, decodeLossy_encode, trimEnd, dropEndWhile,
    List.reverse_reverse, hafter, hnext, carriesOn_spelled]
  rw [spelled] at hback
  rw [hback]
  cases startsWith ['>', '='] (back.dropWhile isBlank) with
  | true => rfl
  | false =>
    cases (back.dropWhile isAsciiBlank).head?.any "=|&,:?(<\x7b[".toList.contains <;> rfl

end Spelled

/-! ### The walk beside the scan -/

section Over

variable {w w' : Walk} {c : Char} {text mid : List Char}

theorem Walk.overCode_eq_inl (h : w.overCode c text = .inl w') :
    w'.isInterface = w.isInterface ∧ w'.place = w.place.step false c ∧ w'.back = c :: w.back := by
  unfold Walk.overCode at h
  dsimp only at h
  repeat' split at h
  all_goals
    cases h
    try exact ⟨rfl, rfl, rfl⟩

theorem Walk.overCode_mark (h : Reading.isQuote c = true ∨ c = '/' ∨ c = '*') :
    w.overCode c text = .inl (w.move c) := by
  simp only [Reading.isQuote, Bool.or_eq_true, beq_iff_eq] at h
  rcases h with ((rfl | rfl) | rfl) | rfl | rfl <;> simp [Walk.overCode, Walk.opens, Walk.closes]

theorem Walk.overCode_high (h : 128 ≤ c.toNat) : w.overCode c text = .inl (w.move c) := by
  have hne : ∀ m : Char, m.toNat < 128 → (c == m) = false := fun m hm =>
    beq_eq_false_iff_ne.2 (ne_of_high h hm)
  simp [Walk.overCode, Walk.opens, Walk.closes, hne]

/-- Where a reader passes, so does the walk. -/
theorem Walk.rest_passes (h : Reading.Passes false w.place mid) (text : List Char) :
    w.rest (mid ++ text) = Walk.rest { w with
      place := mid.foldl (Reading.step false) w.place, back := mid.reverse ++ w.back } text := by
  induction mid generalizing w with
  | nil => rfl
  | cons c mid ih =>
    obtain ⟨hcode, hline, hmid⟩ := h
    have hmove : w.rest (c :: (mid ++ text)) = (w.move c).rest (mid ++ text) := by
      rw [Walk.rest]
      split
      · next hc =>
        rw [Bool.or_eq_true, Bool.and_eq_true, beq_iff_eq, beq_iff_eq] at hc
        rcases hc with hc | ⟨hc, hfeed⟩
        · rw [Walk.overCode_mark (hcode hc)]
        · exact absurd hfeed (hline hc)
      · rfl
    rw [List.cons_append, hmove, ih hmid]
    simp [Walk.move]

/-- The byte in front of a position is an ASCII character if the character in front of it is. -/
theorem getElem?_pred_encode {m d : Char} (hm : m.toNat < 128) (front after : List Char) :
    (encode (front ++ d :: after))[byteSize (front ++ [d]) - 1]? = some m.toNat ↔ d = m := by
  have hsplit : encode (front ++ d :: after) = encode (front ++ [d]) ++ encode after := by
    rw [← encode_append, List.append_assoc]
    rfl
  have hpos : 0 < byteSize (front ++ [d]) := by
    have := charBytes_pos d
    rw [byteSize_append, byteSize_cons]
    omega
  rw [hsplit, ← length_encode (front ++ [d]), List.getElem?_append_left (by rw [length_encode]; omega),
    ← List.getLast?_eq_getElem?, encode_append, encode_cons, encode_nil, List.append_nil,
    List.getLast?_append_of_ne_nil _ (encodeChar_ne_nil d)]
  obtain ⟨first, more, hd, -, hmore, hfirst⟩ := exists_encodeChar_eq d
  rw [hd, ← Char.toNat_inj]
  rcases hfirst with ⟨-, rfl, rfl⟩ | ⟨hle, hfirst⟩
  · rw [List.getLast?_singleton, Option.some.injEq]
  · have hlast : ∀ b ∈ (first :: more).getLast?, 128 ≤ b := fun b hb => by
      rcases List.mem_cons.1 (List.mem_of_getLast? hb) with rfl | hb
      · exact hfirst
      · exact le_of_isContinuation (hmore b hb)
    refine ⟨fun hb => ?_, fun he => ?_⟩
    · have := hlast _ hb
      omega
    · omega

variable {before : List Char} {source : List Char}

/-- The byte in front tells whether a bracket is the head of an arrow. -/
theorem arrowByte_eq (hsource : before ++ (w.back.reverse ++ c :: text) = source)
    (hfirst : w.back = [] → c ≠ '>') :
    (c == '>' && decide (0 < byteSize (before ++ w.back.reverse)) &&
        (encode source)[byteSize (before ++ w.back.reverse) - 1]? == some '='.toNat) =
      (c == '>' && w.back.head? == some '=') := by
  cases hback : w.back with
  | nil => simp [hfirst hback]
  | cons d back =>
    have hprev := getElem?_pred_encode (m := '=') (by decide) (d := d) (before ++ back.reverse) (c :: text)
    have hplace : before ++ (d :: back).reverse = before ++ back.reverse ++ [d] := by simp
    have htext : before ++ back.reverse ++ d :: c :: text = source := by
      rw [← hsource, hback]
      simp
    have hless : 0 < byteSize (before ++ back.reverse ++ [d]) := by
      have hpos := charBytes_pos d
      rw [byteSize_append _ [d], byteSize_cons]
      omega
    rw [hplace, decide_eq_true hless, Bool.and_true, List.head?_cons]
    congr 1
    rw [Bool.eq_iff_iff, beq_iff_eq, beq_iff_eq, Option.some.injEq, ← htext, hprev]

/-- **A byte of code** does to the scan what its character does to the walk. -/
theorem overByte_eq (hsource : before ++ (w.back.reverse ++ c :: text) = source)
    (hfirst : w.back = [] → c ≠ '>') :
    overByte w.isInterface (encode source) (byteSize before) (w.depth, w.inBody)
        (byteSize (before ++ w.back.reverse)) c =
      match w.overCode c text with
      | .inl w' => .inl (w'.depth, w'.inBody)
      | .inr takes => .inr (some (byteSize (before ++ w.back.reverse) + if takes then 1 else 0)) := by
  unfold overByte Walk.overCode
  dsimp only
  rw [arrowByte_eq hsource hfirst]
  -- Both make the same tests one after the other.
  by_cases h₁ : (c == '>' && w.back.head? == some '=') = true
  · rw [if_pos h₁, if_pos h₁]
    rfl
  rw [if_neg h₁, if_neg h₁]
  by_cases h₂ : Walk.opens c = true
  · rw [if_pos h₂, if_pos h₂]
  rw [if_neg h₂, if_neg h₂]
  by_cases h₃ : Walk.closes c = true
  · rw [if_pos h₃, if_pos h₃]
    split <;> rfl
  rw [if_neg h₃, if_neg h₃]
  by_cases h₄ : (c == '=' && w.depth == 0 && !w.isInterface) = true
  · rw [if_pos h₄, if_pos h₄]
    rfl
  rw [if_neg h₄, if_neg h₄]
  by_cases h₅ : (c == ';' && w.depth == 0) = true
  · rw [if_pos h₅, if_pos h₅]
    rfl
  rw [if_neg h₅, if_neg h₅]
  by_cases h₆ : (c == '\n' && w.depth == 0 && w.inBody && !w.isInterface) = true
  · obtain rfl : c = '\n' := by
      simp only [Bool.and_eq_true, beq_iff_eq] at h₆
      exact h₆.1.1.1
    have hreach := reachesOver?_eq before w.back text
    rw [hsource, ← byteSize_append] at hreach
    rw [if_pos h₆, h₆, Bool.true_and, hreach]
    cases Walk.reachesOver w.back text <;> rfl
  · rw [if_neg h₆, if_neg fun h => h₆ (Bool.and_eq_true _ _ ▸ h).1]
    rfl

theorem reads_iff {place : Reading} {c : Char} :
    (place.isCode || (place == .lineComment && c == '\n')) = true ↔
      place.isCode = true ∨ place = .lineComment ∧ c = '\n' := by
  rw [Bool.or_eq_true, Bool.and_eq_true, beq_iff_eq, beq_iff_eq]

/-- Where the scan goes on, so does the walk. -/
theorem Walk.rest_of_inl (hsource : before ++ (w.back.reverse ++ c :: text) = source)
    (hfirst : w.back = [] → c ≠ '>') (hreads : w.place.isCode = true ∨ w.place = .lineComment ∧ c = '\n')
    {s : Nat × Bool}
    (hcode : overByte w.isInterface (encode source) (byteSize before) (w.depth, w.inBody)
      (byteSize (before ++ w.back.reverse)) c = .inl s) :
    w.rest (c :: text) =
      Walk.rest ⟨w.isInterface, w.place.step false c, s.1, s.2, c :: w.back⟩ text := by
  rw [overByte_eq hsource hfirst] at hcode
  cases ho : w.overCode c text with
  | inr takes =>
    rw [ho] at hcode
    cases hcode
  | inl w' =>
    rw [ho] at hcode
    cases hcode
    obtain ⟨hi, hplace, hback⟩ := Walk.overCode_eq_inl ho
    rw [Walk.rest, if_pos (reads_iff.2 hreads), ho, ← hi, ← hplace, ← hback]

/-- Where the scan comes to a result, the walk ends. -/
theorem Walk.exists_of_inr (hsource : before ++ (w.back.reverse ++ c :: text) = source)
    (hfirst : w.back = [] → c ≠ '>') (hreads : w.place.isCode = true ∨ w.place = .lineComment ∧ c = '\n')
    {result : Option Nat}
    (hcode : overByte w.isInterface (encode source) (byteSize before) (w.depth, w.inBody)
      (byteSize (before ++ w.back.reverse)) c = .inr result) :
    ∃ stop, result = some stop ∧ stop + byteSize (w.rest (c :: text)) = byteSize source := by
  rw [overByte_eq hsource hfirst] at hcode
  cases ho : w.overCode c text with
  | inl w' =>
    rw [ho] at hcode
    cases hcode
  | inr takes =>
    rw [ho] at hcode
    cases hcode
    -- What ends a declaration is an ASCII character.
    have hascii : c.toNat < 128 := by
      by_contra hhigh
      rw [Walk.overCode_high (by omega)] at ho
      cases ho
    have hone : charBytes c = 1 := if_pos hascii
    refine ⟨_, rfl, ?_⟩
    rw [Walk.rest, if_pos (reads_iff.2 hreads), ho, ← hsource, ← List.append_assoc,
      byteSize_append _ (c :: text), byteSize_cons, hone, Nat.add_assoc]
    cases takes with
    | true => rfl
    | false =>
      show _ + (0 + byteSize (c :: text)) = _
      rw [Nat.zero_add, byteSize_cons, hone]

end Over

/-! ### The end of a declaration -/

section End

variable {isInterface : Bool} {before source declaration : List Char}

theorem overByte_high {bytes : List Nat} {start i : Nat} {c : Char} (s : Nat × Bool) (h : 128 ≤ c.toNat) :
    overByte isInterface bytes start s i c = .inl s := by
  have hne : ∀ m : Char, m.toNat < 128 → (c == m) = false := fun m hm =>
    beq_eq_false_iff_ne.2 (ne_of_high h hm)
  simp [overByte, Walk.opens, Walk.closes, hne]

/-- The scan ends where the walk does, from wherever the walk stands in the declaration. -/
def EndsWithWalk (isInterface : Bool) (before source : List Char) (front : List Char) (place : Reading)
    (s : Nat × Bool) (text : List Char) (result : Option Nat) : Prop :=
  ∀ back, front = before ++ back.reverse → (back = [] → text.head? ≠ some '>') →
    ∃ stop, result = some stop ∧
      stop + byteSize (Walk.rest ⟨isInterface, place, s.1, s.2, back⟩ text) = byteSize source

theorem follows_overByte (isInterface : Bool) (before source : List Char) :
    Follows false (overByte isInterface (encode source) (byteSize before)) (some (encode source).length)
      source (EndsWithWalk isInterface before source) where
  high s i c := overByte_high s
  finish front place s back _ _ := ⟨_, rfl, by rw [length_encode]; rfl⟩
  pass := by
    intro front place s r mid text hpasses hrest back hfront hfirst
    rw [Walk.rest_passes hpasses]
    refine hrest (mid.reverse ++ back) ?_ fun hnil => ?_
    · rw [hfront, List.reverse_append, List.reverse_reverse, List.append_assoc]
    · obtain ⟨hmid, hback⟩ := List.append_eq_nil_iff.1 hnil
      rw [List.reverse_eq_nil_iff.1 hmid] at hfirst
      exact hfirst hback
  idle := by
    intro front place s c text r hhigh hrest back hfront hfirst
    have hmove : Walk.rest ⟨isInterface, place, s.1, s.2, back⟩ (c :: text) =
        Walk.rest ⟨isInterface, place.step false c, s.1, s.2, c :: back⟩ text := by
      rw [Walk.rest]
      split
      · rw [Walk.overCode_high hhigh]
        rfl
      · rfl
    rw [hmove]
    exact hrest (c :: back) (by rw [hfront]; simp) fun hnil => absurd hnil (List.cons_ne_nil _ _)
  goOn := by
    intro front place s c text s' r hsource hreads hcode hrest back hfront hfirst
    subst hfront
    have hmove := Walk.rest_of_inl (w := ⟨isInterface, place, s.1, s.2, back⟩)
      ((List.append_assoc _ _ _).symm.trans hsource) (fun hback he => hfirst hback (he ▸ rfl)) hreads hcode
    rw [hmove]
    exact hrest (c :: back) (by simp) fun hnil => absurd hnil (List.cons_ne_nil _ _)
  stop := by
    intro front place s c text r hsource hreads hcode back hfront hfirst
    subst hfront
    exact Walk.exists_of_inr (w := ⟨isInterface, place, s.1, s.2, back⟩)
      ((List.append_assoc _ _ _).symm.trans hsource) (fun hback he => hfirst hback (he ▸ rfl)) hreads hcode

/-- **The scan ends where the walk does.** -/
theorem declarationEnd?_add_byteSize (isInterface : Bool) (hsource : before ++ declaration = source)
    (hfirst : declaration.head? ≠ some '>') :
    ∃ stop, declarationEnd? isInterface (encode source) (byteSize before) = some stop ∧
      stop + byteSize (Walk.rest { isInterface } declaration) = byteSize source :=
  byteScan_induction (follows_overByte isInterface before source) before declaration hsource
    (.code declaration) [] (List.append_nil before).symm fun _ => hfirst

end End

/-! ### Removal -/

/-- The position behind the blanks and the line feed that follow. -/
def behindLine (bytes : List Nat) (stop : Nat) : Nat :=
  let stop := skipWhile (fun c => c == ' ' || c == '\t' || c == '\r') bytes (min stop bytes.length)
  if bytes[stop]? = some '\n'.toNat then stop + 1 else stop

/-- What is left in slices when the declarations with these heads are removed; what is in front of the cursor
was dealt with already. -/
def stripTypesAt?.go (text : List Char) (cursor : Nat) : List (Nat × Bool) → Option (List Char)
  | [] => slice? text (min cursor (byteSize text)) (byteSize text)
  | (before, isInterface) :: heads =>
    let start := byteSize (text.take before)
    if start < cursor then stripTypesAt?.go text cursor heads
    else do
      let stop ← declarationEnd? isInterface (encode text) start
      let kept ← slice? text cursor start
      let others ← stripTypesAt?.go text (behindLine (encode text) stop) heads
      return kept ++ others

/-- The text without type declarations, put together from slices. -/
def stripTypesAt? (text : List Char) : Option (List Char) :=
  stripTypesAt?.go text 0 (typeHeads text)

section Strip

variable {text front rest line : List Char} {hit : Hit Bool} {heads : List (Nat × Bool)}

/-- A line feed takes up one byte. -/
theorem add_byteSize_skipChar (i : Nat) (text : List Char) :
    (if text.head? = some '\n' then i + 1 else i) + byteSize (skipChar '\n' text) = i + byteSize text := by
  cases text with
  | nil => rfl
  | cons c text =>
    by_cases hc : c = '\n'
    · subst hc
      have hone : charBytes '\n' = 1 := by decide
      rw [List.head?_cons, if_pos rfl, skipChar, if_pos rfl, byteSize_cons, hone, Nat.add_assoc]
    · have hhead : (c :: text).head? ≠ some '\n' := fun he => hc (Option.some.inj he)
      rw [if_neg hhead, skipChar, if_neg hc]

theorem behindLine_add_byteSize (front rest : List Char) (hsource : front ++ rest = text) :
    behindLine (encode text) (byteSize front) + byteSize (skipChar '\n'
      (rest.dropWhile fun c => c == ' ' || c == '\t' || c == '\r')) = byteSize text := by
  have hkind : ∀ c d : Char, 128 ≤ c.toNat → 128 ≤ d.toNat →
      (c == ' ' || c == '\t' || c == '\r') = (d == ' ' || d == '\t' || d == '\r') := by
    have hnone : ∀ c : Char, 128 ≤ c.toNat → (c == ' ' || c == '\t' || c == '\r') = false := by
      intro c hc
      simp [ne_of_high hc]
    intro c d hc hd
    rw [hnone c hc, hnone d hd]
  have hdrop := drop_encode front rest
  rw [hsource] at hdrop
  have hle : byteSize front ≤ (encode text).length := by
    rw [length_encode, ← hsource, byteSize_append]
    exact Nat.le_add_right _ _
  rw [behindLine, Nat.min_eq_left hle, skipWhile_encode hkind hdrop]
  have hsplit : (rest.takeWhile fun c => c == ' ' || c == '\t' || c == '\r') ++
      (rest.dropWhile fun c => c == ' ' || c == '\t' || c == '\r') = rest := List.takeWhile_append_dropWhile
  generalize rest.takeWhile (fun c => c == ' ' || c == '\t' || c == '\r') = blanks at hsplit ⊢
  generalize rest.dropWhile (fun c => c == ' ' || c == '\t' || c == '\r') = behind at hsplit ⊢
  subst hsplit
  have hbehind := drop_encode (front ++ blanks) behind
  rw [List.append_assoc, hsource, byteSize_append] at hbehind
  have hnext : (encode text)[byteSize front + byteSize blanks]? = some '\n'.toNat ↔
      behind.head? = some '\n' := by
    rw [← List.head?_drop, hbehind, head?_encode (by decide)]
  simp only [hnext]
  rw [add_byteSize_skipChar, ← hsource, byteSize_append, byteSize_append, Nat.add_assoc]

/-- A head does not begin with a bracket. -/
theorem head?_of_typeHead? (h : typeHead? line = some hit) : line.head? ≠ some '>' := by
  intro he
  obtain ⟨more, rfl⟩ := List.head?_eq_some_iff.1 he
  have hnone : typeHead? ('>' :: more) = none := rfl
  rw [hnone] at h
  cases h

/-- The heads stand in the text. -/
theorem forall_typeHeads_go {offset fuel : Nat} {atStart : Bool} (front rest : List Char)
    (hsource : front ++ rest = text) (hoffset : offset = front.length) :
    ∀ head ∈ typeHeads.go offset fuel atStart rest,
      head.1 ≤ text.length ∧ (text.drop head.1).head? ≠ some '>' := by
  induction fuel generalizing offset atStart front rest with
  | zero => exact fun _ hm => absurd hm List.not_mem_nil
  | succ fuel ih =>
    rw [typeHeads.go]
    split
    · exact fun _ hm => absurd hm List.not_mem_nil
    · next before hit hfirst =>
      obtain ⟨line, rfl, hline, -⟩ := firstHit?_eq_some hfirst
      obtain ⟨taken, rfl⟩ := (typeHead?_rest hline).1
      rw [List.forall_mem_cons]
      have hlength : text.length = front.length + (before.length + (taken.length + hit.rest.length)) := by
        rw [← hsource]
        simp only [List.length_append]
      constructor
      · refine ⟨by omega, ?_⟩
        have hdrop : text.drop (offset + before.length) = taken ++ hit.rest := by
          rw [← hsource, ← List.append_assoc, hoffset, ← List.length_append, List.drop_left]
        rw [hdrop]
        exact head?_of_typeHead? hline
      · refine ih (front ++ (before ++ taken)) hit.rest ?_ ?_
        · rw [← hsource]
          simp only [List.append_assoc]
        · simp only [List.length_append]
          omega

/-- Behind a declaration and its last line, the scan is where the text goes on. -/
theorem exists_behindLine (isInterface : Bool) (hsource : front ++ line = text)
    (hfirst : line.head? ≠ some '>') :
    ∃ stop taken, declarationEnd? isInterface (encode text) (byteSize front) = some stop ∧
      taken ++ afterDeclaration isInterface line = line ∧
      behindLine (encode text) stop = byteSize (front ++ taken) := by
  obtain ⟨stop, hstop, hsize⟩ := declarationEnd?_add_byteSize isInterface hsource hfirst
  obtain ⟨body, hbody⟩ := Walk.rest_suffix { isInterface } line
  obtain ⟨taken, htaken⟩ : afterDeclaration isInterface line <:+ line :=
    (skipChar_suffix '\n' _).trans ((List.dropWhile_suffix _).trans (Walk.rest_suffix _ line))
  refine ⟨stop, taken, hstop, htaken, ?_⟩
  have hbehind := behindLine_add_byteSize (front ++ body) (Walk.rest { isInterface } line)
    (by rw [List.append_assoc, hbody, hsource])
  have hstop' : stop = byteSize (front ++ body) := by
    rw [← hsource, ← hbody, ← List.append_assoc, byteSize_append _ (Walk.rest _ _), hbody] at hsize
    omega
  rw [← hstop', ← hsource] at hbehind
  rw [← hsource]
  have hafter : byteSize (front ++ line) =
      byteSize (front ++ taken) + byteSize (afterDeclaration isInterface line) := by
    rw [← byteSize_append, List.append_assoc, htaken]
  rw [hafter] at hbehind
  exact Nat.add_right_cancel hbehind

/-- Positions of characters and of bytes have the same order. -/
theorem byteSize_take_lt_iff {start : Nat} (hsource : front ++ rest = text) :
    byteSize (text.take start) < byteSize front ↔ start < front.length := by
  rw [← hsource, List.take_append]
  constructor
  · intro hless
    by_contra hle
    rw [List.take_of_length_le (Nat.le_of_not_lt hle), byteSize_append] at hless
    omega
  · intro hless
    have hsize := congrArg byteSize (List.take_append_drop start front)
    have hdrop := length_le_byteSize (front.drop start)
    rw [byteSize_append] at hsize
    rw [List.length_drop] at hdrop
    rw [Nat.sub_eq_zero_of_le (Nat.le_of_lt hless), List.take_zero, List.append_nil]
    omega

/-- **Removal by positions** never cuts out of bounds, and leaves the text without type declarations. -/
theorem stripTypesAt?_go_eq (front rest : List Char) (hsource : front ++ rest = text)
    (hheads : ∀ head ∈ heads, head.1 ≤ text.length ∧ (text.drop head.1).head? ≠ some '>') :
    stripTypesAt?.go text (byteSize front) heads = some (stripTypes.go front.length rest heads) := by
  induction heads generalizing front rest with
  | nil =>
    have hle : byteSize front ≤ byteSize text := by
      rw [← hsource, byteSize_append]
      exact Nat.le_add_right _ _
    have hall := slice?_all text
    rw [← hsource] at hall hle ⊢
    have hrest := slice?_right hall
    rw [Nat.zero_add] at hrest
    rw [stripTypesAt?.go, Nat.min_eq_left hle, hrest]
    rfl
  | cons head heads ih =>
    obtain ⟨start, isInterface⟩ := head
    rw [List.forall_mem_cons] at hheads
    obtain ⟨⟨hstart, hfirst⟩, hheads⟩ := hheads
    dsimp only at hstart hfirst
    have hinside : byteSize (text.take start) < byteSize front ↔ start < front.length :=
      byteSize_take_lt_iff hsource
    rw [stripTypesAt?.go, stripTypes.go]
    by_cases hless : start < front.length
    · rw [if_pos (hinside.2 hless), if_pos hless, ih _ _ hsource hheads]
    · -- What is in front of the declaration is kept, and the scan goes on behind it.
      obtain ⟨kept, declaration, rfl, hkept⟩ : ∃ kept declaration, rest = kept ++ declaration ∧
          kept.length = start - front.length := by
        rw [← hsource, List.length_append] at hstart
        exact ⟨rest.take (start - front.length), rest.drop (start - front.length),
          (List.take_append_drop _ rest).symm, List.length_take_of_le (by omega)⟩
      have hsource' : front ++ kept ++ declaration = text := by rw [List.append_assoc, hsource]
      have hlength : start = (front ++ kept).length := by
        rw [List.length_append]
        omega
      have htake : text.take start = front ++ kept := by rw [← hsource', hlength, List.take_left]
      have hdrop : text.drop start = declaration := by rw [← hsource', hlength, List.drop_left]
      rw [hdrop] at hfirst
      obtain ⟨stop, taken, hstop, htaken, hbehind⟩ := exists_behindLine isInterface hsource' hfirst
      have hnext : front ++ kept ++ taken ++ afterDeclaration isInterface declaration = text := by
        rw [List.append_assoc _ taken, htaken, hsource']
      have hcursor : start + (declaration.length - (afterDeclaration isInterface declaration).length) =
          (front ++ kept ++ taken).length := by
        have hsize := congrArg List.length htaken
        simp only [List.length_append] at hsize hlength ⊢
        omega
      have hslice := slice?_append front kept declaration
      rw [hsource, ← byteSize_append] at hslice
      rw [if_neg (mt hinside.1 hless), if_neg hless]
      simp only [htake, hstop, hslice, hbehind, Option.bind_eq_bind, Option.bind_some,
        ih _ _ hnext hheads, ← hkept, List.take_left, List.drop_left, hcursor]
      rfl

theorem stripTypesAt?_eq (text : List Char) : stripTypesAt? text = some (stripTypes text) :=
  stripTypesAt?_go_eq [] text rfl (forall_typeHeads_go [] text rfl rfl)

end Strip

end LivePreview.Code
