/-!
# LivePreview.Text.Utf8

The **byte view** of a text. Positions that the library reports are counts of UTF-8 bytes,
while its scanners walk lists of characters; `byteSize` is the bridge. It is additive, so the
byte position of a suffix is the size of the text before it.

Reading bytes back is total: what is no UTF-8 becomes the replacement character, one for each
maximal part of a truncated sequence.
-/

namespace LivePreview.Text

/-! ### Sizes -/

/-- The number of bytes that one character takes. -/
def charBytes (c : Char) : Nat :=
  if c.toNat < 0x80 then 1 else if c.toNat < 0x800 then 2 else if c.toNat < 0x10000 then 3 else 4

/-- The number of bytes that a text takes. -/
def byteSize : List Char → Nat
  | [] => 0
  | c :: rest => charBytes c + byteSize rest

@[simp] theorem byteSize_nil : byteSize [] = 0 := rfl

@[simp] theorem byteSize_cons (c : Char) (rest : List Char) :
    byteSize (c :: rest) = charBytes c + byteSize rest := rfl

@[simp] theorem byteSize_append (a b : List Char) :
    byteSize (a ++ b) = byteSize a + byteSize b := by
  induction a with
  | nil => simp
  | cons c rest ih => simp [ih, Nat.add_assoc]

/-- Every character takes at least one byte. -/
theorem charBytes_pos (c : Char) : 0 < charBytes c := by
  unfold charBytes
  repeat' split
  all_goals decide

/-- A text has at least as many bytes as characters. -/
theorem length_le_byteSize (text : List Char) : text.length ≤ byteSize text := by
  induction text with
  | nil => simp
  | cons c rest ih =>
    have := charBytes_pos c
    simp only [List.length_cons, byteSize_cons]
    omega

/-! ### Cutting at byte positions -/

/-- The text from the byte position `n` on; a position inside a character counts as the
next boundary. -/
def dropBytes : Nat → List Char → List Char
  | 0, text => text
  | _ + 1, [] => []
  | n + 1, c :: rest => dropBytes (n + 1 - charBytes c) rest

/-- The text before the byte position `n`; a character that the position falls into is kept. -/
def takeBytes : Nat → List Char → List Char
  | 0, _ => []
  | _ + 1, [] => []
  | n + 1, c :: rest => c :: takeBytes (n + 1 - charBytes c) rest

/-- The two cuts at one position make up the text. -/
theorem takeBytes_append_dropBytes (n : Nat) (text : List Char) :
    takeBytes n text ++ dropBytes n text = text := by
  induction text generalizing n with
  | nil => cases n <;> rfl
  | cons c rest ih =>
    cases n with
    | zero => rfl
    | succ n => simp [takeBytes, dropBytes, ih]

/-- At the end of a first part, the second part is left. -/
@[simp] theorem dropBytes_append (a b : List Char) : dropBytes (byteSize a) (a ++ b) = b := by
  induction a with
  | nil => simp [dropBytes]
  | cons c rest ih =>
    have := charBytes_pos c
    obtain ⟨n, hn⟩ : ∃ n, charBytes c + byteSize rest = n + 1 := ⟨_, (Nat.succ_pred_eq_of_pos
      (by omega)).symm⟩
    simp only [byteSize_cons, List.cons_append]
    rw [hn, dropBytes, ← hn, Nat.add_sub_cancel_left, ih]

/-- At the end of a first part, the first part is before the cut. -/
@[simp] theorem takeBytes_append (a b : List Char) : takeBytes (byteSize a) (a ++ b) = a := by
  have h := takeBytes_append_dropBytes (byteSize a) (a ++ b)
  rw [dropBytes_append] at h
  exact List.append_cancel_right h

/-! ### Bytes -/

/-- The bytes of one character, as numbers below 256. -/
def encodeChar (c : Char) : List Nat :=
  let n := c.toNat
  if n < 0x80 then [n]
  else if n < 0x800 then [0xC0 + n / 0x40, 0x80 + n % 0x40]
  else if n < 0x10000 then [0xE0 + n / 0x1000, 0x80 + n / 0x40 % 0x40, 0x80 + n % 0x40]
  else [0xF0 + n / 0x40000, 0x80 + n / 0x1000 % 0x40, 0x80 + n / 0x40 % 0x40, 0x80 + n % 0x40]

/-- The bytes of a text. -/
def encode (text : List Char) : List Nat :=
  text.flatMap encodeChar

/-- The size counts the bytes. -/
theorem length_encodeChar (c : Char) : (encodeChar c).length = charBytes c := by
  unfold encodeChar charBytes
  dsimp only
  split
  · rfl
  · split
    · rfl
    · split <;> rfl

/-- The size counts the bytes. -/
theorem length_encode (text : List Char) : (encode text).length = byteSize text := by
  induction text with
  | nil => rfl
  | cons c rest ih =>
    simp only [encode, List.flatMap_cons, List.length_append, byteSize_cons] at *
    rw [ih, length_encodeChar]

/-- Is `b` a continuation byte? -/
def isContinuation (b : Nat) : Bool :=
  0x80 ≤ b && b < 0xC0

/-- The lead byte of a sequence: how many bytes follow, the bounds of the first of them, and
the bits that the lead contributes. The bounds rule out overlong forms, surrogates and
everything beyond the last code point. -/
def leadByte? (b : Nat) : Option (Nat × Nat × Nat × Nat) :=
  if 0xC2 ≤ b && b ≤ 0xDF then some (1, 0x80, 0xBF, b - 0xC0)
  else if b == 0xE0 then some (2, 0xA0, 0xBF, 0)
  else if b == 0xED then some (2, 0x80, 0x9F, 0xD)
  else if 0xE1 ≤ b && b ≤ 0xEF then some (2, 0x80, 0xBF, b - 0xE0)
  else if b == 0xF0 then some (3, 0x90, 0xBF, 0)
  else if 0xF1 ≤ b && b ≤ 0xF3 then some (3, 0x80, 0xBF, b - 0xF0)
  else if b == 0xF4 then some (3, 0x80, 0x8F, 4)
  else none

/-- A sequence under way: bytes still to come, bounds of the next one, value so far. -/
structure Pending where
  missing : Nat
  low : Nat
  high : Nat
  value : Nat

/-- The replacement character. -/
def replacement : Char := '\uFFFD'

/-- Reads a byte outside any sequence. -/
def beginByte (b : Nat) : List Char × Option Pending :=
  if b < 0x80 then ([Char.ofNat b], none)
  else match leadByte? b with
    | some (missing, low, high, value) => ([], some ⟨missing, low, high, value⟩)
    | none => ([replacement], none)

/-- Decodes bytes; a byte that does not fit ends the sequence before it with a replacement
character and is then read anew. -/
def decodeLossy.go : Option Pending → List Nat → List Char
  | none, [] => []
  | some _, [] => [replacement]
  | none, b :: rest =>
    let (chars, next) := beginByte b
    chars ++ decodeLossy.go next rest
  | some p, b :: rest =>
    if p.low ≤ b && b ≤ p.high then
      let value := p.value * 0x40 + (b - 0x80)
      if p.missing ≤ 1 then Char.ofNat value :: decodeLossy.go none rest
      else decodeLossy.go (some ⟨p.missing - 1, 0x80, 0xBF, value⟩) rest
    else
      let (chars, next) := beginByte b
      replacement :: chars ++ decodeLossy.go next rest

/-- Decodes bytes, with replacement characters for what is no UTF-8. -/
def decodeLossy (bytes : List Nat) : List Char :=
  decodeLossy.go none bytes

/-- Decodes bytes that are UTF-8 throughout. -/
def decode?.go : Option Pending → List Nat → Option (List Char)
  | none, [] => some []
  | some _, [] => none
  | none, b :: rest =>
    if b < 0x80 then (decode?.go none rest).map (Char.ofNat b :: ·)
    else match leadByte? b with
      | some (missing, low, high, value) => decode?.go (some ⟨missing, low, high, value⟩) rest
      | none => none
  | some p, b :: rest =>
    if p.low ≤ b && b ≤ p.high then
      let value := p.value * 0x40 + (b - 0x80)
      if p.missing ≤ 1 then (decode?.go none rest).map (Char.ofNat value :: ·)
      else decode?.go (some ⟨p.missing - 1, 0x80, 0xBF, value⟩) rest
    else none

/-- The text whose bytes these are, if they are UTF-8. -/
def decode? (bytes : List Nat) : Option (List Char) :=
  decode?.go none bytes

end LivePreview.Text
