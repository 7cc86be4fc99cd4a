/-!
# LivePreview.Digest

The **SHA-256 digest** of a sequence of bytes. The bytes are padded to whole blocks of 64; each
block is stretched to 64 words and stirred into a state of eight words.
-/

namespace LivePreview.Digest

/-- The constants of the rounds: the first bits of the cube roots of the first 64 primes. -/
def roundConstants : List UInt32 :=
  [0x428a2f98, 0x71374491, 0xb5c0fbcf, 0xe9b5dba5, 0x3956c25b, 0x59f111f1, 0x923f82a4, 0xab1c5ed5,
   0xd807aa98, 0x12835b01, 0x243185be, 0x550c7dc3, 0x72be5d74, 0x80deb1fe, 0x9bdc06a7, 0xc19bf174,
   0xe49b69c1, 0xefbe4786, 0x0fc19dc6, 0x240ca1cc, 0x2de92c6f, 0x4a7484aa, 0x5cb0a9dc, 0x76f988da,
   0x983e5152, 0xa831c66d, 0xb00327c8, 0xbf597fc7, 0xc6e00bf3, 0xd5a79147, 0x06ca6351, 0x14292967,
   0x27b70a85, 0x2e1b2138, 0x4d2c6dfc, 0x53380d13, 0x650a7354, 0x766a0abb, 0x81c2c92e, 0x92722c85,
   0xa2bfe8a1, 0xa81a664b, 0xc24b8b70, 0xc76c51a3, 0xd192e819, 0xd6990624, 0xf40e3585, 0x106aa070,
   0x19a4c116, 0x1e376c08, 0x2748774c, 0x34b0bcb5, 0x391c0cb3, 0x4ed8aa4a, 0x5b9cca4f, 0x682e6ff3,
   0x748f82ee, 0x78a5636f, 0x84c87814, 0x8cc70208, 0x90befffa, 0xa4506ceb, 0xbef9a3f7, 0xc67178f2]

/-- The state of eight words. -/
structure State where
  a : UInt32
  b : UInt32
  c : UInt32
  d : UInt32
  e : UInt32
  f : UInt32
  g : UInt32
  h : UInt32
  deriving Repr, DecidableEq

/-- The state before the first block: the first bits of the square roots of the first primes. -/
def State.initial : State :=
  ⟨0x6a09e667, 0xbb67ae85, 0x3c6ef372, 0xa54ff53a, 0x510e527f, 0x9b05688c, 0x1f83d9ab, 0x5be0cd19⟩

/-- A word turned to the right. -/
def rotate (x : UInt32) (n : UInt32) : UInt32 :=
  (x >>> n) ||| (x <<< (32 - n))

/-- One round, with a word of the message and a constant. -/
def State.round (s : State) (word constant : UInt32) : State :=
  let s1 := rotate s.e 6 ^^^ rotate s.e 11 ^^^ rotate s.e 25
  let choice := (s.e &&& s.f) ^^^ ((~~~ s.e) &&& s.g)
  let t1 := s.h + s1 + choice + constant + word
  let s0 := rotate s.a 2 ^^^ rotate s.a 13 ^^^ rotate s.a 22
  let majority := (s.a &&& s.b) ^^^ (s.a &&& s.c) ^^^ (s.b &&& s.c)
  ⟨t1 + (s0 + majority), s.a, s.b, s.c, s.d + t1, s.e, s.f, s.g⟩

/-- The sum of two states, word by word. -/
def State.add (s t : State) : State :=
  ⟨s.a + t.a, s.b + t.b, s.c + t.c, s.d + t.d, s.e + t.e, s.f + t.f, s.g + t.g, s.h + t.h⟩

/-- The word that follows sixteen others, of which the last comes first. -/
def nextWord (back : List UInt32) : UInt32 :=
  let at' := fun n => back.getD (n - 1) 0
  let x := at' 15
  let y := at' 2
  let s0 := rotate x 7 ^^^ rotate x 18 ^^^ (x >>> 3)
  let s1 := rotate y 17 ^^^ rotate y 19 ^^^ (y >>> 10)
  at' 16 + s0 + at' 7 + s1

/-- The words of a block, stretched by `n` more, backwards. -/
def stretch : Nat → List UInt32 → List UInt32
  | 0, back => back
  | n + 1, back => stretch n (nextWord back :: back)

/-- The words of bytes, four bytes to a word, the first byte the highest. -/
def wordsOf : List Nat → List UInt32
  | b₁ :: b₂ :: b₃ :: b₄ :: rest =>
    UInt32.ofNat (((b₁ * 256 + b₂) * 256 + b₃) * 256 + b₄) :: wordsOf rest
  | _ => []

/-- Stirs a block into a state. -/
def State.block (s : State) (block : List UInt32) : State :=
  let words := (stretch 48 block.reverse).reverse
  s.add ((words.zip roundConstants).foldl (fun s pair => s.round pair.1 pair.2) s)

/-- The last `n` bytes of a number, the highest first. -/
def bigEndian : Nat → Nat → List Nat
  | 0, _ => []
  | n + 1, value => bigEndian n (value / 256) ++ [value % 256]

/-- The bytes padded to whole blocks: a bit, zeros, and the length in bits. -/
def pad (bytes : List Nat) : List Nat :=
  let length := bytes.length
  bytes ++ 0x80 :: List.replicate ((119 - length % 64) % 64) 0 ++ bigEndian 8 (length * 8)

/-- Stirs blocks of sixteen words into a state; `n` bounds their number. -/
def stir : Nat → State → List UInt32 → State
  | 0, s, _ => s
  | n + 1, s, words =>
    match words with
    | [] => s
    | _ => stir n (s.block (words.take 16)) (words.drop 16)

/-- The words of a state. -/
def State.words (s : State) : List UInt32 :=
  [s.a, s.b, s.c, s.d, s.e, s.f, s.g, s.h]

/-- The digest, as bytes. -/
def sha256 (bytes : List Nat) : List Nat :=
  let padded := pad bytes
  (stir (padded.length / 64) .initial (wordsOf padded)).words.flatMap fun w => bigEndian 4 w.toNat

end LivePreview.Digest
