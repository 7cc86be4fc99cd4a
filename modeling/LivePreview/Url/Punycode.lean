import LivePreview.Text.Word
/-!
# LivePreview.Url.Punycode

**Punycode** writes a label of any script in letters, digits and hyphens. The ASCII characters come
first; behind the last hyphen, each further character is told by how far a counter of places and
code points moves on to it, in digits of base 36 whose thresholds adapt to the moves so far.
-/

namespace LivePreview.Url.Punycode

/-- The digit of a value below 36. -/
def digit (n : Nat) : Char :=
  if n < 26 then Char.ofNat (97 + n) else Char.ofNat (22 + n)

/-- The value of a digit. -/
def digitValue? (c : Char) : Option Nat :=
  let n := c.toNat
  if 97 ≤ n && n ≤ 122 then some (n - 97)
  else if 65 ≤ n && n ≤ 90 then some (n - 65)
  else if 48 ≤ n && n ≤ 57 then some (n - 22)
  else none

/-- The threshold of the digit with weight index `k`. -/
def threshold (k bias : Nat) : Nat :=
  if k ≤ bias then 1 else if bias + 26 ≤ k then 26 else k - bias

theorem threshold_pos (k bias : Nat) : 1 ≤ threshold k bias := by
  unfold threshold
  split
  · omega
  · split <;> omega

theorem threshold_le (k bias : Nat) : threshold k bias ≤ 26 := by
  unfold threshold
  split
  · omega
  · split <;> omega

/-- Scales a move down until it is small; also gives 36 for each step. -/
def settle (delta : Nat) : Nat × Nat :=
  if 455 < delta then
    let (rest, k) := settle (delta / 35)
    (rest, k + 36)
  else (delta, 0)
termination_by delta
decreasing_by omega

/-- The bias after a move, with `count` characters in place. -/
def adapt (delta count : Nat) (first : Bool) : Nat :=
  let delta := if first then delta / 700 else delta / 2
  let (rest, k) := settle (delta + delta / count)
  k + 36 * rest / (rest + 38)

/-! ### Writing -/

/-- The digits of a move. -/
def writeMove (bias k move : Nat) : List Char :=
  let t := threshold k bias
  if move < t then [digit move]
  else digit (t + (move - t) % (36 - t)) :: writeMove bias (k + 36) ((move - t) / (36 - t))
termination_by move
decreasing_by
  have h₁ := threshold_pos k bias
  have h₂ := threshold_le k bias
  exact Nat.lt_of_le_of_lt (Nat.div_le_self _ _) (by omega)

/-- A writer: the digits so far, the move since the last of them, the bias, and how many characters
are in place. -/
structure Writer where
  digits : List Char
  move : Nat
  bias : Nat
  placed : Nat

/-- Passes a character of the label while code point `n` is being placed. -/
def Writer.pass (basic n : Nat) (w : Writer) (c : Char) : Writer :=
  if c.toNat < n then { w with move := w.move + 1 }
  else if c.toNat = n then
    { digits := w.digits ++ writeMove w.bias 36 w.move
      move := 0
      bias := adapt w.move (w.placed + 1) (w.placed = basic)
      placed := w.placed + 1 }
  else w

/-- Places the code points of an ascending list; those below `n` are in place. -/
def place (label : List Char) (basic n : Nat) (w : Writer) : List Nat → Writer
  | [] => w
  | m :: rest =>
    let w := { w with move := w.move + (m - n) * (w.placed + 1) }
    let w := label.foldl (Writer.pass basic m) w
    place label basic (m + 1) { w with move := w.move + 1 } rest

/-- Writes a label. -/
def encode (label : List Char) : List Char :=
  let basic := label.filter fun c => c.toNat < 128
  let more := ((label.filter fun c => 128 ≤ c.toNat).map Char.toNat).mergeSort.eraseDups
  let front := if basic.isEmpty then [] else basic ++ ['-']
  front ++ (place label basic.length 128 ⟨[], 0, 72, basic.length⟩ more).digits

/-! ### Reading -/

/-- Reads the digits of a move: what they add, and the rest. -/
def readMove? (bias k weight : Nat) : List Char → Option (Nat × List Char)
  | [] => none
  | c :: rest => do
    let d ← digitValue? c
    let t := threshold k bias
    if d < t then return (d * weight, rest)
    else
      let (more, rest) ← readMove? bias (k + 36) (weight * (36 - t)) rest
      return (d * weight + more, rest)

/-- Reads the characters behind the hyphen into `label`; `n` and `i` are the counter of code points
and places. Every character takes a digit, so their number bounds the steps. -/
def readMore? (n i bias : Nat) (label : List Char) (first : Bool) :
    Nat → List Char → Option (List Char)
  | _, [] => some label
  | 0, _ => none
  | fuel + 1, text => do
    let (move, rest) ← readMove? bias 36 1 text
    let count := label.length + 1
    let i := i + move
    let n := n + i / count
    guard (n < 0x110000 && !(0xD800 ≤ n && n ≤ 0xDFFF))
    let spot := i % count
    let label := label.take spot ++ Char.ofNat n :: label.drop spot
    readMore? n (spot + 1) (adapt move count first) label false fuel rest

/-- Reads a label. -/
def decode? (text : List Char) : Option (List Char) := do
  let back := text.reverse
  let more := (back.takeWhile (· != '-')).reverse
  let basic := ((back.dropWhile (· != '-')).drop 1).reverse
  guard (basic.all fun c => c.toNat < 128)
  readMore? 128 0 72 basic true more.length more

end LivePreview.Url.Punycode
