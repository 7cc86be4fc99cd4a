/-!
# LivePreview.Decimal.Shortest

The **shortest decimal** of a binary floating-point number: the fewest digits that read back as
the number, and of those the nearest to it; of two equally near ones the even one.

A number is given by the 64 bits of its double format. They are read as `m · 2 ^ q`, the reals
that round to the number form an interval around it, and for one, two, … digits the two
neighbours of the number on the decimal grid are tested against the interval in exact
arithmetic of natural numbers. If any point of a grid lies in the interval, one of the two
neighbours does, so the first hit has the fewest digits.
-/

namespace LivePreview.Decimal

/-- A finite positive number `mantissa · 2 ^ (exponent - 1074)`. -/
structure Binary where
  mantissa : Nat
  /-- The power of two, counted from the smallest one. -/
  exponent : Nat
  deriving Repr, DecidableEq

/-- Reads the bits of a double without its sign; `none` stands for infinities and what is no
number. -/
def Binary.ofBits? (bits : Nat) : Option Binary :=
  let fraction := bits % Nat.pow 2 52
  match bits / Nat.pow 2 52 % 2048 with
  | 2047 => none
  | 0 => some ⟨fraction, 0⟩
  | e => some ⟨Nat.pow 2 52 + fraction, e - 1⟩

/-- Digits and the power of ten of the last of them. -/
structure Digits where
  value : Nat
  exponent : Int
  deriving Repr, DecidableEq

namespace Binary

/-- The scale on which all bounds are whole: numbers are counted in units of
`2 ^ (-1076)`, so a quarter of the last place is whole. -/
def scaled (b : Binary) : Nat :=
  4 * b.mantissa * Nat.pow 2 b.exponent

/-- The distance from the number to the upper end of its interval. -/
def above (b : Binary) : Nat :=
  2 * Nat.pow 2 b.exponent

/-- The distance to the lower end: half as long below a power of two. -/
def below (b : Binary) : Nat :=
  if b.mantissa = Nat.pow 2 52 ∧ b.exponent ≠ 0 then Nat.pow 2 b.exponent
  else 2 * Nat.pow 2 b.exponent

/-- `10 ^ 400`, the factor that makes every grid in question whole. -/
def tenPower : Nat := Nat.pow 10 400

/-- The grid of step `10 ^ (n - 400)`, on the scale of `scaled` times `tenPower`. -/
def step (n : Nat) : Nat :=
  Nat.pow 10 n * Nat.pow 2 1076

/-- Does the point lie in the interval of the reals that round to the number? The ends belong
to it if the mantissa is even. -/
def holds (b : Binary) (point : Nat) : Bool :=
  let low := (b.scaled - b.below) * tenPower
  let high := (b.scaled + b.above) * tenPower
  if b.mantissa % 2 = 0 then low ≤ point && point ≤ high else low < point && point < high

/-- The grid point next to the number, if one lies in its interval. -/
def nearest? (b : Binary) (n : Nat) : Option Nat :=
  let value := b.scaled * tenPower
  let d := value / step n
  let below := d * step n
  let above := (d + 1) * step n
  match b.holds below && d != 0, b.holds above with
  | true, true =>
    if value - below < above - value then some d
    else if above - value < value - below then some (d + 1)
    else some (if d % 2 = 0 then d else d + 1)
  | true, false => some d
  | false, true => some (d + 1)
  | false, false => none

/-- The number of decimal digits of `n`. -/
def digitCount (n : Nat) : Nat :=
  (Nat.toDigits 10 n).length

/-- Tries finer and finer grids, `tries` of them; `n` counts the steps down. -/
def search (b : Binary) (n : Nat) : Nat → Digits
  | 0 => ⟨b.scaled * tenPower / step n, (n : Int) - 400⟩
  | tries + 1 =>
    match b.nearest? n with
    | some d => ⟨d, (n : Int) - 400⟩
    | none => search b (n - 1) tries

/-- The shortest digits of a number other than zero. Seventeen digits always suffice. -/
def shortest (b : Binary) : Digits :=
  let whole := digitCount (b.scaled * tenPower / Nat.pow 2 1076)
  search b whole 19

end Binary

/-- Removes zeros at the end of the digits. -/
def Digits.trimmed (d : Digits) : Nat → Digits
  | 0 => d
  | fuel + 1 =>
    if d.value % 10 = 0 ∧ d.value ≠ 0 then
      (⟨d.value / 10, d.exponent + 1⟩ : Digits).trimmed fuel
    else d

/-- How a number is written: `12.5`, `0.001` and `1e+30` are the three forms. The number has a
digit behind the point or an exponent, never neither. Positional writing is used for up to
sixteen digits before the point and up to four zeros behind it. -/
def Digits.write (d : Digits) : String :=
  let digits := Nat.toDigits 10 d.value
  let count : Int := digits.length
  let point := count + d.exponent
  if 0 ≤ d.exponent ∧ point ≤ 16 then
    String.ofList (digits ++ List.replicate d.exponent.toNat '0' ++ ['.', '0'])
  else if 0 < point ∧ point ≤ 16 then
    String.ofList (digits.take point.toNat ++ '.' :: digits.drop point.toNat)
  else if -5 < point ∧ point ≤ 0 then
    String.ofList ('0' :: '.' :: List.replicate (-point).toNat '0' ++ digits)
  else
    let fraction := match digits.drop 1 with
      | [] => []
      | more => '.' :: more
    let sign := if 0 < point then '+' else '-'
    String.ofList (digits.take 1 ++ fraction ++ ['e', sign] ++
      Nat.toDigits 10 (point - 1).natAbs)

/-- The text of a finite double, given by its bits. -/
def ofBits (bits : Nat) : String :=
  let sign := if bits / Nat.pow 2 63 % 2 = 1 then "-" else ""
  match Binary.ofBits? bits with
  | none => "null"
  | some b =>
    if b.mantissa = 0 then sign ++ "0.0"
    else sign ++ (b.shortest.trimmed 20).write

end LivePreview.Decimal
