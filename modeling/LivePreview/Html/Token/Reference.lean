import LivePreview.Html.Entity
import LivePreview.Html.Token
import LivePreview.Text.Word
import LivePreview.Url.Percent
/-!
# LivePreview.Html.Token.Reference

**Character references**: an ampersand and a number or a name. A number stands for its code point,
apart from those that are no characters and from a block of controls, which stand for what they mean
in an old encoding. A name ends with a semicolon; some names count without it, but not inside an
attribute where the name might go on.
-/

namespace LivePreview.Html

open Text (isAsciiAlnum isDigit)

/-- What a reference stands for. -/
structure Reference where
  chars : List Char
  /-- The text behind the reference. -/
  rest : List Char
  /-- Does it end with a semicolon? -/
  complete : Bool

/-! ### Numbers -/

/-- What the code points from 0x80 stand for in an old encoding of 256 characters; zero for those
that stand for themselves. -/
def controlMeanings : List Nat :=
  [0x20AC, 0, 0x201A, 0x0192, 0x201E, 0x2026, 0x2020, 0x2021, 0x02C6, 0x2030, 0x0160, 0x2039, 0x0152,
   0, 0x017D, 0, 0, 0x2018, 0x2019, 0x201C, 0x201D, 0x2022, 0x2013, 0x2014, 0x02DC, 0x2122, 0x0161,
   0x203A, 0x0153, 0, 0x017E, 0x0178]

/-- The character of a number. -/
def numberedChar (n : Nat) : Char :=
  if n = 0 || n > 0x10FFFF || (0xD800 ≤ n && n ≤ 0xDFFF) then replacement
  else
    match if n < 0x80 then none else controlMeanings[n - 0x80]? with
    | some 0 => Char.ofNat n
    | some meant => Char.ofNat meant
    | none => Char.ofNat n

/-- The value of digits to a base. -/
def digitsValue (base : Nat) (digits : List Char) : Nat :=
  digits.foldl (fun n c => n * base + (Url.hexValue? c).getD 0) 0

/-- Reads a number behind the number sign. -/
def numberReference? (base : Nat) (isDigit : Char → Bool) (text : List Char) : Option Reference :=
  match text.takeWhile isDigit with
  | [] => none
  | digits =>
    let chars := [numberedChar (digitsValue base digits)]
    match text.dropWhile isDigit with
    | ';' :: rest => some ⟨chars, rest, true⟩
    | rest => some ⟨chars, rest, false⟩

/-! ### Names -/

/-- The longest beginning of a name that counts without a semicolon, of at most `length`
characters. -/
def bareName? (name : List Char) : Nat → Option (List Char)
  | 0 => none
  | length + 1 =>
    let start := name.take (length + 1)
    if bareNames.contains (String.ofList start) then some start else bareName? name length

/-- Reads a reference by name. -/
def namedReference? (inAttribute : Bool) (text : List Char) : Option Reference :=
  let name := (text.take (maxNameLength + 1)).takeWhile isAsciiAlnum
  let whole :=
    match text.drop name.length with
    | ';' :: rest => (entity? (String.ofList name)).map fun chars => Reference.mk chars rest true
    | _ => none
  whole <|> do
    let start ← bareName? name name.length
    let rest := text.drop start.length
    let goesOn := match rest with
      | c :: _ => c == '=' || isAsciiAlnum c
      | [] => false
    if inAttribute && goesOn then none
    else return ⟨← entity? (String.ofList start), rest, false⟩

/-! ### References -/

/-- Reads a reference behind the ampersand. -/
def reference? (inAttribute : Bool) : List Char → Option Reference
  | '#' :: 'x' :: text => numberReference? 16 (fun c => (Url.hexValue? c).isSome) text
  | '#' :: 'X' :: text => numberReference? 16 (fun c => (Url.hexValue? c).isSome) text
  | '#' :: text => numberReference? 10 isDigit text
  | text => namedReference? inAttribute text

/-- The text with all references resolved; `skip` characters belong to a reference that is resolved
already. -/
def resolve.go (inAttribute : Bool) : Nat → List Char → List Char
  | _, [] => []
  | skip + 1, _ :: rest => resolve.go inAttribute skip rest
  | 0, c :: rest =>
    match if c = '&' then reference? inAttribute rest else none with
    | some r => r.chars ++ resolve.go inAttribute (rest.length - r.rest.length) rest
    | none => c :: resolve.go inAttribute 0 rest

/-- The text with all references resolved. -/
def resolve (inAttribute : Bool) (text : List Char) : List Char :=
  resolve.go inAttribute 0 text

end LivePreview.Html
