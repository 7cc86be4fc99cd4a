import LivePreview.Text.Utf8
import LivePreview.Text.Word
/-!
# LivePreview.Url.Percent

**Percent encoding.** A byte that may not stand for itself is written as a percent sign and two
hexadecimal digits. Which ASCII characters may stand for themselves depends on the part of the
address; controls and everything beyond ASCII never do. Reading is lenient: a percent sign without
two digits stands for itself.
-/

namespace LivePreview.Url

open Text

/-- A hexadecimal digit in upper case. -/
def upperHex (n : Nat) : Char :=
  if n < 10 then Char.ofNat (48 + n) else Char.ofNat (55 + n)

/-- The value of a hexadecimal digit. -/
def hexValue? (c : Char) : Option Nat :=
  let n := c.toNat
  if isDigit c then some (n - 48)
  else if 97 ≤ n && n ≤ 102 then some (n - 87)
  else if 65 ≤ n && n ≤ 70 then some (n - 55)
  else none

/-- A byte behind a percent sign. -/
def percentByte (b : Nat) : List Char :=
  ['%', upperHex (b / 16), upperHex (b % 16)]

/-- The characters that are encoded in one part of an address, besides controls and what is beyond
ASCII. -/
abbrev EncodeSet := List Char

/-- In a fragment. -/
def fragmentSet : EncodeSet := [' ', '"', '<', '>', '\x60']

/-- In a query. -/
def querySet : EncodeSet := [' ', '"', '#', '<', '>']

/-- In the query of a special scheme. -/
def specialQuerySet : EncodeSet := '\'' :: querySet

/-- In a path. -/
def pathSet : EncodeSet := fragmentSet ++ ['#', '?', '\x7b', '\x7d']

/-- In a user name or password. -/
def userinfoSet : EncodeSet := pathSet ++ ['/', ':', ';', '=', '@', '[', '\\', ']', '^', '|']

/-- A character in a part of an address. -/
def encodeChar (set : EncodeSet) (c : Char) : List Char :=
  if c.toNat < 32 || 127 ≤ c.toNat || set.contains c then
    (Text.encodeChar c).flatMap percentByte
  else [c]

/-- A text in a part of an address. -/
def percentEncode (set : EncodeSet) (text : List Char) : List Char :=
  text.flatMap (encodeChar set)

/-- The bytes of a text in which percent signs with two digits stand for a byte. -/
def percentDecode : List Char → List Nat
  | [] => []
  | '%' :: a :: b :: rest =>
    match hexValue? a, hexValue? b with
    | some x, some y => (x * 16 + y) :: percentDecode rest
    | _, _ => 0x25 :: percentDecode (a :: b :: rest)
  | c :: rest => Text.encodeChar c ++ percentDecode rest
termination_by text => text.length

end LivePreview.Url
