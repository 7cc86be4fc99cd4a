import LivePreview.Text.Search
import LivePreview.Url.Percent
/-!
# LivePreview.Url.Address

**Numeric hosts.** An address of 32 bits is one to four numbers with dots between them, each decimal,
octal or hexadecimal; the last one fills all bytes that are left. An address of 128 bits is eight
groups of hexadecimal digits with colons between them; one run of zero groups may be left out, and
the last two groups may be an address of 32 bits. Written, the first longest run of at least two
zero groups is left out.
-/

namespace LivePreview.Url

open Text

/-! ### 32 bits -/

/-- The number of a text in a base, if it consists of digits of the base. -/
def number? (base : Nat) (text : List Char) : Option Nat :=
  text.foldlM (fun n c => do
    let d ← hexValue? c
    guard (d < base)
    return n * base + d) 0

/-- One number of an address: a prefix tells the base, and a prefix alone is zero. -/
def ipv4Number? (text : List Char) : Option Nat :=
  match text with
  | [] => none
  | '0' :: 'x' :: rest => number? 16 rest
  | '0' :: 'X' :: rest => number? 16 rest
  | '0' :: c :: rest => number? 8 (c :: rest)
  | _ => number? 10 text

/-- Does the last label of a domain, before a dot at the end, look like a number? Then the domain
is an address or nothing. -/
def endsInNumber (domain : List Char) : Bool :=
  let labels := (splitAtChar '.' domain).reverse
  let last? := match labels with
    | [] :: last :: _ => some last
    | [[]] => none
    | last :: _ => some last
    | [] => none
  match last? with
  | none => false
  | some last => (!last.isEmpty && last.all isDigit) || (ipv4Number? last).isSome

/-- The address of a domain. -/
def parseIpv4? (domain : List Char) : Option Nat := do
  let labels := splitAtChar '.' domain
  let labels := if labels.getLast? == some [] then labels.dropLast else labels
  guard (labels.length ≤ 4)
  let numbers ← labels.mapM ipv4Number?
  let last ← numbers.getLast?
  let firsts := numbers.dropLast
  guard (firsts.all (· ≤ 255))
  guard (last < Nat.pow 256 (4 - firsts.length))
  return firsts.foldl (fun n x => n * 256 + x) 0 * Nat.pow 256 (4 - firsts.length) + last

/-- The text of an address. -/
def ipv4Text (address : Nat) : List Char :=
  let byte := fun n => Nat.toDigits 10 (address / Nat.pow 256 n % 256)
  byte 3 ++ '.' :: byte 2 ++ '.' :: byte 1 ++ '.' :: byte 0

/-! ### 128 bits -/

/-- One to four hexadecimal digits. -/
def group? (text : List Char) : Option Nat := do
  guard (!text.isEmpty && text.length ≤ 4)
  number? 16 text

/-- A byte of the address of 32 bits at the end: decimal, without a leading zero. -/
def octet? (text : List Char) : Option Nat := do
  guard (!text.isEmpty && text.length ≤ 3 && text.all isDigit)
  guard (text.length = 1 || text.head? != some '0')
  let n ← number? 10 text
  guard (n ≤ 255)
  return n

/-- The two groups of an address of 32 bits. -/
def octets? (text : List Char) : Option (List Nat) := do
  match ← (splitAtChar '.' text).mapM octet? with
  | [a, b, c, d] => return [a * 256 + b, c * 256 + d]
  | _ => none

/-- Groups with colons between them; the last may be an address of 32 bits. -/
def groups? : List (List Char) → Option (List Nat)
  | [] => some []
  | [last] => if last.contains '.' then octets? last else (group? last).map ([·])
  | first :: rest => do return (← group? first) :: (← groups? rest)

/-- Groups of a side of the gap; there may be none. -/
def side? (text : List Char) : Option (List Nat) :=
  if text.isEmpty then some [] else groups? (splitAtChar ':' text)

/-- The eight groups of an address. -/
def parseIpv6? (text : List Char) : Option (List Nat) :=
  match cutAt? [':', ':'] text with
  | none => do
    let groups ← groups? (splitAtChar ':' text)
    guard (groups.length = 8)
    return groups
  | some (before, after) => do
    guard (!(before.contains '.'))
    let front ← side? before
    let back ← side? after
    guard (front.length + back.length ≤ 7)
    return front ++ List.replicate (8 - front.length - back.length) 0 ++ back

/-- The longest run of zero groups, as the number of groups before it and in it; of equally long
ones the first. `position` counts the groups that were passed. -/
def longestZeros (position : Nat) : List Nat → Nat × Nat
  | [] => (0, 0)
  | n :: rest =>
    let here := ((n :: rest).takeWhile (· = 0)).length
    let later := longestZeros (position + 1) rest
    if later.2 > here then later else (position, here)

/-- Groups with colons between them, written. -/
def groupsText (groups : List Nat) : List Char :=
  [':'].intercalate (groups.map (Nat.toDigits 16))

/-- The text of an address. -/
def ipv6Text (groups : List Nat) : List Char :=
  let (start, count) := longestZeros 0 groups
  if count < 2 then groupsText groups
  else groupsText (groups.take start) ++ [':', ':'] ++ groupsText (groups.drop (start + count))

end LivePreview.Url
