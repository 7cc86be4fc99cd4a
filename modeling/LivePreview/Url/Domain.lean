import LivePreview.Text.Search
import LivePreview.Url.Composition
import LivePreview.Url.Folding
import LivePreview.Url.Percent
import LivePreview.Url.Punycode
/-!
# LivePreview.Url.Domain

The **ASCII form of a domain**. Every character is folded, the text is composed, and each label that
is not ASCII is written in Punycode behind `xn--`. A label that comes in Punycode has to be what
this process would have made of the label that it stands for.

A domain is refused if it holds a character that may not stand in a host, if a label begins with a
mark, or if a joiner stands where it joins nothing.
-/

namespace LivePreview.Url

open Text

/-- May `c`, an ASCII character, not stand in a domain? -/
def isForbidden (c : Char) : Bool :=
  c.toNat ≤ 32 || c.toNat = 127 || "%#/:<>?@[\\]^|".toList.contains c

/-- A character folded; `none` if a domain may not hold it. -/
def foldChar? (c : Char) : Option (List Nat) :=
  if c.toNat < 128 then some [c.toLower.toNat] else fold? c.toNat

/-- A text folded and composed. -/
def normalize? (text : List Char) : Option (List Char) := do
  let folded ← text.mapM foldChar?
  let text := (composed folded.flatten).map Char.ofNat
  guard (!(text.any fun c => c.toNat < 128 && isForbidden c))
  return text

/-- Is `n` one of the two joiners? -/
def isJoiner (n : Nat) : Bool :=
  n = 0x200C || n = 0x200D

/-- Does every joiner follow a mark that ends a syllable? `last` is the class of the character in
front. -/
def joinersFit (last : Nat) : List Char → Bool
  | [] => true
  | c :: rest => (!isJoiner c.toNat || last = 9) && joinersFit (markClass c.toNat) rest

/-- May the label, which is normalised and not ASCII, stand in a domain? -/
def isLabel (label : List Char) : Bool :=
  (match label with
    | c :: _ => !markRanges.has c.toNat
    | [] => true) && joinersFit 0 label

/-- Is the text ASCII? -/
def isAscii (text : List Char) : Bool :=
  text.all fun c => c.toNat < 128

/-- The mark of a label in Punycode. -/
def punycodeMark : List Char := "xn--".toList

/-- The ASCII form of a normalised label. -/
def labelToAscii? (label : List Char) : Option (List Char) :=
  match dropLead? punycodeMark label with
  | some written => do
    guard (isAscii written)
    let meant ← Punycode.decode? written
    guard (!isAscii meant && normalize? meant == some meant && isLabel meant)
    return label
  | none =>
    if isAscii label then some label
    else if isLabel label then some (punycodeMark ++ Punycode.encode label)
    else none

/-- The ASCII form of a domain. -/
def domainToAscii? (domain : List Char) : Option (List Char) := do
  let labels ← (splitAtChar '.' (← normalize? domain)).mapM labelToAscii?
  return ['.'].intercalate labels

end LivePreview.Url
