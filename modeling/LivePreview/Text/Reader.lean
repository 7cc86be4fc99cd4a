import LivePreview.Text.Blank
import LivePreview.Text.Search
/-!
# LivePreview.Text.Reader

**Readers** take what they recognise off the front of a text and hand on the rest; the shapes of
statements are chains of them. None of them looks back.
-/

namespace LivePreview.Text

/-- Takes a keyword or a mark off the front. -/
def word? (w : String) (text : List Char) : Option (List Char) :=
  dropLead? w.toList text

/-- Takes at least one blank off the front. -/
def gap? : List Char → Option (List Char)
  | c :: rest => if isBlank c then some (trimStart rest) else none
  | [] => none

/-- Takes a keyword and at least one blank off the front. -/
def wordGap? (w : String) (text : List Char) : Option (List Char) :=
  (word? w text).bind gap?

/-- Takes a keyword and a gap off the front, if they are there. -/
def skipWordGap (w : String) (text : List Char) : List Char :=
  (wordGap? w text).getD text

/-- Takes one character off the front, if it is there. -/
def skipChar (c : Char) : List Char → List Char
  | d :: rest => if d = c then rest else d :: rest
  | [] => []

/-- The text without leading spaces and tabs. -/
def skipSpaces (text : List Char) : List Char :=
  text.dropWhile isSpaceOrTab

/-- What stands between two marks that follow each other, and the text behind. -/
def between? (opening closing : Char) : List Char → Option (List Char × List Char)
  | [] => none
  | c :: rest =>
    if c = opening then
      match rest.dropWhile (· != closing) with
      | _ :: after => some (rest.takeWhile (· != closing), after)
      | [] => none
    else none

end LivePreview.Text
