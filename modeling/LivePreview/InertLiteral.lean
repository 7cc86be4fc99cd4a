import LivePreview.Json.Value
import LivePreview.Text.Search
/-!
# LivePreview.InertLiteral

An **inert literal** is a string literal that can stand inside a script element whatever its text
is: it cannot close the element, open a comment, or end the line it stands on. The marks that could
do so are split by a backslash, which a reader of the literal drops again.
-/

namespace LivePreview

open Text (replaceAll)

/-- The characters of an inert literal. -/
def inertChars (text : List Char) : List Char :=
  replaceAll ['\u2029'] "\\u2029".toList
    (replaceAll ['\u2028'] "\\u2028".toList
      (replaceAll "<!--".toList "<\\!--".toList
        (replaceAll "</".toList "<\\/".toList (Json.literalChars text))))

/-- A text as an inert literal. -/
def inertLiteral (text : String) : String :=
  String.ofList (inertChars text.toList)

end LivePreview
