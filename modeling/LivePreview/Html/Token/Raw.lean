import LivePreview.Html.Token
/-!
# LivePreview.Html.Token.Raw

**Text without markup**: what stands behind the tag of a script, a style sheet or a text field, up to
its closing tag. In a script, a comment may hold a whole script element, and then the closing tag of
that element does not end the outer one.
-/

namespace LivePreview.Html

open Text (dropLead? lowerAscii)

/-- Does the text start with this name, in any letter case, and the end of a name? -/
def startsWithName (name text : List Char) : Bool :=
  lowerAscii (text.take name.length) == name &&
    match text.drop name.length with
    | c :: _ => isTagSpace c || c == '/' || c == '>'
    | [] => false

/-- Does the text start with the closing tag of this name? -/
def startsClosing (name : List Char) : List Char → Bool
  | '<' :: '/' :: rest => startsWithName name rest
  | _ => false

/-- The text up to the closing tag of this name, and the text from there. -/
def untilClosing (name : List Char) : List Char → List Char × List Char
  | [] => ([], [])
  | c :: rest =>
    if startsClosing name (c :: rest) then ([], c :: rest)
    else
      let (body, after) := untilClosing name rest
      (c :: body, after)

/-! ### Scripts -/

/-- Where a reader of a script stands. -/
inductive ScriptReading
  | code
  /-- In a comment, behind so many hyphens. -/
  | comment (hyphens : Nat)
  /-- In a script element in a comment, behind so many hyphens. -/
  | nested (hyphens : Nat)
  deriving Repr, DecidableEq

/-- The name of script elements. -/
def scriptName : List Char := "script".toList

/-- Where a reader stands behind the first character of a text. -/
def ScriptReading.step (reading : ScriptReading) (c : Char) (rest : List Char) : ScriptReading :=
  match reading with
  | code => if c = '<' && Text.startsWith "!--".toList rest then comment 0 else code
  | comment hyphens =>
    if c = '-' then comment (hyphens + 1)
    else if c = '>' && 2 ≤ hyphens then code
    else if c = '<' && startsWithName scriptName rest then nested 0
    else comment 0
  | nested hyphens =>
    if c = '-' then nested (hyphens + 1)
    else if c = '>' && 2 ≤ hyphens then code
    else if startsClosing scriptName (c :: rest) then comment 0
    else nested 0

/-- Does a closing tag count for a reader who stands here? -/
def ScriptReading.seesClosing : ScriptReading → Bool
  | nested _ => false
  | _ => true

/-- The text of a script up to its closing tag, and the text from there. -/
def untilScriptEnd (reading : ScriptReading) : List Char → List Char × List Char
  | [] => ([], [])
  | c :: rest =>
    if reading.seesClosing && startsClosing scriptName (c :: rest) then ([], c :: rest)
    else
      let (body, after) := untilScriptEnd (reading.step c rest) rest
      (c :: body, after)

/-! ### All kinds -/

/-- The text behind a tag of this name, and the text from its closing tag on. -/
def RawText.read (kind : RawText) (name : String) (text : List Char) : List Char × List Char :=
  match kind with
  | script => untilScriptEnd .code text
  | endless => (text, [])
  | _ => untilClosing name.toList text

end LivePreview.Html
