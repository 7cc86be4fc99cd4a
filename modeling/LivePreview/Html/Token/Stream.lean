import LivePreview.Html.Token.Declaration
import LivePreview.Html.Token.Raw
import LivePreview.Html.Token.Tag
/-!
# LivePreview.Html.Token.Stream

**The next tokens** of a text. Where markup is not finished or makes no sense, its opening bracket
is text, or what follows is a comment; nothing is ever refused.
-/

namespace LivePreview.Html

/-- Runs of text and the NULs between them, as tokens. -/
def textTokens (text : List Char) : List Token :=
  match text with
  | [] => []
  | '\x00' :: rest => .null :: textTokens rest
  | c :: rest =>
    .text false (c :: rest.takeWhile (· != '\x00')) :: textTokens (rest.dropWhile (· != '\x00'))
termination_by text.length
decreasing_by
  · simp
  · have := length_dropWhile_le (· != '\x00') rest
    simp only [List.length_cons]
    omega

/-- The tokens behind `<!`. The flag tells whether marked sections of plain text are known. -/
def declarationTokens (sections : Bool) (text : List Char) : List Token × List Char :=
  match Text.dropLead? "--".toList text with
  | some rest =>
    let (body, after) := comment rest
    ([.comment body], after)
  | none =>
    match keyword? "doctype" text with
    | some rest =>
      let (d, after) := doctype rest
      ([.doctype d], after)
    | none =>
      match if sections then Text.dropLead? "[CDATA[".toList text else none with
      | some rest =>
        match Text.cutAt? "]]>".toList rest with
        | some (body, after) => (textTokens body, after)
        | none => (textTokens rest, [])
      | none =>
        let (body, after) := bogusComment text
        ([.comment body], after)

/-- The tokens of a text without markup. -/
def plainTokens (text : List Char) : List Token :=
  [.text false text]

/-- The tokens behind `</`. -/
def closingTokens : List Char → List Token × List Char
  | [] => (plainTokens ['<', '/'], [])
  | '>' :: rest => ([], rest)
  | c :: rest =>
    if isAsciiLetter c then
      match tag? (c :: rest) with
      | some (tag, after) => ([.stop tag.name], after)
      | none => ([], [])
    else
      let (body, after) := bogusComment (c :: rest)
      ([.comment body], after)

/-- The tokens behind `<`. -/
def markupTokens (sections : Bool) : List Char → List Token × List Char
  | [] => (plainTokens ['<'], [])
  | '!' :: rest => declarationTokens sections rest
  | '/' :: rest => closingTokens rest
  | c :: rest =>
    if isAsciiLetter c then
      match tag? (c :: rest) with
      | some (tag, after) => ([.start tag], after)
      | none => ([], [])
    else if c = '?' then
      let (body, after) := bogusComment (c :: rest)
      ([.comment body], after)
    else (plainTokens ['<'], c :: rest)

/-- Is the character text wherever it stands? -/
def isPlainChar (c : Char) : Bool :=
  c != '<' && c != '&' && c != '\x00'

/-- The next tokens of a text, and the text behind them. -/
def nextTokens (sections : Bool) : List Char → List Token × List Char
  | [] => ([], [])
  | '<' :: rest => markupTokens sections rest
  | '\x00' :: rest => ([.null], rest)
  | '&' :: rest =>
    match reference? false rest with
    | some r => ([.text (!r.complete) r.chars], r.rest)
    | none => (plainTokens ['&'], rest)
  | c :: rest => (plainTokens (c :: rest.takeWhile isPlainChar), rest.dropWhile isPlainChar)

/-- The token of text without markup. -/
def RawText.token? (kind : RawText) (text : List Char) : Option Token :=
  let text := replaceNull text
  if text.isEmpty then none
  else if kind = .references then some (.text (startsFaulty text) (resolve false text))
  else some (.text false text)
where
  /-- Does the text start with a reference that lacks its semicolon? -/
  startsFaulty : List Char → Bool
    | '&' :: rest => (reference? false rest).any (!·.complete)
    | _ => false

end LivePreview.Html
