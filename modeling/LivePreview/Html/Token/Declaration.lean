import LivePreview.Html.Token
/-!
# LivePreview.Html.Token.Declaration

**Comments and document types**, behind the marks that open them. A comment that is never closed
goes to the end of the text. A document type with parts that cannot be read is at fault, but keeps
what was read of it.
-/

namespace LivePreview.Html

open Text (dropLead? lowerAscii)

/-! ### Comments -/

/-- A comment behind its opening mark, and the text behind it. -/
def commentBody : List Char → List Char × List Char
  | [] => ([], [])
  | '-' :: '-' :: '>' :: rest => ([], rest)
  | '-' :: '-' :: '!' :: '>' :: rest => ([], rest)
  | ['-'] => ([], [])
  | ['-', '-'] => ([], [])
  | ['-', '-', '!'] => ([], [])
  | c :: rest =>
    let (body, after) := commentBody rest
    (c :: body, after)

/-- A comment and the text behind it. Right behind the opening mark the closing mark may be cut
short. -/
def comment : List Char → String × List Char
  | '>' :: rest => ("", rest)
  | '-' :: '>' :: rest => ("", rest)
  | text =>
    let (body, rest) := commentBody text
    (String.ofList (replaceNull body), rest)

/-- A comment that ends with the next closing bracket, and the text behind it. -/
def bogusComment (text : List Char) : String × List Char :=
  (String.ofList (replaceNull (text.takeWhile (· != '>'))), (text.dropWhile (· != '>')).drop 1)

/-! ### Document types -/

/-- The text behind the next closing bracket. -/
def behindBracket (text : List Char) : List Char :=
  (text.dropWhile (· != '>')).drop 1

/-- A faulty document type. -/
def Doctype.fault (d : Doctype) : Doctype := { d with faulty := true }

/-- Reads an identifier behind its opening quote: it, whether the quote is closed, and the text
behind. -/
def quotedId (quote : Char) (text : List Char) : String × Bool × List Char :=
  let isPart := fun c => c != quote && c != '>'
  let id := String.ofList (replaceNull (text.takeWhile isPart))
  match text.dropWhile isPart with
  | c :: rest => (id, c == quote, rest)
  | [] => (id, false, [])

/-- Reads what is left behind the identifiers; `faulty`: is more text a fault? -/
def doctypeEnd (d : Doctype) (faulty : Bool) (text : List Char) : Doctype × List Char :=
  match text.dropWhile isTagSpace with
  | [] => (d.fault, [])
  | '>' :: rest => (d, rest)
  | other => (if faulty then d.fault else d, behindBracket other)

/-- Reads the identifier of the system. -/
def systemId (d : Doctype) (quote : Char) (text : List Char) : Doctype × List Char :=
  let (id, closed, rest) := quotedId quote text
  let d := { d with systemId := some id }
  if closed then doctypeEnd d false rest else (d.fault, rest)

/-- Reads the public identifier and, if there is one, that of the system. -/
def publicId (d : Doctype) (quote : Char) (text : List Char) : Doctype × List Char :=
  let (id, closed, rest) := quotedId quote text
  let d := { d with publicId := some id }
  if closed then
    match rest.dropWhile isTagSpace with
    | '"' :: inner => systemId d '"' inner
    | '\'' :: inner => systemId d '\'' inner
    | other => doctypeEnd d true other
  else (d.fault, rest)

/-- Reads an identifier that has to come next. -/
def expectId (d : Doctype) (read : Doctype → Char → List Char → Doctype × List Char)
    (text : List Char) : Doctype × List Char :=
  match text.dropWhile isTagSpace with
  | '"' :: inner => read d '"' inner
  | '\'' :: inner => read d '\'' inner
  | other => (d.fault, behindBracket other)

/-- The text behind a keyword; capital letters count as small ones. -/
def keyword? (word : String) (text : List Char) : Option (List Char) :=
  if lowerAscii (text.take word.length) == word.toList then some (text.drop word.length) else none

/-- A document type behind its keyword, and the text behind it. -/
def doctype (text : List Char) : Doctype × List Char :=
  match text.dropWhile isTagSpace with
  | [] => ({ faulty := true }, [])
  | '>' :: rest => ({ faulty := true }, rest)
  | named =>
    let isPart := fun c => !isTagSpace c && c != '>'
    let d : Doctype := { name := some (nameOf (named.takeWhile isPart)) }
    let rest := (named.dropWhile isPart).dropWhile isTagSpace
    match keyword? "public" rest, keyword? "system" rest with
    | some inner, _ => expectId d publicId inner
    | none, some inner => expectId d systemId inner
    | none, none => doctypeEnd d true rest

end LivePreview.Html
