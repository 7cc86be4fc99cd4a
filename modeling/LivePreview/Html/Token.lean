import LivePreview.Html.Node
import LivePreview.Text.Blank
import LivePreview.Text.Search
/-!
# LivePreview.Html.Token

**Tokens** of an HTML text: tags, runs of text, comments and document types. How the text behind a
tag is read depends on the tag; a `RawText` says which characters are markup there.
-/

namespace LivePreview.Html

/-- A tag without its angle brackets. -/
structure Tag where
  name : String
  attributes : List Attribute := []
  /-- Does the tag end with a slash? -/
  closed : Bool := false
  deriving Repr, DecidableEq

/-- The value of an attribute. -/
def Tag.value? (tag : Tag) (name : String) : Option String :=
  (tag.attributes.find? (·.name == name)).map (·.value)

/-- The declaration of a document's type. -/
structure Doctype where
  name : Option String := none
  publicId : Option String := none
  systemId : Option String := none
  /-- Is the declaration itself at fault? -/
  faulty : Bool := false
  deriving Repr, DecidableEq

/-- A token. -/
inductive Token
  | start (tag : Tag)
  | stop (name : String)
  /-- Characters other than NUL. The flag tells that a fault was met right in front of them. -/
  | text (faulty : Bool) (chars : List Char)
  /-- The character NUL. -/
  | null
  | comment (text : String)
  | doctype (doctype : Doctype)
  /-- The end of the text. -/
  | finish
  deriving Repr, DecidableEq

/-- How the text behind a tag is read, up to the closing tag of the same name. -/
inductive RawText
  /-- References are read, other markup is not. -/
  | references
  /-- Nothing is markup. -/
  | verbatim
  /-- Nothing is markup, and closing tags in nested scripts count as text. -/
  | script
  /-- Nothing is markup, and there is no closing tag. -/
  | endless
  deriving Repr, DecidableEq

/-! ### Characters -/

/-- Does the character separate the parts of a tag? -/
abbrev isTagSpace (c : Char) : Bool :=
  Text.isAsciiBlank c

/-- Can a tag's name start with the character? -/
def isAsciiLetter (c : Char) : Bool :=
  ('a' ≤ c && c ≤ 'z') || ('A' ≤ c && c ≤ 'Z')

/-- The character that stands for one that must not occur. -/
def replacement : Char := '\ufffd'

/-- The text with NUL replaced. -/
def replaceNull (text : List Char) : List Char :=
  text.map fun c => if c = '\x00' then replacement else c

/-- A name in small letters, with NUL replaced. -/
def nameOf (text : List Char) : String :=
  String.ofList (Text.lowerAscii (replaceNull text))

/-- The text with one kind of line end and without a byte order mark in front. -/
def normalize (text : List Char) : List Char :=
  lineEnds (match text with
    | '\ufeff' :: rest => rest
    | other => other)
where
  /-- Line ends of one kind. -/
  lineEnds : List Char → List Char
    | [] => []
    | '\r' :: '\n' :: rest => '\n' :: lineEnds rest
    | c :: rest => (if c = '\r' then '\n' else c) :: lineEnds rest

end LivePreview.Html
