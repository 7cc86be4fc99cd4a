import LivePreview.Html.Construction.Tree
import LivePreview.Html.Token
/-!
# LivePreview.Html.Construction.Builder

**The builder** of a document: the tree so far, the elements that are still open, and what the rules
for the next token depend on. The steps that the rules are made of are here: looking for an open
element within a scope, closing elements, and putting nodes where they belong, which for text in the
middle of a table is in front of the table.
-/

namespace LivePreview.Html

/-- Which rules apply to the next token. -/
inductive Mode
  | initial
  | beforeHtml
  | beforeHead
  | inHead
  | afterHead
  | inBody
  /-- Behind a tag whose text holds no markup. -/
  | text
  | inTable
  | inTableText
  | inCaption
  | inColumnGroup
  | inTableBody
  | inRow
  | inCell
  | inSelect
  | inSelectInTable
  | inTemplate
  | afterBody
  | inFrameset
  | afterFrameset
  | afterAfterBody
  | afterAfterFrameset
  deriving Repr, DecidableEq

/-- An open element. -/
structure OpenElement where
  /-- Its number in the tree. -/
  id : Nat
  vocabulary : Vocabulary
  name : String
  /-- May an annotation in mathematics hold HTML? -/
  opensHtml : Bool := false

/-- An entry in the list of formatting elements. -/
inductive FormatEntry
  /-- What is in front of a marker does not reach behind it. -/
  | marker
  | element (element : OpenElement) (tag : Tag)

/-- The builder. Lists of elements have the innermost or latest first. -/
structure Builder where
  tree : Tree := .empty
  mode : Mode := .initial
  /-- The mode to go back to behind text. -/
  resume : Mode := .inBody
  stack : List OpenElement := []
  formatting : List FormatEntry := []
  head : Option OpenElement := none
  form : Option OpenElement := none
  /-- May a set of frames still take the place of the body? -/
  framesetAllowed : Bool := true
  /-- Does what is put into a table go in front of it? -/
  fostering : Bool := false
  /-- Is a line break at the start of the next text dropped? -/
  skipsLineBreak : Bool := false
  /-- Is the document of an old type, in which a table does not end a paragraph? -/
  oldType : Bool := false
  templateModes : List Mode := []
  /-- Text in a table, until it is known whether it is blank. -/
  tableText : List (List Char) := []
  /-- How the text behind the last tag is read. -/
  raw : Option (RawText × String) := none

/-- Steps of the builder. -/
abbrev Build := StateM Builder

/-- What a rule does with a token. -/
inductive Outcome
  | done
  /-- The rules of another mode apply to the token. -/
  | again (mode : Mode) (token : Token)

/-- The token is dealt with. -/
def done : Build Outcome := pure .done

/-! ### Kinds of elements -/

namespace OpenElement

/-- Is it the HTML element of this name? -/
def isNamed (e : OpenElement) (name : String) : Bool :=
  e.vocabulary = .html && e.name == name

/-- Is it an HTML element with one of these names? -/
def isOneOf (names : List String) (e : OpenElement) : Bool :=
  e.vocabulary = .html && names.contains e.name

/-- Does it hold plain text within mathematics? -/
def isMathText (e : OpenElement) : Bool :=
  e.vocabulary = .math && ["mi", "mo", "mn", "ms", "mtext"].contains e.name

/-- Does it hold HTML within a drawing? -/
def isDrawingText (e : OpenElement) : Bool :=
  e.vocabulary = .svg && ["foreignObject", "desc", "title"].contains e.name

/-- Does it end the usual scope? -/
def endsScope (e : OpenElement) : Bool :=
  e.isOneOf ["applet", "caption", "html", "table", "td", "th", "marquee", "object", "template"] ||
    e.isMathText || e.isDrawingText

/-- Does it end the scope of a list item? -/
def endsListScope (e : OpenElement) : Bool :=
  e.endsScope || e.isOneOf ["ol", "ul"]

/-- Does it end the scope of a button? -/
def endsButtonScope (e : OpenElement) : Bool :=
  e.endsScope || e.isNamed "button"

/-- Does it end the scope of a table? -/
def endsTableScope (e : OpenElement) : Bool :=
  e.isOneOf ["html", "table", "template"]

/-- Does it end the scope of a selection? -/
def endsSelectScope (e : OpenElement) : Bool :=
  !e.isOneOf ["optgroup", "option"]

/-- The elements that a closing tag of another element may close, too. -/
def impliedEnds : List String :=
  ["dd", "dt", "li", "option", "optgroup", "p", "rb", "rp", "rt", "rtc"]

/-- The same at the end of a template. -/
def thoroughImpliedEnds : List String :=
  impliedEnds ++ ["caption", "colgroup", "tbody", "td", "tfoot", "th", "thead", "tr"]

/-- The headings. -/
def headings : List String := ["h1", "h2", "h3", "h4", "h5", "h6"]

/-- Is it an element that a stray closing tag does not reach past? -/
def isSpecial (e : OpenElement) : Bool :=
  e.isOneOf
    ["address", "applet", "area", "article", "aside", "base", "basefont", "bgsound", "blockquote",
     "body", "br", "button", "caption", "center", "col", "colgroup", "dd", "details", "dir", "div",
     "dl", "dt", "embed", "fieldset", "figcaption", "figure", "footer", "form", "frame", "frameset",
     "h1", "h2", "h3", "h4", "h5", "h6", "head", "header", "hgroup", "hr", "html", "iframe", "img",
     "input", "isindex", "li", "link", "listing", "main", "marquee", "menu", "meta", "nav",
     "noembed", "noframes", "noscript", "object", "ol", "p", "param", "plaintext", "pre", "script",
     "section", "select", "source", "style", "summary", "table", "tbody", "td", "template",
     "textarea", "tfoot", "th", "thead", "title", "tr", "track", "ul", "wbr", "xmp"]

end OpenElement

/-! ### Looking at the open elements -/

/-- Is there an element of this kind among these, with no boundary in front of it? -/
def reaches (boundary wanted : OpenElement → Bool) : List OpenElement → Bool
  | [] => false
  | e :: more => wanted e || (!boundary e && reaches boundary wanted more)

/-- Is an element of this kind in scope? -/
def inScope (boundary wanted : OpenElement → Bool) : Build Bool :=
  return reaches boundary wanted (← get).stack

/-- Is an HTML element of this name in the usual scope? -/
def inUsualScope (name : String) : Build Bool :=
  inScope OpenElement.endsScope (·.isNamed name)

/-- Is an HTML element of this name in the scope of a table? -/
def inTableScope (name : String) : Build Bool :=
  inScope OpenElement.endsTableScope (·.isNamed name)

/-- Is an HTML element of this name open? -/
def isOpen (name : String) : Build Bool :=
  return (← get).stack.any (·.isNamed name)

/-- Is the innermost open element of this kind? -/
def currentIs (p : OpenElement → Bool) : Build Bool :=
  return (← get).stack.head?.any p

/-- The body, if it is the second element from outside. -/
def body? : Build (Option OpenElement) := do
  match (← get).stack.reverse with
  | _ :: e :: _ => return if e.isNamed "body" then some e else none
  | _ => return none

/-! ### Closing elements -/

/-- Closes the innermost element. -/
def pop : Build Unit :=
  modify fun b => { b with stack := b.stack.tail }

/-- Closes elements as long as they are of this kind. -/
def popWhile (p : OpenElement → Bool) : Build Unit :=
  modify fun b => { b with stack := b.stack.dropWhile p }

/-- Closes elements up to one of this kind, and that one, too. -/
def popThrough (p : OpenElement → Bool) : Build Unit :=
  modify fun b => { b with stack := (b.stack.dropWhile (!p ·)).tail }

/-- Closes elements up to an HTML element of this name, and that one, too. -/
def popThroughNamed (name : String) : Build Unit :=
  popThrough (·.isNamed name)

/-- Closes the elements that need no closing tag of their own. -/
def popImplied (names : List String) : Build Unit :=
  popWhile (·.isOneOf names)

/-- Closes the elements that need no closing tag of their own, apart from one name. -/
def popImpliedExcept (name : String) : Build Unit :=
  popImplied (OpenElement.impliedEnds.filter (· != name))

/-- Takes one element out of the open ones. -/
def unstack (id : Nat) : Build Unit :=
  modify fun b => { b with stack := b.stack.filter (·.id != id) }

/-- Closes a paragraph. -/
def closeParagraph : Build Unit := do
  popImpliedExcept "p"
  popThroughNamed "p"

/-- Closes a paragraph that is in the scope of a button. -/
def closeScopedParagraph : Build Unit := do
  if ← inScope OpenElement.endsButtonScope (·.isNamed "p") then closeParagraph

/-! ### The formatting elements -/

/-- Adds a marker. -/
def pushMarker : Build Unit :=
  modify fun b => { b with formatting := .marker :: b.formatting }

/-- Is the entry that of an element? -/
def FormatEntry.isElement : FormatEntry → Bool
  | .marker => false
  | .element _ _ => true

/-- Is the entry that of this node? -/
def FormatEntry.isOf (id : Nat) : FormatEntry → Bool
  | .marker => false
  | .element e _ => e.id == id

/-- Drops entries up to a marker, and the marker. -/
def clearToMarker : Build Unit :=
  modify fun b => { b with formatting := (b.formatting.dropWhile (·.isElement)).tail }

/-- Drops the entry of a node. -/
def unformat (id : Nat) : Build Unit :=
  modify fun b => { b with formatting := b.formatting.filter (!·.isOf id) }

/-! ### Putting nodes into the tree -/

/-- Where a child of an element goes. -/
def insideOf (e : OpenElement) : Build Place := do
  let contents := ((← get).tree.cell? e.id).bind (·.contents)
  return .last (contents.getD e.id)

/-- The place in front of the innermost table; without a parent the table has no front, and then
the place is behind the children of the element around it. -/
def fosterPlace (tree : Tree) : List OpenElement → Place
  | [] => .last Tree.root
  | [e] => .last e.id
  | e :: outer :: more =>
    if e.isNamed "template" then .last (((tree.cell? e.id).bind (·.contents)).getD e.id)
    else if e.isNamed "table" then
      if (tree.parent? e.id).isSome then .before e.id else .last outer.id
    else fosterPlace tree (outer :: more)

/-- Where a child of an element goes, or of the innermost element. -/
def placeIn (target : Option OpenElement) : Build Place := do
  let b ← get
  match target <|> b.stack.head? with
  | none => return .last Tree.root
  | some e =>
    if b.fostering && e.isOneOf ["table", "tbody", "tfoot", "thead", "tr"] then
      return fosterPlace b.tree b.stack
    else insideOf e

/-- Changes the tree. -/
def modifyTree (f : Tree → Tree) : Build Unit :=
  modify fun b => { b with tree := f b.tree }

/-- Adds a node without parent. -/
def addCell (cell : Cell) : Build Nat :=
  modifyGet fun b =>
    let (id, tree) := b.tree.add cell
    (id, { b with tree })

/-- Makes an element that has no parent yet. -/
def createElement (vocabulary : Vocabulary) (tag : Tag) : Build OpenElement := do
  let contents ←
    if vocabulary = .html && tag.name == "template" then some <$> addCell { content := .root }
    else pure none
  let id ← addCell { content := .element vocabulary tag.name tag.attributes, contents }
  let opensHtml := vocabulary = .math && tag.name == "annotation-xml" &&
    (tag.value? "encoding").any fun v =>
      ["text/html", "application/xhtml+xml"].contains (nameOf v.toList)
  return { id, vocabulary, name := tag.name, opensHtml }

/-- Opens an element that is in the tree. -/
def push (e : OpenElement) : Build Unit :=
  modify fun b => { b with stack := e :: b.stack }

/-- Puts an element into the tree without opening it. -/
def insertClosed (vocabulary : Vocabulary) (tag : Tag) : Build OpenElement := do
  let e ← createElement vocabulary tag
  let place ← placeIn none
  modifyTree (·.insert place e.id)
  return e

/-- Puts an element into the tree and opens it. -/
def insertOpen (vocabulary : Vocabulary) (tag : Tag) : Build OpenElement := do
  let e ← insertClosed vocabulary tag
  push e
  return e

/-- Puts an HTML element into the tree and opens it. -/
def openTag (tag : Tag) : Build Unit := do
  let _ ← insertOpen .html tag

/-- Puts an HTML element into the tree that is closed at once. -/
def voidTag (tag : Tag) : Build Unit := do
  let _ ← insertClosed .html tag

/-- Opens an HTML element for which there was no tag. -/
def openNamed (name : String) : Build Unit :=
  openTag { name }

/-- Puts text into the tree. -/
def insertChars (chars : List Char) : Build Unit := do
  let place ← placeIn none
  modifyTree (·.insertText place (String.ofList chars))

/-- Puts a comment at a place. -/
def insertCommentAt (place : Place) (text : String) : Build Unit := do
  let id ← addCell { content := .comment text }
  modifyTree (·.insert place id)

/-- Puts a comment into the tree. -/
def insertComment (text : String) : Build Unit := do
  insertCommentAt (← placeIn none) text

/-! ### Modes -/

/-- Goes on in another mode. -/
def goTo (mode : Mode) : Build Unit :=
  modify fun b => { b with mode }

/-- No set of frames can take the place of the body from here on. -/
def refuseFrameset : Build Unit :=
  modify fun b => { b with framesetAllowed := false }

/-- Reads the text behind a tag without markup, and then goes on as now. -/
def readRaw (kind : RawText) (name : String) : Build Unit :=
  modify fun b => { b with resume := b.mode, mode := .text, raw := some (kind, name) }

/-- Opens an element whose text holds no markup. -/
def openRaw (kind : RawText) (tag : Tag) : Build Unit := do
  openTag tag
  readRaw kind tag.name

/-- The mode that fits the open elements, innermost first. -/
def modeOf (b : Builder) : List OpenElement → Mode
  | [] => .inBody
  | e :: outer =>
    if e.vocabulary != .html then modeOf b outer
    else
      match e.name with
      | "select" =>
        match outer.find? (·.isOneOf ["template", "table"]) with
        | some boundary => if boundary.isNamed "table" then .inSelectInTable else .inSelect
        | none => .inSelect
      | "td" | "th" => if outer.isEmpty then modeOf b outer else .inCell
      | "tr" => .inRow
      | "tbody" | "thead" | "tfoot" => .inTableBody
      | "caption" => .inCaption
      | "colgroup" => .inColumnGroup
      | "table" => .inTable
      | "template" => b.templateModes.head?.getD .inTemplate
      | "head" => if outer.isEmpty then modeOf b outer else .inHead
      | "body" => .inBody
      | "frameset" => .inFrameset
      | "html" => if b.head.isSome then .afterHead else .beforeHead
      | _ => modeOf b outer

/-- The mode that fits the open elements. -/
def fittingMode : Build Mode := do
  let b ← get
  return modeOf b b.stack

/-- Goes on in the mode that fits the open elements. -/
def resetMode : Build Unit := do
  goTo (← fittingMode)

end LivePreview.Html
