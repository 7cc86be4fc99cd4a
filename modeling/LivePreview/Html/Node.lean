/-!
# LivePreview.Html.Node

**Documents as trees** and their text. A document is a list of nodes. Elements belong to one of three
vocabularies; their names and the names of attributes are in the letter case that the text shows.

The contents of a template are no part of the tree.
-/

namespace LivePreview.Html

/-- The vocabularies that elements are taken from. -/
inductive Vocabulary
  | html
  | svg
  | math
  deriving Repr, DecidableEq

/-- An attribute with its value. -/
structure Attribute where
  name : String
  value : String
  deriving Repr, DecidableEq

/-- A node of a document. -/
inductive Node
  /-- The declaration of the document's type. -/
  | doctype (name : String)
  | comment (text : String)
  | text (text : String)
  | element (vocabulary : Vocabulary) (name : String) (attributes : List Attribute)
      (children : List Node)
  deriving Repr

/-! ### Changing attributes -/

mutual
/-- The node with other attributes: `f` gets the name of an element and its attributes. -/
def Node.mapAttributes (f : String → List Attribute → List Attribute) : Node → Node
  | .element vocabulary name attributes children =>
    .element vocabulary name (f name attributes) (mapAllAttributes f children)
  | other => other

/-- The nodes with other attributes. -/
def mapAllAttributes (f : String → List Attribute → List Attribute) : List Node → List Node
  | [] => []
  | node :: more => node.mapAttributes f :: mapAllAttributes f more
end

mutual
/-- Has an element in the tree attributes of this kind? -/
def Node.anyAttributes (p : String → List Attribute → Bool) : Node → Bool
  | .element _ name attributes children => p name attributes || anyOfAttributes p children
  | _ => false

/-- Has an element in one of the trees attributes of this kind? -/
def anyOfAttributes (p : String → List Attribute → Bool) : List Node → Bool
  | [] => false
  | node :: more => node.anyAttributes p || anyOfAttributes p more
end

/-! ### Text -/

/-- A character of an attribute's value. -/
def escapeValueChar (c : Char) : List Char :=
  if c = '&' then "&amp;".toList
  else if c = '\xa0' then "&nbsp;".toList
  else if c = '"' then "&quot;".toList
  else [c]

/-- A character of running text. -/
def escapeTextChar (c : Char) : List Char :=
  if c = '&' then "&amp;".toList
  else if c = '\xa0' then "&nbsp;".toList
  else if c = '<' then "&lt;".toList
  else if c = '>' then "&gt;".toList
  else [c]

/-- The elements that have no closing tag. -/
def voidNames : List String :=
  ["area", "base", "basefont", "bgsound", "br", "col", "embed", "frame", "hr", "img", "input",
   "keygen", "link", "meta", "param", "source", "track", "wbr"]

/-- The elements whose text is written as it is. -/
def rawNames : List String :=
  ["style", "script", "xmp", "iframe", "noembed", "noframes", "plaintext", "noscript"]

/-- An attribute in a tag. -/
def Attribute.render (a : Attribute) : String :=
  " " ++ a.name ++ "=\"" ++ String.ofList (a.value.toList.flatMap escapeValueChar) ++ "\""

mutual
/-- The text of a node; `raw`: text is written as it is. -/
def Node.render (raw : Bool) : Node → String
  | .doctype name => "<!DOCTYPE " ++ name ++ ">"
  | .comment text => "<!--" ++ text ++ "-->"
  | .text text => if raw then text else String.ofList (text.toList.flatMap escapeTextChar)
  | .element vocabulary name attributes children =>
    let opening := "<" ++ name ++ String.join (attributes.map Attribute.render) ++ ">"
    let isHtml := vocabulary = .html
    if isHtml && voidNames.contains name then opening
    else opening ++ renderAll (isHtml && rawNames.contains name) children ++ "</" ++ name ++ ">"

/-- The text of nodes. -/
def renderAll (raw : Bool) : List Node → String
  | [] => ""
  | node :: more => node.render raw ++ renderAll raw more
end

/-- The text of a document. -/
def render (document : List Node) : String :=
  renderAll false document

end LivePreview.Html
