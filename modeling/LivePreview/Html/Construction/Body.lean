import LivePreview.Html.Construction.Formatting
import LivePreview.Html.Construction.Head
/-!
# LivePreview.Html.Construction.Body

The rules **in the body**. Blocks end a paragraph, list items end the item before them, formatting is
opened again where it was closed in passing, and a closing tag that fits nothing is passed over.
-/

namespace LivePreview.Html

/-! ### Groups of elements -/

/-- The blocks that end a paragraph. -/
def blockNames : List String :=
  ["address", "article", "aside", "blockquote", "center", "details", "dialog", "dir", "div", "dl",
   "fieldset", "figcaption", "figure", "footer", "header", "hgroup", "main", "menu", "nav", "ol",
   "p", "section", "summary", "ul"]

/-- The elements whose closing tag closes all within them. -/
def closingNames : List String :=
  ["address", "article", "aside", "blockquote", "button", "center", "details", "dialog", "dir",
   "div", "dl", "fieldset", "figcaption", "figure", "footer", "header", "hgroup", "listing", "main",
   "menu", "nav", "ol", "pre", "section", "summary", "ul"]

/-- The formatting elements, besides links. -/
def formatNames : List String :=
  ["b", "big", "code", "em", "font", "i", "s", "small", "strike", "strong", "tt", "u"]

/-- The elements without contents that count as words. -/
def inlineVoidNames : List String :=
  ["area", "br", "embed", "img", "keygen", "wbr", "input"]

/-- The parts of tables and framesets, which have no place in the body. -/
def strayNames : List String :=
  ["caption", "col", "colgroup", "frame", "head", "tbody", "td", "tfoot", "th", "thead", "tr"]

/-! ### Opening tags -/

/-- The name of the open list item that a new one closes. -/
def itemToClose? (names : List String) : List OpenElement → Option String
  | [] => none
  | e :: more =>
    if e.isOneOf names then some e.name
    else if e.isSpecial && !e.isOneOf ["address", "div", "p"] then none
    else itemToClose? names more

/-- Opens a list item. -/
def openItem (tag : Tag) : Build Unit := do
  refuseFrameset
  let names := if tag.name == "li" then ["li"] else ["dd", "dt"]
  match itemToClose? names (← get).stack with
  | some name =>
    popImpliedExcept name
    popThroughNamed name
  | none => pure ()
  closeScopedParagraph
  openTag tag

/-- Is the tag one of an input that is not shown? -/
def isHiddenInput (tag : Tag) : Bool :=
  tag.name == "input" && (tag.value? "type").any fun v => nameOf v.toList == "hidden"

/-- Puts an element without contents into the text. -/
def inlineVoid (tag : Tag) : Build Unit := do
  reopenFormatting
  voidTag tag
  unless isHiddenInput tag do refuseFrameset

/-- Deals with a second tag of the body. -/
def mergeIntoBody (tag : Tag) : Build Unit := do
  match ← body? with
  | some body =>
    unless ← isOpen "template" do
      refuseFrameset
      modifyTree (·.addAttributes body.id tag.attributes)
  | none => return ()

/-- Puts a set of frames in the place of the body. -/
def replaceBody (tag : Tag) : Build Unit := do
  if (← get).framesetAllowed then
    match ← body? with
    | some body =>
      modifyTree (·.detach body.id)
      modify fun b => { b with stack := b.stack.getLast?.toList }
      openTag tag
      goTo .inFrameset
    | none => return ()

/-- Opens a form, unless one is open. -/
def openForm (tag : Tag) : Build Unit := do
  let inTemplate ← isOpen "template"
  if (← get).form.isNone || inTemplate then
    closeScopedParagraph
    let e ← insertOpen .html tag
    unless inTemplate do modify fun b => { b with form := some e }

/-- Opens a list of options. -/
def openSelect (tag : Tag) : Build Unit := do
  reopenFormatting
  openTag tag
  refuseFrameset
  modify fun b => { b with
    mode :=
      if [.inTable, .inCaption, .inTableBody, .inRow, .inCell].contains b.mode then .inSelectInTable
      else .inSelect }

/-- The names of attributes with capital letters in mathematics. -/
def mathAttributeName (name : String) : String :=
  if name == "definitionurl" then "definitionURL" else name

/-- Opens an element that is no HTML; with a slash at the end of its tag it is closed at once. -/
def openForeign (vocabulary : Vocabulary) (tag : Tag) : Build Unit := do
  if tag.closed then
    let _ ← insertClosed vocabulary tag
  else
    let _ ← insertOpen vocabulary tag

/-- The tag with other names of attributes. -/
def Tag.renameAttributes (f : String → String) (tag : Tag) : Tag :=
  { tag with attributes := tag.attributes.map fun a => { a with name := f a.name } }

/-- Drops a line break at the start of the text behind. -/
def skipLineBreak : Build Unit :=
  modify fun b => { b with skipsLineBreak := true }

/-- Opens elements that stand in the text. -/
def inlineStart (tag : Tag) : Build Unit := do
  let name := tag.name
  if name == "a" then
    closeOpenLink
    reopenFormatting
    openFormatting tag
  else if formatNames.contains name then
    reopenFormatting
    openFormatting tag
  else if name == "nobr" then
    reopenFormatting
    if ← inUsualScope "nobr" then
      closeFormatting "nobr"
      reopenFormatting
    openFormatting tag
  else if ["applet", "marquee", "object"].contains name then
    reopenFormatting
    openTag tag
    pushMarker
    refuseFrameset
  else if name == "button" then
    if ← inUsualScope "button" then
      popImplied OpenElement.impliedEnds
      popThroughNamed "button"
    reopenFormatting
    openTag tag
    refuseFrameset
  else if name == "optgroup" || name == "option" then
    if ← currentIs (·.isNamed "option") then pop
    reopenFormatting
    openTag tag
  else if name == "rb" || name == "rtc" then
    if ← inUsualScope "ruby" then popImplied OpenElement.impliedEnds
    openTag tag
  else if name == "rp" || name == "rt" then
    if ← inUsualScope "ruby" then popImpliedExcept "rtc"
    openTag tag
  else if name == "math" then
    openForeign .math (tag.renameAttributes mathAttributeName)
  else
    reopenFormatting
    openTag tag

/-- Opens elements that are blocks or hold text without markup. -/
def blockStart (tag : Tag) : Build Unit := do
  let name := tag.name
  if blockNames.contains name then
    closeScopedParagraph
    openTag tag
  else if OpenElement.headings.contains name then
    closeScopedParagraph
    if ← currentIs (·.isOneOf OpenElement.headings) then pop
    openTag tag
  else if name == "pre" || name == "listing" then
    closeScopedParagraph
    openTag tag
    skipLineBreak
    refuseFrameset
  else if name == "form" then openForm tag
  else if ["li", "dd", "dt"].contains name then openItem tag
  else if name == "plaintext" then
    closeScopedParagraph
    openTag tag
    modify fun b => { b with raw := some (.endless, name) }
  else if name == "table" then
    unless (← get).oldType do closeScopedParagraph
    openTag tag
    refuseFrameset
    goTo .inTable
  else if name == "hr" then
    closeScopedParagraph
    voidTag tag
    refuseFrameset
  else if name == "textarea" then
    skipLineBreak
    refuseFrameset
    openRaw .references tag
  else if name == "xmp" then
    closeScopedParagraph
    reopenFormatting
    refuseFrameset
    openRaw .verbatim tag
  else if name == "iframe" then
    refuseFrameset
    openRaw .verbatim tag
  else if name == "noembed" || name == "noscript" then openRaw .verbatim tag
  else if name == "select" then openSelect tag
  else inlineStart tag

/-! ### Drawings -/

/-- The names of attributes with capital letters in drawings. -/
def drawingAttributeNames : List String :=
  ["attributeName", "attributeType", "baseFrequency", "baseProfile", "calcMode", "clipPathUnits",
   "diffuseConstant", "edgeMode", "filterUnits", "glyphRef", "gradientTransform", "gradientUnits",
   "kernelMatrix", "kernelUnitLength", "keyPoints", "keySplines", "keyTimes", "lengthAdjust",
   "limitingConeAngle", "markerHeight", "markerUnits", "markerWidth", "maskContentUnits",
   "maskUnits", "numOctaves", "pathLength", "patternContentUnits", "patternTransform",
   "patternUnits", "pointsAtX", "pointsAtY", "pointsAtZ", "preserveAlpha", "preserveAspectRatio",
   "primitiveUnits", "refX", "refY", "repeatCount", "repeatDur", "requiredExtensions",
   "requiredFeatures", "specularConstant", "specularExponent", "spreadMethod", "startOffset",
   "stdDeviation", "stitchTiles", "surfaceScale", "systemLanguage", "tableValues", "targetX",
   "targetY", "textLength", "viewBox", "viewTarget", "xChannelSelector", "yChannelSelector",
   "zoomAndPan"]

/-- The names of elements with capital letters in drawings. -/
def drawingNames : List String :=
  ["altGlyph", "altGlyphDef", "altGlyphItem", "animateColor", "animateMotion", "animateTransform",
   "clipPath", "feBlend", "feColorMatrix", "feComponentTransfer", "feComposite",
   "feConvolveMatrix", "feDiffuseLighting", "feDisplacementMap", "feDistantLight", "feDropShadow",
   "feFlood", "feFuncA", "feFuncB", "feFuncG", "feFuncR", "feGaussianBlur", "feImage", "feMerge",
   "feMergeNode", "feMorphology", "feOffset", "fePointLight", "feSpecularLighting", "feSpotLight",
   "feTile", "feTurbulence", "foreignObject", "glyphRef", "linearGradient", "radialGradient",
   "textPath"]

/-- The name with the capital letters that a list gives it. -/
def respell (names : List String) (name : String) : String :=
  (names.find? fun n => nameOf n.toList == name).getD name

/-- The tag with the names of attributes that drawings have. -/
def Tag.forDrawing (tag : Tag) : Tag :=
  tag.renameAttributes (respell drawingAttributeNames)

/-! ### All opening tags -/

/-- Deals with an opening tag. -/
def bodyStart (tag : Tag) : Build Outcome := do
  let name := tag.name
  if name == "html" then mergeIntoRoot tag
  else if headNames.contains name || name == "template" then headStart tag
  else if name == "body" then mergeIntoBody tag
  else if name == "frameset" then replaceBody tag
  else if inlineVoidNames.contains name then inlineVoid tag
  else if name == "image" then inlineVoid { tag with name := "img" }
  else if ["param", "source", "track"].contains name then voidTag tag
  else if name == "svg" then openForeign .svg tag.forDrawing
  else if strayNames.contains name then pure ()
  else blockStart tag
  done

/-! ### Closing tags -/

/-- Closes a form. -/
def closeForm : Build Unit := do
  if ← isOpen "template" then
    if ← inUsualScope "form" then
      popImplied OpenElement.impliedEnds
      popThroughNamed "form"
  else
    let form? := (← get).form
    modify fun b => { b with form := none }
    match form? with
    | some form =>
      if ← inScope OpenElement.endsScope (·.id == form.id) then
        popImplied OpenElement.impliedEnds
        unstack form.id
    | none => return ()

/-- Closes an element that is in scope, and all within it. -/
def closeScoped (name : String) : Build Bool := do
  if ← inUsualScope name then
    popImplied OpenElement.impliedEnds
    popThroughNamed name
    return true
  else return false

/-- Closes a list item that is in scope. -/
def closeItem (name : String) : Build Unit := do
  let boundary := if name == "li" then OpenElement.endsListScope else OpenElement.endsScope
  if ← inScope boundary (·.isNamed name) then
    popImpliedExcept name
    popThroughNamed name

/-- Deals with a closing tag. -/
def bodyStop (name : String) : Build Outcome := do
  if name == "template" then
    closeTemplate
    done
  else if name == "body" then
    if ← inUsualScope "body" then goTo .afterBody
    done
  else if name == "html" then
    if ← inUsualScope "body" then return .again .afterBody (.stop name) else done
  else if closingNames.contains name then
    let _ ← closeScoped name
    done
  else if name == "form" then
    closeForm
    done
  else if name == "p" then
    unless ← inScope OpenElement.endsButtonScope (·.isNamed "p") do openNamed "p"
    closeParagraph
    done
  else if ["li", "dd", "dt"].contains name then
    closeItem name
    done
  else if OpenElement.headings.contains name then
    let isHeading : OpenElement → Bool := fun e => e.isOneOf OpenElement.headings
    if ← inScope OpenElement.endsScope isHeading then
      popImplied OpenElement.impliedEnds
      popThrough isHeading
    done
  else if name == "a" || name == "nobr" || formatNames.contains name then
    closeFormatting name
    done
  else if ["applet", "marquee", "object"].contains name then
    if ← closeScoped name then clearToMarker
    done
  else if name == "br" then
    inlineVoid { name }
    done
  else
    closeOrdinary name
    done

/-! ### All tokens -/

/-- The rules in the body. -/
def bodyRules (token : Token) : Build Outcome := do
  match token with
  | .null => done
  | .text _ chars =>
    reopenFormatting
    unless isSpaceRun chars do refuseFrameset
    insertChars chars
    done
  | .comment text =>
    insertComment text
    done
  | .start tag => bodyStart tag
  | .stop name => bodyStop name
  | .finish => if (← get).templateModes.isEmpty then done else finishTemplate
  | .doctype _ => done

end LivePreview.Html
