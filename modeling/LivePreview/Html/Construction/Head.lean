import LivePreview.Html.Construction.Builder
import LivePreview.Html.DocumentType
/-!
# LivePreview.Html.Construction.Head

The rules **up to the body**. The root, the head and the body are opened when they are needed, also
without tags of their own.
-/

namespace LivePreview.Html

/-- Are the characters all spaces? -/
def isSpaceRun (chars : List Char) : Bool :=
  chars.all isTagSpace

/-- Closing tags that open what is missing instead of being passed over. -/
def opensMissing (name : String) : Bool :=
  ["head", "body", "html", "br"].contains name

/-- Gives the root the attributes that it does not have yet. -/
def mergeIntoRoot (tag : Tag) : Build Unit := do
  unless ← isOpen "template" do
    match (← get).stack.getLast? with
    | some root => modifyTree (·.addAttributes root.id tag.attributes)
    | none => return ()

/-- The end of the text, within templates. -/
def finishTemplate : Build Outcome := do
  if ← isOpen "template" then
    popThroughNamed "template"
    clearToMarker
    modify fun b => { b with templateModes := b.templateModes.tail }
    resetMode
    return .again (← fittingMode) .finish
  else done

/-! ### In front of the head -/

/-- The rules at the start of a text. -/
def initialRules (token : Token) : Build Outcome := do
  match token with
  | .text _ chars =>
    if isSpaceRun chars then done
    else
      modify fun b => { b with oldType := true }
      return .again .beforeHtml token
  | .comment text =>
    insertCommentAt (.last Tree.root) text
    done
  | .doctype d =>
    let id ← addCell { content := .doctype (d.name.getD "") }
    modifyTree (·.insert (.last Tree.root) id)
    modify fun b => { b with oldType := d.isOld, mode := .beforeHtml }
    done
  | other =>
    modify fun b => { b with oldType := true }
    return .again .beforeHtml other

/-- Opens the root. -/
def openRoot (attributes : List Attribute) : Build Unit := do
  let root ← createElement .html { name := "html", attributes }
  push root
  modifyTree (·.insert (.last Tree.root) root.id)

/-- The rules in front of the root. -/
def beforeHtmlRules (token : Token) : Build Outcome := do
  let missing : Build Outcome := do
    openRoot []
    return .again .beforeHead token
  match token with
  | .text _ chars => if isSpaceRun chars then done else missing
  | .comment text =>
    insertCommentAt (.last Tree.root) text
    done
  | .start tag =>
    if tag.name == "html" then
      openRoot tag.attributes
      goTo .beforeHead
      done
    else missing
  | .stop name => if opensMissing name then missing else done
  | _ => missing

/-- Opens the head. -/
def openHead (tag : Tag) : Build Unit := do
  let head ← insertOpen .html tag
  modify fun b => { b with head := some head }

/-- The rules in front of the head. -/
def beforeHeadRules (token : Token) : Build Outcome := do
  let missing : Build Outcome := do
    openHead { name := "head" }
    return .again .inHead token
  match token with
  | .text _ chars => if isSpaceRun chars then done else missing
  | .comment text =>
    insertComment text
    done
  | .start tag =>
    if tag.name == "html" then
      mergeIntoRoot tag
      done
    else if tag.name == "head" then
      openHead tag
      goTo .inHead
      done
    else missing
  | .stop name => if opensMissing name then missing else done
  | _ => missing

/-! ### In the head -/

/-- Opens a template. -/
def openTemplate (tag : Tag) : Build Unit := do
  openTag tag
  pushMarker
  modify fun b => { b with
    framesetAllowed := false, mode := .inTemplate
    templateModes := .inTemplate :: b.templateModes }

/-- Closes a template. -/
def closeTemplate : Build Unit := do
  if ← isOpen "template" then
    popImplied OpenElement.thoroughImpliedEnds
    popThroughNamed "template"
    clearToMarker
    modify fun b => { b with templateModes := b.templateModes.tail }
    resetMode

/-- The elements that may stand in a head, besides the template. -/
def headNames : List String :=
  ["base", "basefont", "bgsound", "link", "meta", "title", "noframes", "style", "script"]

/-- Deals with the tag of an element that may stand in a head. -/
def headStart (tag : Tag) : Build Unit :=
  if tag.name == "template" then openTemplate tag
  else if tag.name == "title" then openRaw .references tag
  else if tag.name == "script" then openRaw .script tag
  else if tag.name == "noframes" || tag.name == "style" || tag.name == "noscript" then
    openRaw .verbatim tag
  else voidTag tag

/-- The rules in the head. -/
def headRules (token : Token) : Build Outcome := do
  let leave : Build Outcome := do
    pop
    return .again .afterHead token
  match token with
  | .text _ chars =>
    if isSpaceRun chars then
      insertChars chars
      done
    else leave
  | .comment text =>
    insertComment text
    done
  | .start tag =>
    if tag.name == "html" then
      mergeIntoRoot tag
      done
    else if headNames.contains tag.name || tag.name == "noscript" || tag.name == "template" then
      headStart tag
      done
    else if tag.name == "head" then done
    else leave
  | .stop name =>
    if name == "head" then
      pop
      goTo .afterHead
      done
    else if name == "template" then
      closeTemplate
      done
    else if opensMissing name then leave
    else done
  | _ => leave

/-! ### Behind the head -/

/-- The rules between the head and the body. -/
def afterHeadRules (token : Token) : Build Outcome := do
  let missing : Build Outcome := do
    openNamed "body"
    return .again .inBody token
  match token with
  | .text _ chars =>
    if isSpaceRun chars then
      insertChars chars
      done
    else missing
  | .comment text =>
    insertComment text
    done
  | .start tag =>
    if tag.name == "html" then
      mergeIntoRoot tag
      done
    else if tag.name == "body" then
      openTag tag
      refuseFrameset
      goTo .inBody
      done
    else if tag.name == "frameset" then
      openTag tag
      goTo .inFrameset
      done
    else if headNames.contains tag.name || tag.name == "template" then
      match (← get).head with
      | some head =>
        push head
        headStart tag
        unstack head.id
        done
      | none => done
    else if tag.name == "head" then done
    else missing
  | .stop name =>
    if name == "template" then
      closeTemplate
      done
    else if name == "body" || name == "html" || name == "br" then missing
    else done
  | _ => missing

end LivePreview.Html
