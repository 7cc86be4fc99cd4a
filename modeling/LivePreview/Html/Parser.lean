import LivePreview.Html.Construction.After
import LivePreview.Html.Construction.Select
import LivePreview.Html.Construction.Table
import LivePreview.Html.Token.Stream
/-!
# LivePreview.Html.Parser

**Reading a document.** Tokens are taken off the text one after the other, and each is dealt with by
the rules of the builder's mode, or by the rules for drawings and mathematics. Every text is a
document (`parse`).
-/

namespace LivePreview.Html

/-! ### All rules for HTML -/

/-- The rules for text without markup. -/
def textRules (token : Token) : Build Outcome := do
  let leave : Build Unit := do
    pop
    goTo (← get).resume
  match token with
  | .text _ chars =>
    insertChars chars
    done
  | .finish =>
    leave
    return .again (← get).mode token
  | _ =>
    leave
    done

/-- The rules of a mode. -/
def rules : Mode → Token → Build Outcome
  | .initial => initialRules
  | .beforeHtml => beforeHtmlRules
  | .beforeHead => beforeHeadRules
  | .inHead => headRules
  | .afterHead => afterHeadRules
  | .inBody => bodyRules
  | .text => textRules
  | .inTable => tableRules
  | .inTableText => tableTextRules
  | .inCaption => captionRules
  | .inColumnGroup => columnGroupRules
  | .inTableBody => tableBodyRules
  | .inRow => rowRules
  | .inCell => cellRules
  | .inSelect => selectRules
  | .inSelectInTable => selectInTableRules
  | .inTemplate => templateRules
  | .afterBody => afterBodyRules
  | .inFrameset => framesetRules
  | .afterFrameset => afterFramesetRules
  | .afterAfterBody => afterAfterBodyRules
  | .afterAfterFrameset => afterAfterFramesetRules

/-! ### Drawings and mathematics -/

/-- The HTML elements that a drawing or a formula is left for. -/
def breakoutNames : List String :=
  ["b", "big", "blockquote", "body", "br", "center", "code", "dd", "div", "dl", "dt", "em", "embed",
   "h1", "h2", "h3", "h4", "h5", "h6", "head", "hr", "i", "img", "li", "listing", "menu", "meta",
   "nobr", "ol", "p", "pre", "ruby", "s", "small", "span", "strong", "strike", "sub", "sup", "table",
   "tt", "u", "ul", "var"]

/-- Does the tag leave a drawing or a formula? -/
def breaksOut (tag : Tag) : Bool :=
  breakoutNames.contains tag.name ||
    (tag.name == "font" && ["color", "face", "size"].any fun n => (tag.value? n).isSome)

/-- Do the rules for drawings and mathematics apply to the token? -/
def isForeign (current : OpenElement) (token : Token) : Bool :=
  let isText := match token with
    | .text _ _ | .null => true
    | _ => false
  let start? := match token with
    | .start tag => some tag.name
    | _ => none
  if current.vocabulary = .html || token = .finish then false
  else if current.isMathText &&
      (isText || start?.any fun name => name != "mglyph" && name != "malignmark") then false
  else if current.isDrawingText && (isText || start?.isSome) then false
  else if current.vocabulary = .math && current.name == "annotation-xml" then
    if start? = some "svg" then false
    else if isText || start?.isSome then !current.opensHtml
    else true
  else true

/-- Leaves drawings and formulas, and goes on with the token in HTML. -/
def breakOut (token : Token) : Build Outcome := do
  popWhile fun e => !(e.vocabulary = .html || e.isMathText || e.isDrawingText)
  rules (← get).mode token

/-- Closes the element of this name, in any letter case, and all within it, as long as no HTML
element is in between; then the rules for HTML apply. -/
def foreignStop (name : String) (first : Bool) : List OpenElement → Build Outcome
  | [] | [_] => done
  | e :: outer => do
    if !first && e.vocabulary = .html then rules (← get).mode (.stop name)
    else if nameOf e.name.toList == name then
      modify fun b => { b with stack := outer }
      done
    else foreignStop name false outer

/-- The rules in drawings and mathematics. -/
def foreignRules (current : OpenElement) (token : Token) : Build Outcome := do
  match token with
  | .null =>
    insertChars [replacement]
    done
  | .text _ chars =>
    unless isSpaceRun chars do refuseFrameset
    insertChars chars
    done
  | .comment text =>
    insertComment text
    done
  | .start tag =>
    if breaksOut tag then breakOut token
    else
      match current.vocabulary with
      | .svg => openForeign .svg { tag.forDrawing with name := respell drawingNames tag.name }
      | _ => openForeign current.vocabulary (tag.renameAttributes mathAttributeName)
      done
  | .stop name =>
    if name == "br" || name == "p" then breakOut token
    else foreignStop name true (← get).stack
  | _ => done

/-! ### Tokens -/

/-- Deals with a token, at most `limit` times with the rules of another mode. -/
def dispatch : Nat → Token → Build Unit
  | 0, _ => return ()
  | limit + 1, token => do
    let b ← get
    let outcome ←
      match b.stack.head?.filter fun current => isForeign current token with
      | some current => foreignRules current token
      | none => rules b.mode token
    match outcome with
    | .done => return ()
    | .again mode token =>
      goTo mode
      dispatch limit token

/-- Deals with a token. Each further round closes an element or goes on to a later mode, which bounds
their number. -/
def handle (token : Token) : Build Unit := do
  let b ← get
  dispatch (8 * (b.stack.length + b.templateModes.length) + 32) token

/-- The runs of spaces and of other characters. -/
def spaceRuns (chars : List Char) : List (List Char) :=
  chars.splitBy fun a b => isTagSpace a == isTagSpace b

/-- Takes a token in. Text is dealt with run by run; a document type counts only at the start. -/
def accept (token : Token) : Build Unit := do
  let b ← get
  modify fun b => { b with skipsLineBreak := false }
  match token with
  | .text faulty chars =>
    let chars := match chars with
      | '\n' :: rest => if b.skipsLineBreak && !faulty then rest else chars
      | _ => chars
    for run in spaceRuns chars do handle (.text false run)
  | .doctype _ => if b.mode = .initial then handle token
  | other => handle other

/-- Takes in the next tokens of a text, and the text without markup behind them. -/
def advance (text : List Char) : Build (List Char) := do
  let sections := (← get).stack.head?.any (·.vocabulary != .html)
  let (tokens, rest) := nextTokens sections text
  tokens.forM accept
  match (← get).raw with
  | some (kind, name) =>
    modify fun b => { b with raw := none }
    let (body, rest) := kind.read name rest
    match kind.token? body with
    | some token => accept token
    | none => pure ()
    return rest
  | none => return rest

/-- Takes in a whole text; at most `limit` steps. -/
def consume : Nat → List Char → Build Unit
  | 0, _ => accept .finish
  | _, [] => accept .finish
  | limit + 1, text => do consume limit (← advance text)

/-- The document that a text denotes. Every step takes something off the text. -/
def parse (html : String) : List Node :=
  let text := normalize html.toList
  ((consume text.length text).run {}).2.tree.document

end LivePreview.Html
