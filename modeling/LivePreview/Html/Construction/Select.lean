import LivePreview.Html.Construction.Body
/-!
# LivePreview.Html.Construction.Select

The rules in **lists of options**, which hold options, groups of options and text, and in templates,
which start over with the rules that fit their first element.
-/

namespace LivePreview.Html

/-! ### Lists of options -/

/-- Closes an option. -/
def closeOption : Build Unit := do
  if ← currentIs (·.isNamed "option") then pop

/-- Closes a group of options. -/
def closeOptionGroup : Build Unit := do
  if ← currentIs (·.isNamed "optgroup") then pop

/-- Closes the list of options that is in scope, and goes on with a token. -/
def leaveSelect (next : Build Outcome) : Build Outcome := do
  if ← inScope OpenElement.endsSelectScope (·.isNamed "select") then
    popThroughNamed "select"
    next
  else done

/-- The rules in a list of options. -/
def selectRules (token : Token) : Build Outcome := do
  let close : Build Outcome := leaveSelect do
    resetMode
    done
  match token with
  | .text _ chars =>
    insertChars chars
    done
  | .comment text =>
    insertComment text
    done
  | .start tag =>
    if tag.name == "html" then
      mergeIntoRoot tag
      done
    else if tag.name == "option" then
      closeOption
      openTag tag
      done
    else if tag.name == "optgroup" then
      closeOption
      closeOptionGroup
      openTag tag
      done
    else if tag.name == "select" then close
    else if ["input", "keygen", "textarea"].contains tag.name then
      leaveSelect do return .again (← fittingMode) token
    else if tag.name == "script" || tag.name == "template" then
      headStart tag
      done
    else done
  | .stop name =>
    if name == "optgroup" then
      match (← get).stack with
      | e :: outer :: _ =>
        if e.isNamed "option" && outer.isNamed "optgroup" then pop
        closeOptionGroup
      | _ => closeOptionGroup
      done
    else if name == "option" then
      closeOption
      done
    else if name == "select" then close
    else if name == "template" then
      closeTemplate
      done
    else done
  | .finish => bodyRules token
  | _ => done

/-- The parts of tables that end a list of options in a table. -/
def tablePartNames : List String :=
  ["caption", "table", "tbody", "tfoot", "thead", "tr", "td", "th"]

/-- The rules in a list of options in a table. -/
def selectInTableRules (token : Token) : Build Outcome := do
  let leave : Build Outcome := do
    popThroughNamed "select"
    return .again (← fittingMode) token
  match token with
  | .start tag => if tablePartNames.contains tag.name then leave else selectRules token
  | .stop name =>
    if tablePartNames.contains name then
      if ← inTableScope name then leave else done
    else selectRules token
  | other => selectRules other

/-! ### Templates -/

/-- Goes on with the rules of another mode within the template. -/
def templateMode (mode : Mode) (token : Token) : Build Outcome := do
  modify fun b => { b with templateModes := mode :: b.templateModes.tail }
  return .again mode token

/-- The rules in a template. -/
def templateRules (token : Token) : Build Outcome := do
  match token with
  | .text _ _ | .comment _ => bodyRules token
  | .start tag =>
    let name := tag.name
    if headNames.contains name || name == "template" then
      headStart tag
      done
    else if ["caption", "colgroup", "tbody", "tfoot", "thead"].contains name then
      templateMode .inTable token
    else if name == "col" then templateMode .inColumnGroup token
    else if name == "tr" then templateMode .inTableBody token
    else if name == "td" || name == "th" then templateMode .inRow token
    else templateMode .inBody token
  | .stop name =>
    if name == "template" then closeTemplate
    done
  | .finish => finishTemplate
  | _ => done

end LivePreview.Html
