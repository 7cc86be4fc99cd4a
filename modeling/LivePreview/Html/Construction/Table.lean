import LivePreview.Html.Construction.Body
/-!
# LivePreview.Html.Construction.Table

The rules **in tables**. Rows and bodies that are missing are opened, and what has no place in a table
goes in front of it.
-/

namespace LivePreview.Html

/-- Deals with a token as in the body, with what is put into the table in front of it. -/
def foster (token : Token) : Build Outcome := do
  modify fun b => { b with fostering := true }
  let outcome ← bodyRules token
  modify fun b => { b with fostering := false }
  return outcome

/-- Closes elements up to one with one of these names. -/
def backTo (names : List String) : Build Unit :=
  popWhile (!·.isOneOf names)

/-- Closes elements up to the table. -/
def backToTable : Build Unit := backTo ["html", "table", "template"]

/-- Closes elements up to the body of a table. -/
def backToTableBody : Build Unit := backTo ["tbody", "tfoot", "thead", "template", "html"]

/-- Closes elements up to the row. -/
def backToRow : Build Unit := backTo ["tr", "template", "html"]

/-! ### The table -/

/-- Text in a table. -/
def tableChars (token : Token) : Build Outcome := do
  if ← currentIs (·.isOneOf ["table", "tbody", "tfoot", "thead", "tr"]) then
    modify fun b => { b with resume := b.mode }
    return .again .inTableText token
  else foster token

/-- Deals with an opening tag in a table. -/
def tableStart (tag : Tag) : Build Outcome := do
  let name := tag.name
  if name == "caption" then
    backToTable
    pushMarker
    openTag tag
    goTo .inCaption
    done
  else if name == "colgroup" then
    backToTable
    openTag tag
    goTo .inColumnGroup
    done
  else if name == "col" then
    backToTable
    openNamed "colgroup"
    return .again .inColumnGroup (.start tag)
  else if ["tbody", "tfoot", "thead"].contains name then
    backToTable
    openTag tag
    goTo .inTableBody
    done
  else if ["td", "th", "tr"].contains name then
    backToTable
    openNamed "tbody"
    return .again .inTableBody (.start tag)
  else if name == "table" then
    if ← inTableScope "table" then
      popThroughNamed "table"
      return .again (← fittingMode) (.start tag)
    else done
  else if ["style", "script", "template"].contains name then
    headStart tag
    done
  else if isHiddenInput tag then
    voidTag tag
    done
  else if name == "form" then
    if (← get).form.isNone && !(← isOpen "template") then
      let e ← insertClosed .html tag
      modify fun b => { b with form := some e }
    done
  else foster (.start tag)

/-- Deals with a closing tag in a table. -/
def tableStop (name : String) : Build Outcome := do
  if name == "table" then
    if ← inTableScope "table" then
      popThroughNamed "table"
      resetMode
    done
  else if ["body", "caption", "col", "colgroup", "html", "tbody", "td", "tfoot", "th", "thead",
      "tr"].contains name then done
  else if name == "template" then
    closeTemplate
    done
  else foster (.stop name)

/-- The rules in a table. -/
def tableRules (token : Token) : Build Outcome := do
  match token with
  | .null | .text _ _ => tableChars token
  | .comment text =>
    insertComment text
    done
  | .start tag => tableStart tag
  | .stop name => tableStop name
  | .finish => bodyRules token
  | .doctype _ => done

/-- The rules for text in a table. Text that is not blank goes in front of the table, all of it. -/
def tableTextRules (token : Token) : Build Outcome := do
  match token with
  | .null => done
  | .text _ chars =>
    modify fun b => { b with tableText := b.tableText ++ [chars] }
    done
  | other =>
    let runs := (← get).tableText
    modify fun b => { b with tableText := [] }
    for run in runs do
      if runs.all isSpaceRun then insertChars run
      else let _ ← foster (.text false run)
    return .again (← get).resume other

/-! ### Captions and columns -/

/-- The rules in a caption. -/
def captionRules (token : Token) : Build Outcome := do
  let closeCaption (next : Build Outcome) : Build Outcome := do
    if ← inTableScope "caption" then
      popImplied OpenElement.impliedEnds
      popThroughNamed "caption"
      clearToMarker
      next
    else done
  match token with
  | .start tag =>
    if ["caption", "col", "colgroup", "tbody", "td", "tfoot", "th", "thead", "tr"].contains tag.name
    then closeCaption (return .again .inTable token)
    else bodyRules token
  | .stop name =>
    if name == "table" then closeCaption (return .again .inTable token)
    else if name == "caption" then
      closeCaption do
        goTo .inTable
        done
    else if ["body", "col", "colgroup", "html", "tbody", "td", "tfoot", "th", "thead",
        "tr"].contains name then done
    else bodyRules token
  | other => bodyRules other

/-- The rules in a group of columns. -/
def columnGroupRules (token : Token) : Build Outcome := do
  let leave : Build Outcome := do
    if ← currentIs (·.isNamed "colgroup") then
      pop
      return .again .inTable token
    else done
  match token with
  | .text _ chars =>
    if isSpaceRun chars then
      insertChars chars
      done
    else leave
  | .comment text =>
    insertComment text
    done
  | .start tag =>
    if tag.name == "html" then
      mergeIntoRoot tag
      done
    else if tag.name == "col" then
      voidTag tag
      done
    else if tag.name == "template" then
      headStart tag
      done
    else leave
  | .stop name =>
    if name == "colgroup" then
      if ← currentIs (·.isNamed "colgroup") then
        pop
        goTo .inTable
      done
    else if name == "col" then done
    else if name == "template" then
      closeTemplate
      done
    else leave
  | .finish => bodyRules token
  | _ => leave

/-! ### Rows and cells -/

/-- The rules in the body of a table. -/
def tableBodyRules (token : Token) : Build Outcome := do
  let leave : Build Outcome := do
    if ← inScope OpenElement.endsTableScope (·.isOneOf ["table", "tbody", "tfoot"]) then
      backToTableBody
      pop
      return .again .inTable token
    else done
  match token with
  | .start tag =>
    if tag.name == "tr" then
      backToTableBody
      openTag tag
      goTo .inRow
      done
    else if tag.name == "th" || tag.name == "td" then
      backToTableBody
      openNamed "tr"
      return .again .inRow token
    else if ["caption", "col", "colgroup", "tbody", "tfoot", "thead"].contains tag.name then leave
    else tableRules token
  | .stop name =>
    if ["tbody", "tfoot", "thead"].contains name then
      if ← inTableScope name then
        backToTableBody
        pop
        goTo .inTable
      done
    else if name == "table" then leave
    else if ["body", "caption", "col", "colgroup", "html", "td", "th", "tr"].contains name then done
    else tableRules token
  | other => tableRules other

/-- The rules in a row. -/
def rowRules (token : Token) : Build Outcome := do
  let leave : Build Outcome := do
    if ← inTableScope "tr" then
      backToRow
      pop
      return .again .inTableBody token
    else done
  match token with
  | .start tag =>
    if tag.name == "th" || tag.name == "td" then
      backToRow
      openTag tag
      goTo .inCell
      pushMarker
      done
    else if ["caption", "col", "colgroup", "tbody", "tfoot", "thead", "tr"].contains tag.name then
      leave
    else tableRules token
  | .stop name =>
    if name == "tr" then
      if ← inTableScope "tr" then
        backToRow
        pop
        goTo .inTableBody
      done
    else if name == "table" then leave
    else if ["tbody", "tfoot", "thead"].contains name then
      if ← inTableScope name then leave else done
    else if ["body", "caption", "col", "colgroup", "html", "td", "th"].contains name then done
    else tableRules token
  | other => tableRules other

/-- Closes the open cell. -/
def closeCell : Build Unit := do
  popImplied OpenElement.impliedEnds
  popThrough (·.isOneOf ["td", "th"])
  clearToMarker

/-- The rules in a cell. -/
def cellRules (token : Token) : Build Outcome := do
  match token with
  | .start tag =>
    if ["caption", "col", "colgroup", "tbody", "td", "tfoot", "th", "thead", "tr"].contains tag.name
    then
      if ← inScope OpenElement.endsTableScope (·.isOneOf ["td", "th"]) then
        closeCell
        return .again .inRow token
      else done
    else bodyRules token
  | .stop name =>
    if name == "td" || name == "th" then
      if ← inTableScope name then
        popImplied OpenElement.impliedEnds
        popThroughNamed name
        clearToMarker
        goTo .inRow
      done
    else if ["body", "caption", "col", "colgroup", "html"].contains name then done
    else if ["table", "tbody", "tfoot", "thead", "tr"].contains name then
      if ← inTableScope name then
        closeCell
        return .again .inRow token
      else done
    else bodyRules token
  | other => bodyRules other

end LivePreview.Html
