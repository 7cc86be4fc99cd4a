import LivePreview.Html.Construction.Body
/-!
# LivePreview.Html.Construction.After

The rules **behind the body**, and in documents that are a set of frames.
-/

namespace LivePreview.Html

/-- The rules behind the body. -/
def afterBodyRules (token : Token) : Build Outcome := do
  match token with
  | .text _ chars => if isSpaceRun chars then bodyRules token else return .again .inBody token
  | .comment text =>
    match (← get).stack.getLast? with
    | some root => insertCommentAt (.last root.id) text
    | none => pure ()
    done
  | .start tag => if tag.name == "html" then bodyRules token else return .again .inBody token
  | .stop name =>
    if name == "html" then
      goTo .afterAfterBody
      done
    else return .again .inBody token
  | .finish => done
  | other => return .again .inBody other

/-- The rules behind the root. -/
def afterAfterBodyRules (token : Token) : Build Outcome := do
  match token with
  | .text _ chars => if isSpaceRun chars then bodyRules token else return .again .inBody token
  | .comment text =>
    insertCommentAt (.last Tree.root) text
    done
  | .start tag => if tag.name == "html" then bodyRules token else return .again .inBody token
  | .finish => done
  | other => return .again .inBody other

/-- The rules in a set of frames. -/
def framesetRules (token : Token) : Build Outcome := do
  match token with
  | .text _ chars =>
    if isSpaceRun chars then insertChars chars
  | .comment text => insertComment text
  | .start tag =>
    if tag.name == "html" then mergeIntoRoot tag
    else if tag.name == "frameset" then openTag tag
    else if tag.name == "frame" then voidTag tag
    else if tag.name == "noframes" then headStart tag
  | .stop name =>
    if name == "frameset" && (← get).stack.length != 1 then
      pop
      unless ← currentIs (·.isNamed "frameset") do goTo .afterFrameset
  | _ => pure ()
  done

/-- The rules behind a set of frames. -/
def afterFramesetRules (token : Token) : Build Outcome := do
  match token with
  | .text _ chars =>
    if isSpaceRun chars then insertChars chars
  | .comment text => insertComment text
  | .start tag =>
    if tag.name == "html" then mergeIntoRoot tag
    else if tag.name == "noframes" then headStart tag
  | .stop name => if name == "html" then goTo .afterAfterFrameset
  | _ => pure ()
  done

/-- The rules behind the root of a set of frames. -/
def afterAfterFramesetRules (token : Token) : Build Outcome := do
  match token with
  | .text _ chars => if isSpaceRun chars then bodyRules token else done
  | .comment text =>
    insertCommentAt (.last Tree.root) text
    done
  | .start tag =>
    if tag.name == "html" then mergeIntoRoot tag
    else if tag.name == "noframes" then headStart tag
    done
  | _ => done

end LivePreview.Html
