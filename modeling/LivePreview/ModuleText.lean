import LivePreview.Binding
import LivePreview.Code.Directives
import LivePreview.Code.Exports
import LivePreview.Code.TypeDeclaration
/-!
# LivePreview.ModuleText

The **module text** is what the compiler in the frame gets: the bindings, the component without
module syntax, and the entry dispatcher. The dispatcher is a function that tries the names under
which a component may have been exported and returns the first value that can be mounted.
-/

namespace LivePreview

/-- The parts of a module text. -/
structure ModuleText where
  bindings : List BindingStatement
  /-- The component without module syntax. -/
  body : String
  /-- The names that the dispatcher tries, in order. -/
  candidates : List String
  /-- The names that an import introduced though they were bound. -/
  skipped : List String

namespace ModuleText

/-- The name for a default export that has none. -/
def defaultLocal : String := "__previewDefault"

/-- The names that are tried last. -/
def fallbackNames : List String := ["App", "Component", "Preview", "Demo", "Example", "Main"]

/-- One entry of the dispatcher's list. -/
def entryText (name : String) : String :=
  "    [\"" ++ name ++ "\", typeof " ++ name ++ " !== \"undefined\" ? " ++ name ++ " : undefined],"

/-- The text of the dispatcher. Only identifiers are tried. -/
def dispatcher (candidates : List String) : String :=
  let names := candidates.filter fun name => Text.isIdent name.toList
  Text.joinLines [
    "return function __resolveEntry() \x7b",
    "  const __candidates = [",
    Text.joinLines (names.map entryText),
    "  ];",
    "  for (const [, __value] of __candidates) \x7b",
    "    if (typeof __value === \"function\") return __value;",
    "    if (__value && typeof __value === \"object\" && __value.$$typeof) return __value;",
    "  \x7d",
    "  throw new Error(\"No component to render. Tried: \" + __candidates.map(([n]) => n)" ++
      ".join(\", \") + \". Export a component as default or name it App.\");",
    "\x7d;",
    ""]

/-- The names under which a component may have been exported, each once: the default export's, the
other exports', then the usual ones. -/
def candidatesOf (m : Code.StrippedModule) : List String :=
  (m.defaultDeclared.toList ++ m.defaultBinding.toList ++ m.exports.map (·.localName) ++
    fallbackNames).eraseDups

/-- The parts of the module text of a component whose imports were taken out. -/
def ofSource (stripped : String) (records : List ImportRecord)
    (classifications : List Classification) (files : SiblingFiles) : ModuleText :=
  let b := Bindings.ofRecords files records classifications
  let plain := Code.stripTypes (Code.stripDirectives stripped.toList)
  let m := Code.stripExports defaultLocal plain
  { bindings := b.statements
    body := String.ofList m.code
    candidates := candidatesOf m
    skipped := b.skipped }

/-- The texts of the bindings. -/
def bindingTexts (m : ModuleText) : List String :=
  m.bindings.map BindingStatement.render

/-- Bindings, body and dispatcher as one text; the body ends with its line. -/
def assemble (bindings : List String) (body : String) (candidates : List String) : String :=
  String.join (bindings.map (· ++ "\n")) ++ body ++
    (if body.toList.getLast? == some '\n' then "" else "\n") ++ dispatcher candidates

/-- The whole text. -/
def render (m : ModuleText) : String :=
  assemble m.bindingTexts m.body m.candidates

end ModuleText

end LivePreview
