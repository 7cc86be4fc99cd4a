import LivePreview.Digest
import LivePreview.Language
import LivePreview.Loader
import LivePreview.ModuleText
/-!
# LivePreview.Runtime

A **run time** is what a component needs in its frame, as text: the statements that load its
dependencies, the bindings, the body, the names to try, and a file name under which the compiler
reports errors. The file name is made from the digest of the module text, so equal modules have
equal names.
-/

namespace LivePreview

/-- The texts that run a component. -/
structure Runtime where
  loaderStatements : List String
  bindingStatements : List String
  body : String
  candidates : List String
  virtualFilename : String
  deriving Repr, DecidableEq, Inhabited

/-- The two hexadecimal digits of a byte. -/
def hexByte (b : Nat) : List Char :=
  [Json.hexDigit (b / 16), Json.hexDigit (b % 16)]

/-- The file name of a module text. -/
def virtualFilename (moduleText : String) (language : Language) : String :=
  let digest := (Digest.sha256 (Text.encode moduleText.toList)).take 6
  "preview-" ++ String.ofList (digest.flatMap hexByte) ++ "." ++ language.extension

namespace Runtime

/-- The run time of a loader plan and a module text. -/
def ofParts (plan : Loader.Plan) (text : ModuleText) (language : Language) : Runtime where
  loaderStatements := plan.statements
  bindingStatements := text.bindingTexts
  body := text.body
  candidates := text.candidates
  virtualFilename := LivePreview.virtualFilename text.render language

/-- The module text: bindings, body, dispatcher. -/
def moduleText (r : Runtime) : String :=
  ModuleText.assemble r.bindingStatements r.body r.candidates

end Runtime

end LivePreview
