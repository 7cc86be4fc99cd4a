import LivePreview.Json.Reading
import LivePreview.Text.Quoted
/-!
# LivePreview.Error

The **errors** that a caller has to handle. A component that cannot be previewed is none: imports
that make no sense are dropped, and a dependency that is refused disables the preview. An error is
a configuration, a request or a message that cannot be read, a file that is not there or no text,
and an address without an origin.
-/

namespace LivePreview

/-- Why a file or a directory cannot be read. -/
inductive FileProblem
  /-- There is nothing at the path. -/
  | missing
  /-- A directory that is to be walked is not there. -/
  | missingRoot (path : String)
  /-- The bytes are no text. -/
  | notText
  deriving Repr, DecidableEq

/-- The wording of a file problem. -/
def FileProblem.message : FileProblem → String
  | missing => "No such file or directory (os error 2)"
  | missingRoot path =>
    "IO error for operation on " ++ path ++ ": No such file or directory (os error 2)"
  | notText => "stream did not contain valid UTF-8"

/-- What a caller has to handle. -/
inductive PreviewError
  /-- A dependency is refused. -/
  | unsupportedDependency (specifier : String)
  /-- The request names a framework that cannot be mounted. -/
  | unsupportedFramework (framework : String)
  /-- A configuration cannot be read. -/
  | config (problem : Json.Problem)
  /-- A file or a directory cannot be read. -/
  | io (path : String) (problem : FileProblem)
  /-- The address of the bridge has no origin. -/
  | invalidBridgeUrl (url reason : String)
  /-- A message does not follow the protocol. -/
  | malformedMessage (problem : Json.Problem)
  deriving Repr, DecidableEq

/-- The wording of an error. -/
def PreviewError.message : PreviewError → String
  | unsupportedDependency specifier => "Unsupported dependency: " ++ specifier
  | unsupportedFramework framework =>
    "Unsupported framework '" ++ framework ++ "' (supported: react)"
  | config problem => "Invalid preview configuration: " ++ problem.message
  | io path problem => "I/O error at " ++ Text.quoted path ++ ": " ++ problem.message
  | invalidBridgeUrl url reason => "Invalid bridge URL '" ++ url ++ "': " ++ reason
  | malformedMessage problem => "Malformed preview message: " ++ problem.message

end LivePreview
