/-!
# LivePreview.Diagnostic

What can fail inside the frame, and the titles under which it is shown.
-/

namespace LivePreview

/-- The phase in which a preview failed. -/
inductive DiagnosticKind
  | compile
  | eval
  | mount
  | runtime
  | dependency
  | timeout
  deriving Repr, DecidableEq, Inhabited

namespace DiagnosticKind

/-- The heading that a user sees. -/
def title : DiagnosticKind → String
  | compile => "Compile error"
  | eval => "Error while evaluating component"
  | mount => "Error while mounting component"
  | runtime => "Runtime error"
  | dependency => "Failed to load dependencies"
  | timeout => "Preview timed out"

/-- The name under which the script knows the phase. -/
def key : DiagnosticKind → String
  | compile => "compile"
  | eval => "eval"
  | mount => "mount"
  | runtime => "runtime"
  | dependency => "dependency"
  | timeout => "timeout"

/-- All phases, in the order in which they are listed. -/
def all : List DiagnosticKind :=
  [compile, eval, mount, runtime, dependency, timeout]

end DiagnosticKind

end LivePreview
