/-!
# LivePreview.Frame.Isolation

The **headers** that a document is served with. The bridge has to stay embeddable; a route that
shares memory between its threads has to be isolated from other origins. The two headers of a route
always go together.
-/

namespace LivePreview.Frame

/-- What a document is served for. -/
inductive Route
  /-- The bridge. -/
  | bridge
  /-- Memory shared between threads. -/
  | sharedMemory
  deriving Repr, DecidableEq

/-- The headers of a route, by name. -/
def Route.headers (route : Route) : List (String × String) :=
  let (embedder, opener) := match route with
    | bridge => ("unsafe-none", "unsafe-none")
    | sharedMemory => ("require-corp", "same-origin")
  [("Cross-Origin-Embedder-Policy", embedder), ("Cross-Origin-Opener-Policy", opener)]

end LivePreview.Frame
