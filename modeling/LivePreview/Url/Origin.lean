import LivePreview.Error
import LivePreview.Url.Parser
/-!
# LivePreview.Url.Origin

The **origin** of an address: its scheme, host and port, if the scheme is about hosts. An address of
a blob has the origin of the address in its path. All other addresses have none that could be
compared with another.
-/

namespace LivePreview.Url

/-- The schemes whose addresses have an origin. -/
def originSchemes : List String := ["http", "https", "ws", "wss", "ftp"]

/-- The origin of an address; `depth` bounds how often the path of a blob is followed. -/
def originWithin? : Nat → Url → Option (List Char)
  | 0, _ => none
  | depth + 1, u =>
    if u.scheme == "blob".toList then
      match parse u.path with
      | .ok inner => originWithin? depth inner
      | .error _ => none
    else if originSchemes.any (·.toList == u.scheme) then
      u.authority.map fun a => u.scheme ++ "://".toList ++ a.host.text ++ portText a.port
    else none

/-- The origin of an address. Every blob in a blob is shorter, so the length of the path bounds
them. -/
def origin? (u : Url) : Option (List Char) :=
  originWithin? (u.path.length + 1) u

/-- The origin of the document at an address. -/
def originOf (url : String) : Except PreviewError String :=
  match parse url.toList with
  | .error e => .error (.invalidBridgeUrl url e.message)
  | .ok u =>
    match u.origin? with
    | some origin => .ok (String.ofList origin)
    | none => .error (.invalidBridgeUrl url "opaque origin")

end LivePreview.Url
