import LivePreview.Url.Address
/-!
# LivePreview.Url.Basic

**Addresses** (URLs) in their parts, each as it is written. An address has a scheme and a path; it
may have an authority, which names a host, a query and a fragment.
-/

namespace LivePreview.Url

/-- A host. -/
inductive Host
  /-- A name; it may be empty. -/
  | domain (name : List Char)
  /-- An address of 32 bits. -/
  | ipv4 (address : Nat)
  /-- An address of 128 bits, in eight groups. -/
  | ipv6 (groups : List Nat)
  deriving Repr, DecidableEq

/-- The text of a host. -/
def Host.text : Host → List Char
  | domain name => name
  | ipv4 address => ipv4Text address
  | ipv6 groups => '[' :: ipv6Text groups ++ [']']

/-- What stands between the slashes and the path. -/
structure Authority where
  /-- The user name and password, with the sign behind them. -/
  userinfo : List Char := []
  host : Host
  /-- The port, unless it is the usual one of the scheme. -/
  port : Option Nat := none
  deriving Repr, DecidableEq

/-- The text of a port, behind a colon. -/
def portText : Option Nat → List Char
  | some port => ':' :: Nat.toDigits 10 port
  | none => []

/-- The text of an authority. -/
def Authority.text (a : Authority) : List Char :=
  a.userinfo ++ a.host.text ++ portText a.port

end LivePreview.Url

namespace LivePreview

/-- An address. -/
structure Url where
  scheme : List Char
  authority : Option Url.Authority
  /-- The path; with an authority it is empty or begins with a slash. -/
  path : List Char
  query : Option (List Char)
  fragment : Option (List Char)
  deriving Repr, DecidableEq

end LivePreview

namespace LivePreview.Url

/-- The schemes whose addresses are about hosts, with their usual ports. -/
def specialSchemes : List (String × Option Nat) :=
  [("http", some 80), ("https", some 443), ("ws", some 80), ("wss", some 443), ("ftp", some 21),
   ("file", none)]

/-- Is the scheme special? -/
def isSpecial (scheme : List Char) : Bool :=
  specialSchemes.any (·.1.toList == scheme)

/-- The usual port of a scheme. -/
def usualPort (scheme : List Char) : Option Nat :=
  (specialSchemes.find? (·.1.toList == scheme)).bind (·.2)

/-- The text of an address. -/
def text (u : Url) : List Char :=
  let authority := match u.authority with
    | some a => '/' :: '/' :: a.text
    | none => []
  let query := match u.query with
    | some q => '?' :: q
    | none => []
  let fragment := match u.fragment with
    | some f => '#' :: f
    | none => []
  u.scheme ++ ':' :: authority ++ u.path ++ query ++ fragment

/-- The text of the host, unless it is missing or empty. -/
def host? (u : Url) : Option (List Char) :=
  match u.authority with
  | some a => if a.host.text.isEmpty then none else some a.host.text
  | none => none

/-- The steps of a path that begins with a slash. -/
def pathSteps (u : Url) : List (List Char) :=
  match u.path with
  | '/' :: rest => Text.splitAtChar '/' rest
  | _ => []

end LivePreview.Url
