import LivePreview.Text.Blank
import LivePreview.Url.Basic
import LivePreview.Url.Domain
/-!
# LivePreview.Url.Parser

**Reading an address.** Controls and spaces around it and tabs and line ends within it are dropped.
A special scheme is followed by an authority, with or without slashes, and its path always begins
with a slash; the path of any other scheme without an authority is either rooted or opaque.

Dot segments of a path are resolved as it is read. A step that is a drive letter is never taken
back by a double dot.
-/

namespace LivePreview.Url

open Text

/-- Why a text is no address. -/
inductive UrlError
  | relativeWithoutBase
  | emptyHost
  | invalidDomain
  | invalidPort
  | invalidIpv4
  | invalidIpv6
  | invalidDomainCharacter
  deriving Repr, DecidableEq

/-- The wording of an error. -/
def UrlError.message : UrlError → String
  | relativeWithoutBase => "relative URL without a base"
  | emptyHost => "empty host"
  | invalidDomain => "invalid international domain name"
  | invalidPort => "invalid port number"
  | invalidIpv4 => "invalid IPv4 address"
  | invalidIpv6 => "invalid IPv6 address"
  | invalidDomainCharacter => "invalid domain character"

/-! ### Scheme -/

/-- The text that counts: no controls and spaces at the ends, no tabs and line ends within. -/
def significant (text : List Char) : List Char :=
  (stripWhile (fun c => c.toNat ≤ 32) text).filter fun c => c != '\t' && c != '\n' && c != '\r'

/-- May `c` stand in a scheme behind its first letter? -/
def isSchemePart (c : Char) : Bool :=
  isAsciiAlnum c || c == '+' || c == '-' || c == '.'

/-- Takes a scheme and the colon off the front; capital letters become small. -/
def scheme? : List Char → Option (List Char × List Char)
  | [] => none
  | c :: rest =>
    if isAsciiLetter c then
      match rest.dropWhile isSchemePart with
      | ':' :: after => some (lowerAscii (c :: rest.takeWhile isSchemePart), after)
      | _ => none
    else none

/-! ### Hosts -/

/-- The host of a special scheme. -/
def parseHost (text : List Char) : Except UrlError Host :=
  match text with
  | '[' :: inner =>
    if inner.getLast? == some ']' then
      match parseIpv6? inner.dropLast with
      | some groups => .ok (.ipv6 groups)
      | none => .error .invalidIpv6
    else .error .invalidIpv6
  | _ =>
    match (decode? (percentDecode text)).bind domainToAscii? with
    | none => .error .invalidDomain
    | some domain =>
      if domain.isEmpty then .error .emptyHost
      else if endsInNumber domain then
        match parseIpv4? domain with
        | some address => .ok (.ipv4 address)
        | none => .error .invalidIpv4
      else .ok (.domain domain)

/-- The host of any other scheme. -/
def parseOpaqueHost (text : List Char) : Except UrlError Host :=
  match text with
  | '[' :: _ => parseHost text
  | _ =>
    if text.any fun c => c == '\x00' || c == ' ' || "#/:<>?@[\\]^|".toList.contains c then
      .error .invalidDomainCharacter
    else .ok (.domain (percentEncode [] text))

/-- Splits a host off the front: it ends at a colon outside brackets. -/
def splitHost (inBrackets : Bool) : List Char → List Char × List Char
  | [] => ([], [])
  | c :: rest =>
    if c = ':' && !inBrackets then ([], c :: rest)
    else
      let (host, after) := splitHost (if c = '[' then true else if c = ']' then false else inBrackets)
        rest
      (c :: host, after)

/-- Reads digits as a port. -/
def portNumber? (digits : List Char) : Option Nat :=
  digits.foldlM (fun n c =>
    let n := n * 10 + (c.toNat - 48)
    if n ≤ 65535 then some n else none) 0

/-- Reads what follows a host: nothing, or a colon and a port. Also gives what stands behind the
port, which can only be a backslash of a path. -/
def parsePort (scheme : List Char) : List Char → Except UrlError (Option Nat × List Char)
  | ':' :: rest =>
    let digits := rest.takeWhile isDigit
    let after := rest.dropWhile isDigit
    match portNumber? digits with
    | none => .error .invalidPort
    | some port =>
      if !after.isEmpty && after.head? != some '\\' then .error .invalidPort
      else .ok (if digits.isEmpty || usualPort scheme == some port then none else some port, after)
  | rest => .ok (none, rest)

/-! ### Authorities -/

/-- The user name and password as they are written, with the sign behind them. An empty password
loses its colon. -/
def userinfoText (text : List Char) : List Char :=
  let name := percentEncode userinfoSet (text.takeWhile (· != ':'))
  match (text.dropWhile (· != ':')).drop 1 with
  | [] => if name.isEmpty then [] else name ++ ['@']
  | password => name ++ ':' :: percentEncode userinfoSet password ++ ['@']

/-- Splits an authority at its last `@`, if there is one. -/
def splitUserinfo (text : List Char) : Option (List Char) × List Char :=
  match (text.reverse.dropWhile (· != '@')) with
  | [] => (none, text)
  | _ :: back => (some back.reverse, (text.reverse.takeWhile (· != '@')).reverse)

/-- Reads an authority, up to the path; `ended` tells that the text goes on behind it. Also gives
what belongs to the path. -/
def parseAuthority (scheme : List Char) (ended : Bool) (text : List Char) :
    Except UrlError (Authority × List Char) := do
  let special := isSpecial scheme
  let (user, hostPort) := splitUserinfo text
  if user == some [] && hostPort.isEmpty && ended then throw .emptyHost
  let userinfo := userinfoText (user.getD [])
  let (hostText, rest) := splitHost false hostPort
  if special && hostText.isEmpty then throw .emptyHost
  let host ← if special then parseHost hostText else parseOpaqueHost hostText
  if hostText.isEmpty && !rest.isEmpty then throw .emptyHost
  let (port, behind) ← parsePort scheme rest
  if host == .domain [] && !userinfo.isEmpty then throw .emptyHost
  return ({ userinfo, host, port }, behind)

/-! ### Paths -/

/-- Is this a letter and a colon or a bar? -/
def isDriveLetter : List Char → Bool
  | [c, d] => isAsciiLetter c && (d == ':' || d == '|')
  | _ => false

/-- Does a dot of a segment come next: a dot, or one that is encoded? -/
def dot? : List Char → Option (List Char)
  | '.' :: rest => some rest
  | '%' :: '2' :: 'e' :: rest => some rest
  | '%' :: '2' :: 'E' :: rest => some rest
  | _ => none

/-- Resolves the segments of a path behind the steps `back` (backwards). -/
def resolvePath (isFile : Bool) (back : List (List Char)) : List (List Char) → List (List Char)
  | [] => back.reverse
  | segment :: rest =>
    let ends := fun back => if rest.isEmpty then [] :: back else back
    if (dot? segment).bind dot? == some [] then
      let back := match back with
        | step :: more => if isDriveLetter step then step :: more else more
        | [] => []
      resolvePath isFile (ends back) rest
    else if dot? segment == some [] then resolvePath isFile (ends back) rest
    else
      let step := percentEncode pathSet segment
      let step := if isFile && back.isEmpty && isDriveLetter step then step.take 1 ++ [':'] else step
      resolvePath isFile (step :: back) rest

/-- The text of a path with these steps. -/
def pathText (steps : List (List Char)) : List Char :=
  '/' :: ['/'].intercalate steps

/-- The steps of a rooted path, resolved. -/
def readSteps (scheme text : List Char) : List (List Char) :=
  let text := if isSpecial scheme then text.map fun c => if c = '\\' then '/' else c else text
  let text := match text with
    | '/' :: rest => rest
    | _ => text
  resolvePath (scheme == "file".toList) [] (splitAtChar '/' text)

/-- A rooted path as it is written. That of a file is written without the empty steps in front. -/
def parsePath (scheme text : List Char) : List Char :=
  let steps := readSteps scheme text
  if scheme == "file".toList then pathText (steps.dropWhile fun s => s.isEmpty && steps.length > 1)
  else pathText steps

/-! ### Addresses -/

/-- Is `c` where an authority ends? -/
def endsAuthority (special : Bool) (c : Char) : Bool :=
  c == '/' || c == '?' || c == '#' || (special && c == '\\')

/-- The address with a query and a fragment, as they are written. -/
def withSuffix (u : Url) (text : List Char) : Url :=
  let hash := text.dropWhile (· != '#')
  let front := text.takeWhile (· != '#')
  let set := if isSpecial u.scheme then specialQuerySet else querySet
  { u with
    query := match front with
      | '?' :: query => some (percentEncode set query)
      | _ => none
    fragment := match hash with
      | _ :: fragment => some (percentEncode fragmentSet fragment)
      | [] => none }

/-- Does `c` stand before a query or a fragment? -/
def isPathPart (c : Char) : Bool :=
  c != '?' && c != '#'

/-- Reads an address with an authority, behind the slashes. -/
def parseWithAuthority (scheme text : List Char) : Except UrlError Url := do
  let special := isSpecial scheme
  let inside := fun c => !endsAuthority special c
  let rest := text.dropWhile inside
  let (authority, behind) ← parseAuthority scheme (!rest.isEmpty) (text.takeWhile inside)
  let rest := behind ++ rest
  let path := rest.takeWhile isPathPart
  let path := if !special && path.isEmpty then [] else parsePath scheme path
  return withSuffix { scheme, authority := some authority, path, query := none, fragment := none }
    (rest.dropWhile isPathPart)

/-- Reads an address of a file, behind the colon. A drive letter in place of the host belongs to the
path, and as the first step that is read it stands for the host: with empty steps in front of it, the
host stays, although the path is then written without them. -/
def parseFile (scheme text : List Char) : Except UrlError Url := do
  let slash := fun c => c == '/' || c == '\\'
  let (hostText, rest) := match text with
    | c :: d :: rest =>
      if slash c && slash d then
        let host := rest.takeWhile fun c => !endsAuthority true c
        if isDriveLetter host then ([], rest)
        else (host, rest.dropWhile fun c => !endsAuthority true c)
      else ([], text)
    | _ => ([], text)
  let host ← if hostText.isEmpty then pure (.domain []) else parseHost hostText
  let host := if host == .domain "localhost".toList then .domain [] else host
  let path := rest.takeWhile isPathPart
  let host := if (readSteps scheme path).head?.any isDriveLetter then .domain [] else host
  return withSuffix
    { scheme, authority := some { host }, path := parsePath scheme path, query := none, fragment := none }
    (rest.dropWhile isPathPart)

/-- Reads an address without an authority, behind the colon. -/
def parseWithoutAuthority (scheme text : List Char) : Url :=
  let path := text.takeWhile isPathPart
  let path := match path with
    | '/' :: _ => parsePath scheme path
    | _ => percentEncode [] path
  withSuffix { scheme, authority := none, path, query := none, fragment := none }
    (text.dropWhile isPathPart)

/-- Reads an address. -/
def parse (text : List Char) : Except UrlError Url :=
  match scheme? (significant text) with
  | none => .error .relativeWithoutBase
  | some (scheme, rest) =>
    if scheme == "file".toList then parseFile scheme rest
    else if isSpecial scheme then
      parseWithAuthority scheme (rest.dropWhile fun c => c == '/' || c == '\\')
    else
      match rest with
      | '/' :: '/' :: rest => parseWithAuthority scheme rest
      | _ => .ok (parseWithoutAuthority scheme rest)

end LivePreview.Url
