import LivePreview.Text.Blank
import LivePreview.Text.Join
import LivePreview.Url.Form
import LivePreview.Url.Parser
/-!
# LivePreview.Embed

**Video embeds** and their private forms. The address of a video on one of two services is mapped to
the address of a player that keeps less about its viewers (`privateForm?`); an address that is
already in that form, and any other, is left alone. The same mapping exists as a script, which runs
inside the document and takes care of frames that are put in later.
-/

namespace LivePreview.Embed

open Text (joinLines isBlank isAsciiAlnum isDigit)

/-! ### The mapping -/

/-- The hosts whose videos are played without cookies. -/
def watchHosts : List String :=
  ["youtube.com", "www.youtube.com", "m.youtube.com", "music.youtube.com"]

/-- Is this the name of a video: at least six letters, digits, underscores and hyphens? -/
def isVideoName (name : List Char) : Bool :=
  6 ≤ name.length && name.all fun c => isAsciiAlnum c || c == '_' || c == '-'

/-- Is this the number of a video? -/
def isVideoNumber (name : List Char) : Bool :=
  !name.isEmpty && name.all isDigit

/-- The query pairs of an address. -/
def pairs (u : Url) : List (List Char × List Char) :=
  Url.queryPairs (u.query.getD [])

/-- The player without cookies for a video, with query pairs. -/
def cookielessPlayer? (name : List Char) (kept : List (List Char × List Char)) :
    Option (List Char) :=
  if isVideoName name then
    let query := if kept.isEmpty then [] else '?' :: Url.appendPairs [] kept
    some ("https://www.youtube-nocookie.com/embed/".toList ++ name ++ query)
  else none

/-- The private form of an address on the first service: a page that names the video in its query,
or a path that ends with its name. -/
def watchForm? (u : Url) (steps : List (List Char)) : Option (List Char) :=
  match steps.map String.ofList with
  | ["watch"] => do
    let v := ['v']
    let found ← (pairs u).find? (·.1 == v)
    cookielessPlayer? found.2 ((pairs u).filter (·.1 != v))
  | [kind, name] =>
    if ["embed", "shorts", "live"].contains kind then cookielessPlayer? name.toList (pairs u)
    else none
  | _ => none

/-- The private form of a player of the second service: it is asked not to track, unless the
question was put already. -/
def untrackedPlayer? (u : Url) : Option (List Char) :=
  let name := "dnt".toList
  if (pairs u).any (·.1 == name) then none
  else some { u with query := some (Url.appendPairs (u.query.getD []) [(name, ['1'])]) }.text

/-- The private form of an address, if there is one. -/
def privateForm? (source : String) : Option String :=
  match Url.parse (Text.trim source.toList) with
  | .error _ => none
  | .ok u => do
    let host := String.ofList (Text.lowerAscii (← u.host?))
    let steps := u.pathSteps.filter (!·.isEmpty)
    let form ←
      if watchHosts.contains host then watchForm? u steps
      else if host = "youtu.be" then
        match steps with
        | [name] => cookielessPlayer? name (pairs u)
        | _ => none
      else if host = "player.vimeo.com" then untrackedPlayer? u
      else if host = "vimeo.com" || host = "www.vimeo.com" then
        match steps with
        | [name] =>
          if isVideoNumber name then
            some ("https://player.vimeo.com/video/".toList ++ name ++ "?dnt=1".toList)
          else none
        | _ => none
      else none
    return String.ofList form

/-! ### The script -/

/-- The script that maps frames inside a document, also those that are put in later. -/
def fixupScript : String :=
  joinLines [
    "(() => \x7b",
    "  const YT = [\"youtube.com\", \"www.youtube.com\", \"m.youtube.com\", \"music.youtube.com\"];",
    "  const ID = /^[A-Za-z0-9_-]\x7b6,\x7d$/;",
    "  const embed = (id, url, skip) => \x7b",
    "    if (!ID.test(id)) return null;",
    "    const out = new URL(\"https://www.youtube-nocookie.com/embed/\" + id);",
    "    url.searchParams.forEach((v, k) => \x7b if (!skip.includes(k)) out.searchParams.append(k, v); \x7d);",
    "    return out.toString();",
    "  \x7d;",
    "  const rewrite = (src) => \x7b",
    "    let url;",
    "    try \x7b url = new URL(src); \x7d catch (_) \x7b return null; \x7d",
    "    const host = url.hostname.toLowerCase();",
    "    const parts = url.pathname.split(\"/\").filter(Boolean);",
    "    if (YT.includes(host)) \x7b",
    "      if (parts.length === 1 && parts[0] === \"watch\") return url.searchParams.get(\"v\") ? embed(url.searchParams.get(\"v\"), url, [\"v\"]) : null;",
    "      if (parts.length === 2 && [\"embed\", \"shorts\", \"live\"].includes(parts[0])) return embed(parts[1], url, []);",
    "      return null;",
    "    \x7d",
    "    if (host === \"youtu.be\") return parts.length === 1 ? embed(parts[0], url, []) : null;",
    "    if (host === \"player.vimeo.com\") \x7b",
    "      if (url.searchParams.has(\"dnt\")) return null;",
    "      url.searchParams.append(\"dnt\", \"1\");",
    "      return url.toString();",
    "    \x7d",
    "    if ((host === \"vimeo.com\" || host === \"www.vimeo.com\") && parts.length === 1 && /^[0-9]+$/.test(parts[0])) \x7b",
    "      return \"https://player.vimeo.com/video/\" + parts[0] + \"?dnt=1\";",
    "    \x7d",
    "    return null;",
    "  \x7d;",
    "  const fix = (root) => \x7b",
    "    const frames = root.tagName === \"IFRAME\" ? [root] : root.querySelectorAll ? root.querySelectorAll(\"iframe[src]\") : [];",
    "    for (const frame of frames) \x7b",
    "      const next = rewrite(frame.getAttribute(\"src\") || \"\");",
    "      if (next) frame.setAttribute(\"src\", next);",
    "    \x7d",
    "  \x7d;",
    "  const start = () => \x7b",
    "    fix(document);",
    "    new MutationObserver((records) => \x7b",
    "      for (const record of records) \x7b",
    "        if (record.type === \"attributes\") fix(record.target);",
    "        for (const node of record.addedNodes) if (node.nodeType === 1) fix(node);",
    "      \x7d",
    "    \x7d).observe(document.documentElement, \x7b childList: true, subtree: true, attributes: true, attributeFilter: [\"src\"] \x7d);",
    "  \x7d;",
    "  if (document.readyState === \"loading\") document.addEventListener(\"DOMContentLoaded\", start);",
    "  else start();",
    "\x7d)();"]

/-- Takes the opening tag of a head off the front; capital letters count as small ones. -/
def headTag? (text : List Char) : Option (List Char) := do
  let lead := "<head".toList
  guard (Text.lowerAscii (text.take lead.length) == lead)
  match text.drop lead.length with
  | '>' :: rest => some rest
  | c :: rest =>
    if isBlank c then
      match rest.dropWhile (· != '>') with
      | _ :: after => some after
      | [] => none
    else none
  | [] => none

/-- The text behind the first opening tag of a head. -/
def behindHead? : List Char → Option (List Char)
  | [] => none
  | c :: rest => headTag? (c :: rest) <|> behindHead? rest

/-- Puts the script into a document: behind the opening tag of the head, or in front of all. -/
def injectScript (html : String) : String :=
  let tag := ("<script>" ++ fixupScript ++ "</script>").toList
  let text := html.toList
  match behindHead? text with
  | some rest => String.ofList (text.take (text.length - rest.length) ++ tag ++ rest)
  | none => String.ofList (tag ++ text)

end LivePreview.Embed
