import LivePreview.Error
import LivePreview.Json.Reading
/-!
# LivePreview.Frame.Message

**Messages** between the host, the bridge and the preview. Every message is a JSON object with its kind
under `type`; fields that a kind does not have are passed over. The kind may stand behind other
fields, so all fields are taken in before they are read; read as an array, a message has its kind
first.
-/

namespace LivePreview.Frame

open Json (Found Problem Reading Tree Value)

/-- How grave an entry of the console is. -/
inductive ConsoleLevel
  | log
  | info
  | warn
  | error
  | debug
  deriving Repr, DecidableEq

/-- A message. -/
inductive Message
  /-- To the bridge: show another document. -/
  | setHtml (html : String)
  /-- To the host: a document was taken in. -/
  | accepted
  /-- To the host: the document is loaded. -/
  | loaded
  /-- From the preview to the host: an entry of the console. -/
  | console (level : ConsoleLevel) (args : List Value)
  deriving Repr

/-! ### Writing -/

/-- The levels by name. -/
def ConsoleLevel.names : List (String × ConsoleLevel) :=
  [("log", .log), ("info", .info), ("warn", .warn), ("error", .error), ("debug", .debug)]

/-- The name of a level. -/
def ConsoleLevel.name : ConsoleLevel → String
  | log => "log"
  | info => "info"
  | warn => "warn"
  | error => "error"
  | debug => "debug"

/-- The kinds of messages. -/
inductive Kind
  | setHtml
  | accepted
  | loaded
  | console
  deriving Repr, DecidableEq

/-- The kinds by name. -/
def Kind.names : List (String × Kind) :=
  [("setPreviewHtml", .setHtml), ("preview:accepted", .accepted), ("preview:loaded", .loaded),
   ("console", .console)]

/-- The name of a kind. -/
def Kind.name : Kind → String
  | setHtml => "setPreviewHtml"
  | accepted => "preview:accepted"
  | loaded => "preview:loaded"
  | console => "console"

/-- A message as JSON. -/
def Message.json : Message → Value
  | setHtml html => .object [("type", .string Kind.setHtml.name), ("html", .string html)]
  | accepted => .object [("type", .string Kind.accepted.name)]
  | loaded => .object [("type", .string Kind.loaded.name)]
  | console level args =>
    .object [("type", .string Kind.console.name), ("level", .string level.name),
      ("args", .array args)]

/-- The text of a message. -/
def Message.text (message : Message) : String :=
  message.json.text

/-! ### Reading kinds and levels -/

/-- Looks up a name. -/
def byName {α : Type} (names : List (String × α)) (name : String) : Except Problem α :=
  match names.find? (·.1 == name) with
  | some found => .ok found.2
  | none => .error (.unknownVariant name (names.map (·.1)))

/-- The kind of a message. -/
def Kind.reading : Reading Kind
  | .string (.ok name) => byName names name
  | tree => Json.mismatch "variant identifier" tree

/-- The level of an entry of the console. It may also be written as an object with its name as the
only key and nothing as the value. -/
def ConsoleLevel.reading : Reading ConsoleLevel
  | .string (.ok name) => byName names name
  | .object [(name, content)] => do
    let level ← byName names (← Json.key name)
    match content with
    | .null | .object [] => return level
    | other => Json.mismatch "unit" other
  | .object _ => .error (.invalidValue .map "map with a single key")
  | tree => Json.mismatch "string or map" tree

/-- The arguments of an entry of the console. -/
def argsReading : Reading (List Value) :=
  Json.list (Json.value Json.depthLimit)

/-! ### Reading fields -/

/-- The fields of a message. -/
structure Draft where
  html : Option String := none
  level : Option ConsoleLevel := none
  args : Option (List Value) := none

/-- What a field does to the fields read so far; `none` for a field that the kind does not have. -/
def Draft.put (kind : Kind) (field : String) : Option (Tree → Draft → Except Problem Draft) :=
  match kind, field with
  | .setHtml, "html" =>
    some (Json.once field (·.html) Json.text fun d v => { d with html := some v })
  | .console, "level" =>
    some (Json.once field (·.level) ConsoleLevel.reading fun d v => { d with level := some v })
  | .console, "args" =>
    some (Json.once field (·.args) argsReading fun d v => { d with args := some v })
  | _, _ => none

/-- The message of a kind with these fields. -/
def Draft.finish (kind : Kind) (d : Draft) : Except Problem Message := do
  match kind with
  | .setHtml => return .setHtml (← Json.required "html" d.html)
  | .accepted => return .accepted
  | .loaded => return .loaded
  | .console => return .console (← Json.required "level" d.level) (d.args.getD [])

/-- What a kind is called in a message about its fields. -/
def Kind.title : Kind → String
  | setHtml => "struct variant PreviewMessage::SetPreviewHtml"
  | accepted => "unit variant PreviewMessage::Accepted"
  | loaded => "unit variant PreviewMessage::Loaded"
  | console => "struct variant PreviewMessage::Console"

/-- The fields of a kind, in order. -/
def Kind.fields : Kind → List String
  | setHtml => ["html"]
  | console => ["level", "args"]
  | _ => []

/-- The form of the messages of a kind. -/
def Kind.form (kind : Kind) : Json.RecordForm Draft Message where
  name := kind.title
  fields := kind.fields
  empty := {}
  put := Draft.put kind
  finish := Draft.finish kind

/-- The message of a kind whose fields stand in an array, which holds nothing else: a kind without
fields has no items. -/
def Kind.readItems (kind : Kind) (items : List Tree) : Except Problem Message := do
  let (message, more) ← kind.form.readItems items
  if more.isEmpty then return message
  else
    throw (.invalidLength items.length
      (Json.RecordForm.countText kind.fields.length ++ " in sequence"))

/-! ### Reading messages -/

/-- How many levels a field of a message may have, as one is taken by the message itself. -/
def fieldDepth : Nat := Json.depthLimit - 1

/-- Takes in the members of an object: the kind and the other members. -/
def takeMembers : Option Kind → List (Tree × Tree) → Except Problem (Option Kind × List (Tree × Tree))
  | kind, [] => .ok (kind, [])
  | kind, (name, content) :: more => do
    if (← Json.key name) = "type" then
      if kind.isSome then throw (.duplicateField "type")
      takeMembers (some (← Kind.reading content)) more
    else
      let _ ← Json.value fieldDepth content
      let (kind, others) ← takeMembers kind more
      return (kind, (name, content) :: others)

/-- A message. -/
def Message.reading : Reading Message
  | .object members => do
    let (kind, others) ← takeMembers none members
    let kind ← Json.required "type" kind
    kind.form.finish (← kind.form.putMembers kind.form.empty others)
  | .array [] => .error (.missingField "type")
  | .array (first :: items) => do
    let kind ← Kind.reading first
    for item in items do
      let _ ← Json.value fieldDepth item
    kind.readItems items
  | tree => Json.mismatch "internally tagged enum PreviewMessage" tree

/-- The message that a text denotes. -/
def Message.parse (text : String) : Except PreviewError Message :=
  (Json.parse Message.reading text).mapError .malformedMessage

end LivePreview.Frame
