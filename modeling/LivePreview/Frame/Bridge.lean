import LivePreview.Embed.Frames
import LivePreview.Frame.Message
import LivePreview.Url.Origin
/-!
# LivePreview.Frame.Bridge

The **bridge**: a document of the host's own origin that holds the frame with the preview. It takes in
documents from its own origin only, answers each of them, and shows it in the inner frame. A document
that comes before the inner frame is ready is kept, and only the last one.
-/

namespace LivePreview.Frame

/-- What the bridge does with a message. -/
inductive Outcome
  /-- Nothing: another origin, or no document. -/
  | ignored
  /-- The document is shown. -/
  | assigned
  /-- The document is kept until the inner frame is ready. -/
  | deferred
  deriving Repr, DecidableEq

/-- The state of a bridge. -/
structure Bridge where
  origin : String
  /-- Is the inner frame ready? -/
  listening : Bool := false
  /-- The document kept until then. -/
  pending : Option String := none
  /-- The document in the inner frame. -/
  inner : Option String := none
  /-- The messages to the host, in order. -/
  outbox : List Message := []
  deriving Repr

namespace Bridge

/-- The bridge at an address. -/
def atUrl (url : String) : Except PreviewError Bridge := do
  return { origin := ← Url.originOf url }

/-- Takes in a document: it is answered, prepared and shown or kept. -/
def take (b : Bridge) (html : String) : Outcome × Bridge :=
  let b := { b with outbox := b.outbox ++ [Message.accepted] }
  if b.listening then (.assigned, { b with inner := some (Embed.prepare html) })
  else (.deferred, { b with pending := some (Embed.prepare html) })

/-- A message from a window of some origin. -/
def receive (b : Bridge) (origin : String) (message : Message) : Outcome × Bridge :=
  if origin = b.origin then
    match message with
    | .setHtml html => b.take html
    | _ => (.ignored, b)
  else (.ignored, b)

/-- A message as text. What cannot be read changes nothing, whoever sent it. -/
def receiveText (b : Bridge) (origin text : String) : Except PreviewError (Outcome × Bridge) := do
  return b.receive origin (← Message.parse text)

/-- The inner frame has loaded. The first time it becomes ready, and shows what was kept; every later
time the host is told. -/
def innerLoaded (b : Bridge) : Bridge :=
  if b.listening then { b with outbox := b.outbox ++ [Message.loaded] }
  else { b with listening := true, inner := b.pending <|> b.inner, pending := none }

/-- A message from the inner frame; only entries of the console are passed on. -/
def relay (b : Bridge) (message : Message) : Bridge :=
  match message with
  | .console _ _ => { b with outbox := b.outbox ++ [message] }
  | _ => b

/-- Hands out the messages to the host. -/
def takeOutbox (b : Bridge) : List Message × Bridge :=
  (b.outbox, { b with outbox := [] })

end Bridge

end LivePreview.Frame
