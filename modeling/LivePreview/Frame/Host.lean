import LivePreview.Frame.Message
/-!
# LivePreview.Frame.Host

The **host** of a preview. It numbers its builds, so that a slow one never takes the place of a newer
one, remembers the document it wants to be shown, and posts it again when the bridge may have missed
it. It listens to the window of the bridge only.

Messages carry no number. An answer is credited to the build that is the latest when it comes.
-/

namespace LivePreview.Frame

/-- What the host does with a message. -/
inductive Reaction
  /-- Nothing: another window, or no message to a host. -/
  | ignored
  | acknowledged
  | loaded
  /-- The document was loaded, but never acknowledged, and is posted again. -/
  | resent
  | consoleRecorded
  deriving Repr, DecidableEq

/-- An entry of the console, with the build that was the latest when it came. -/
structure ConsoleEntry where
  generation : Nat
  level : ConsoleLevel
  args : List Json.Value
  deriving Repr

/-- The state of a host. -/
structure Host where
  /-- The window of the bridge. -/
  window : Nat
  /-- The number of the latest build. -/
  generation : Nat := 0
  /-- The document to be shown. -/
  desired : Option String := none
  /-- The build that was acknowledged last. -/
  acceptedBuild : Option Nat := none
  /-- The build that was loaded last. -/
  loadedBuild : Option Nat := none
  /-- The build whose document was posted again last. -/
  resentBuild : Option Nat := none
  /-- The entries of the console, in order. -/
  console : List ConsoleEntry := []
  /-- The messages to the bridge, in order. -/
  outbox : List Message := []
  deriving Repr

namespace Host

/-- Is the document of the latest build acknowledged? -/
def isAccepted (h : Host) : Bool :=
  h.acceptedBuild = some h.generation && 0 < h.generation

/-- Is the document of the latest build loaded? -/
def isLoaded (h : Host) : Bool :=
  h.loadedBuild = some h.generation && 0 < h.generation

/-- Posts the desired document. -/
def post (h : Host) : Host :=
  match h.desired with
  | some html => { h with outbox := h.outbox ++ [Message.setHtml html] }
  | none => h

/-- Starts a build; its number is the ticket to complete it with. -/
def beginBuild (h : Host) : Nat × Host :=
  (h.generation + 1, { h with generation := h.generation + 1 })

/-- Completes a build. Only that of the latest build counts. -/
def completeBuild (h : Host) (ticket : Nat) (html : String) : Bool × Host :=
  if ticket = h.generation then (true, { h with desired := some html }.post) else (false, h)

/-- A build that is complete at once. -/
def setContent (h : Host) (html : String) : Nat × Host :=
  let (ticket, h) := h.beginBuild
  (ticket, (h.completeBuild ticket html).2)

/-- The frame of the bridge has loaded anew; what it held is gone. -/
def frameLoaded (h : Host) : Host := h.post

/-- The document in the bridge is loaded. If it was never acknowledged, it is posted again, once for
each build. -/
def noteLoaded (h : Host) : Reaction × Host :=
  let h := { h with loadedBuild := some h.generation }
  if h.desired.isSome && h.acceptedBuild != some h.generation &&
      h.resentBuild != some h.generation then
    (.resent, { h with resentBuild := some h.generation }.post)
  else (.loaded, h)

/-- A message from a window. -/
def receive (h : Host) (sender : Nat) (message : Message) : Reaction × Host :=
  if sender = h.window then
    match message with
    | .accepted => (.acknowledged, { h with acceptedBuild := some h.generation })
    | .loaded => h.noteLoaded
    | .console level args =>
      (.consoleRecorded, { h with console := h.console ++ [⟨h.generation, level, args⟩] })
    | .setHtml _ => (.ignored, h)
  else (.ignored, h)

/-- A message as text. What another window sends is not even read. -/
def receiveText (h : Host) (sender : Nat) (text : String) : Except PreviewError (Reaction × Host) :=
  if sender = h.window then return h.receive sender (← Message.parse text)
  else return (.ignored, h)

/-- Hands out the messages to the bridge. -/
def takeOutbox (h : Host) : List Message × Host :=
  (h.outbox, { h with outbox := [] })

end Host

end LivePreview.Frame
