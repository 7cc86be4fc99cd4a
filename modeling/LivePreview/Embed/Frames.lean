import LivePreview.Embed
import LivePreview.Html.Parser
/-!
# LivePreview.Embed.Frames

**The frames of a document** with their videos in private form. A document in which no frame has to
change is left as it is, letter by letter; any other is read and written anew.
-/

namespace LivePreview.Embed

open Html (Attribute Node)

/-- The private form of an attribute's value, if there is one and the attribute is the address of a
frame. -/
def privateSource? (element : String) (a : Attribute) : Option String :=
  if element = "iframe" && a.name = "src" then privateForm? a.value else none

/-- The attributes of an element, with the address of a frame in private form. -/
def privateAttributes (element : String) (attributes : List Attribute) : List Attribute :=
  attributes.map fun a => { a with value := (privateSource? element a).getD a.value }

/-- Does an address among the attributes of an element have a private form? -/
def hasPrivateForm (element : String) (attributes : List Attribute) : Bool :=
  attributes.any fun a => (privateSource? element a).isSome

/-- The document with the addresses of all frames in private form. -/
def privateFrames (html : String) : String :=
  let document := Html.parse html
  if Html.anyOfAttributes hasPrivateForm document then
    Html.render (Html.mapAllAttributes privateAttributes document)
  else html

/-- A document as it is put into the frame of the preview: with private frames, and with the script
that takes care of frames put in later. -/
def prepare (html : String) : String :=
  injectScript (privateFrames html)

end LivePreview.Embed
