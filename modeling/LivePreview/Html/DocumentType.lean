import LivePreview.Html.Token
/-!
# LivePreview.Html.DocumentType

**Documents of an old type**, recognised by the identifiers in their declaration. In such a document a
table may stand in a paragraph.
-/

namespace LivePreview.Html

/-- Public identifiers of old types. -/
def oldPublicIds : List String :=
  ["-//w3o//dtd w3 html strict 3.0//en//", "-/w3c/dtd html 4.0 transitional/en", "html"]

/-- Identifiers of systems of old types. -/
def oldSystemIds : List String :=
  ["http://www.ibm.com/data/dtd/v11/ibmxhtml1-transitional.dtd"]

/-- What public identifiers of old types start with. -/
def oldPublicStarts : List String :=
  ["+//silmaril//dtd html pro v0r11 19970101//",
   "-//as//dtd html 3.0 aswedit + extensions//",
   "-//advasoft ltd//dtd html 3.0 aswedit + extensions//",
   "-//ietf//dtd html 2.0 level 1//",
   "-//ietf//dtd html 2.0 level 2//",
   "-//ietf//dtd html 2.0 strict level 1//",
   "-//ietf//dtd html 2.0 strict level 2//",
   "-//ietf//dtd html 2.0 strict//",
   "-//ietf//dtd html 2.0//",
   "-//ietf//dtd html 2.1e//",
   "-//ietf//dtd html 3.0//",
   "-//ietf//dtd html 3.2 final//",
   "-//ietf//dtd html 3.2//",
   "-//ietf//dtd html 3//",
   "-//ietf//dtd html level 0//",
   "-//ietf//dtd html level 1//",
   "-//ietf//dtd html level 2//",
   "-//ietf//dtd html level 3//",
   "-//ietf//dtd html strict level 0//",
   "-//ietf//dtd html strict level 1//",
   "-//ietf//dtd html strict level 2//",
   "-//ietf//dtd html strict level 3//",
   "-//ietf//dtd html strict//",
   "-//ietf//dtd html//",
   "-//metrius//dtd metrius presentational//",
   "-//microsoft//dtd internet explorer 2.0 html strict//",
   "-//microsoft//dtd internet explorer 2.0 html//",
   "-//microsoft//dtd internet explorer 2.0 tables//",
   "-//microsoft//dtd internet explorer 3.0 html strict//",
   "-//microsoft//dtd internet explorer 3.0 html//",
   "-//microsoft//dtd internet explorer 3.0 tables//",
   "-//netscape comm. corp.//dtd html//",
   "-//netscape comm. corp.//dtd strict html//",
   "-//o'reilly and associates//dtd html 2.0//",
   "-//o'reilly and associates//dtd html extended 1.0//",
   "-//o'reilly and associates//dtd html extended relaxed 1.0//",
   "-//sq//dtd html 2.0 hotmetal + extensions//",
   "-//softquad software//dtd hotmetal pro 6.0::19990601::extensions to html 4.0//",
   "-//softquad//dtd hotmetal pro 4.0::19971010::extensions to html 4.0//",
   "-//spyglass//dtd html 2.0 extended//",
   "-//sun microsystems corp.//dtd hotjava html//",
   "-//sun microsystems corp.//dtd hotjava strict html//",
   "-//w3c//dtd html 3 1995-03-24//",
   "-//w3c//dtd html 3.2 draft//",
   "-//w3c//dtd html 3.2 final//",
   "-//w3c//dtd html 3.2//",
   "-//w3c//dtd html 3.2s draft//",
   "-//w3c//dtd html 4.0 frameset//",
   "-//w3c//dtd html 4.0 transitional//",
   "-//w3c//dtd html experimental 19960712//",
   "-//w3c//dtd html experimental 970421//",
   "-//w3c//dtd w3 html//",
   "-//w3o//dtd w3 html 3.0//",
   "-//webtechs//dtd mozilla html 2.0//",
   "-//webtechs//dtd mozilla html//"]

/-- What public identifiers of types start with that are old without the identifier of a system. -/
def datedPublicStarts : List String :=
  ["-//w3c//dtd html 4.01 frameset//", "-//w3c//dtd html 4.01 transitional//"]

/-- Does an identifier start with one of these, in any letter case? -/
def startsWithAny (starts : List String) (id : String) : Bool :=
  starts.any fun start => Text.startsWith start.toList (Text.lowerAscii id.toList)

/-- Is an identifier one of these, in any letter case? -/
def isAnyOf (ids : List String) (id : String) : Bool :=
  ids.any (·.toList == Text.lowerAscii id.toList)

/-- Is the declared type an old one? -/
def Doctype.isOld (d : Doctype) : Bool :=
  d.faulty || d.name != some "html" ||
    d.publicId.any (fun id => isAnyOf oldPublicIds id || startsWithAny oldPublicStarts id) ||
    d.systemId.any (isAnyOf oldSystemIds) ||
    (d.systemId.isNone && d.publicId.any (startsWithAny datedPublicStarts))

end LivePreview.Html
