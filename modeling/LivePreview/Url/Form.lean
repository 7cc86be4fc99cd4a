import LivePreview.Text.Search
import LivePreview.Url.Percent
/-!
# LivePreview.Url.Form

**Query pairs**: a query as a list of names and values. Pairs are joined by ampersands, a name and
its value by an equals sign, and a space is a plus sign. Written, only letters, digits and four
marks stand for themselves, so what is written is read back as it was.
-/

namespace LivePreview.Url

open Text

/-- A name or a value as it is read. -/
def readComponent (text : List Char) : List Char :=
  decodeLossy (percentDecode (text.map fun c => if c = '+' then ' ' else c))

/-- The pairs of a query; empty pieces are passed over, and a piece without an equals sign has an
empty value. -/
def queryPairs (query : List Char) : List (List Char × List Char) :=
  ((splitAtChar '&' query).filter (!·.isEmpty)).map fun piece =>
    (readComponent (piece.takeWhile (· != '=')),
      readComponent ((piece.dropWhile (· != '=')).drop 1))

/-- A byte of a name or a value as it is written. -/
def writeByte (b : Nat) : List Char :=
  let c := Char.ofNat b
  if b < 128 && (isAsciiAlnum c || c == '*' || c == '-' || c == '.' || c == '_') then [c]
  else if b = 0x20 then ['+']
  else percentByte b

/-- A name or a value as it is written. -/
def writeComponent (text : List Char) : List Char :=
  (encode text).flatMap writeByte

/-- A pair as it is written. -/
def writePair (pair : List Char × List Char) : List Char :=
  writeComponent pair.1 ++ '=' :: writeComponent pair.2

/-- A query with pairs added behind those that it has. -/
def appendPairs (query : List Char) (pairs : List (List Char × List Char)) : List Char :=
  pairs.foldl (fun query pair =>
    if query.isEmpty then writePair pair else query ++ '&' :: writePair pair) query

end LivePreview.Url
