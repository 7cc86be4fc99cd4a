import LivePreview.Text.Reader
/-!
# LivePreview.Code.LineSweep

A **line sweep** changes what a reader recognises at the starts of lines and keeps all else. A
reader gets the text from the start of a line on; what it takes may reach over several lines or
end within one, and the sweep goes on right behind it.
-/

namespace LivePreview.Code

open Text

/-- What a reader recognised: a result, the text to put in its place, and the text behind. -/
structure Hit (α : Type) where
  result : α
  replacement : List Char
  rest : List Char

/-- The position behind a hit is the start of a line if a line feed was the last character taken;
`text` is where the hit began. -/
def startsLine (text rest : List Char) : Bool :=
  (text.take (text.length - rest.length)).getLast? == some '\n'

/-- Sweeps a text: the results in order and the changed text. `atStart` tells whether the text
begins a line. A hit that takes nothing counts as none. -/
def sweep {α : Type} (reader : List Char → Option (Hit α)) (atStart : Bool) :
    List Char → List α × List Char
  | [] => ([], [])
  | c :: rest =>
    let keep : Unit → List α × List Char := fun _ =>
      let (results, text) := sweep reader (c == '\n') rest
      (results, c :: text)
    if atStart then
      match reader (c :: rest) with
      | none => keep ()
      | some hit =>
        if hit.rest.length < rest.length + 1 then
          let (results, text) := sweep reader (startsLine (c :: rest) hit.rest) hit.rest
          (hit.result :: results, hit.replacement ++ text)
        else keep ()
    else keep ()
termination_by text => text.length

/-- The text before the first line start at which a reader recognises something, what it
recognises, and the text behind. -/
def firstHit? {α : Type} (reader : List Char → Option (Hit α)) (atStart : Bool) :
    List Char → Option (List Char × Hit α)
  | [] => none
  | c :: rest =>
    match if atStart then reader (c :: rest) else none with
    | some hit => some ([], hit)
    | none => (firstHit? reader (c == '\n') rest).map fun (before, hit) => (c :: before, hit)

/-- What may stand between a statement and the end of its line: spaces, a semicolon, and the
line's end. -/
def skipLineEnd (text : List Char) : List Char :=
  skipChar '\n' (skipChar '\r' (skipSpaces (skipChar ';' (skipSpaces text))))

end LivePreview.Code
