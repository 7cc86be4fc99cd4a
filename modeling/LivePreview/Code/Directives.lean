import LivePreview.Code.LineSweep
import LivePreview.Text.Word
/-!
# LivePreview.Code.Directives

**Directives** are literals such as `"use client"` that open a module. They mean nothing inside a
function body and are removed; comments in front of them and between them stay.
-/

namespace LivePreview.Code

open Text

/-- Takes a directive and the rest of its line off the front. -/
def directive? (text : List Char) : Option (List Char) :=
  match trimStart text with
  | quote :: rest => do
    guard (quote == '"' || quote == '\'')
    let words ← word? "use " rest
    let inWords := fun c => isAsciiLetter c || c == ' '
    guard (!(words.takeWhile inWords).isEmpty)
    match words.dropWhile inWords with
    | c :: after => if c = quote then some (skipLineEnd after) else none
    | [] => none
  | [] => none

/-- Takes a comment off the front: the comment, with the blanks before it, and the rest. A
comment that is not closed is none. -/
def leadingComment? (text : List Char) : Option (List Char × List Char) :=
  let blanks := text.takeWhile isBlank
  match trimStart text with
  | '/' :: '/' :: rest =>
    (cutAt? ['\n'] rest).map fun (line, after) => (blanks ++ '/' :: '/' :: line ++ ['\n'], after)
  | '/' :: '*' :: rest =>
    (cutAt? ['*', '/'] rest).map fun (inner, after) =>
      (blanks ++ '/' :: '*' :: inner ++ ['*', '/'], after)
  | _ => none

/-- Removes the directives in front; every step takes something off the text, so its length
bounds the steps. -/
def stripDirectives.go : Nat → List Char → List Char
  | 0, text => text
  | fuel + 1, text =>
    match directive? text with
    | some rest => stripDirectives.go fuel rest
    | none =>
      match leadingComment? text with
      | some (comment, rest) => comment ++ stripDirectives.go fuel rest
      | none => text

/-- The text without the directives in front. -/
def stripDirectives (text : List Char) : List Char :=
  stripDirectives.go (text.length + 1) text

end LivePreview.Code
