import LivePreview.Script.Literal
import LivePreview.Text.Utf8
/-!
# LivePreview.Script.Cursor

A **cursor** stands in a script, in front of a token. It knows how many bytes are behind it and
whether the token starts a new line, and it carries what the grammar depends on: the kind of function
it is in, and the markup that is still open.
-/

namespace LivePreview.Script

open Text (byteSize)

/-! ### Space and comments -/

/-- Does the character end a line? -/
def isLineEnd (c : Char) : Bool :=
  c == '\n' || c == '\r' || c == '\u2028' || c == '\u2029'

/-- The spaces of scripts beyond ASCII. -/
def wideSpaces : Text.Ranges :=
  [(0x85, 0x85), (0xA0, 0xA0), (0x1680, 0x1680), (0x2000, 0x200B), (0x202F, 0x202F),
   (0x205F, 0x205F), (0x3000, 0x3000), (0xFEFF, 0xFEFF)]

/-- Is the character a space that ends no line? -/
def isSpace (c : Char) : Bool :=
  c == ' ' || c == '\t' || c == '\x0b' || c == '\x0c' || wideSpaces.has c.toNat

/-- The text behind spaces and comments, the bytes of what was skipped, and whether a line ended
there. A comment that is not closed is left. -/
def skipSpace (text : List Char) : List Char × Nat × Bool :=
  match text with
  | [] => ([], 0, false)
  | '/' :: '/' :: rest =>
    let (last, size, fresh) := skipSpace (rest.dropWhile (!isLineEnd ·))
    (last, 2 + byteSize (rest.takeWhile (!isLineEnd ·)) + size, fresh)
  | '/' :: '*' :: rest =>
    match _h : Text.cutAt? ['*', '/'] rest with
    | some (inner, after) =>
      let (last, size, fresh) := skipSpace after
      (last, 4 + byteSize inner + size, fresh || inner.any isLineEnd)
    | none => (text, 0, false)
  | c :: rest =>
    if isLineEnd c || isSpace c then
      let (last, size, fresh) := skipSpace rest
      (last, Text.charBytes c + size, fresh || isLineEnd c)
    else (text, 0, false)
termination_by text.length
decreasing_by
  · have h := congrArg List.length
      (List.takeWhile_append_dropWhile (p := (!isLineEnd ·)) (l := rest))
    simp only [List.length_append] at h
    simp only [List.length_cons]
    omega
  · have := congrArg List.length (Text.cutAt?_append _h)
    simp only [List.length_append, List.length_cons, List.length_nil] at this
    simp only [List.length_cons]
    omega
  · simp

/-! ### Cursors -/

/-- What an expression can be used for. -/
inductive Shape
  /-- A value can be assigned to it. -/
  | target
  | other
  deriving Repr, DecidableEq

/-- What the grammar depends on. -/
structure Context where
  /-- Is `in` an operator? -/
  allowsIn : Bool := true
  allowsYield : Bool := false
  allowsAwait : Bool := true
  allowsReturn : Bool := false
  /-- Is only declared, and not defined, what stands here? -/
  ambient : Bool := false
  /-- Does an arrow function with the type of its result have to be followed by a colon? -/
  beforeColon : Bool := false
  /-- Is the type compared with another, so that a question mark behind it belongs outside? -/
  inCondition : Bool := false
  deriving Repr

/-- A cursor. -/
structure Cursor where
  rest : List Char
  /-- The bytes in front of the token. -/
  start : Nat
  /-- The bytes up to the end of the token before. -/
  stop : Nat
  /-- Does the token start a new line? -/
  fresh : Bool
  /-- What the last expression can be used for. -/
  shape : Shape := .other
  context : Context := {}
  /-- The names of the open elements in markup, innermost first. -/
  elements : List (List Char) := []

namespace Cursor

/-- Skips spaces and comments. -/
def skip (c : Cursor) : Cursor :=
  let (rest, size, fresh) := skipSpace c.rest
  { c with rest, start := c.start + size, fresh := c.fresh || fresh }

/-- The cursor behind a token, with nothing skipped. -/
def behind (c : Cursor) (taken : Taken) : Cursor :=
  let stop := c.start + byteSize taken.1
  { c with rest := taken.2, start := stop, stop, fresh := false }

/-- The cursor in front of the token behind one. -/
def next (c : Cursor) (taken : Taken) : Cursor :=
  (c.behind taken).skip

/-- The cursor at the start of a script. A first line that names an interpreter is skipped. -/
def ofScript (source : List Char) : Cursor :=
  let c : Cursor := { rest := source, start := 0, stop := 0, fresh := true }
  match source with
  | '#' :: '!' :: _ =>
    (c.next (source.takeWhile (!isLineEnd ·), source.dropWhile (!isLineEnd ·)))
  | _ => c.skip

/-- Is the cursor at the end of the script? -/
def atEnd (c : Cursor) : Bool := c.rest.isEmpty

/-! ### Tokens with values -/

/-- Reads a word. -/
def word? (word : String) (c : Cursor) : Option Cursor :=
  (Script.word? word c.rest).map c.next

/-- Reads a mark. -/
def mark? (mark : String) (c : Cursor) : Option Cursor :=
  (Script.mark? mark c.rest).map c.next

/-- Reads a name that is no reserved word. -/
def identifier? (c : Cursor) : Option (String × Cursor) :=
  (Script.identifier? c.rest).map fun (value, taken) => (value, c.next taken)

/-- Reads a name. -/
def name? (c : Cursor) : Option (String × Cursor) :=
  (Script.name? c.rest).map fun (value, taken) => (value, c.next taken)

/-- Reads a string. -/
def string? (c : Cursor) : Option (String × Cursor) :=
  (Script.string? c.rest).map fun (value, taken) => (value, c.next taken)

/-- Reads what ends a statement: a semicolon, or nothing in front of a closing brace, at the end, and
on a new line. -/
def statementEnd? (c : Cursor) : Option Cursor :=
  match c.mark? ";" with
  | some next => some next
  | none => if c.fresh || c.atEnd || c.rest.head? = some '\x7d' then some c else none

end Cursor

end LivePreview.Script
