import LivePreview.Code.LineSweep
import LivePreview.Code.Reading
import LivePreview.Text.Word
/-!
# LivePreview.Code.TypeDeclaration

**Type declarations** are aliases (`type T = …`) and interfaces at the start of a line. They mean
nothing at run time and are removed, with the line end behind them.

Where a declaration begins is recognised by its head (`typeHead?`); heads are looked for in the
whole text first, each behind the one before, and a head inside a declaration that was removed
already counts for nothing. Where it ends is decided by walking over it (`Walk`): brackets are
balanced, literals and comments skipped; an interface ends with the brace that closes its body,
an alias at a semicolon outside brackets or at a line end that it does not reach over.
-/

namespace LivePreview.Code

open Text

/-! ### Heads -/

/-- Is this, between an interface's name and its brace, a list of what it extends, or nothing? -/
def isExtends (text : List Char) : Bool :=
  let text := trimStart text
  text.isEmpty || ((word? "extends" text).bind gap?).isSome

/-- Can one of the suffixes behind a `>` follow the parameters of an interface? -/
def closesParameters : List Char → Bool
  | [] => false
  | c :: rest => (c == '>' && isExtends rest) || closesParameters rest

/-- Is this, between an interface's name and its brace, all that may stand there: parameters, then
a list of what it extends? -/
def isInterfaceMiddle (text : List Char) : Bool :=
  isExtends text ||
  match trimStart text with
  | '<' :: rest => closesParameters rest
  | _ => false

/-- The head of an interface behind its keyword: the text from its brace on. The name may run
into `extends`. -/
def interfaceHead? (text : List Char) : Option (List Char) := do
  let (name, rest) ← takeIdent? text
  let inMiddle := fun c => c != '\x7b' && c != ';'
  let middle := rest.takeWhile inMiddle
  match rest.dropWhile inMiddle with
  | '\x7b' :: after =>
    let runsOn := match dropLead? "sdnetxe".toList name.reverse with
      | some (_ :: _) => (gap? middle).isSome
      | _ => false
    if isInterfaceMiddle middle || runsOn then some after else none
  | _ => none

/-- The head of a type declaration at the start of a line: whether it is an interface, and the
text behind the head. -/
def typeHead? (text : List Char) : Option (Hit Bool) := do
  let text := skipWordGap "declare" (skipWordGap "export" (skipSpaces text))
  match wordGap? "type" text with
  | some rest =>
    let (_, rest) ← takeIdent? rest
    match trimStart rest with
    | c :: after => if c == '<' || c == '=' then some ⟨false, [], after⟩ else none
    | [] => none
  | none => do
    let after ← interfaceHead? (← wordGap? "interface" text)
    return ⟨true, [], after⟩

/-- The heads in a text, each with the number of characters in front of it. -/
def typeHeads.go (offset : Nat) : Nat → Bool → List Char → List (Nat × Bool)
  | 0, _, _ => []
  | fuel + 1, atStart, text =>
    match firstHit? typeHead? atStart text with
    | none => []
    | some (before, hit) =>
      let taken := text.length - hit.rest.length
      (offset + before.length, hit.result) ::
        typeHeads.go (offset + taken) fuel (startsLine text hit.rest) hit.rest

/-- The heads in a text: how many characters stand in front of each, and whether it belongs to an
interface. Each takes at least one character. -/
def typeHeads (text : List Char) : List (Nat × Bool) :=
  typeHeads.go 0 (text.length + 1) true text

/-! ### Ends -/

/-- A walk over a declaration. -/
structure Walk where
  /-- Does it declare an interface? -/
  isInterface : Bool
  place : Reading := .code
  /-- How many brackets are open. -/
  depth : Nat := 0
  /-- Was the body reached: the brace of an interface, the equals sign of an alias? -/
  inBody : Bool := false
  /-- What was walked over, backwards. -/
  back : List Char := []

namespace Walk

/-- Moves over a character that is no bracket. -/
def move (w : Walk) (c : Char) : Walk :=
  { w with place := w.place.step false c, back := c :: w.back }

/-- Does an alias reach over a line end, by what stands before it or what follows? -/
def reachesOver (back after : List Char) : Bool :=
  startsWith ['>', '='] (back.dropWhile isBlank) ||
  (match back.dropWhile isAsciiBlank with
    | c :: _ => "=|&,:?(<\x7b[".toList.contains c
    | [] => false) ||
  match after.dropWhile isAsciiBlank with
  | '=' :: rest => rest.head? == some '>'
  | c :: rest => "|&?:.".toList.contains c || startsWith "extends ".toList (c :: rest)
  | [] => false

/-- Is `c` an opening bracket? -/
def opens (c : Char) : Bool :=
  c == '(' || c == '[' || c == '\x7b' || c == '<'

/-- Is `c` a closing bracket? -/
def closes (c : Char) : Bool :=
  c == ')' || c == ']' || c == '\x7d' || c == '>'

/-- Moves over a character of plain code, unless the declaration ends there: then the flag tells
whether the character belongs to it. -/
def overCode (w : Walk) (c : Char) (after : List Char) : Walk ⊕ Bool :=
  if c == '>' && w.back.head? == some '=' then .inl (w.move c)
  else if opens c then
    .inl { w.move c with
      depth := w.depth + 1, inBody := w.inBody || (c == '\x7b' && w.isInterface) }
  else if closes c then
    let depth := w.depth - 1
    if depth == 0 && w.isInterface && w.inBody && c == '\x7d' then .inr true
    else .inl { w.move c with depth }
  else if c == '=' && w.depth == 0 && !w.isInterface then .inl { w.move c with inBody := true }
  else if c == ';' && w.depth == 0 then .inr true
  else if c == '\n' && w.depth == 0 && w.inBody && !w.isInterface && !reachesOver w.back after then
    .inr false
  else .inl (w.move c)

/-- The text behind the declaration. The line end behind a comment counts as code. -/
def rest (w : Walk) : List Char → List Char
  | [] => []
  | c :: text =>
    if w.place.isCode || (w.place == .lineComment && c == '\n') then
      match w.overCode c text with
      | .inl w => rest w text
      | .inr takes => if takes then text else c :: text
    else rest (w.move c) text

end Walk

/-- The text behind a declaration that begins the text, and behind the line end that follows. -/
def afterDeclaration (isInterface : Bool) (text : List Char) : List Char :=
  let rest := Walk.rest { isInterface } text
  skipChar '\n' (rest.dropWhile fun c => c == ' ' || c == '\t' || c == '\r')

/-! ### Removal -/

/-- Removes the declarations with these heads; `cursor` counts the characters in front of the
text. -/
def stripTypes.go (cursor : Nat) (text : List Char) : List (Nat × Bool) → List Char
  | [] => text
  | (start, isInterface) :: heads =>
    if start < cursor then stripTypes.go cursor text heads
    else
      let declaration := text.drop (start - cursor)
      let rest := afterDeclaration isInterface declaration
      text.take (start - cursor) ++
        stripTypes.go (start + (declaration.length - rest.length)) rest heads

/-- The text without type declarations. -/
def stripTypes (text : List Char) : List Char :=
  stripTypes.go 0 text (typeHeads text)

end LivePreview.Code
