import LivePreview.Code.Reading
import LivePreview.Import.Record
import LivePreview.Text.Reader
import LivePreview.Text.Word
/-!
# LivePreview.Import.Statement

The **shapes of an import statement**. A statement is freed of comments, its runs of blanks
become single spaces and its semicolons are cut off; what is left is tried against five
shapes in a fixed order, and the first that fits the whole text gives the record.

Each shape is a chain of small readers. A reader takes what it recognises off the front of the
text and hands on the rest; none of them looks back, because a name and the blank after it
never share a character. The one choice is the word `type` behind `import`, which is a marker
if a name can still follow and a name otherwise.
-/

namespace LivePreview

open Text

namespace ImportStatement

/-! ### Comments -/

/-- What a character of a statement is part of. -/
inductive Inside
  /-- Plain text. -/
  | code
  /-- A literal that was opened by this quote. -/
  | quoted (quote : Char)
  /-- A literal, right behind a backslash. -/
  | escaped (quote : Char)
  /-- A comment that ends with the line. -/
  | lineComment
  /-- A comment that ends with `*/`. -/
  | blockComment

/-- Removes the comments that stand outside literals, where `inside` tells what the text begins
in. A closed comment leaves a space, so that it still separates its neighbours. -/
def withoutComments.go : Inside → List Char → List Char
  | .blockComment, [] => [' ']
  | _, [] => []
  | .code, '/' :: '/' :: rest => withoutComments.go .lineComment rest
  | .code, '/' :: '*' :: rest => withoutComments.go .blockComment rest
  | .code, c :: rest =>
    c :: withoutComments.go (if Code.Reading.isQuote c then .quoted c else .code) rest
  | .quoted q, c :: rest =>
    c :: withoutComments.go (if c = '\\' then .escaped q else if c = q then .code else .quoted q) rest
  | .escaped q, c :: rest => c :: withoutComments.go (.quoted q) rest
  | .lineComment, c :: rest =>
    if c = '\n' then c :: withoutComments.go .code rest else withoutComments.go .lineComment rest
  | .blockComment, '*' :: '/' :: rest => ' ' :: withoutComments.go .code rest
  | .blockComment, _ :: rest => withoutComments.go .blockComment rest

/-- The text without its comments. -/
def withoutComments (text : List Char) : List Char :=
  withoutComments.go .code text

/-- The text of a statement as the shapes see it: no comments, single spaces, no semicolon at
the end. -/
def normalize (text : List Char) : List Char :=
  trimEnd (dropEndWhile (· == ';') (collapseBlanks (trim (withoutComments text))))

/-! ### Readers -/

/-- Reads a quoted module name that ends the text. The closing quote need not be the one that
opened it, but neither quote stands in between. -/
def module? : List Char → Option String
  | quote :: rest =>
    let isEnd := fun c => c == '"' || c == '\''
    let name := rest.takeWhile (!isEnd ·)
    match rest.dropWhile (!isEnd ·) with
    | [_] => if isEnd quote && !name.isEmpty then some (String.ofList name) else none
    | _ => none
  | [] => none

/-- Reads `from` and the module name that ends the text. -/
def fromModule? (text : List Char) : Option String := do
  module? (trimStart (← word? "from" text))

/-- Reads a braced list: the text between the braces and what follows them. -/
def braced? (text : List Char) : Option (List Char × List Char) :=
  (between? '\x7b' '\x7d' text).map fun (list, after) => (list, trimStart after)

/-- Reads the gap behind `import`, and the word `type` with its gap if `marked`. -/
def lead? (marked : Bool) (text : List Char) : Option (List Char) := do
  let rest ← gap? (← word? "import" text)
  if marked then gap? (← word? "type" rest) else return rest

/-! ### Named lists -/

/-- One item of a named list: the exported name and the identifier that it is bound to. Quotes
around the exported name are dropped. -/
def item (part : List Char) : NamedImport :=
  let (exported, localName) :=
    match words part with
    | [exported, ['a', 's'], localName] => (exported, localName)
    | _ => (part, part)
  ⟨String.ofList (stripWhile (fun c => c == '"' || c == '\'') exported), String.ofList localName⟩

/-- Collects the items whose identifier is well formed and not yet `seen`; types are passed
over. -/
def items.go (seen : List String) : List (List Char) → List NamedImport
  | [] => []
  | part :: rest =>
    let part := trim part
    if part.isEmpty || startsWith "type ".toList part then items.go seen rest
    else
      let it := item part
      if isIdent it.localName.toList && !seen.contains it.localName then
        it :: items.go (it.localName :: seen) rest
      else items.go seen rest

/-- The items of a named list. -/
def items (list : List Char) : List NamedImport :=
  items.go [] (splitAtChar ',' list)

/-! ### The five shapes -/

/-- A module for its effect: `import "m"`. -/
def sideEffect? (span : SourceSpan) (text : List Char) : Option ImportRecord := do
  let module ← module? (trimStart (← word? "import" text))
  return { kind := .sideEffect, module, span }

/-- All exports: `import * as n from "m"`. -/
def allExports? (span : SourceSpan) (marked : Bool) (text : List Char) :
    Option ImportRecord := do
  let rest ← word? "*" (← lead? marked text)
  let rest ← gap? (← word? "as" (trimStart rest))
  let (name, rest) ← takeIdent? rest
  let module ← fromModule? (← gap? rest)
  return { kind := .allExports, module, span, namespaceName := some (String.ofList name),
           typeOnly := marked }

/-- A named list: `import { a, b as c } from "m"`. -/
def named? (span : SourceSpan) (marked : Bool) (text : List Char) : Option ImportRecord := do
  let rest := trimStart (← word? "import" text)
  let rest ← if marked then (word? "type" rest).map trimStart else some rest
  let (list, rest) ← braced? rest
  let module ← fromModule? rest
  return { kind := .named, module, span, named := items list, typeOnly := marked }

/-- The default export and a named list: `import d, { a } from "m"`. The list does not bind the
default's name a second time. -/
def defaultNamed? (span : SourceSpan) (marked : Bool) (text : List Char) :
    Option ImportRecord := do
  let (name, rest) ← takeIdent? (← lead? marked text)
  let rest ← word? "," (trimStart rest)
  let (list, rest) ← braced? (trimStart rest)
  let module ← fromModule? rest
  let name := String.ofList name
  return { kind := .defaultNamed, module, span, defaultName := some name,
           named := (items list).filter (·.localName != name), typeOnly := marked }

/-- The default export: `import d from "m"`. -/
def default? (span : SourceSpan) (marked : Bool) (text : List Char) : Option ImportRecord := do
  let (name, rest) ← takeIdent? (← lead? marked text)
  let module ← fromModule? (← gap? rest)
  return { kind := .default, module, span, defaultName := some (String.ofList name),
           typeOnly := marked }

/-- The shape of a normalised statement. With the marker `type` is tried before without. -/
def shape? (span : SourceSpan) (text : List Char) : Option ImportRecord :=
  sideEffect? span text
    <|> allExports? span true text <|> allExports? span false text
    <|> named? span true text <|> named? span false text
    <|> defaultNamed? span true text <|> defaultNamed? span false text
    <|> default? span true text <|> default? span false text

/-- The record of a statement that was found at `span`. -/
def parse? (span : SourceSpan) (statement : List Char) : Option ImportRecord :=
  shape? span (normalize statement)

end ImportStatement

end LivePreview
