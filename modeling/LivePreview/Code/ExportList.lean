import LivePreview.Code.LineSweep
import LivePreview.Text.Word
/-!
# LivePreview.Code.ExportList

**Export lists and re-exports.** Statements that only pass names on have no place inside a
function body. Four sweeps remove them, one kind each: re-exports of everything, re-exports of a
list, lists of types, and lists of the module's own names. Only the last kind leaves something
behind, the names.
-/

namespace LivePreview.Code

open Text

/-- A name that a module exports, and the name it has inside. -/
structure ExportName where
  localName : String
  exported : String
  deriving Repr, DecidableEq, Inhabited

/-! ### Lists of names -/

/-- One item of an export list. -/
def exportItem? (part : List Char) : Option ExportName :=
  match words part with
  | [] => none
  | name :: more =>
    if isIdent name then
      let exported := match more with
        | ['a', 's'] :: newName :: _ => newName
        | _ => name
      some ⟨String.ofList name, String.ofList exported⟩
    else none

/-- The items of an export list; types are passed over. -/
def exportItems (list : List Char) : List ExportName :=
  (splitAtChar ',' list).filterMap fun part =>
    let part := trim part
    if startsWith "type ".toList part then none else exportItem? part

/-! ### Statements -/

/-- Takes `export` and a gap off the front of a line. -/
def exportGap? (text : List Char) : Option (List Char) :=
  wordGap? "export" (skipSpaces text)

/-- Takes `from` and a quoted module name off the front. The name is not empty and holds neither
quotes nor line feeds. -/
def fromName? (text : List Char) : Option (List Char) := do
  let isQuote := fun c => c == '"' || c == '\''
  match trimStart (← word? "from" text) with
  | quote :: rest =>
    guard (isQuote quote)
    let inName := fun c => !isQuote c && c != '\n'
    guard (!(rest.takeWhile inName).isEmpty)
    match rest.dropWhile inName with
    | c :: after => if isQuote c then some after else none
    | [] => none
  | [] => none

/-- What removes a statement. -/
def remove {α : Type} (result : α) (rest : List Char) : Hit α :=
  ⟨result, [], skipLineEnd rest⟩

/-- A re-export of everything: `export * from "m"`, also under a name. -/
def starReexport? (text : List Char) : Option (Hit Unit) := do
  let rest ← word? "*" (skipWordGap "type" (← exportGap? text))
  let rest := trimStart rest
  let rest ← match wordGap? "as" rest with
    | some named => do
      let (_, after) ← takeIdent? named
      gap? after
    | none => some rest
  return remove () (← fromName? rest)

/-- A re-export of a list: `export { a } from "m"`. -/
def listReexport? (text : List Char) : Option (Hit Unit) := do
  let (_, rest) ← between? '\x7b' '\x7d' (skipWordGap "type" (← exportGap? text))
  return remove () (← fromName? (trimStart rest))

/-- A list of types: `export type { T }`. -/
def typeList? (text : List Char) : Option (Hit Unit) := do
  let (_, rest) ← between? '\x7b' '\x7d' (← wordGap? "type" (← exportGap? text))
  return remove () rest

/-- A list of the module's own names: `export { a, b as c }`. -/
def exportList? (text : List Char) : Option (Hit (List ExportName)) := do
  let (list, rest) ← between? '\x7b' '\x7d' (trimStart (← word? "export" (skipSpaces text)))
  return remove (exportItems list) rest

/-- The text without export lists and re-exports, and the names that the lists export. -/
def stripExportLists (text : List Char) : List Char × List ExportName :=
  let (_, text) := sweep starReexport? true text
  let (_, text) := sweep listReexport? true text
  let (_, text) := sweep typeList? true text
  let (names, text) := sweep exportList? true text
  (text, names.flatten)

end LivePreview.Code
