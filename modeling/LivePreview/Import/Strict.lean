import LivePreview.Config
import LivePreview.Import.Scan
import LivePreview.Script.Module
/-!
# LivePreview.Import.Strict

The **strict scan** takes the import statements from a parser of modules. Each declaration at the top
level of a module that parses is a statement; its range is widened to the start of its line if only
blanks stand before it, and through the line's end if only blanks follow. A module that does not
parse is scanned line by line.
-/

namespace LivePreview

open Text
open Script (ImportDeclaration ImportSpecifier)

namespace ImportScan

/-- The range of a declaration in a source, widened to whole lines where only blanks stand beside
it. -/
def widen (source : List Char) (d : ImportDeclaration) : SourceSpan :=
  let lead := (takeBytes d.start source).reverse.takeWhile (· != '\n')
  let behind := dropBytes d.stop source
  let tail := behind.takeWhile (· != '\n')
  let feed := if tail.length < behind.length then 1 else 0
  { start := if allBlank lead then d.start - byteSize lead else d.start
    stop := if allBlank tail then d.stop + byteSize tail + feed else d.stop }

/-- The items that a declaration binds by name. Types are passed over, and so is a name that the
declaration binds already. -/
def namedItems (seen : List String) : List ImportSpecifier → List NamedImport
  | [] => []
  | .default name :: rest => namedItems (name :: seen) rest
  | .everything name :: rest => namedItems (name :: seen) rest
  | .named exported localName typeOnly :: rest =>
    if typeOnly || seen.contains localName then namedItems seen rest
    else ⟨exported, localName⟩ :: namedItems (localName :: seen) rest

/-- The kind of a declaration with these specifiers. -/
def kindOf (specifiers : List ImportSpecifier) (named : List NamedImport) : ImportKind :=
  if specifiers.any fun s => s matches .everything _ then .allExports
  else if specifiers.any fun s => s matches .default _ then
    if named.isEmpty then .default else .defaultNamed
  else .named

/-- The record of a declaration. -/
def recordOf (source : List Char) (d : ImportDeclaration) : ImportRecord :=
  let base : ImportRecord :=
    { kind := .sideEffect, module := d.module, span := widen source d, typeOnly := d.typeOnly }
  match d.specifiers with
  | none => base
  | some specifiers =>
    let named := namedItems [] specifiers
    { base with
      kind := kindOf specifiers named
      defaultName := specifiers.findSome? fun
        | .default name => some name
        | _ => none
      namespaceName := specifiers.findSome? fun
        | .everything name => some name
        | _ => none
      named }

/-- The scan of a source by its declarations. -/
def ofDeclarations (source : String) (declarations : List ImportDeclaration) : ImportScan :=
  let text := source.toList
  let records := declarations.map (recordOf text)
  { records
    stripped := String.ofList (sweep (removeSpans text (records.map (·.span))))
    dropped := [] }

/-- A parser of modules: the import declarations at the top level of a module that parses. -/
abbrev ModuleParser := List Char → Option (List ImportDeclaration)

/-- The scan of a source in a mode, with a parser of modules. -/
def ofSourceBy (parse : ModuleParser) (mode : ScanMode) (source : String) : ImportScan :=
  match mode with
  | .heuristic => ofLines source
  | .strict =>
    match parse source.toList with
    | some declarations => ofDeclarations source declarations
    | none => ofLines source

/-- The scan of a source in a mode. -/
def ofSource (mode : ScanMode) (source : String) : ImportScan :=
  ofSourceBy Script.importDeclarations? mode source

end ImportScan

end LivePreview
