import LivePreview.Code.ExportList
/-!
# LivePreview.Code.Exports

**Exports** of a module body. The body has to run inside a function, so `export` goes and what is
exported stays, under its own name. A default export that is a declaration keeps its name; any
other is bound to a name that the caller supplies.

The names are collected in the order of the sweeps: export lists first, then declarations.
-/

namespace LivePreview.Code

open Text

/-- A module body without export syntax. -/
structure StrippedModule where
  code : List Char
  /-- The name that the default export can be reached under. -/
  defaultBinding : Option String := none
  /-- The name under which a default export was declared. -/
  defaultDeclared : Option String := none
  exports : List ExportName := []
  deriving Repr

/-! ### The default export -/

/-- The first place of a default export: what stands before it, the blanks that indent it, and what
is exported. -/
def cutDefault? (text : List Char) : Option (List Char × List Char × List Char) := do
  let reader := fun line => do
    let rest ← wordGap? "default" (← exportGap? line)
    return (⟨(), [], rest⟩ : Hit Unit)
  let (before, hit) ← firstHit? reader true text
  let line := text.drop before.length
  return (before, line.takeWhile isSpaceOrTab, hit.rest)

/-- The name of a function declaration, behind an optional `async`. The star of a generator and
the blanks around it do not matter; a parameter list has to follow. -/
def functionName? (text : List Char) : Option (List Char) := do
  let rest := trimStart (← word? "function" (skipWordGap "async" text))
  let (name, rest) ← takeIdent? (trimStart (skipChar '*' rest))
  match trimStart rest with
  | c :: _ => if c == '(' || c == '<' then some name else none
  | [] => none

/-- The name of a class declaration, behind an optional `async`. Dollar signs at its end do not
belong to it. -/
def className? (text : List Char) : Option (List Char) := do
  let (name, _) ← takeIdent? (← wordGap? "class" (skipWordGap "async" text))
  let name := dropEndWhile (· == '$') name
  guard (!name.isEmpty)
  return name

/-- The name that a default export declares. -/
def declaredName? (text : List Char) : Option (List Char) :=
  match functionName? text <|> className? text with
  | some name => if name = "extends".toList then none else some name
  | none => none

/-- The name that makes up a default export, up to a semicolon or the end of the line. -/
def soleName? (text : List Char) : Option (List Char) := do
  let (name, rest) ← takeIdent? text
  match skipSpaces rest with
  | [] => some name
  | c :: after =>
    let closes := c == ';' || c == '\n' ||
      (c == '\r' && (after.isEmpty || after.head? == some '\n'))
    if closes then some name else none

/-- Strips the first default export. -/
def stripDefault (defaultLocal : String) (m : StrippedModule) : StrippedModule :=
  match cutDefault? m.code with
  | none => m
  | some (before, indent, rest) =>
    match declaredName? rest with
    | some name =>
      { m with
        code := before ++ indent ++ rest
        defaultBinding := some (String.ofList name)
        defaultDeclared := some (String.ofList name) }
    | none =>
      { m with
        code := before ++ indent ++ ("const " ++ defaultLocal ++ " = ").toList ++ rest
        defaultBinding := some defaultLocal
        defaultDeclared := (soleName? rest).map String.ofList }

/-! ### Declarations -/

/-- The name that a declaration introduces, and the text behind the name. A function may be
asynchronous or a generator, an enumeration constant. -/
def declaration? (text : List Char) : Option (List Char × List Char) :=
  let name? := fun (text : Option (List Char)) => text.bind takeIdent?
  let function? := (word? "function" (skipWordGap "async" text)).map fun rest =>
    trimStart (skipChar '*' (trimStart rest))
  name? function?
    <|> name? (wordGap? "class" text)
    <|> name? (wordGap? "enum" (skipWordGap "const" text))
    <|> name? (wordGap? "const" text)
    <|> name? (wordGap? "let" text)
    <|> name? (wordGap? "var" text)

/-- An exported declaration at the start of a line. -/
def exportedDeclaration? (line : List Char) : Option (Hit ExportName) := do
  let declared ← exportGap? line
  let (name, rest) ← declaration? declared
  let name := String.ofList name
  return ⟨⟨name, name⟩, line.takeWhile isSpaceOrTab ++
    declared.take (declared.length - rest.length), rest⟩

/-- `export` and the gap behind it at the start of a line. -/
def exportKeyword? (line : List Char) : Option (Hit Unit) := do
  return ⟨(), line.takeWhile isSpaceOrTab, ← exportGap? line⟩

/-- Strips export syntax from a module body; `defaultLocal` is the name for a default export that
has none. -/
def stripExports (defaultLocal : String) (text : List Char) : StrippedModule :=
  let (code, listed) := stripExportLists text
  let carried := (listed.find? (·.exported == "default")).map (·.localName)
  let m := stripDefault defaultLocal { code, defaultBinding := carried }
  let (declared, code) := sweep exportedDeclaration? true m.code
  let (_, code) := sweep exportKeyword? true code
  { m with code, exports := listed ++ declared }

end LivePreview.Code
