import LivePreview.Script.Statements
/-!
# LivePreview.Script.ImportDeclaration

**Import declarations**: what they bind, the module they are about, and the bytes they take up. Words
such as `type` and `from` are names where a name has to stand, and marks where one cannot.
-/

namespace LivePreview.Script

/-- What a declaration binds. -/
inductive ImportSpecifier
  /-- The default export. -/
  | default (localName : String)
  /-- All exports. -/
  | everything (localName : String)
  /-- One export, by its name; it may be a type only. -/
  | named (exported localName : String) (typeOnly : Bool)
  deriving Repr, DecidableEq, Inhabited

/-- A declaration and the bytes that it takes up. -/
structure ImportDeclaration where
  start : Nat
  stop : Nat
  module : String
  /-- Only types are imported. -/
  typeOnly : Bool
  /-- What is bound; nothing at all if the declaration has no clause. -/
  specifiers : Option (List ImportSpecifier)
  deriving Repr, DecidableEq, Inhabited

/-- A reader that gives a value and the cursor behind. -/
abbrev Reader (α : Type) := Cursor → Option (α × Cursor)

/-! ### Items in braces -/

/-- An export's name, which may be a string. -/
def exportedName? : Reader String := fun c =>
  c.name? <|> c.string?

/-- An item that is no type only: a name, perhaps with another one. -/
def plainItem? (typeOnly : Bool) : Reader ImportSpecifier := fun c =>
  let renamed := do
    let (exported, c) ← exportedName? c
    let c ← c.word? "as"
    let (localName, c) ← c.identifier?
    return (.named exported localName typeOnly, c)
  renamed <|> do
    let (name, c) ← c.identifier?
    return (.named name name typeOnly, c)

/-- Does an item end here? -/
def atItemEnd (c : Cursor) : Bool :=
  c.rest.head? = some ',' || c.rest.head? = some '\x7d'

/-- An item. The word `type` in front of it makes it a type only, unless it is itself the name. Where
the declaration is about types anyway, the word cannot be repeated. -/
def importItem? (typesAnyway : Bool) : Reader ImportSpecifier := fun c =>
  let ended := fun (r : Option (ImportSpecifier × Cursor)) => r.filter fun (_, c) => atItemEnd c
  ended (plainItem? false c) <|> do
    guard !typesAnyway
    ended (plainItem? true (← c.word? "type"))

/-- Items up to the closing brace, at most so many. -/
def importItems? (typesAnyway : Bool) : Nat → Reader (List ImportSpecifier)
  | 0, _ => none
  | limit + 1, c =>
    match c.mark? "\x7d" with
    | some c => some ([], c)
    | none => do
      let (found, c) ← importItem? typesAnyway c
      match c.mark? "," with
      | some c =>
        let (more, c) ← importItems? typesAnyway limit c
        return (found :: more, c)
      | none =>
        let c ← c.mark? "\x7d"
        return ([found], c)

/-! ### Clauses -/

/-- All exports under one name. -/
def everything? : Reader (List ImportSpecifier) := fun c => do
  let c ← c.mark? "*"
  let c ← c.word? "as"
  let (name, c) ← c.identifier?
  return ([.everything name], c)

/-- Items in braces. -/
def bracedItems? (typesAnyway : Bool) : Reader (List ImportSpecifier) := fun c => do
  let c ← c.mark? "\x7b"
  importItems? typesAnyway (c.rest.length + 1) c

/-- The default export, perhaps with more. -/
def defaultClause? (typesAnyway : Bool) : Reader (List ImportSpecifier) := fun c => do
  let (name, c) ← c.identifier?
  match c.mark? "," with
  | some c =>
    let (more, c) ← everything? c <|> bracedItems? typesAnyway c
    return (.default name :: more, c)
  | none => return ([.default name], c)

/-- A clause, and the module that it is about. -/
def clauseFrom? (clause : Reader (List ImportSpecifier)) :
    Reader (List ImportSpecifier × String) := fun c => do
  let (specifiers, c) ← clause c
  let c ← c.word? "from"
  let (module, c) ← c.string?
  return ((specifiers, module), c)

/-- Any clause. -/
def anyClause? (typesAnyway : Bool) : Reader (List ImportSpecifier) := fun c =>
  defaultClause? typesAnyway c <|> everything? c <|> bracedItems? typesAnyway c

/-- A clause with a single default export. -/
def singleClause? : Reader (List ImportSpecifier) := fun c => do
  let (name, c) ← c.identifier?
  return ([.default name], c)

/-- The kind of the import, its clause and its module. A word in front that tells the kind counts only
if a clause follows it; otherwise it is a name itself. -/
def clauseWithKind? : Reader (Bool × List ImportSpecifier × String) := fun c =>
  let after := fun (word : String) (typeOnly : Bool) (clause : Reader (List ImportSpecifier)) => do
    let (found, c) ← clauseFrom? clause (← c.word? word)
    return ((typeOnly, found), c)
  after "type" true (anyClause? true) <|> after "source" false singleClause? <|>
    after "defer" false everything? <|> do
      let (found, c) ← clauseFrom? (anyClause? false) c
      return ((false, found), c)

/-! ### Declarations -/

/-- How many steps within each other a script of this length can need. -/
def stepLimit (c : Cursor) : Nat := 128 * (c.rest.length + 16)

/-- Reads the attributes of an import. They use no rules. -/
def skipAttributes? (c : Cursor) : Option Cursor :=
  Form.moduleAttributes.read (fun _ => .alt []) (stepLimit c) c

/-- A declaration. -/
def importDeclaration? : Reader ImportDeclaration := fun c => do
  let inner ← c.word? "import"
  let ((typeOnly, specifiers, module), last) ←
    (inner.string?.map fun (module, c) => ((false, none, module), c)) <|>
      ((clauseWithKind? inner).map fun ((typeOnly, specifiers, module), c) =>
        ((typeOnly, some specifiers, module), c))
  let last ← (← skipAttributes? last).statementEnd?
  return ({ start := c.start, stop := last.stop, module, typeOnly, specifiers }, last)

end LivePreview.Script
