import LivePreview.Import.Record
import LivePreview.Proofs.Text.Lines
import LivePreview.Proofs.Text.Words
/-!
# LivePreview.Proofs.Import.Rendering

**Import statements as they are written.** A record is written in one of several layouts: with single
or double quotes, with or without a semicolon, with its list on one line or one item a line, and with
either line end. A statement is a list of lines, so that what a scanner of lines does with it can be
followed line by line.

What may be written is said by `ImportRecord.Writable`: the kind of a record decides which of its
fields are filled, names are identifiers other than `import` and `type`, and the module name has
nothing in it that would end it.
-/

namespace LivePreview

open Text

/-- How a statement is laid out. -/
structure Layout where
  doubleQuotes : Bool
  semicolon : Bool
  /-- Do lines end with a carriage return and a line feed? -/
  returns : Bool
  /-- If it is given, each item of a list is on a line of its own, behind that many spaces. -/
  spread : Option Nat
  deriving Repr, DecidableEq

namespace Layout

def quote (layout : Layout) : Char :=
  if layout.doubleQuotes then '"' else '\''

theorem quote_cases (layout : Layout) : layout.quote = '"' ∨ layout.quote = '\'' := by
  unfold quote
  split
  · exact .inl rfl
  · exact .inr rfl

theorem isBlank_quote (layout : Layout) : isBlank layout.quote = false := by
  rcases layout.quote_cases with h | h <;> rw [h] <;> decide

theorem isQuote_quote (layout : Layout) : (layout.quote == '"' || layout.quote == '\'') = true := by
  rcases layout.quote_cases with h | h <;> rw [h] <;> decide

def lineEnd (layout : Layout) : List Char :=
  if layout.returns then ['\r', '\n'] else ['\n']

/-- The quoted module name. -/
def quoted (layout : Layout) (module : String) : List Char :=
  layout.quote :: (module.toList ++ [layout.quote])

/-- The semicolon behind it, if there is one. -/
def mark (layout : Layout) : List Char :=
  if layout.semicolon then [';'] else []

end Layout

/-! ### Writing -/

/-- One item of a list: the exported name, and the identifier if it is another one. -/
def NamedImport.written (it : NamedImport) : List Char :=
  if it.exported = it.localName then it.localName.toList
  else it.exported.toList ++ (" as ".toList ++ it.localName.toList)

/-- The items of a list, each behind `gap`. A comma is behind each item but the last one, and behind
that one, too, if `trailing`. -/
def writtenItems (gap : List Char) (trailing : Bool) : List NamedImport → List Char
  | [] => []
  | [it] => gap ++ (it.written ++ if trailing then [','] else [])
  | it :: rest => gap ++ (it.written ++ (',' :: writtenItems gap trailing rest))

namespace ImportRecord

/-- The mark of a statement that imports types. -/
def typeMark (r : ImportRecord) : List Char :=
  if r.typeOnly then "type ".toList else []

/-- What stands between `import` with its mark and the list, or the module name if there is none. -/
def head (r : ImportRecord) : List Char :=
  match r.kind with
  | .sideEffect => []
  | .allExports => "* as ".toList ++ ((r.namespaceName.getD "").toList ++ " from ".toList)
  | .named => ['\x7b']
  | .default => (r.defaultName.getD "").toList ++ " from ".toList
  | .defaultNamed => (r.defaultName.getD "").toList ++ ", \x7b".toList

/-- Does the statement have a list? -/
def hasList (r : ImportRecord) : Bool :=
  r.kind == .named || r.kind == .defaultNamed

/-- The beginning of the statement. -/
def front (r : ImportRecord) : List Char :=
  "import ".toList ++ (r.typeMark ++ r.head)

theorem front_eq (r : ImportRecord) : r.front = "import ".toList ++ (r.typeMark ++ r.head) := by
  unfold front
  rfl

/-- The lines of the statement. -/
def writtenLines (layout : Layout) (r : ImportRecord) : List Line :=
  let close := layout.quoted r.module ++ layout.mark
  let line := fun (content : List Char) => Line.mk content layout.lineEnd
  if r.hasList then
    match layout.spread with
    | none => [line (r.front ++ (writtenItems [' '] false r.named ++ (" \x7d from ".toList ++ close)))]
    | some indent =>
      let gap := List.replicate indent ' '
      line r.front :: r.named.map (fun it => line (gap ++ (it.written ++ [',']))) ++
        [line ("\x7d from ".toList ++ close)]
  else [line (r.front ++ close)]

/-- The text of the statement. -/
def written (layout : Layout) (r : ImportRecord) : List Char :=
  (r.writtenLines layout).flatMap Line.text

/-! ### What may be written -/

/-- The kind decides which fields are filled. -/
inductive Shaped : ImportRecord → Prop
  | sideEffect (module : String) (span : SourceSpan) :
      Shaped { kind := .sideEffect, module, span }
  | allExports (module : String) (span : SourceSpan) (name : String) (typeOnly : Bool) :
      Shaped { kind := .allExports, module, span, namespaceName := some name, typeOnly }
  | named (module : String) (span : SourceSpan) (named : List NamedImport) (typeOnly : Bool) :
      Shaped { kind := .named, module, span, named, typeOnly }
  | default (module : String) (span : SourceSpan) (name : String) (typeOnly : Bool) :
      Shaped { kind := .default, module, span, defaultName := some name, typeOnly }
  | defaultNamed (module : String) (span : SourceSpan) (name : String) (named : List NamedImport)
      (typeOnly : Bool) :
      Shaped { kind := .defaultNamed, module, span, defaultName := some name, named, typeOnly }

/-- The names in a record. -/
def names (r : ImportRecord) : List String :=
  r.localNames ++ r.named.map (·.exported)

end ImportRecord

/-- Can the text be a name in a statement? -/
structure IsName (name : String) : Prop where
  isIdent : isIdent name.toList = true
  ne_type : name ≠ "type"
  ne_import : name ≠ "import"

instance (name : String) : Decidable (IsName name) :=
  decidable_of_iff (isIdent name.toList = true ∧ name ≠ "type" ∧ name ≠ "import")
    ⟨fun h => ⟨h.1, h.2.1, h.2.2⟩, fun h => ⟨h.isIdent, h.ne_type, h.ne_import⟩⟩

/-- Can the text be a module name in a statement? -/
structure IsModule (module : String) : Prop where
  nonempty : module ≠ ""
  plain : ∀ c ∈ module.toList, c ≠ '"' ∧ c ≠ '\'' ∧ c ≠ '\\' ∧ isBlank c = false

instance (module : String) : Decidable (IsModule module) :=
  decidable_of_iff
    (module ≠ "" ∧ module.toList.all
      (fun c => c != '"' && (c != '\'' && (c != '\\' && !isBlank c))) = true)
    ⟨fun h => ⟨h.1, by simpa using h.2⟩, fun h => ⟨h.nonempty, by simpa using h.plain⟩⟩

/-- Can the record be written as a statement? -/
structure ImportRecord.Writable (r : ImportRecord) : Prop where
  shaped : r.Shaped
  names : ∀ name ∈ r.names, IsName name
  distinct : r.localNames.Nodup
  module : IsModule r.module

theorem ImportRecord.Writable.isName_items {r : ImportRecord} (h : r.Writable) :
    ∀ it ∈ r.named, IsName it.exported ∧ IsName it.localName := by
  intro it hi
  refine ⟨h.names it.exported ?_, h.names it.localName ?_⟩
  · exact List.mem_append_right _ (List.mem_map_of_mem hi)
  · exact List.mem_append_left _ (List.mem_append_right _ (List.mem_map_of_mem hi))

end LivePreview
