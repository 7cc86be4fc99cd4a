/-!
# LivePreview.Import.Record

**Import records**: what one `import` statement of a component brings in, and where it stood.
The names of a record are the identifiers that the statement binds; a record that is marked
as types only binds nothing when the component runs, but its text is removed all the same.
-/

namespace LivePreview

/-- A range of bytes of the source. -/
structure SourceSpan where
  /-- The first byte of the range. -/
  start : Nat
  /-- The first byte after the range. -/
  stop : Nat
  deriving Repr, DecidableEq, Inhabited

/-- The five shapes of an import statement. -/
inductive ImportKind
  /-- A module that is loaded for its effect and binds nothing. -/
  | sideEffect
  /-- All exports, bound to one name. -/
  | allExports
  /-- A list of exports. -/
  | named
  /-- The default export. -/
  | default
  /-- The default export and a list of exports. -/
  | defaultNamed
  deriving Repr, DecidableEq, Inhabited

/-- One export and the identifier that it is bound to. -/
structure NamedImport where
  /-- The name that the module exports. -/
  exported : String
  /-- The identifier that the component uses. -/
  localName : String
  deriving Repr, DecidableEq, Inhabited

/-- An import statement. -/
structure ImportRecord where
  kind : ImportKind
  /-- The specifier after `from`. -/
  module : String
  /-- The range that is cut out of the source for this statement. -/
  span : SourceSpan
  defaultName : Option String := none
  namespaceName : Option String := none
  named : List NamedImport := []
  /-- Only types are imported: nothing is bound at run time. -/
  typeOnly : Bool := false
  deriving Repr, DecidableEq, Inhabited

/-- The identifiers that the record binds, in the order in which they are declared. -/
def ImportRecord.localNames (record : ImportRecord) : List String :=
  record.defaultName.toList ++ record.namespaceName.toList ++ record.named.map (·.localName)

end LivePreview
