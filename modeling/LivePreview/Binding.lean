import LivePreview.Dependency
import LivePreview.Import.Record
import LivePreview.Loader
import LivePreview.SiblingFiles
import LivePreview.Stylesheet
/-!
# LivePreview.Binding

**Bindings** give the names of a component's imports their values. Each is a constant whose value is
an expression over the environment object; the expressions are data (`Expr`), so the slots that a
binding reads can be listed (`Expr.slots`) without reading its text.

A name is bound once, by the first import that introduces it; later ones are skipped. A stylesheet
is injected once, in front of the bindings of the first import that names it.
-/

namespace LivePreview

open Text (isIdent)

/-! ### Expressions -/

/-- An expression that a binding evaluates. -/
inductive Expr
  /-- A value that the environment holds under a name. -/
  | environment (name : String)
  /-- A slot of the environment. -/
  | slot (name : String)
  /-- A property. -/
  | member (object : Expr) (name : String)
  /-- An expression in parentheses. -/
  | group (inner : Expr)
  /-- The first value, or the second if the first counts as false. -/
  | or (first second : Expr)
  /-- The first value, or the second if the first is missing. -/
  | coalesce (first second : Expr)
  /-- An object without properties. -/
  | emptyObject
  /-- An object with the properties of both, the second one's winning. -/
  | merge (first second : Expr)
  /-- An object whose every property is a component that shows nothing. -/
  | emptyComponents
  /-- A text. -/
  | text (value : String)
  /-- A JSON value. -/
  | json (value : Json.Value)
  /-- The value of what is missing. -/
  | undefined
  deriving Repr

namespace Expr

/-- The text of a property's object behind which its name stands: `.name` or `["name"]`. -/
def memberText (object name : String) : String :=
  if isIdent name.toList then object ++ "." ++ name
  else object ++ "[" ++ Json.literal name ++ "]"

/-- The text of an expression. -/
def render : Expr → String
  | environment name => "__env." ++ name
  | slot name => Loader.slotText name
  | member object name => memberText object.render name
  | group inner => "(" ++ inner.render ++ ")"
  | or first second => first.render ++ " || " ++ second.render
  | coalesce first second => first.render ++ " ?? " ++ second.render
  | emptyObject => "\x7b\x7d"
  | merge first second =>
    "Object.assign(\x7b\x7d, " ++ first.render ++ ", " ++ second.render ++ ")"
  | emptyComponents => "new Proxy(\x7b\x7d, \x7b get: () => __env.__noop \x7d)"
  | text value => Json.literal value
  | json value => value.text
  | undefined => "undefined"

/-- The slots that an expression reads. -/
def slots : Expr → List String
  | slot name => [name]
  | member object _ => object.slots
  | group inner => inner.slots
  | or first second | coalesce first second | merge first second => first.slots ++ second.slots
  | _ => []

/-- The value, or an object without properties if it is missing. -/
def orEmpty (e : Expr) : Expr := group (or e emptyObject)

/-- A property of a value that may be missing. -/
def memberOf (e : Expr) (name : String) : Expr := member e.orEmpty name

end Expr

/-! ### What a name is bound to -/

/-- The part of a module that an import asks for. -/
inductive Asked
  | default
  | everything
  | export (name : String)
  deriving Repr, DecidableEq

/-- The last segment of a specifier. -/
def lastSegment (specifier : String) : String :=
  String.ofList (specifier.toList.reverse.takeWhile (· != '/')).reverse

/-- The value of part of a package that waits in a slot. What the module does not export itself may
be a property of its default export. -/
def packageValue (slot : Expr) : Asked → Expr
  | .export name => .coalesce (slot.memberOf name)
      (.member (.group (.or (slot.memberOf "default") .emptyObject)) name)
  | .everything => .or slot .emptyObject
  | .default => .or (slot.memberOf "default") (.or slot .emptyObject)

/-- The value of part of an animation package: the package's own export if there is one, else the
stand-in's. The default of a part is the export of its name. -/
def animationValue (specifier : String) (slot standIn : Expr) : Asked → Expr
  | .export name => .coalesce (slot.memberOf name) (.member standIn name)
  | .everything => .merge standIn slot
  | .default =>
    let name := lastSegment specifier
    .coalesce (slot.memberOf name) (.coalesce (.member standIn name)
      (.coalesce (slot.memberOf "default") (.member standIn "default")))

/-- The value of part of a helper's stand-in. -/
def helperValue (standIn : Expr) : Asked → Expr
  | .export name => .coalesce (.member standIn name) (.member standIn "default")
  | .everything => standIn
  | .default => .member standIn "default"

/-- The value of part of a stylesheet, given its text if there is a file. -/
def stylesheetValue (css : Option String) : Asked → Expr
  | .export name =>
    match css with
    | some css => if (Stylesheet.classNames css).contains name then .text name else .undefined
    | none => .undefined
  | _ =>
    match css with
    | some css => .json (Stylesheet.lookup css)
    | none => .emptyObject

/-- The value of part of a module with this resolution; `none` if nothing is bound. -/
def Resolution.value? (files : SiblingFiles) (specifier : String) :
    Resolution → Option (Asked → Expr)
  | framework globalName => some fun
    | .export name => .member (.environment globalName) name
    | _ => .environment globalName
  | stylesheet _ => some (stylesheetValue (files.resolve? specifier))
  | localEmpty => some fun
    | .everything => .emptyComponents
    | _ => .environment "__noop"
  | animationFamily base => some (animationValue specifier (.slot (Slot.ofSpecifier base))
      (.slot (StandIn.animationSlot base)))
  | helperShim helper => some (helperValue (.slot (StandIn.helperSlot helper)))
  | shim _ | localShim _ | fetch _ _ => some (packageValue (.slot (Slot.ofSpecifier specifier)))
  | rejected _ => none

/-! ### Statements -/

/-- A statement in front of the component. -/
inductive BindingStatement
  /-- A name and its value. -/
  | const (name : String) (value : Expr)
  /-- The text of a stylesheet is put into the document. -/
  | injectStyle (css specifier : String)
  deriving Repr

/-- The text of a statement. -/
def BindingStatement.render : BindingStatement → String
  | const name value => "const " ++ name ++ " = " ++ value.render ++ ";"
  | injectStyle css specifier =>
    "__env.__injectStyle(" ++ Json.literal css ++ ", " ++ Json.literal specifier ++ ");"

/-- Bindings under way. -/
structure Bindings where
  /-- The names that are bound. -/
  declared : List String := []
  /-- The stylesheets that are injected. -/
  injected : List String := []
  statements : List BindingStatement := []
  /-- The names that were bound already when an import introduced them. -/
  skipped : List String := []

namespace Bindings

/-- Binds a name, unless it is bound. -/
def declare (b : Bindings) (binding : String × Expr) : Bindings :=
  if b.declared.contains binding.1 then { b with skipped := b.skipped ++ [binding.1] }
  else { b with
    declared := binding.1 :: b.declared
    statements := b.statements ++ [.const binding.1 binding.2] }

/-- The names of a record and what each asks for, in the order in which they are declared. -/
def asked (record : ImportRecord) : List (String × Asked) :=
  record.defaultName.toList.map (·, .default) ++
  record.namespaceName.toList.map (·, .everything) ++
  record.named.map fun n =>
    (n.localName, if n.exported = "default" then .default else .export n.exported)

/-- Binds the names of a record. -/
def bindEach (b : Bindings) (record : ImportRecord) (value : Asked → Expr) : Bindings :=
  ((asked record).map fun (name, part) => (name, value part)).foldl declare b

/-- Injects the stylesheet of a record, unless it is injected or there is no file. -/
def inject (b : Bindings) (files : SiblingFiles) (record : ImportRecord) : Bindings :=
  match files.resolve? record.module with
  | some css =>
    if b.injected.contains record.module then b
    else { b with
      injected := record.module :: b.injected
      statements := b.statements ++ [.injectStyle css record.module] }
  | none => b

/-- Binds what a record imports. A stylesheet that is imported for its effect binds nothing unless
it is a module. -/
def add (files : SiblingFiles) (b : Bindings) (record : ImportRecord) (r : Resolution) :
    Bindings :=
  let (b, binds) := match r with
    | .stylesheet isModule =>
      (b.inject files record, isModule || record.kind != ImportKind.sideEffect)
    | _ => (b, true)
  match r.value? files record.module with
  | some value => if binds then b.bindEach record value else b
  | none => b

/-- The bindings of records. Each record counts whose module was classified; of two
classifications of a module the later counts. -/
def ofRecords (files : SiblingFiles) (records : List ImportRecord)
    (classifications : List Classification) : Bindings :=
  (records.filter (!·.typeOnly)).foldl (fun b record =>
    match classifications.reverse.find? (·.specifier == record.module) with
    | some c => b.add files record c.resolution
    | none => b) {}

end Bindings

end LivePreview
