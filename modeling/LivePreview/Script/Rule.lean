import LivePreview.Script.Grammar
/-!
# LivePreview.Script.Rule

The **rules** of the script grammar by name, and the forms that several of them share.
-/

namespace LivePreview.Script

/-- The rules. -/
inductive Rule
  -- Types
  | typeExpr
  | plainType
  | unionType
  | typeOperator
  | primaryType
  | resultType
  | typeArguments
  | typeParameters
  | objectType
  -- Names that are bound
  | bindingPattern
  | assignmentPattern
  | parameters
  -- Expressions
  | expression
  | assignment
  | unary
  | calls
  | primary
  | newExpression
  | objectLiteral
  | template
  | classTail
  | markup
  -- Statements
  | statement
  | block
  deriving Repr, DecidableEq

/-- The forms of scripts. -/
abbrev Form := Grammar Rule

namespace Form

open Rule Grammar

/-! ### Contexts -/

/-- Within brackets, where neither `in` nor a colon outside matters. -/
def bracketed (part : Form) : Form :=
  under (fun x => { x with allowsIn := true, beforeColon := false }) part

/-- An expression within brackets. -/
def inside : Form := bracketed expression

/-- An item within brackets. -/
def item : Form := bracketed assignment

/-- Within a function. -/
def inFunction (isAsync isGenerator : Bool) (part : Form) : Form :=
  under (fun x => { x with
    allowsIn := true, beforeColon := false, allowsAwait := isAsync, allowsYield := isGenerator }) part

/-! ### Names -/

/-- A private name of a class. -/
def privateName : Form := seq [tight (char? '#'), anyName]

/-- The name of a member of an object. -/
def memberName : Form :=
  alt [anyName, string, number, seq ["[", item, "]"], privateName]

/-- A name with further names behind points. -/
def dottedName : Form :=
  seq [alt [identifier, "this"], many (seq [".", anyName])]

/-! ### Annotations -/

/-- The type of a name. -/
def typeMark : Form := seq [":", typeExpr]

/-- The type of a result. -/
def resultMark : Form := seq [":", resultType]

/-- What a function takes and gives. -/
def signature : Form :=
  seq [opt typeParameters, parameters, opt resultMark]

/-- A reference to a type. -/
def typeReference : Form :=
  seq [dottedName, opt (seq [sameLine, typeArguments])]

/-! ### Functions -/

/-- The body of a function. -/
def functionBody (isAsync isGenerator : Bool) : Form :=
  inFunction isAsync isGenerator
    (under (fun x => { x with allowsReturn := true, ambient := false })
      (seq ["\x7b", many statement, "\x7d"]))

/-- A function behind its name. -/
def functionTail (isAsync isGenerator : Bool) : Form :=
  seq [inFunction isAsync isGenerator signature, functionBody isAsync isGenerator]

/-- A function behind its name, perhaps without a body. -/
def declaredTail (isAsync isGenerator : Bool) : Form :=
  seq [inFunction isAsync isGenerator signature,
    alt [functionBody isAsync isGenerator, statementEnd]]

/-- A decorator. -/
def decorator : Form := seq ["@", calls]

/-! ### Templates -/

/-- A template with values of a form. -/
def templateOf (value : Form) : Form :=
  alt [
    lexeme (templatePart? '\x60' false),
    seq [lexeme (templatePart? '\x60' true), value,
      many (seq [lexeme (templatePart? '\x7d' true), value]), lexeme (templatePart? '\x7d' false)]]

/-! ### Patterns -/

/-- The items of an array, with gaps. -/
def gapped (part : Form) : Form :=
  many (alt [",", seq [part, ahead (oneOf [",", "]"])]])

/-- An array. -/
def arrayOf (part : Form) : Form :=
  seq ["[", gapped part, "]"]

/-- An object or array that names stand in: `nested` is the pattern itself, `leaf` a name. What takes the
rest of the values comes last. -/
def patternOf (nested leaf : Form) : Form :=
  let place := alt [seq [nested, ahead (oneOf [",", "=", "\x7d", "]"])], leaf]
  let withDefault := fun part => seq [part, opt (seq ["=", item])]
  let remaining := opt (seq ["...", place])
  let property := alt [seq [memberName, ":", withDefault place], withDefault identifier]
  alt [
    seq ["\x7b", alt [seq [separated "," property, opt (seq [",", remaining])], remaining], "\x7d"],
    seq ["[", gapped (withDefault place), remaining, "]"]]

/-- What a declaration binds. -/
def binding : Form := alt [identifier, bindingPattern]

end Form

end LivePreview.Script
