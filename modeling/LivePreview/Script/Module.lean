import LivePreview.Script.ImportDeclaration
import LivePreview.Script.Types
/-!
# LivePreview.Script.Module

A **module** is a script whose statements follow the grammar up to its end. Its import declarations
are those between its statements; what a statement holds is none of the module's.
-/

namespace LivePreview.Script

/-- What each rule stands for. -/
def Rule.form : Rule → Form
  | typeExpr => Form.typeForm
  | plainType => Form.plainTypeForm
  | unionType => Form.unionForm
  | typeOperator => Form.typeOperatorForm
  | primaryType => Form.primaryTypeForm
  | resultType => Form.resultForm
  | typeArguments => Form.typeArgumentsForm
  | typeParameters => Form.typeParametersForm
  | objectType => Form.objectTypeForm
  | bindingPattern => Form.bindingPatternForm
  | assignmentPattern => Form.assignmentPatternForm
  | parameters => Form.parametersForm
  | expression => Form.expressionForm
  | assignment => Form.assignmentForm
  | unary => Form.unaryForm
  | calls => Form.callsForm
  | primary => Form.primaryForm
  | newExpression => Form.newForm
  | objectLiteral => Form.objectForm
  | template => Form.templateOf Form.inside
  | classTail => Form.classForm
  | markup => Form.markupForm
  | statement => Form.statementForm (.token fun c => (importDeclaration? c).map (·.2))
  | block => Form.blockForm

/-- The cursor behind a statement, with so many steps within each other. -/
def statement? (steps : Nat) : Cursor → Option Cursor :=
  Grammar.read Rule.form steps (.rule .statement)

/-- The import declarations between the statements up to the end of the module, if all of them follow
the grammar; at most so many statements. -/
def moduleImports? (steps : Nat) : Nat → Cursor → Option (List ImportDeclaration)
  | 0, _ => none
  | limit + 1, c =>
    if c.atEnd then some []
    else
      match importDeclaration? c with
      | some (d, next) => (moduleImports? steps limit next).map (d :: ·)
      | none => (statement? steps c).bind (moduleImports? steps limit)

/-- The import declarations of a module. Every statement takes at least one character. -/
def importDeclarations? (source : List Char) : Option (List ImportDeclaration) :=
  let c := Cursor.ofScript source
  moduleImports? (stepLimit c) (source.length + 1) c

end LivePreview.Script
