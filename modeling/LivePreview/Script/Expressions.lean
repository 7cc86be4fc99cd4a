import LivePreview.Script.Rule
/-!
# LivePreview.Script.Expressions

The grammar of **expressions**. Operators are not ranked, as the parts of an expression are not
needed; only what ranks forbid is left out.
-/

namespace LivePreview.Script.Form

open Rule Grammar

/-! ### Shapes -/

/-- What was read can be assigned to. -/
def isTarget : Form := test (·.shape = .target)

/-- What was read can be assigned to from here on. -/
def asTarget : Form := set fun c => { c with shape := .target }

/-- What was read cannot be assigned to. -/
def asOther : Form := set fun c => { c with shape := .other }

/-! ### Parameters and patterns -/

/-- The parameters of a function. -/
def parametersForm : Form :=
  let modifier := seq [oneOf ["public", "private", "protected", "readonly", "override"],
    ahead (alt [identifier, "\x7b", "["])]
  let single := seq [many decorator, many modifier,
    alt [
      seq ["this", opt typeMark],
      seq [binding, opt "?", opt typeMark, opt (seq ["=", item])]]]
  let remaining := seq [many decorator, "...", binding, opt "?", opt typeMark]
  seq ["(",
    opt (alt [
      seq [separated "," single, opt (seq [",", opt remaining])],
      remaining]),
    ")"]

/-- A pattern in a declaration. -/
def bindingPatternForm : Form := patternOf bindingPattern identifier

/-- A value that can be assigned to, perhaps with the type it is taken for. -/
def target : Form :=
  seq [calls, isTarget, many (seq [sameLine, oneOf ["as", "satisfies"], typeExpr])]

/-- A pattern that values are assigned to. -/
def assignmentPatternForm : Form := patternOf assignmentPattern target

/-! ### Arrow functions -/

/-- The body of an arrow function. -/
def arrowBody (isAsync : Bool) : Form :=
  alt [
    functionBody isAsync false,
    seq [absent "\x7b",
      under (fun x => { x with allowsAwait := isAsync, allowsYield := false }) assignment]]

/-- An arrow function with its parameters in brackets. In front of a colon that belongs to something
else, one with the type of its result counts only if another colon follows. -/
def arrowTail (isAsync : Bool) : Form :=
  let generic := seq [
    ahead (seq [lexeme (char? '<'), opt "const", identifier, oneOf [",", "extends", "="]]),
    typeParameters]
  seq [inFunction isAsync false (seq [opt generic, parameters]),
    alt [
      seq [resultMark, sameLine, "=>", arrowBody isAsync,
        test fun c => !c.context.beforeColon || c.rest.head? = some ':'],
      seq [sameLine, "=>", arrowBody isAsync]]]

/-- An arrow function. -/
def arrow : Form :=
  alt [
    seq [identifier, sameLine, "=>", arrowBody false],
    seq ["async", sameLine, alt [
      seq [identifier, sameLine, "=>", arrowBody true],
      arrowTail true]],
    arrowTail false]

/-! ### Assignments -/

/-- The operators that assign a changed value. -/
def assignmentMarks : List String :=
  ["=", "+=", "-=", "*=", "/=", "%=", "**=", "<<=", ">>=", ">>>=", "&=", "|=", "^=", "&&=", "||=",
   "??="]

/-- The operators between two values, besides those that may stay away. -/
def binaryMarks : List String :=
  ["===", "!==", "==", "!=", "<=", ">=", "<<", ">>>", ">>", "<", ">", "+", "-", "**", "*", "/", "%",
   "&", "^", "|", "instanceof"]

/-- Values with operators between them that always take both. -/
def binary : Form :=
  let operator := alt [oneOf binaryMarks, seq [test (·.context.allowsIn), "in"]]
  seq [unary, many (alt [
    seq [sameLine, "as", alt ["const", typeExpr]],
    seq [sameLine, "satisfies", typeExpr],
    seq [operator, unary, asOther]])]

/-- Values of which the later ones may not be needed. The two kinds of such operators do not mix. -/
def logical : Form :=
  seq [binary, opt (alt [
    some1 (seq [oneOf ["||", "&&"], binary, asOther]),
    some1 (seq ["??", binary, asOther])])]

/-- One of two values. -/
def conditional : Form :=
  seq [logical, opt (seq ["?",
    under (fun x => { x with allowsIn := true, beforeColon := true }) assignment,
    ":", assignment, asOther])]

/-- An expression without commas. What is read as an array or object may turn out to be a pattern. -/
def assignmentForm : Form :=
  alt [
    seq [arrow, asOther],
    seq [test (·.context.allowsYield), "yield",
      opt (alt [seq [sameLine, "*", assignment], seq [sameLine, assignment]]), asOther],
    seq [conditional, opt (seq [isTarget, oneOf assignmentMarks, assignment, asOther]), absent "="],
    seq [assignmentPattern, "=", assignment, asOther]]

/-- An expression. -/
def expressionForm : Form :=
  seq [assignment, many (seq [",", assignment, asOther])]

/-- A value with operators in front or behind. -/
def unaryForm : Form :=
  alt [
    seq [oneOf ["delete", "void", "typeof", "+", "-", "~", "!"], unary, absent "**", asOther],
    seq [test (·.context.allowsAwait), "await", unary, asOther],
    seq [oneOf ["++", "--"], unary, isTarget, asOther],
    seq [calls, opt (seq [sameLine, isTarget, oneOf ["++", "--"], asOther])]]

/-! ### Members and calls -/

/-- The arguments of a call. -/
def arguments : Form :=
  seq ["(", listOf (alt [seq ["...", item], item]), ")"]

/-- What may follow types that are given without a call. -/
def typeArgumentsEnd : Form :=
  alt [
    test fun c => c.fresh || c.atEnd,
    ahead (oneOf [")", "]", "\x7d", ":", ";", ",", ".", "?.", "==", "===", "!=", "!==", "&&", "||", "??",
      "^", "&", "|", "=", "?"])]

/-- The name of a member behind a point. -/
def memberAfterPoint : Form := alt [anyName, privateName]

/-- A member or a call, behind a value; `tag` is the template that it may be called with. -/
def callSuffix (tag : Form) : Form :=
  alt [
    seq [".", memberAfterPoint, asTarget],
    seq ["[", inside, "]", asTarget],
    seq [sameLine, "!"],
    seq [arguments, asOther],
    seq [tag, asOther],
    seq [typeArguments, alt [arguments, tag, typeArgumentsEnd], asOther]]

/-- A member or a call that is left out where there is no value. -/
def optionalSuffix : Form :=
  seq ["?.", alt [
    seq ["[", inside, "]"],
    seq [opt typeArguments, arguments],
    memberAfterPoint]]

/-- What a module imports while it runs, and what it knows of itself. -/
def importExpression : Form :=
  let call := seq ["(", item, opt (seq [",", item]), opt ",", ")"]
  seq ["import", alt [
    seq [".", alt ["meta", seq [oneOf ["source", "defer"], call]]],
    call]]

/-- A value with members and calls. From the first one on that may be left out, the value can neither be
assigned to nor called with a template. -/
def callsForm : Form :=
  seq [
    alt [newExpression, seq ["super", asOther], seq [importExpression, asOther], primary],
    many (callSuffix template),
    opt (seq [optionalSuffix, many (alt [optionalSuffix, callSuffix (alt [])]), asOther])]

/-- A new object. -/
def newForm : Form :=
  let callee := seq [
    alt [newExpression, "super", seq ["import", ".", "meta"], primary],
    many (alt [
      seq [".", memberAfterPoint],
      seq ["[", inside, "]"],
      seq [sameLine, "!"],
      template])]
  seq ["new",
    alt [
      seq [".", "target"],
      seq [callee, opt typeArguments, alt [arguments, absent "?."]]],
    asOther]

/-! ### Objects and functions -/

/-- A member of an object. -/
def property : Form :=
  let method := fun isAsync isGenerator => seq [memberName, functionTail isAsync isGenerator]
  alt [
    seq ["...", item],
    seq [memberName, alt [seq [":", item], functionTail false false]],
    seq [oneOf ["get", "set"], method false false],
    seq ["async", sameLine, alt [seq ["*", method true true], method true false]],
    seq ["*", method false true],
    identifier]

/-- An object. -/
def objectForm : Form :=
  seq ["\x7b", listOf property, "\x7d"]

/-- An array. -/
def arrayLiteral : Form :=
  arrayOf (alt [seq ["...", item], item])

/-- A function, perhaps with a name. -/
def functionExpression (isAsync : Bool) : Form :=
  seq ["function", alt [
    seq ["*", opt identifier, functionTail isAsync true],
    seq [opt identifier, functionTail isAsync false]]]

/-- A class, perhaps with a name. -/
def classExpression : Form :=
  let named := seq [absent (seq ["implements", identifier]), identifier]
  seq [many decorator, "class", opt named, classTail]

/-- A value without operators. -/
def primaryForm : Form :=
  let value := alt [
    oneOf ["this", "null", "true", "false"],
    number,
    string,
    template,
    arrayLiteral,
    objectLiteral,
    functionExpression false,
    classExpression,
    lexeme regex?,
    seq [markup, closeAngle],
    seq [privateName, ahead "in"]]
  alt [
    seq ["async", sameLine, functionExpression true, asOther],
    seq [identifier, asTarget],
    seq ["(", inside, ")"],
    seq [value, asOther]]

/-! ### Classes -/

/-- The words in front of a member of a class. -/
def memberModifier : Form :=
  let nextName := ahead (alt [memberName, oneOf ["*", "["]])
  alt [
    seq ["static", nextName],
    seq [oneOf ["public", "private", "protected", "abstract", "override", "readonly", "declare",
      "accessor"], sameLine, nextName]]

/-- A member of a class behind its modifiers. -/
def classMember : Form :=
  let mark := opt (oneOf ["?", "!"])
  let method := fun isAsync isGenerator => seq [memberName, mark, declaredTail isAsync isGenerator]
  alt [
    seq ["[", identifier, typeMark, "]", opt typeMark, statementEnd],
    seq [oneOf ["get", "set"], method false false],
    seq ["async", sameLine, alt [seq ["*", method true true], method true false]],
    seq ["*", method false true],
    seq [memberName, mark, alt [
      declaredTail false false,
      seq [opt typeMark, opt (seq ["=", item]), statementEnd]]]]

/-- A class behind its name. -/
def classForm : Form :=
  let member := seq [many decorator, alt [
    seq ["static", inFunction false false block],
    seq [many memberModifier, classMember]]]
  seq [opt typeParameters,
    opt (seq ["extends", calls, opt typeArguments]),
    opt (seq ["implements", separated "," typeReference]),
    "\x7b", bracketed (many (alt [";", member])), "\x7d"]

/-! ### Markup -/

/-- Opens an element. -/
def openElement : Form :=
  token fun c => (markupName? c.rest).map fun taken =>
    { c.next taken with elements := taken.1 :: c.elements }

/-- Closes the innermost element, by its name. -/
def closeElement : Form :=
  token fun c => do
    let taken ← markupName? c.rest
    match c.elements with
    | name :: outer => if name = taken.1 then some { c.next taken with elements := outer } else none
    | [] => none

/-- Closes the innermost element, which holds nothing. -/
def closeEmptyElement : Form :=
  seq ["/", set fun c => { c with elements := c.elements.tail }]

/-- What stands in an element, up to the beginning of the closing tag. -/
def markupChildren : Form :=
  seq [
    tight (char? '>'),
    many (alt [
      tight markupText?,
      seq ["\x7b", opt (alt [seq ["...", inside], inside]), tight (char? '\x7d')],
      seq [markup, tight (char? '>')]]),
    lexeme (char? '<'), lexeme (char? '/')]

/-- An attribute. -/
def markupAttribute : Form :=
  let value := alt [
    lexeme markupString?,
    seq ["\x7b", inside, "\x7d"],
    seq [markup, closeAngle]]
  alt [
    seq ["\x7b", "...", inside, "\x7d"],
    seq [lexeme markupName?, opt (seq [lexeme (char? '='), value])]]

/-- An element up to its last bracket. -/
def markupForm : Form :=
  seq [lexeme (char? '<'), alt [
    markupChildren,
    seq [openElement, opt typeArguments, many markupAttribute,
      alt [closeEmptyElement, seq [markupChildren, closeElement]]]]]

end LivePreview.Script.Form
