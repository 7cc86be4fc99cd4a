import LivePreview.Script.Expressions
/-!
# LivePreview.Script.Statements

The grammar of **statements and declarations**, also of those that only exist for types. Declarations
of imports are taken as the cursor's reader takes them.
-/

namespace LivePreview.Script.Form

open Rule Grammar

/-! ### Variables -/

/-- The word that declares a variable of a block. -/
def letWord : Form := seq ["let", ahead (alt [identifier, "\x7b", "["])]

/-- The words that declare a resource. -/
def usingWord : Form := seq [opt "await", "using", sameLine, ahead identifier]

/-- A value to start with. -/
def initial : Form := seq ["=", assignment]

/-- Declarations of variables. Constants and patterns need a value, unless they are only declared. -/
def variableList : Form :=
  let typed := fun part => seq [part, opt "!", opt typeMark]
  let declared := seq [test (·.context.ambient), typed binding, opt initial]
  alt [
    seq ["const", absent "enum",
      separated "," (alt [declared, seq [typed binding, initial]])],
    seq [alt ["var", letWord], separated ","
      (alt [declared, seq [typed identifier, opt initial], seq [typed bindingPattern, initial]])],
    seq [usingWord, separated "," (seq [typed identifier, initial])]]

/-! ### Functions and classes -/

/-- The declaration of a function; `name` is its name. -/
def functionDeclaration (name : Form) : Form :=
  let behind := fun isAsync =>
    seq ["function", alt [
      seq ["*", name, declaredTail isAsync true],
      seq [name, declaredTail isAsync false]]]
  alt [behind false, seq ["async", sameLine, behind true]]

/-- The declaration of a class; `name` is its name. -/
def classDeclaration (name : Form) : Form :=
  seq [many decorator, opt "abstract", "class", name, classTail]

/-! ### Declarations of types -/

/-- A name for a type. -/
def typeAlias : Form :=
  seq ["type", sameLine, identifier, opt typeParameters, "=", typeExpr, statementEnd]

/-- An interface. -/
def interfaceDeclaration : Form :=
  seq ["interface", sameLine, identifier, opt typeParameters,
    opt (seq ["extends", separated "," typeReference]), objectType]

/-- An enumeration. -/
def enumDeclaration : Form :=
  let name := alt [anyName, string, seq ["[", string, "]"]]
  seq [opt "const", "enum", identifier, "\x7b", listOf (seq [name, opt (seq ["=", item])]), "\x7d"]

/-- A namespace or a module within another. -/
def namespaceDeclaration : Form :=
  alt [
    seq [oneOf ["namespace", "module"], sameLine, separated "." identifier, block],
    seq ["module", sameLine, string, alt [block, statementEnd]]]

/-- Another name for what a module exports. -/
def importEquals : Form :=
  seq ["import", alt [seq [identifier, "="], seq ["type", identifier, "="]],
    alt [seq ["require", "(", string, ")"], dottedName], statementEnd]

/-- What is only declared. -/
def ambientDeclaration : Form :=
  seq ["declare", sameLine, under (fun x => { x with ambient := true }) (alt [
    seq [variableList, statementEnd],
    functionDeclaration identifier,
    classDeclaration identifier,
    interfaceDeclaration,
    typeAlias,
    enumDeclaration,
    namespaceDeclaration,
    seq ["global", block]])]

/-- A declaration that can be exported. -/
def declaration : Form :=
  alt [
    seq [variableList, statementEnd],
    functionDeclaration identifier,
    classDeclaration identifier,
    typeAlias,
    interfaceDeclaration,
    enumDeclaration,
    namespaceDeclaration,
    ambientDeclaration]

/-! ### Exports -/

/-- The attributes of an import or export. -/
def moduleAttributes : Form :=
  opt (seq [alt ["with", seq [sameLine, "assert"]],
    "\x7b", listOf (seq [alt [anyName, string], ":", string]), "\x7d"])

/-- A module that is named. -/
def source : Form := seq ["from", string, moduleAttributes]

/-- What a module calls an export. -/
def exportedName : Form := alt [anyName, string]

/-- What a module calls a value of its own. -/
def ownName : Form := seq [absent (oneOf futureWords), identifier]

/-- A list of exports that have names of this form. Only one of the list and its item can be for types
alone. -/
def exportList (name : Form) : Form :=
  let follows := ahead (oneOf [",", "\x7d"])
  let plain := seq [name, opt (seq ["as", exportedName]), follows]
  alt [
    seq ["\x7b", listOf (alt [plain, seq ["type", plain]]), "\x7d"],
    seq ["type", "\x7b", listOf plain, "\x7d"]]

/-- What a module exports by default. -/
def defaultExport : Form :=
  alt [
    functionDeclaration (opt identifier),
    classDeclaration (opt (seq [absent (seq ["implements", identifier]), identifier])),
    interfaceDeclaration,
    seq [assignment, statementEnd]]

/-- An export. -/
def exportDeclaration : Form :=
  seq [many decorator, "export", alt [
    seq ["default", defaultExport],
    seq [opt "type", "*", opt (seq ["as", exportedName]), source, statementEnd],
    seq [exportList exportedName, source, statementEnd],
    seq [exportList ownName, statementEnd],
    seq ["=", expression, statementEnd],
    seq ["as", "namespace", identifier, statementEnd],
    importEquals,
    declaration]]

/-! ### Control -/

/-- The condition of a statement. -/
def condition : Form := seq ["(", inside, ")"]

/-- A statement that belongs to another one; it declares nothing for its block. -/
def branch : Form :=
  seq [absent (alt [seq ["const", absent "enum"], letWord, usingWord, "class"]), statement]

/-- What stands between the brackets of a loop that counts or goes over values. -/
def loopHead : Form :=
  let withoutIn := fun part => under (fun x => { x with allowsIn := false }) part
  let through := alt [seq ["of", item], seq ["in", inside]]
  let counting := seq [";", opt inside, ";", opt inside]
  alt [
    seq [alt [oneOf ["var", "const"], letWord, usingWord], binding, opt typeMark, through],
    seq [withoutIn variableList, counting],
    seq [absent letWord, withoutIn (alt [target, assignmentPattern]), through],
    seq [opt (withoutIn expression), counting]]

/-- The statements of a choice. -/
def switchBody : Form :=
  seq ["\x7b", many (alt [
    seq ["case", inside, ":", many statement],
    seq ["default", ":", many statement]]), "\x7d"]

/-- A statement that starts with a word of its own. -/
def controlStatement : Form :=
  let parameter := seq ["(", binding, opt typeMark, ")"]
  let handler := seq ["catch", opt parameter, block]
  let final := seq ["finally", block]
  let label := opt (seq [sameLine, identifier])
  alt [
    seq ["if", condition, branch, opt (seq ["else", branch])],
    seq ["for", opt "await", "(", loopHead, ")", branch],
    seq ["while", condition, branch],
    seq ["do", branch, "while", condition, opt ";"],
    seq ["return", test (·.context.allowsReturn), opt (seq [sameLine, expression]), statementEnd],
    seq ["throw", sameLine, expression, statementEnd],
    seq ["try", block, alt [seq [handler, opt final], final]],
    seq ["switch", condition, switchBody],
    seq [oneOf ["break", "continue"], label, statementEnd],
    seq ["debugger", statementEnd],
    seq ["with", condition, branch]]

/-- A statement that is an expression. -/
def expressionStatement : Form :=
  seq [
    absent (alt ["\x7b", "function", "class", seq ["let", "["], seq ["async", sameLine, "function"]]),
    expression, statementEnd]

/-- Statements in braces. -/
def blockForm : Form :=
  seq ["\x7b", bracketed (many statement), "\x7d"]

/-- A statement; `imports` is the declaration of an import. -/
def statementForm (imports : Form) : Form :=
  alt [
    block,
    ";",
    controlStatement,
    imports,
    importEquals,
    exportDeclaration,
    declaration,
    seq [identifier, ":", branch],
    expressionStatement]

end LivePreview.Script.Form
