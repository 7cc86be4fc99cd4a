import LivePreview.Script.Rule
/-!
# LivePreview.Script.Types

The grammar of **types**.
-/

namespace LivePreview.Script.Form

open Rule Grammar

/-- The type of a function. -/
def functionType : Form :=
  seq [opt typeParameters, parameters, "=>", resultType]

/-- The type of a constructor. -/
def constructorType : Form :=
  seq [opt "abstract", "new", functionType]

/-- A type. -/
def typeForm : Form :=
  let compared := under (fun x => { x with inCondition := true }) plainType
  under (fun x => { x with inCondition := false }) (alt [functionType, constructorType,
    seq [unionType,
      opt (seq [sameLine, "extends", compared, "?", typeExpr, ":", typeExpr])]])

/-- A type that is no conditional one. -/
def plainTypeForm : Form :=
  alt [functionType, constructorType, unionType]

/-- Several types at once. -/
def intersection : Form :=
  seq [opt "&", separated "&" typeOperator]

/-- One of several types. -/
def unionForm : Form :=
  seq [opt "|", separated "|" intersection]

/-- A type with operators. -/
def typeOperatorForm : Form :=
  alt [
    seq [oneOf ["keyof", "unique", "readonly"], typeOperator],
    seq ["infer", identifier,
      opt (seq ["extends", plainType, alt [test (·.context.inCondition), absent "?"]])],
    seq [primaryType, many (seq [sameLine, "[", opt typeExpr, "]"])]]

/-- The item of a tuple. -/
def tupleItem : Form :=
  alt [
    seq ["...", opt (seq [anyName, opt "?", ":"]), typeExpr],
    seq [anyName, opt "?", ":", typeExpr],
    seq [typeExpr, opt "?"]]

/-- A type that maps names. -/
def mappedType : Form :=
  let sign := opt (oneOf ["+", "-"])
  seq ["\x7b", opt (seq [sign, "readonly"]), "[", identifier, "in", typeExpr,
    opt (seq ["as", typeExpr]), "]", opt (seq [sign, "?"]), opt typeMark,
    opt (oneOf [";", ","]), "\x7d"]

/-- A type from another module. -/
def importedType : Form :=
  seq ["import", "(", typeExpr, opt (seq [",", objectLiteral]), opt ",", ")",
    many (seq [".", anyName]), opt (seq [sameLine, typeArguments])]

/-- A type without operators. -/
def primaryTypeForm : Form :=
  alt [
    typeReference,
    seq ["(", typeExpr, ")"],
    seq ["[", listOf tupleItem, "]"],
    mappedType,
    objectType,
    string,
    number,
    seq ["-", number],
    templateOf typeExpr,
    oneOf ["void", "null", "true", "false"],
    seq ["typeof", alt [importedType, typeReference]],
    importedType]

/-- The type of a result; it may tell what holds of an argument. -/
def resultForm : Form :=
  let subject := alt [identifier, "this"]
  alt [
    seq ["asserts", sameLine, subject, opt (seq ["is", typeExpr])],
    seq [subject, sameLine, "is", typeExpr],
    typeExpr]

/-- Types for parameters of types. -/
def typeArgumentsForm : Form :=
  seq [lexeme (char? '<'), separated "," typeExpr, closeAngle]

/-- Parameters of types. -/
def typeParametersForm : Form :=
  let parameter := seq [
    many (seq [oneOf ["const", "in", "out"], ahead identifier]),
    identifier, opt (seq ["extends", typeExpr]), opt (seq ["=", typeExpr])]
  seq [lexeme (char? '<'), separated "," parameter, opt ",", closeAngle]

/-- A member of a type of objects. -/
def typeMember : Form :=
  alt [
    signature,
    seq ["new", signature],
    seq [many (seq [oneOf ["readonly", "static"], ahead "["]), "[", identifier, typeMark, "]",
      opt typeMark],
    seq [oneOf ["get", "set"], memberName, signature],
    seq [opt (seq ["readonly", ahead memberName]), memberName, opt "?",
      alt [signature, opt typeMark]]]

/-- A type of objects. -/
def objectTypeForm : Form :=
  let memberEnd := alt [oneOf [";", ","], ahead "\x7d", test (·.fresh)]
  seq ["\x7b", many (seq [typeMember, memberEnd]), "\x7d"]

end LivePreview.Script.Form
