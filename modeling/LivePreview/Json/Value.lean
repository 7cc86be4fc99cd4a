import LivePreview.Decimal.Shortest
/-!
# LivePreview.Json.Value

**JSON values** and their compact text. Numbers are integers or doubles, and stay apart: `1` and
`1.0` are different values with different texts. The members of an object keep the order they
are given in.
-/

namespace LivePreview.Json

/-- A number. -/
inductive Number
  /-- A whole number, written without point and exponent. -/
  | integer (value : Int)
  /-- A double, given by its bits. -/
  | float (bits : UInt64)
  deriving Repr, DecidableEq

/-- The text of a number. -/
def Number.text : Number → String
  | integer value => toString value
  | float bits => Decimal.ofBits bits.toNat

/-- A JSON value. -/
inductive Value
  | null
  | bool (value : Bool)
  | number (value : Number)
  | string (text : String)
  | array (items : List Value)
  | object (members : List (String × Value))
  deriving Repr

instance : Inhabited Value := ⟨.null⟩

/-- A whole number as a value. -/
def Value.ofNat (n : Nat) : Value := .number (.integer n)

/-- A text, or `null` if there is none. -/
def Value.ofText? : Option String → Value
  | none => .null
  | some text => .string text

/-- A list of texts. -/
def Value.ofTexts (texts : List String) : Value := .array (texts.map .string)

/-! ### Compact text -/

/-- One hexadecimal digit in lower case. -/
def hexDigit (n : Nat) : Char :=
  if n < 10 then Char.ofNat (48 + n) else Char.ofNat (87 + n)

/-- A character inside a string literal. Quotes, backslashes and controls are escaped, all else
stands for itself. -/
def escapeChar (c : Char) : List Char :=
  if c = '"' then ['\\', '"']
  else if c = '\\' then ['\\', '\\']
  else if c = '\n' then ['\\', 'n']
  else if c = '\r' then ['\\', 'r']
  else if c = '\t' then ['\\', 't']
  else if c = '\x08' then ['\\', 'b']
  else if c = '\x0c' then ['\\', 'f']
  else if c.toNat < 32 then ['\\', 'u', '0', '0', hexDigit (c.toNat / 16), hexDigit (c.toNat % 16)]
  else [c]

/-- A string literal, as characters. -/
def literalChars (text : List Char) : List Char :=
  '"' :: text.flatMap escapeChar ++ ['"']

/-- A string literal. -/
def literal (text : String) : String :=
  String.ofList (literalChars text.toList)

mutual
/-- The characters of a value's text. -/
def Value.chars : Value → List Char
  | .null => "null".toList
  | .bool true => "true".toList
  | .bool false => "false".toList
  | .number n => n.text.toList
  | .string text => literalChars text.toList
  | .array items => '[' :: itemChars items ++ [']']
  | .object members => '\x7b' :: memberChars members ++ ['\x7d']

/-- Items with commas between them. -/
def itemChars : List Value → List Char
  | [] => []
  | [item] => item.chars
  | item :: more => item.chars ++ ',' :: itemChars more

/-- Members with commas between them. -/
def memberChars : List (String × Value) → List Char
  | [] => []
  | [(key, value)] => literalChars key.toList ++ ':' :: value.chars
  | (key, value) :: more => literalChars key.toList ++ ':' :: value.chars ++ ',' :: memberChars more
end

/-- The compact text of a value. -/
def Value.text (value : Value) : String :=
  String.ofList value.chars

end LivePreview.Json
