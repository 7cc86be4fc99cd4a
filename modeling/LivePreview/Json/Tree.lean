import LivePreview.Json.Value
import LivePreview.Text.Word
import LivePreview.Text.Utf8
/-!
# LivePreview.Json.Tree

Reading JSON yields a **tree up to the first fault**. Where the text breaks the grammar the tree
has a leaf with the fault, and nothing behind it was read. A typed reader that walks the tree
from left to right therefore meets faults and values of the wrong type in the order in which
they stand in the text, and the first one met is the one to report.

Two readers of one text can disagree on where it is wrong. One that keeps values needs every
escape and number to have a meaning; one that passes over a value only looks for its end, and
learns of a missing item later. A fault carries both verdicts, and texts and numbers without
a meaning are leaves of their own.
-/

namespace LivePreview.Json

open Text (isDigit byteSize)

/-- What is wrong with a text. -/
inductive Fault
  | expectedValue
  | expectedIdent
  | expectedColon
  | expectedCommaOrBrace
  | expectedCommaOrBracket
  | keyNotText
  | trailingComma
  | trailingCharacters
  | invalidNumber
  | numberOutOfRange
  | invalidEscape
  | unexpectedEndOfHexEscape
  | loneSurrogate
  | endInValue
  | endInObject
  | endInList
  | endInText
  | controlCharacter
  | tooDeep
  deriving Repr, DecidableEq

/-- The wording of a fault. -/
def Fault.message : Fault → String
  | expectedValue => "expected value"
  | expectedIdent => "expected ident"
  | expectedColon => "expected `:`"
  | expectedCommaOrBrace => "expected `,` or `\x7d`"
  | expectedCommaOrBracket => "expected `,` or `]`"
  | keyNotText => "key must be a string"
  | trailingComma => "trailing comma"
  | trailingCharacters => "trailing characters"
  | invalidNumber => "invalid number"
  | numberOutOfRange => "number out of range"
  | invalidEscape => "invalid escape"
  | unexpectedEndOfHexEscape => "unexpected end of hex escape"
  | loneSurrogate => "lone leading surrogate in hex escape"
  | endInValue => "EOF while parsing a value"
  | endInObject => "EOF while parsing an object"
  | endInList => "EOF while parsing a list"
  | endInText => "EOF while parsing a string"
  | controlCharacter => "control character (\\u0000-\\u001F) found while parsing a string"
  | tooDeep => "recursion limit exceeded"

/-- A value as it stands in a text, up to the first fault. -/
inductive Tree
  | null
  | bool (value : Bool)
  /-- A number, or why its digits denote none. -/
  | number (value : Except Fault Number)
  /-- A text, or why its escapes denote none. -/
  | string (text : Except Fault String)
  | array (items : List Tree)
  /-- Keys and values; a key is a text or a fault. -/
  | object (members : List (Tree × Tree))
  /-- The text is wrong here: the verdict of a reader that keeps values, and of one that passes
  over them. -/
  | fault (reading skipping : Fault)

instance : Inhabited Tree := ⟨.null⟩

/-- What a step of the reader yields: a result, and the text behind it unless there was a
fault. -/
abbrev Step (α : Type) := α × Option (List Char)

/-- A fault on which all readers agree. -/
def stop (fault : Fault) : Step Tree := (.fault fault fault, none)

/-- The characters between tokens that carry no meaning. -/
def isSpace (c : Char) : Bool :=
  c == ' ' || c == '\n' || c == '\t' || c == '\r'

/-- The text from the next token on. -/
def skipSpace (text : List Char) : List Char :=
  text.dropWhile isSpace

/-! ### Numbers -/

/-- Reads digits into `value` as long as it stays below `bound`; also gives how many digits were
taken. -/
def gather (bound value : Nat) : List Char → Nat × Nat
  | [] => (value, 0)
  | c :: rest =>
    let next := value * 10 + (c.toNat - 48)
    if next < bound then
      let (result, count) := gather bound next rest
      (result, count + 1)
    else (value, 0)

/-- The double `value · 10 ^ exponent`, by one multiplication or division by a power of ten;
below the reach of the powers, by two. -/
def scale? (value : Float) (exponent : Int) : Nat → Option Float
  | 0 => some value
  | fuel + 1 =>
    if exponent.natAbs ≤ 308 then
      let power := Float.ofScientific 1 false exponent.natAbs
      if 0 ≤ exponent then
        let product := value * power
        if product.isInf then none else some product
      else some (value / power)
    else if value == 0 then some value
    else if 0 ≤ exponent then none
    else scale? (value / 1e308) (exponent + 308) fuel

/-- The number with these digits, sign and decimal exponent. -/
def float? (negative : Bool) (digits : Nat) (exponent : Int) : Except Fault Number :=
  match scale? digits.toUInt64.toFloat exponent 4 with
  | some value => .ok (.float (if negative then -value else value).toBits)
  | none => .error .numberOutOfRange

/-- A number without point and exponent. Zero keeps a sign only as a double, and so does what
is below the least whole number of 64 bits. -/
def whole (negative : Bool) (digits : Nat) : Except Fault Number :=
  if negative then
    if digits = 0 ∨ Nat.pow 2 63 < digits then float? true digits 0
    else .ok (.integer (-(digits : Int)))
  else .ok (.integer digits)

/-- Reads the exponent of a number, behind the letter. -/
def readExponent (negative : Bool) (digits : Nat) (start : Int) (text : List Char) : Step Tree :=
  let (down, text) := match text with
    | '+' :: rest => (false, rest)
    | '-' :: rest => (true, rest)
    | _ => (false, text)
  match text with
  | [] => (.fault .endInValue .invalidNumber, none)
  | c :: _ =>
    if !isDigit c then stop .invalidNumber
    else
      let all := text.takeWhile isDigit
      let (power, count) := gather (Nat.pow 2 31) 0 all
      let value :=
        if count < all.length then
          if digits != 0 && !down then .error .numberOutOfRange else float? negative 0 0
        else float? negative digits (if down then start - power else start + power)
      (.number value, some (text.dropWhile isDigit))

/-- Reads what may follow the digits of a number: nothing more, or an exponent. -/
def readTail (negative : Bool) (digits : Nat) (exponent : Int) (text : List Char) : Step Tree :=
  match text with
  | 'e' :: rest => readExponent negative digits exponent rest
  | 'E' :: rest => readExponent negative digits exponent rest
  | _ => (.number (float? negative digits exponent), some text)

/-- Reads a number, behind its sign. Digits beyond 64 bits only raise the exponent. -/
def readNumber (negative : Bool) (text : List Char) : Step Tree :=
  match text with
  | [] => (.fault .endInValue .invalidNumber, none)
  | c :: after =>
    if !isDigit c then stop .invalidNumber
    else if c == '0' && (after.head?.any isDigit) then stop .invalidNumber
    else
      let before := text.takeWhile isDigit
      let (digits, count) := gather (Nat.pow 2 64) 0 before
      let dropped := before.length - count
      match text.dropWhile isDigit with
      | '.' :: rest =>
        let behind := rest.takeWhile isDigit
        if behind.isEmpty then
          if rest.isEmpty then (.fault .endInValue .invalidNumber, none) else stop .invalidNumber
        else
          let (digits, used) := gather (Nat.pow 2 64) digits behind
          readTail negative digits ((dropped : Int) - used) (rest.dropWhile isDigit)
      | rest =>
        if dropped = 0 && !(rest.head?.any fun e => e == 'e' || e == 'E') then
          (.number (whole negative digits), some rest)
        else readTail negative digits dropped rest

/-! ### Texts -/

/-- The value of a hexadecimal digit. -/
def hexValue? (c : Char) : Option Nat :=
  let n := c.toNat
  if isDigit c then some (n - 48)
  else if 97 ≤ n && n ≤ 102 then some (n - 87)
  else if 65 ≤ n && n ≤ 70 then some (n - 55)
  else none

/-- The value of four hexadecimal digits. -/
def hex4? (a b c d : Char) : Option Nat := do
  return (((← hexValue? a) * 16 + (← hexValue? b)) * 16 + (← hexValue? c)) * 16 + (← hexValue? d)

/-- The character that a letter behind a backslash stands for. -/
def unescape? (c : Char) : Option Char :=
  if c = '"' ∨ c = '\\' ∨ c = '/' then some c
  else if c = 'b' then some '\x08'
  else if c = 'f' then some '\x0c'
  else if c = 'n' then some '\n'
  else if c = 'r' then some '\r'
  else if c = 't' then some '\t'
  else none

/-- What was read of a text so far. -/
structure TextState where
  /-- Why the escapes so far denote no text, if so. -/
  wrong : Option Fault := none
  /-- The first half of a surrogate pair that waits for the second. -/
  high : Option Nat := none
  /-- The characters so far, backwards. -/
  back : List Char := []

namespace TextState

/-- Remembers the first thing that is wrong. -/
def blame (s : TextState) (fault : Fault) : TextState :=
  { s with wrong := s.wrong <|> some fault, high := none }

/-- A first half may not stay alone. -/
def settle (s : TextState) : TextState :=
  if s.high.isSome then s.blame .unexpectedEndOfHexEscape else s

/-- Adds a character. -/
def push (s : TextState) (c : Char) : TextState :=
  let s := s.settle
  { s with back := c :: s.back }

/-- Adds a unit of a hexadecimal escape. -/
def pushUnit (s : TextState) (n : Nat) : TextState :=
  match s.high with
  | some first =>
    if 0xDC00 ≤ n && n ≤ 0xDFFF then
      { s with high := none,
               back := Char.ofNat (0x10000 + (first - 0xD800) * 0x400 + (n - 0xDC00)) :: s.back }
    else s.blame .loneSurrogate
  | none =>
    if 0xDC00 ≤ n && n ≤ 0xDFFF then s.blame .loneSurrogate
    else if 0xD800 ≤ n && n ≤ 0xDBFF then { s with high := some n }
    else { s with back := Char.ofNat n :: s.back }

/-- The text, or what is wrong with it. -/
def finish (s : TextState) : Tree :=
  let s := s.settle
  .string (match s.wrong with
    | some fault => .error fault
    | none => .ok (String.ofList s.back.reverse))

/-- The reader cannot go on. -/
def halt (s : TextState) (fault : Fault) : Step Tree :=
  (.fault (s.wrong.getD fault) fault, none)

end TextState

/-- Reads a text, behind its opening quote. -/
def readText (s : TextState) : List Char → Step Tree
  | [] => s.halt .endInText
  | c :: rest =>
    if c = '"' then (s.finish, some rest)
    else if c = '\\' then
      match rest with
      | [] => s.halt .endInText
      | e :: more =>
        if e = 'u' then
          match more with
          | h₁ :: h₂ :: h₃ :: h₄ :: after =>
            match hex4? h₁ h₂ h₃ h₄ with
            | some n => readText (s.pushUnit n) after
            | none => s.halt .invalidEscape
          | few => s.halt (if byteSize few < 4 then .endInText else .invalidEscape)
        else
          match unescape? e with
          | some d => readText (s.push d) more
          | none => s.settle.halt .invalidEscape
    else if c.toNat < 32 then s.settle.halt .controlCharacter
    else readText (s.push c) rest

/-! ### Values -/

/-- Reads the rest of a keyword. -/
def readKeyword (value : Tree) : List Char → List Char → Step Tree
  | [], text => (value, some text)
  | _ :: _, [] => stop .endInValue
  | c :: more, d :: text => if c = d then readKeyword value more text else stop .expectedIdent

mutual
/-- Reads a value; `fuel` bounds the steps that are left. -/
def readValue : Nat → List Char → Step Tree
  | 0, _ => stop .endInValue
  | fuel + 1, text =>
    match skipSpace text with
    | [] => stop .endInValue
    | c :: rest =>
      if c = 'n' then readKeyword .null "ull".toList rest
      else if c = 't' then readKeyword (.bool true) "rue".toList rest
      else if c = 'f' then readKeyword (.bool false) "alse".toList rest
      else if c = '-' then readNumber true rest
      else if isDigit c then readNumber false (c :: rest)
      else if c = '"' then readText {} rest
      else if c = '[' then
        let (items, rest) := readItems fuel true rest
        (.array items, rest)
      else if c = '\x7b' then
        let (members, rest) := readMembers fuel true rest
        (.object members, rest)
      else stop .expectedValue

/-- Reads the items of an array; `first` tells that none was read yet. -/
def readItems : Nat → Bool → List Char → Step (List Tree)
  | 0, _, _ => ([.fault .endInList .endInList], none)
  | fuel + 1, first, text =>
    let item := fun text =>
      match readValue fuel text with
      | (value, none) => ([value], none)
      | (value, some rest) =>
        let (items, rest) := readItems fuel false rest
        (value :: items, rest)
    match skipSpace text with
    | [] => ([.fault .endInList .endInList], none)
    | c :: rest =>
      if c = ']' then ([], some rest)
      else if first then item (c :: rest)
      else if c = ',' then
        match skipSpace rest with
        | ']' :: _ => ([.fault .trailingComma .expectedValue], none)
        | more => item more
      else ([.fault .expectedCommaOrBracket .expectedCommaOrBracket], none)

/-- Reads the members of an object. -/
def readMembers : Nat → Bool → List Char → Step (List (Tree × Tree))
  | 0, _, _ => ([(.fault .endInObject .endInObject, .null)], none)
  | fuel + 1, first, text =>
    let wrong := fun reading skipping => ([(Tree.fault reading skipping, Tree.null)], none)
    let member := fun text =>
      match readText {} text with
      | (key, none) => ([(key, .null)], none)
      | (key, some rest) =>
        match skipSpace rest with
        | [] => ([(key, .fault .endInObject .endInObject)], none)
        | c :: rest =>
          if c = ':' then
            match readValue fuel rest with
            | (value, none) => ([(key, value)], none)
            | (value, some rest) =>
              let (members, rest) := readMembers fuel false rest
              ((key, value) :: members, rest)
          else ([(key, .fault .expectedColon .expectedColon)], none)
    match skipSpace text with
    | [] => wrong .endInObject .endInObject
    | c :: rest =>
      if c = '\x7d' then ([], some rest)
      else if first then
        if c = '"' then member rest else wrong .keyNotText .keyNotText
      else if c = ',' then
        match skipSpace rest with
        | [] => wrong .endInValue .endInObject
        | d :: more =>
          if d = '"' then member more
          else if d = '\x7d' then wrong .trailingComma .keyNotText
          else wrong .keyNotText .keyNotText
      else wrong .expectedCommaOrBrace .expectedCommaOrBrace
end

/-- Reads the first value of a text. Every step takes a character or descends into one value, so
twice the length bounds the steps. -/
def read (text : List Char) : Step Tree :=
  readValue (2 * text.length + 2) text

end LivePreview.Json
