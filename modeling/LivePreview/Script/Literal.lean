import LivePreview.Script.Identifier
import LivePreview.Text.Search
import LivePreview.Url.Percent
/-!
# LivePreview.Script.Literal

The **words and literals** of scripts. Each reader takes one off the front of a text: it returns what
was taken and the rest, and for names and strings also what they denote.
-/

namespace LivePreview.Script

open Text (isDigit isAsciiAlnum)

/-- What was taken off a text, and the rest. -/
abbrev Taken := List Char × List Char

/-! ### Escapes -/

/-- The value of hexadecimal digits, if all are some. -/
def hexNumber? (digits : List Char) : Option Nat :=
  digits.foldlM (fun n c => (Url.hexValue? c).map (n * 16 + ·)) 0

/-- Reads the code point behind `\u`. -/
def codePoint? : List Char → Option (Nat × Taken)
  | '\x7b' :: rest => do
    let digits := rest.takeWhile (· != '\x7d')
    match digits, rest.dropWhile (· != '\x7d') with
    | _ :: _, _ :: after =>
      let n ← hexNumber? digits
      guard (n ≤ 0x10FFFF)
      return (n, '\x7b' :: digits ++ ['\x7d'], after)
    | _, _ => none
  | rest => do
    let digits := rest.take 4
    guard (digits.length = 4)
    return (← hexNumber? digits, digits, rest.drop 4)

/-- Four hexadecimal digits in small letters. -/
def hexFour (n : Nat) : List Char :=
  [n / 4096, n / 256, n / 16, n].map fun d => (Nat.toDigits 16 (d % 16)).headD '0'

/-- The text of a code point; half of a pair that stands alone is kept visible. -/
def codePointText (n : Nat) : List Char :=
  if 0xD800 ≤ n && n ≤ 0xDFFF then '\ufffd' :: hexFour n else [Char.ofNat n]

/-! ### Names -/

/-- A character of a name, perhaps written as an escape. -/
def nameChar? (isPart : Char → Bool) : List Char → Option (Char × Taken)
  | [] => none
  | '\\' :: 'u' :: rest => do
    let (n, taken, after) ← codePoint? rest
    guard (isPart (Char.ofNat n))
    return (Char.ofNat n, '\\' :: 'u' :: taken, after)
  | c :: rest => if isPart c then some (c, [c], rest) else none

/-- The characters of a name, at most as many as the first text has. -/
def nameChars (isPart : Char → Bool) : List Char → List Char → List Char × Taken
  | [], text => ([], [], text)
  | _ :: bound, text =>
    match nameChar? isPart text with
    | some (c, taken, rest) =>
      let (value, more, after) := nameChars isPart bound rest
      (c :: value, taken ++ more, after)
    | none => ([], [], text)

/-- Reads a name whose further characters are of this class. -/
def nameWith? (isPart : Char → Bool) (text : List Char) : Option (String × Taken) := do
  let (c, taken, rest) ← nameChar? isNameStart text
  let (value, more, after) := nameChars isPart rest rest
  return (String.ofList (c :: value), taken ++ more, after)

/-- Reads a name. -/
def name? (text : List Char) : Option (String × Taken) :=
  nameWith? isNamePart text

/-- Reads a name that is no reserved word. -/
def identifier? (text : List Char) : Option (String × Taken) := do
  let (value, taken) ← name? text
  guard (!reservedWords.contains value)
  return (value, taken)

/-- Reads a word that no further character of a name follows. -/
def word? (word : String) (text : List Char) : Option Taken := do
  let rest ← Text.dropLead? word.toList text
  match rest with
  | c :: _ => guard (!isNamePart c && c != '\\')
  | [] => pure ()
  return (word.toList, rest)

/-! ### Strings -/

/-- Does the character end a line in a string? -/
def endsStringLine (c : Char) : Bool :=
  c == '\n' || c == '\r'

/-- The octal digits of an escape: at most three, and none beyond 255. -/
def octalDigits (text : List Char) : List Char :=
  let isOctal := fun c => isDigit c && c != '8' && c != '9'
  match text with
  | c :: _ => (text.take (if c.toNat ≤ 51 then 3 else 2)).takeWhile isOctal
  | [] => []

/-- Reads an escape behind its backslash: what it denotes, what was taken, and the rest. -/
def escape? : List Char → Option (List Char × Taken)
  | [] => none
  | '\r' :: '\n' :: rest => some ([], ['\r', '\n'], rest)
  | 'u' :: rest => do
    let (n, taken, after) ← codePoint? rest
    match if 0xD800 ≤ n && n ≤ 0xDBFF then after else [] with
    | '\\' :: 'u' :: second =>
      match codePoint? second with
      | some (m, more, last) =>
        if 0xDC00 ≤ m && m ≤ 0xDFFF then
          let whole := 0x10000 + (n - 0xD800) * 0x400 + (m - 0xDC00)
          return ([Char.ofNat whole], 'u' :: taken ++ '\\' :: 'u' :: more, last)
        else return (codePointText n, 'u' :: taken, after)
      | none => return (codePointText n, 'u' :: taken, after)
    | _ => return (codePointText n, 'u' :: taken, after)
  | 'x' :: rest => do
    guard ((rest.take 2).length = 2)
    return ([Char.ofNat (← hexNumber? (rest.take 2))], 'x' :: rest.take 2, rest.drop 2)
  | c :: rest =>
    let octal := octalDigits (c :: rest)
    if !octal.isEmpty then
      let n := octal.foldl (fun n d => n * 8 + (d.toNat - 48)) 0
      some ([Char.ofNat n], octal, (c :: rest).drop octal.length)
    else
      let value := match c with
        | 'n' => ['\n']
        | 't' => ['\t']
        | 'r' => ['\r']
        | 'b' => ['\x08']
        | 'v' => ['\x0b']
        | 'f' => ['\x0c']
        | '\n' | '\r' | '\u2028' | '\u2029' => []
        | other => [other]
      some (value, [c], rest)

/-- Reads a string behind its opening quote, at most as many characters as the first text has. -/
def stringBody? (quote : Char) : List Char → List Char → Option (List Char × Taken)
  | [], _ => none
  | _, [] => none
  | _ :: bound, c :: rest =>
    if c = quote then some ([], [c], rest)
    else if endsStringLine c then none
    else do
      let (value, taken, after) ← if c = '\\' then escape? rest else some ([c], [], rest)
      let (values, more, last) ← stringBody? quote bound after
      return (value ++ values, c :: taken ++ more, last)

/-- Reads a string. -/
def string? : List Char → Option (String × Taken)
  | [] => none
  | c :: rest => do
    guard (c = '"' || c = '\'')
    let (value, taken, after) ← stringBody? c rest rest
    return (String.ofList value, c :: taken, after)

/-! ### Numbers -/

/-- Digits of a class, with single underscores between them. -/
def digitRun (isPart : Char → Bool) : List Char → Taken
  | [] => ([], [])
  | c :: rest =>
    if isPart c then
      let (taken, after) := digitRun isPart rest
      (c :: taken, after)
    else if c = '_' then
      match rest with
      | d :: _ =>
        if isPart d then
          let (taken, after) := digitRun isPart rest
          (c :: taken, after)
        else ([], c :: rest)
      | [] => ([], [c])
    else ([], c :: rest)

/-- The exponent of a number, if there is one. -/
def exponent (text : List Char) : Taken :=
  match text with
  | e :: rest =>
    if e = 'e' || e = 'E' then
      let (sign, digits) := match rest with
        | '+' :: more => (['+'], more)
        | '-' :: more => (['-'], more)
        | more => ([], more)
      let (taken, after) := digitRun isDigit digits
      if taken.isEmpty then ([], text) else (e :: sign ++ taken, after)
    else ([], text)
  | [] => ([], [])

/-- A number in decimal digits. -/
def decimal? (text : List Char) : Option Taken :=
  let (whole, rest) := digitRun isDigit text
  let (fraction, rest) := match rest with
    | '.' :: more =>
      let (taken, after) := digitRun isDigit more
      if whole.isEmpty && taken.isEmpty then ([], '.' :: more) else ('.' :: taken, after)
    | more => ([], more)
  if whole.isEmpty && fraction.isEmpty then none
  else
    let (power, rest) := exponent rest
    match rest with
    | 'n' :: after =>
      if fraction.isEmpty && power.isEmpty then some (whole ++ ['n'], after)
      else some (whole ++ fraction ++ power, rest)
    | _ => some (whole ++ fraction ++ power, rest)

/-- A number with digits of a class behind a mark of two characters. -/
def based? (isPart : Char → Bool) (text : List Char) : Option Taken :=
  match digitRun isPart (text.drop 2) with
  | ([], _) => none
  | (taken, 'n' :: after) => some (text.take 2 ++ taken ++ ['n'], after)
  | (taken, after) => some (text.take 2 ++ taken, after)

/-- Reads a number; no name may follow it directly. -/
def number? (text : List Char) : Option Taken := do
  let (taken, rest) ← match text with
    | '0' :: x :: _ =>
      if x = 'x' || x = 'X' then based? (fun c => (Url.hexValue? c).isSome) text
      else if x = 'o' || x = 'O' then based? (fun c => isDigit c && c != '8' && c != '9') text
      else if x = 'b' || x = 'B' then based? (fun c => c == '0' || c == '1') text
      else decimal? text
    | _ => decimal? text
  match rest with
  | c :: _ => guard (!isNameStart c && !isDigit c)
  | [] => pure ()
  return (taken, rest)

/-! ### Regular expressions -/

/-- Reads a regular expression behind its opening slash; the flag tells whether the reader is inside
a class of characters. -/
def regexBody? (inClass : Bool) : List Char → Option Taken
  | [] => none
  | '\\' :: c :: rest =>
    if endsStringLine c then none
    else (regexBody? inClass rest).map fun (taken, after) => ('\\' :: c :: taken, after)
  | c :: rest =>
    if endsStringLine c || c = '\u2028' || c = '\u2029' then none
    else if c = '/' && !inClass then some (['/'], rest)
    else
      let inside := if c = '[' then true else if c = ']' then false else inClass
      (regexBody? inside rest).map fun (taken, after) => (c :: taken, after)

/-- Are these the flags of a regular expression? -/
def areFlags (flags : List Char) : Bool :=
  flags.all "dgimsuvy".toList.contains && flags.eraseDups.length == flags.length

/-- Reads a regular expression. -/
def regex? : List Char → Option Taken
  | '/' :: c :: rest => do
    guard (c != '*' && c != '/')
    let (body, after) ← regexBody? false (c :: rest)
    let flags := after.takeWhile isNamePart
    guard (areFlags flags)
    return ('/' :: body ++ flags, after.drop flags.length)
  | _ => none

/-! ### Templates -/

/-- Reads a part of a template up to its end or to the next place for a value: what was taken, the
rest, and whether a value follows. -/
def templateBody? : List Char → Option (Taken × Bool)
  | [] => none
  | '\\' :: c :: rest =>
    (templateBody? rest).map fun ((taken, after), more) => (('\\' :: c :: taken, after), more)
  | '$' :: '\x7b' :: rest => some ((['$', '\x7b'], rest), true)
  | c :: rest =>
    if c = '\x60' then some (([c], rest), false)
    else (templateBody? rest).map fun ((taken, after), more) => ((c :: taken, after), more)

/-- Reads a part of a template that starts with this mark; the flag tells whether a value has to
follow. -/
def templatePart? (mark : Char) (followed : Bool) : List Char → Option Taken
  | [] => none
  | c :: rest => do
    guard (c = mark)
    let ((taken, after), more) ← templateBody? rest
    guard (more == followed)
    return (c :: taken, after)

/-! ### Marks -/

/-- The marks of more than one character, longer ones first. -/
def longMarks : List String :=
  [">>>=", "...", "===", "!==", "**=", "<<=", ">>=", ">>>", "&&=", "||=", "??=", "=>", "==", "!=",
   "<=", ">=", "&&", "||", "??", "?.", "++", "--", "+=", "-=", "*=", "/=", "%=", "&=", "|=", "^=",
   "<<", ">>", "**"]

/-- Does the text start with this mark? A question mark in front of a fraction stands alone. -/
def startsMark (mark : String) (text : List Char) : Bool :=
  match Text.dropLead? mark.toList text with
  | some rest => !(mark == "?." && rest.head?.any isDigit)
  | none => false

/-- Reads a mark that is not the beginning of a longer one. -/
def mark? (mark : String) (text : List Char) : Option Taken := do
  let rest ← Text.dropLead? mark.toList text
  guard (!longMarks.any fun long => mark.length < long.length && startsMark long text)
  guard (startsMark mark text)
  return (mark.toList, rest)

/-- Reads one character. -/
def char? (c : Char) : List Char → Option Taken
  | [] => none
  | d :: rest => if d = c then some ([d], rest) else none

/-! ### Markup -/

/-- Does the character belong to a name in markup? -/
def isMarkupNamePart (c : Char) : Bool :=
  isNamePart c || c == '-'

/-- Reads further parts of a name in markup, behind points or a colon; at most as many as the first
text has characters. -/
def markupNameParts : List Char → List Char → Taken
  | [], text => ([], text)
  | _ :: bound, text =>
    match text with
    | c :: rest =>
      if c = '.' || c = ':' then
        match nameWith? isMarkupNamePart rest with
        | some (_, taken, after) =>
          let (more, last) := markupNameParts bound after
          (c :: taken ++ more, last)
        | none => ([], text)
      else ([], text)
    | [] => ([], [])

/-- Reads the name of an element or of an attribute in markup. -/
def markupName? (text : List Char) : Option Taken := do
  let (_, taken, rest) ← nameWith? isMarkupNamePart text
  let (more, after) := markupNameParts rest rest
  return (taken ++ more, after)

/-- Reads text in markup. -/
def markupText? (text : List Char) : Option Taken :=
  let isPart := fun c => c != '<' && c != '>' && c != '\x7b' && c != '\x7d'
  match text.takeWhile isPart with
  | [] => none
  | taken => some (taken, text.dropWhile isPart)

/-- Reads the value of an attribute in markup. -/
def markupString? : List Char → Option Taken
  | [] => none
  | quote :: rest => do
    guard (quote = '"' || quote = '\'')
    match rest.dropWhile (· != quote) with
    | _ :: after => return (quote :: rest.takeWhile (· != quote) ++ [quote], after)
    | [] => none

end LivePreview.Script
