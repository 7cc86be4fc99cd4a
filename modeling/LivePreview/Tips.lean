import LivePreview.Json.Value
import LivePreview.Language
import LivePreview.Text.Reader
import LivePreview.Text.Word
/-!
# LivePreview.Tips

**Tips** are hints that stand below a compile error. Each looks for something in the source or in the
message; a last one tells when the brackets of the source do not pair up. The same tips are
evaluated in the frame, so each also has a pattern that a script can test.
-/

namespace LivePreview

open Text

namespace Tips

/-- Where a tip looks. -/
inductive Target
  | source
  | message
  deriving Repr, DecidableEq

/-- A hint and when it is given. -/
structure Tip where
  target : Target
  /-- What a script looks for. -/
  pattern : String
  /-- Does the tip apply only to languages without elements? -/
  plainOnly : Bool
  text : String
  /-- Is it there, in the text that the tip looks at? -/
  found : List Char → Bool

/-! ### What the tips look for -/

/-- Has one of the suffixes of a text the property? -/
def anySuffix (p : List Char → Bool) : List Char → Bool
  | [] => p []
  | c :: rest => p (c :: rest) || anySuffix p rest

/-- Does the text begin with a name that is declared and, without an equals sign, a parameter list
and an arrow? -/
def beginsArrow (text : List Char) : Bool :=
  let rest? := do
    let rest ← wordGap? "const" text <|> wordGap? "let" text <|> wordGap? "var" text
    let (_, rest) ← takeIdent? rest
    let (_, rest) ← between? '(' ')' (trimStart rest)
    word? "=>" (trimStart rest)
  rest?.isSome

/-- Does the word `export` stand in the text? `inWord` tells whether a word character stands before
it. -/
def hasExportWord (inWord : Bool) : List Char → Bool
  | [] => false
  | c :: rest =>
    (!inWord && match dropLead? "export".toList (c :: rest) with
      | some [] => true
      | some (d :: _) => !isWord d
      | none => false) || hasExportWord (isWord c) rest

/-- Does the text begin with a closing tag, or with the end of an empty one? -/
def beginsTag : List Char → Bool
  | '<' :: '/' :: c :: _ => isAsciiLetter c
  | '/' :: '>' :: _ => true
  | _ => false

/-- Is this the message of a compiler that misses a closing tag? -/
def missesTag (message : List Char) : Bool :=
  contains "Expected corresponding JSX closing tag".toList message ||
  contains "Unterminated JSX contents".toList message

/-! ### The table -/

/-- The tips, in the order in which they are given. -/
def table : List Tip :=
  [{ target := .source
     pattern := "(?:const|let|var)\\s+[A-Za-z_$][\\w$]*\\s*\\([^)]*\\)\\s*=>"
     plainOnly := false
     text := "Arrow functions are assigned with '=': write `const Name = (props) => ...`."
     found := anySuffix beginsArrow },
   { target := .message
     pattern := "\\bexport\\b"
     plainOnly := false
     text := "`export` is only allowed at the top level of the file."
     found := hasExportWord false },
   { target := .source
     pattern := "</[A-Za-z]|/>"
     plainOnly := true
     text := "This looks like JSX. Switch the language to jsx or tsx."
     found := anySuffix beginsTag },
   { target := .message
     pattern := "Expected corresponding JSX closing tag|Unterminated JSX contents"
     plainOnly := false
     text := "A JSX element is missing its closing tag."
     found := missesTag }]

/-- The tip for brackets that do not pair up. -/
def unbalancedTip : String :=
  "Brackets are unbalanced: check that every (, [ and \x7b is closed."

/-- A tip as the script gets it. -/
def Tip.json (tip : Tip) : Json.Value :=
  .object [
    ("target", .string (match tip.target with | .source => "source" | .message => "message")),
    ("pattern", .string tip.pattern),
    ("plainOnly", .bool tip.plainOnly),
    ("tip", .string tip.text)]

/-- The tips as the script gets them. -/
def json : Json.Value :=
  .array (table.map Tip.json)

/-! ### Brackets -/

/-- What a character of a source is part of, for the bracket check. -/
inductive Inside
  | code
  | quoted (quote : Char)
  | escaped (quote : Char)
  | lineComment
  deriving Repr, DecidableEq

/-- The bracket that a closing one closes. -/
def opening? (c : Char) : Option Char :=
  if c = ')' then some '(' else if c = ']' then some '[' else if c = '\x7d' then some '\x7b' else none

/-- Do the brackets of the text fail to close those that are open, the last of which comes first?
Literals and comments that end with the line do not count. -/
def unbalanced.go : Inside → List Char → List Char → Bool
  | _, stack, [] => !stack.isEmpty
  | .quoted q, stack, c :: rest =>
    unbalanced.go (if c = '\\' then .escaped q else if c = q then .code else .quoted q) stack rest
  | .escaped q, stack, _ :: rest => unbalanced.go (.quoted q) stack rest
  | .lineComment, stack, c :: rest =>
    unbalanced.go (if c = '\n' then .code else .lineComment) stack rest
  | .code, stack, c :: rest =>
    if c = '"' || c = '\'' || c = '\x60' then unbalanced.go (.quoted c) stack rest
    else if c = '/' && rest.head? == some '/' then unbalanced.go .lineComment stack rest
    else if c = '(' || c = '[' || c = '\x7b' then unbalanced.go .code (c :: stack) rest
    else
      match opening? c with
      | none => unbalanced.go .code stack rest
      | some o =>
        match stack with
        | top :: more => if top = o then unbalanced.go .code more rest else true
        | [] => true

/-- Do the brackets of a source fail to pair up? -/
def unbalanced (source : String) : Bool :=
  unbalanced.go .code [] source.toList

/-- The tips for a compile error. -/
def forError (source message : String) (language : Language) : List String :=
  let given := table.filter fun tip =>
    (!tip.plainOnly || !language.supportsJsx) &&
    tip.found (match tip.target with | .source => source.toList | .message => message.toList)
  given.map (·.text) ++ if unbalanced source then [unbalancedTip] else []

end Tips

end LivePreview
