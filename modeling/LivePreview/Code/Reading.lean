/-!
# LivePreview.Code.Reading

Where a **reader of code** stands: in plain code, in a literal or in a comment. The state after a
character depends on the state before it and the character alone, so a reader can stop anywhere
and go on later, and what it does at a semicolon or a bracket is decided by `isCode`.

A slash is plain code until the next character shows that it opens a comment.
-/

namespace LivePreview.Code

/-- Where a reader stands. -/
inductive Reading
  /-- In plain code. -/
  | code
  /-- In plain code, right behind a slash. -/
  | slash
  /-- In a literal that was opened by this quote. -/
  | quoted (quote : Char)
  /-- In a literal, right behind a backslash. -/
  | escaped (quote : Char)
  /-- In a comment that ends with the line. -/
  | lineComment
  /-- In a comment that ends with `*/`. -/
  | blockComment
  /-- In such a comment, right behind a star. -/
  | blockStar
  deriving Repr, DecidableEq

namespace Reading

/-- Is `c` a quote that opens a string or a template? -/
def isQuote (c : Char) : Bool :=
  c == '"' || c == '\'' || c == '\x60'

/-- Where a reader in plain code stands behind `c`. -/
def afterCode (c : Char) : Reading :=
  if isQuote c then .quoted c else if c = '/' then .slash else .code

/-- Where a reader stands behind `c`. The flag tells whether a line end closes a literal. -/
def step (lineEndCloses : Bool) : Reading → Char → Reading
  | .code, c => afterCode c
  | .slash, c => if c = '/' then .lineComment else if c = '*' then .blockComment else afterCode c
  | .quoted q, c =>
    if c = '\\' then .escaped q
    else if c = q || (lineEndCloses && c = '\n') then .code
    else .quoted q
  | .escaped q, _ => .quoted q
  | .lineComment, c => if c = '\n' then .code else .lineComment
  | .blockComment, c => if c = '*' then .blockStar else .blockComment
  | .blockStar, c => if c = '/' then .code else if c = '*' then .blockStar else .blockComment

/-- Is a reader who stands here outside literals and comments? -/
def isCode : Reading → Bool
  | .code | .slash => true
  | _ => false

end Reading

end LivePreview.Code
