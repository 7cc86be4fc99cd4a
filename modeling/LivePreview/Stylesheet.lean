import LivePreview.Dictionary
import LivePreview.Json.Value
import LivePreview.Text.Blank
import LivePreview.Text.Search
import LivePreview.Text.Word
/-!
# LivePreview.Stylesheet

A **stylesheet module** binds the class names of its selectors. Selectors are what stands before an
opening brace, apart from the preludes of at-rules; comments and the contents of `url(…)` are
taken out first, so that neither a file name nor a number looks like a class.
-/

namespace LivePreview.Stylesheet

open Text

/-! ### Cleaning -/

/-- A closed comment gives way to nothing. -/
def comment? (text : List Char) : Option (List Char × List Char) := do
  let (_, after) ← cutAt? ['*', '/'] (← dropLead? ['/', '*'] text)
  return ([], after)

/-- What stands between the parentheses of an address gives way to nothing. -/
def address? (text : List Char) : Option (List Char × List Char) := do
  let (_, after) ← cutAt? [')'] (← dropLead? "url(".toList text)
  return ("url()".toList, after)

/-- The stylesheet without comments and addresses. -/
def clean (css : List Char) : List Char :=
  substitute address? (substitute comment? css)

/-! ### Selectors -/

/-- May `c` begin a class name, behind an optional hyphen? -/
def isClassStart (c : Char) : Bool :=
  isAsciiLetter c || c == '_'

/-- May `c` stand in a class name? -/
def isClassPart (c : Char) : Bool :=
  isAsciiAlnum c || c == '_' || c == '-'

/-- Takes a class name off the front. -/
def className? : List Char → Option (List Char)
  | '-' :: c :: rest => if isClassStart c then some ('-' :: c :: rest.takeWhile isClassPart) else none
  | c :: rest => if isClassStart c then some (c :: rest.takeWhile isClassPart) else none
  | [] => none

/-- The class names of a selector, in order: what follows a dot. A name holds no dot, so the names
can be looked for at every dot on its own. -/
def selectorClasses : List Char → List (List Char)
  | [] => []
  | c :: rest => if c = '.' then (className? rest).toList ++ selectorClasses rest
    else selectorClasses rest

/-- The class names of the rules in a clean stylesheet. `back` holds what was read since the last
brace or semicolon, backwards. -/
def ruleClasses (back : List Char) : List Char → List (List Char)
  | [] => []
  | c :: rest =>
    if c = '\x7b' then
      let prelude := trim back.reverse
      (if startsWith ['@'] prelude then [] else selectorClasses prelude) ++ ruleClasses [] rest
    else if c = '\x7d' || c = ';' then ruleClasses [] rest
    else ruleClasses (c :: back) rest

/-- The class names of a stylesheet, each once, in the order in which they first stand. -/
def classNames (css : String) : List String :=
  ((ruleClasses [] (clean css.toList)).map String.ofList).eraseDups

/-- The look-up object of a stylesheet: every class name under itself. -/
def lookup (css : String) : Json.Value :=
  .object ((Dictionary.ofList ((classNames css).map fun name => (name, name))).entries.map
    fun entry => (entry.1, .string entry.2))

end LivePreview.Stylesheet
