import LivePreview.Script.Cursor
/-!
# LivePreview.Script.Grammar

**Grammars as data.** A grammar says what may stand behind a cursor; of several options the first that
fits counts. Rules have names, so that they can be used within each other, and `Grammar.read` follows
a grammar from a cursor to the cursor behind what fits.
-/

namespace LivePreview.Script

/-- A grammar over rules with names in `ρ`. -/
inductive Grammar (ρ : Type)
  /-- What a reader takes. -/
  | token (read : Cursor → Option Cursor)
  /-- A rule by its name. -/
  | rule (name : ρ)
  /-- All parts, in order. -/
  | seq (parts : List (Grammar ρ))
  /-- The first option that fits. -/
  | alt (options : List (Grammar ρ))
  /-- As often as it fits, perhaps never. -/
  | many (part : Grammar ρ)
  /-- It fits, but nothing is taken. -/
  | ahead (part : Grammar ρ)
  /-- It does not fit, and nothing is taken. -/
  | absent (part : Grammar ρ)
  /-- In another context. -/
  | under (change : Context → Context) (part : Grammar ρ)

namespace Grammar

variable {ρ : Type}

/-- The cursor behind what fits. Every step within another takes one from the limit. -/
def read (rules : ρ → Grammar ρ) : Nat → Grammar ρ → Cursor → Option Cursor
  | 0, _, _ => none
  | limit + 1, g, c =>
    match g with
    | token f => f c
    | rule name => read rules limit (rules name) c
    | seq [] => some c
    | seq (part :: more) =>
      match read rules limit part c with
      | some next => read rules limit (seq more) next
      | none => none
    | alt [] => none
    | alt (option :: more) =>
      match read rules limit option c with
      | some next => some next
      | none => read rules limit (alt more) c
    | many part =>
      match read rules limit part c with
      | some next => if next.start = c.start then some c else read rules limit (many part) next
      | none => some c
    | ahead part => if (read rules limit part c).isSome then some c else none
    | absent part => if (read rules limit part c).isSome then none else some c
    | under change part =>
      (read rules limit part { c with context := change c.context }).map fun next =>
        { next with context := c.context }

/-! ### Tokens -/

/-- A token, with what follows it skipped up to the next one. -/
def lexeme (take : List Char → Option Taken) : Grammar ρ :=
  token fun c => (take c.rest).map c.next

/-- A token with nothing skipped behind it. -/
def tight (take : List Char → Option Taken) : Grammar ρ :=
  token fun c => (take c.rest).map c.behind

/-- A condition on the cursor. -/
def test (p : Cursor → Bool) : Grammar ρ :=
  token fun c => if p c then some c else none

/-- A change of the cursor that takes nothing. -/
def set (f : Cursor → Cursor) : Grammar ρ :=
  token fun c => some (f c)

/-- A word or a mark. -/
def literal (text : String) : Grammar ρ :=
  match text.toList with
  | c :: _ => if isNameStart c then lexeme (word? text) else lexeme (mark? text)
  | [] => seq []

instance : Coe String (Grammar ρ) := ⟨literal⟩

instance : Coe ρ (Grammar ρ) := ⟨rule⟩

/-! ### Combinations -/

/-- Perhaps once. -/
def opt (part : Grammar ρ) : Grammar ρ :=
  alt [part, seq []]

/-- At least once. -/
def some1 (part : Grammar ρ) : Grammar ρ :=
  seq [part, many part]

/-- At least once, with a mark in between. -/
def separated (mark : String) (part : Grammar ρ) : Grammar ρ :=
  seq [part, many (seq [literal mark, part])]

/-- With commas in between, perhaps none at all, and perhaps a comma at the end. -/
def listOf (part : Grammar ρ) : Grammar ρ :=
  opt (seq [separated "," part, opt ","])

/-- One of several words or marks. -/
def oneOf (texts : List String) : Grammar ρ :=
  alt (texts.map literal)

/-- The next token stands on the same line. -/
def sameLine : Grammar ρ := test (!·.fresh)

/-- The end of a statement. -/
def statementEnd : Grammar ρ := token Cursor.statementEnd?

/-- A name that is no reserved word. -/
def identifier : Grammar ρ := token fun c =>
  if c.context.allowsYield && (word? "yield" c.rest).isSome then none
  else c.identifier?.map (·.2)

/-- Any name. -/
def anyName : Grammar ρ := token fun c => c.name?.map (·.2)

/-- A string. -/
def string : Grammar ρ := token fun c => c.string?.map (·.2)

/-- A number. -/
def number : Grammar ρ := lexeme number?

/-- A bracket that closes a list of types; it may be the beginning of another mark. -/
def closeAngle : Grammar ρ := lexeme (char? '>')

end Grammar

end LivePreview.Script
