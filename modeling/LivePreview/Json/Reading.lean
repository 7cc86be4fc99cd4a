import LivePreview.Dictionary
import LivePreview.Json.Tree
import LivePreview.Text.Quoted
/-!
# LivePreview.Json.Reading

**Typed readings** of a JSON tree. A reading takes a tree and gives a value of a type or the
first **problem** on the way: a fault of the text, a value of another type, a variant or a
length that the type does not have, a field that is missing or given twice.

Fields that a record does not know are passed over, and only their faults count. A record may
also be written as an array of its fields in their order.
-/

namespace LivePreview.Json

/-- What stands where something else is expected. -/
inductive Found
  | null
  | boolean (value : Bool)
  | number (value : Number)
  | text (value : String)
  | map
  | sequence
  deriving Repr, DecidableEq

/-- The wording of what stands there. -/
def Found.message : Found → String
  | null => "null"
  | boolean value => "boolean `" ++ (if value then "true" else "false") ++ "`"
  | number (.integer value) => "integer `" ++ toString value ++ "`"
  | number (.float bits) => "floating point `" ++ Decimal.ofBits bits.toNat ++ "`"
  | text value => "string " ++ Text.quoted value
  | map => "map"
  | sequence => "sequence"

/-- Why a tree is no value of a type. -/
inductive Problem
  | fault (fault : Fault)
  | invalidType (found : Found) (expected : String)
  | invalidValue (found : Found) (expected : String)
  | invalidLength (length : Nat) (expected : String)
  | unknownVariant (name : String) (known : List String)
  | missingField (name : String)
  | duplicateField (name : String)
  deriving Repr, DecidableEq

/-- The known variants, as a message lists them. -/
def knownVariants : List String → String
  | [] => "there are no variants"
  | [a] => "expected `" ++ a ++ "`"
  | [a, b] => "expected `" ++ a ++ "` or `" ++ b ++ "`"
  | more => "expected one of " ++ ", ".intercalate (more.map fun name => "`" ++ name ++ "`")

/-- The wording of a problem. -/
def Problem.message : Problem → String
  | fault f => f.message
  | invalidType found expected => "invalid type: " ++ found.message ++ ", expected " ++ expected
  | invalidValue found expected => "invalid value: " ++ found.message ++ ", expected " ++ expected
  | invalidLength length expected =>
    "invalid length " ++ toString length ++ ", expected " ++ expected
  | unknownVariant name known => "unknown variant `" ++ name ++ "`, " ++ knownVariants known
  | missingField name => "missing field `" ++ name ++ "`"
  | duplicateField name => "duplicate field `" ++ name ++ "`"

/-- A reading of trees as values of a type. -/
abbrev Reading (α : Type) := Tree → Except Problem α

/-- What a tree is at its root. -/
def Tree.found : Reading Found
  | .null => .ok .null
  | .bool value => .ok (.boolean value)
  | .number (.ok value) => .ok (.number value)
  | .number (.error f) => .error (.fault f)
  | .string (.ok text) => .ok (.text text)
  | .string (.error f) => .error (.fault f)
  | .array _ => .ok .sequence
  | .object _ => .ok .map
  | .fault reading _ => .error (.fault reading)

/-- The problem of a tree that has another type than expected. -/
def mismatch {α : Type} (expected : String) : Reading α := fun tree => do
  throw (.invalidType (← tree.found) expected)

/-! ### Simple types -/

/-- A text. -/
def text : Reading String
  | .string (.ok text) => .ok text
  | tree => mismatch "a string" tree

/-- A truth value. -/
def bool : Reading Bool
  | .bool value => .ok value
  | tree => mismatch "a boolean" tree

/-- A whole number of 64 bits. -/
def word : Reading Nat
  | .number (.ok (.integer (.ofNat n))) => .ok n
  | .number (.ok (.integer value)) => .error (.invalidValue (.number (.integer value)) "u64")
  | tree => mismatch "u64" tree

/-- A value that may be `null`. -/
def optional {α : Type} (reading : Reading α) : Reading (Option α)
  | .null => .ok none
  | tree => some <$> reading tree

/-- A list. -/
def list {α : Type} (reading : Reading α) : Reading (List α)
  | .array items => items.mapM reading
  | tree => mismatch "a sequence" tree

/-- A key. -/
def key : Reading String
  | .string (.ok text) => .ok text
  | .string (.error f) => .error (.fault f)
  | .fault reading _ => .error (.fault reading)
  | _ => .error (.fault .keyNotText)

/-- A dictionary; of two values of one key the later counts. -/
def dictionary {α : Type} (reading : Reading α) : Reading (Dictionary α)
  | .object members =>
    members.foldlM (fun d member => do
      let k ← key member.1
      return d.insert k (← reading member.2)) .empty
  | tree => mismatch "a map" tree

/-- One of several named variants. A variant may also be written as an object with its name as
the only key and `null` as the value. -/
def variant {α : Type} (variants : List (String × α)) : Reading α
  | .string (.ok name) => find name
  | .string (.error f) => .error (.fault f)
  | .fault reading _ => .error (.fault reading)
  | .object ((name, content) :: more) => do
    let chosen ← find (← key name)
    match content with
    | .null => if more.isEmpty then return chosen else throw (.fault .expectedValue)
    | other => mismatch "unit" other
  | _ => .error (.fault .expectedValue)
where
  /-- The variant of this name. -/
  find (name : String) : Except Problem α :=
    match variants.find? (·.1 == name) with
    | some found => .ok found.2
    | none => .error (.unknownVariant name (variants.map (·.1)))

/-! ### Passing over and keeping -/

mutual
/-- Passes over a value: only faults that hide its end count. -/
def skip : Tree → Except Problem Unit
  | .fault _ skipping => .error (.fault skipping)
  | .array items => skipItems items
  | .object members => skipMembers members
  | _ => .ok ()

/-- Passes over the items of an array. -/
def skipItems : List Tree → Except Problem Unit
  | [] => .ok ()
  | item :: more => do skip item; skipItems more

/-- Passes over the members of an object. -/
def skipMembers : List (Tree × Tree) → Except Problem Unit
  | [] => .ok ()
  | (name, value) :: more => do skip name; skip value; skipMembers more
end

mutual
/-- Keeps a value of any type, with at most `depth - 1` levels of arrays and objects. Members are
in the order of their keys, and the last of two with one key counts. -/
def value (depth : Nat) : Tree → Except Problem Value
  | .null => .ok .null
  | .bool b => .ok (.bool b)
  | .number (.ok n) => .ok (.number n)
  | .number (.error f) => .error (.fault f)
  | .string (.ok text) => .ok (.string text)
  | .string (.error f) => .error (.fault f)
  | .fault reading _ => .error (.fault reading)
  | .array items =>
    if depth ≤ 1 then .error (.fault .tooDeep)
    else return .array (← valueItems (depth - 1) items)
  | .object members =>
    if depth ≤ 1 then .error (.fault .tooDeep)
    else return .object (Dictionary.ofList (← valueMembers (depth - 1) members)).entries

/-- Keeps the items of an array. -/
def valueItems (depth : Nat) : List Tree → Except Problem (List Value)
  | [] => .ok []
  | item :: more => return (← value depth item) :: (← valueItems depth more)

/-- Keeps the members of an object. -/
def valueMembers (depth : Nat) : List (Tree × Tree) → Except Problem (List (String × Value))
  | [] => .ok []
  | (name, content) :: more =>
    return (← key name, ← value depth content) :: (← valueMembers depth more)
end

/-- The depth limit of a whole text. -/
def depthLimit : Nat := 128

/-! ### Records -/

/-- How a record is read: fields go into a draft one by one, and the finished draft is the
record. -/
structure RecordForm (δ α : Type) where
  /-- What the record is called in a message. -/
  name : String
  /-- The fields, in order. -/
  fields : List String
  /-- The draft without fields. -/
  empty : δ
  /-- Puts a field into the draft; `none` for a field that the record does not know. -/
  put : String → Option (Tree → δ → Except Problem δ)
  /-- The record of a draft. -/
  finish : δ → Except Problem α

/-- Puts a field that may be given once. -/
def once {α δ : Type} (name : String) (old : δ → Option α) (reading : Reading α)
    (keep : δ → α → δ) : Tree → δ → Except Problem δ :=
  fun tree draft =>
    match old draft with
    | some _ => .error (.duplicateField name)
    | none => return keep draft (← reading tree)

/-- A field that has to be given. -/
def required {α : Type} (name : String) : Option α → Except Problem α
  | some value => .ok value
  | none => .error (.missingField name)

namespace RecordForm

variable {δ α : Type} (form : RecordForm δ α)

/-- Puts members into the draft, in order. -/
def putMembers : δ → List (Tree × Tree) → Except Problem δ
  | draft, [] => .ok draft
  | draft, (name, content) :: more => do
    let field ← key name
    match form.put field with
    | some put => putMembers (← put content draft) more
    | none =>
      skip content
      putMembers draft more

/-- Puts the items of an array into the draft; the items that no field is left for are given
back. -/
def putItems : List String → δ → List Tree → Except Problem (δ × List Tree)
  | [], draft, items => .ok (draft, items)
  | _ :: _, draft, [] => .ok (draft, [])
  | field :: fields, draft, item :: items =>
    match form.put field with
    | some put => do putItems fields (← put item draft) items
    | none => putItems fields draft items

/-- "1 element", "2 elements". -/
def countText (n : Nat) : String :=
  if n = 1 then "1 element" else toString n ++ " elements"

/-- The record of an array of fields. -/
def readItems (items : List Tree) : Except Problem (α × List Tree) := do
  let (draft, more) ← form.putItems form.fields form.empty items
  match form.finish draft with
  | .ok record => return (record, more)
  | .error (.missingField name) =>
    throw (.invalidLength (form.fields.findIdx (· == name))
      (form.name ++ " with " ++ countText form.fields.length))
  | .error problem => throw problem

/-- The reading of a record. -/
def read : Reading α
  | .object members => do form.finish (← form.putMembers form.empty members)
  | .array items => do
    let (record, more) ← form.readItems items
    match more with
    | [] => return record
    | .fault .endInList _ :: _ => throw (.fault .endInList)
    | .fault .trailingComma _ :: _ => throw (.fault .trailingComma)
    | _ => throw (.fault .trailingCharacters)
  | tree => mismatch form.name tree

end RecordForm

/-! ### Whole texts -/

/-- Reads a whole text as a value of a type; nothing but space may follow it. -/
def parse {α : Type} (reading : Reading α) (json : String) : Except Problem α := do
  let (tree, rest) := read json.toList
  let result ← reading tree
  match rest with
  | some rest =>
    if (skipSpace rest).isEmpty then return result else throw (.fault .trailingCharacters)
  | none => throw (.fault .trailingCharacters)

/-- The value that a text denotes. -/
def Value.parse (json : String) : Except Problem Value :=
  Json.parse (value depthLimit) json

end LivePreview.Json
