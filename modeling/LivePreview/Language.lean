import LivePreview.Text.Search
/-!
# LivePreview.Language

The **languages** that a component can be written in.
-/

namespace LivePreview

/-- The language of a component. -/
inductive Language
  | tsx
  | jsx
  | ts
  | js
  deriving Repr, DecidableEq, Inhabited

namespace Language

/-- The extension of a file in this language. -/
def extension : Language → String
  | tsx => "tsx"
  | jsx => "jsx"
  | ts => "ts"
  | js => "js"

/-- The languages by name. -/
def names : List (String × Language) :=
  [("tsx", .tsx), ("jsx", .jsx), ("ts", .ts), ("js", .js)]

/-- The language of a file extension, in any case, with or without dots in front. -/
def ofExtension? (ext : String) : Option Language :=
  match String.ofList (Text.lowerAscii (ext.toList.dropWhile (· == '.'))) with
  | "tsx" => some .tsx
  | "jsx" => some .jsx
  | "ts" | "mts" | "cts" => some .ts
  | "js" | "mjs" | "cjs" => some .js
  | _ => none

/-- May elements be written in the language? -/
def supportsJsx : Language → Bool
  | tsx | jsx => true
  | ts | js => false

/-- The presets that the compiler needs, as a list. -/
def presets : Language → String
  | tsx => "[\"react\", [\"typescript\", \x7b \"isTSX\": true, \"allExtensions\": true \x7d]]"
  | jsx => "[\"react\"]"
  | ts => "[[\"typescript\", \x7b \"allExtensions\": true \x7d]]"
  | js => "[]"

end Language

end LivePreview
