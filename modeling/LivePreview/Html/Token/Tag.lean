import LivePreview.Html.Token.Reference
/-!
# LivePreview.Html.Token.Tag

**Tags** behind their opening mark. A tag that the text ends in is none. Of two attributes with one
name the first counts, and slashes between attributes are passed over.
-/

namespace LivePreview.Html

/-- What a taken-off beginning leaves is no longer. -/
theorem length_dropWhile_le {α : Type} (p : α → Bool) (text : List α) :
    (text.dropWhile p).length ≤ text.length := by
  have h := congrArg List.length (List.takeWhile_append_dropWhile (p := p) (l := text))
  rw [List.length_append] at h
  omega

/-- Does the character end a name of a tag? -/
def endsTagName (c : Char) : Bool :=
  isTagSpace c || c == '/' || c == '>'

/-- Does the character end a name of an attribute? -/
def endsAttributeName (c : Char) : Bool :=
  endsTagName c || c == '='

/-! ### Values -/

/-- The value of an attribute, from what the text shows. -/
def valueOf (shown : List Char) : String :=
  String.ofList (resolve true (replaceNull shown))

/-- Reads up to a closing quote. -/
def quotedValue? (quote : Char) (text : List Char) : Option (String × List Char) :=
  match text.dropWhile (· != quote) with
  | _ :: rest => some (valueOf (text.takeWhile (· != quote)), rest)
  | [] => none

/-- Reads a value behind the equals sign and the space. -/
def value? : List Char → Option (String × List Char)
  | [] => none
  | c :: rest =>
    if c = '"' || c = '\'' then quotedValue? c rest
    else
      let isPart := fun d => !isTagSpace d && d != '>'
      some (valueOf ((c :: rest).takeWhile isPart), (c :: rest).dropWhile isPart)

theorem quotedValue?_length {quote : Char} {text rest : List Char} {value : String}
    (h : quotedValue? quote text = some (value, rest)) : rest.length ≤ text.length := by
  simp only [quotedValue?] at h
  split at h
  · next hd =>
    simp only [Option.some.injEq, Prod.mk.injEq] at h
    have := length_dropWhile_le (· != quote) text
    rw [hd] at this
    simp only [List.length_cons] at this
    rw [← h.2]
    omega
  · cases h

theorem value?_length {text rest : List Char} {value : String}
    (h : value? text = some (value, rest)) : rest.length ≤ text.length := by
  cases text with
  | nil => cases h
  | cons c text =>
    simp only [value?] at h
    split at h
    · have := quotedValue?_length h
      simp only [List.length_cons]
      omega
    · simp only [Option.some.injEq, Prod.mk.injEq] at h
      rw [← h.2]
      exact length_dropWhile_le _ _

/-- Reads a value, if an equals sign comes next. -/
def assigned? (text : List Char) : Option (String × List Char) :=
  match text.dropWhile isTagSpace with
  | '=' :: rest => value? (rest.dropWhile isTagSpace)
  | rest => some ("", rest)

theorem assigned?_length {text rest : List Char} {value : String}
    (h : assigned? text = some (value, rest)) : rest.length ≤ text.length := by
  have hd := length_dropWhile_le isTagSpace text
  simp only [assigned?] at h
  split at h
  · next inner he =>
    have hv := value?_length h
    have hs := length_dropWhile_le isTagSpace inner
    rw [he, List.length_cons] at hd
    omega
  · simp only [Option.some.injEq, Prod.mk.injEq] at h
    rw [← h.2]
    exact hd

/-! ### Attributes -/

/-- Adds an attribute, unless there is one with its name. -/
def addAttribute (known : List Attribute) (name value : String) : List Attribute :=
  if known.any (·.name == name) then known else known ++ [⟨name, value⟩]

/-- Reads attributes up to the end of the tag: them, whether the tag ends with a slash, and the text
behind. -/
def attributes? (known : List Attribute) (text : List Char) :
    Option (List Attribute × Bool × List Char) :=
  match text with
  | [] => none
  | '>' :: rest => some (known, false, rest)
  | '/' :: '>' :: rest => some (known, true, rest)
  | c :: rest =>
    if isTagSpace c || c == '/' then attributes? known rest
    else
      let name := nameOf (c :: rest.takeWhile (!endsAttributeName ·))
      match _h : assigned? (rest.dropWhile (!endsAttributeName ·)) with
      | some (value, after) => attributes? (addAttribute known name value) after
      | none => none
termination_by text.length
decreasing_by
  · simp
  · have h1 := assigned?_length _h
    have h2 := length_dropWhile_le (!endsAttributeName ·) rest
    simp only [List.length_cons]
    omega

/-- Reads a tag behind its opening mark; `none` if the text ends inside. -/
def tag? (text : List Char) : Option (Tag × List Char) := do
  let (attributes, closed, rest) ← attributes? [] (text.dropWhile (!endsTagName ·))
  return (⟨nameOf (text.takeWhile (!endsTagName ·)), attributes, closed⟩, rest)

end LivePreview.Html
