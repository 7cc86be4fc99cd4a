/-!
# LivePreview.Text.Search

**Finding and replacing** a fixed text: prefixes, first occurrences, splitting at a separator
and replacing every occurrence from left to right. All walk the text once from the front, and
every result is a part of the text with nothing lost in between.
-/

namespace LivePreview.Text

/-- The text after `lead`, if the text starts with it. -/
def dropLead? : List Char → List Char → Option (List Char)
  | [], text => some text
  | _ :: _, [] => none
  | c :: lead, d :: text => if c = d then dropLead? lead text else none

/-- Does the text start with `lead`? -/
def startsWith (lead text : List Char) : Bool :=
  (dropLead? lead text).isSome

/-- The rest of a text that starts with `lead` follows `lead`. -/
theorem dropLead?_eq_some_iff {lead text rest : List Char} :
    dropLead? lead text = some rest ↔ text = lead ++ rest := by
  induction lead generalizing text with
  | nil => simp [dropLead?, eq_comm]
  | cons c lead ih =>
    cases text with
    | nil => simp [dropLead?]
    | cons d text =>
      simp only [dropLead?, List.cons_append, List.cons.injEq]
      split
      · next h => simp [ih, h]
      · next h => simp [Ne.symm h]

@[simp] theorem dropLead?_append (lead rest : List Char) :
    dropLead? lead (lead ++ rest) = some rest :=
  dropLead?_eq_some_iff.2 rfl

/-- The text before and after the first occurrence of `sub`. -/
def cutAt? (sub : List Char) : List Char → Option (List Char × List Char)
  | [] => if sub = [] then some ([], []) else none
  | c :: rest =>
    match dropLead? sub (c :: rest) with
    | some after => some ([], after)
    | none => (cutAt? sub rest).map fun (before, after) => (c :: before, after)

/-- The three parts of a successful cut make up the text. -/
theorem cutAt?_append {sub text before after : List Char}
    (h : cutAt? sub text = some (before, after)) : text = before ++ sub ++ after := by
  induction text generalizing before with
  | nil =>
    simp only [cutAt?] at h
    split at h <;> simp_all
  | cons c rest ih =>
    simp only [cutAt?] at h
    split at h
    · next hd =>
      simp only [Option.some.injEq, Prod.mk.injEq] at h
      obtain ⟨rfl, rfl⟩ := h
      simpa using dropLead?_eq_some_iff.1 hd
    · obtain ⟨⟨b, a⟩, hb, he⟩ := Option.map_eq_some_iff.1 h
      simp only [Prod.mk.injEq] at he
      obtain ⟨rfl, rfl⟩ := he
      simp [ih hb]

/-- Does `sub` occur in the text? -/
def contains (sub text : List Char) : Bool :=
  (cutAt? sub text).isSome

/-- The parts of the text between the occurrences of one character. -/
def splitAtChar (mark : Char) : List Char → List (List Char)
  | [] => [[]]
  | c :: rest =>
    if c = mark then [] :: splitAtChar mark rest
    else
      match splitAtChar mark rest with
      | [] => [[c]]
      | first :: others => (c :: first) :: others

/-- Every occurrence of `sub`, found from left to right, becomes `new`; `skip` characters of an
occurrence are still to be dropped. -/
def replaceAll.go (sub new : List Char) : Nat → List Char → List Char
  | _, [] => []
  | skip + 1, _ :: rest => replaceAll.go sub new skip rest
  | 0, c :: rest =>
    if startsWith sub (c :: rest) then new ++ replaceAll.go sub new (sub.length - 1) rest
    else c :: replaceAll.go sub new 0 rest

/-- Every occurrence of the non-empty `sub`, found from left to right, becomes `new`. -/
def replaceAll (sub new text : List Char) : List Char :=
  replaceAll.go sub new 0 text

/-- Everything that `reader` recognises, from left to right, is replaced by what it gives; the reader
also gives the text behind. What takes nothing counts as not recognised. -/
def substitute (reader : List Char → Option (List Char × List Char)) : List Char → List Char
  | [] => []
  | c :: rest =>
    match reader (c :: rest) with
    | some (new, after) =>
      if after.length < rest.length + 1 then new ++ substitute reader after
      else c :: substitute reader rest
    | none => c :: substitute reader rest
termination_by text => text.length

/-- ASCII letters in lower case, all else unchanged. -/
def lowerAscii (text : List Char) : List Char :=
  text.map Char.toLower

end LivePreview.Text
