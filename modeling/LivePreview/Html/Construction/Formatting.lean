import LivePreview.Html.Construction.Builder
/-!
# LivePreview.Html.Construction.Formatting

**Formatting elements** that are closed in the wrong order. An element such as `b` goes on behind the
end of a paragraph that it was opened in: it is opened again (`reopenFormatting`). When its closing
tag comes while blocks are open that were opened within it, they are **adopted**: they move out of
it, and their contents get a copy of it.
-/

namespace LivePreview.Html

/-! ### The list of formatting elements -/

/-- The entries behind the last marker. -/
def recentEntries (entries : List FormatEntry) : List FormatEntry :=
  entries.takeWhile (·.isElement)

/-- Do two tags open the same formatting? -/
def Tag.sameFormat (a b : Tag) : Bool :=
  a.name == b.name && a.attributes.length == b.attributes.length &&
    a.attributes.all b.attributes.contains

/-- Is the entry one for this tag? -/
def FormatEntry.matchesTag (tag : Tag) : FormatEntry → Bool
  | .marker => false
  | .element _ other => tag.sameFormat other

/-- Drops the earliest of at least three entries for a tag behind the last marker. -/
def dropThird (tag : Tag) (entries : List FormatEntry) : List FormatEntry :=
  let recent := recentEntries entries
  let same := recent.filter (·.matchesTag tag)
  match same.getLast? with
  | some (.element e _) =>
    if 3 ≤ same.length then entries.filter (!·.isOf e.id) else entries
  | _ => entries

/-- Opens a formatting element. -/
def openFormatting (tag : Tag) : Build Unit := do
  modify fun b => { b with formatting := dropThird tag b.formatting }
  let e ← insertOpen .html tag
  modify fun b => { b with formatting := .element e tag :: b.formatting }

/-- Opens elements again; entries are given and returned with the latest last. -/
def reopenAll : List FormatEntry → Build (List FormatEntry)
  | [] => return []
  | .marker :: more => return .marker :: (← reopenAll more)
  | .element _ tag :: more => do
    let e ← insertOpen .html tag
    return .element e tag :: (← reopenAll more)

/-- Opens the formatting elements again that were closed in passing: those behind the last marker and
the last one that is still open. -/
def reopenFormatting : Build Unit := do
  let b ← get
  let isClosed : FormatEntry → Bool := fun entry =>
    match entry with
    | .marker => false
    | .element e _ => !b.stack.any (·.id == e.id)
  let reopened ← reopenAll (b.formatting.takeWhile isClosed).reverse
  modify fun b' => { b' with formatting := reopened.reverse ++ b.formatting.dropWhile isClosed }

/-! ### Other closing tags -/

/-- Closes the innermost element of this name and all within it, unless a special element stands
between. -/
def closeOrdinary (name : String) : Build Unit := do
  let stack := (← get).stack
  match stack.find? fun e => (e.isNamed name || e.isSpecial) with
  | some e =>
    if e.isNamed name then
      popImpliedExcept name
      modify fun b => { b with stack := (b.stack.dropWhile (·.id != e.id)).tail }
  | none => return ()

/-! ### Adoption -/

/-- Where the entry of the new formatting element goes. -/
inductive Bookmark
  /-- To the place of the old one. -/
  | same
  /-- Right behind the entry of a node. -/
  | behind (id : Nat)

/-- The state of a walk from an adopted block to the formatting element. -/
structure Adoption where
  /-- What was moved last. -/
  last : Nat
  bookmark : Bookmark := .same
  /-- The elements between that stay open, innermost first. -/
  kept : List OpenElement := []

/-- Puts a node behind the children of another. -/
def move (id parent : Nat) : Build Unit :=
  modifyTree fun t => (t.detach id).insert (.last parent) id

/-- The tag of a formatting element. -/
def formatTag? (id : Nat) : Build (Option Tag) := do
  match (← get).formatting.find? (·.isOf id) with
  | some (.element _ tag) => return some tag
  | _ => return none

/-- The list with a new entry in place of that of a node. -/
def exchangeEntry (old : Nat) (new : FormatEntry) (entries : List FormatEntry) :
    List FormatEntry :=
  entries.map fun entry => if entry.isOf old then new else entry

/-- Walks over the elements between the block and the formatting element, innermost first. The first
three formatting elements among them are copied around what was moved; all others are closed. -/
def adoptBetween (block : Nat) (state : Adoption) (count : Nat) :
    List OpenElement → Build Adoption
  | [] => return state
  | e :: outer => do
    if 3 < count then
      unformat e.id
      adoptBetween block state (count + 1) outer
    else
      match ← formatTag? e.id with
      | none => adoptBetween block state (count + 1) outer
      | some tag =>
        let copy ← createElement .html tag
        let entry := FormatEntry.element copy tag
        modify fun b => { b with formatting := exchangeEntry e.id entry b.formatting }
        move state.last copy.id
        let bookmark := if state.last = block then .behind copy.id else state.bookmark
        adoptBetween block { last := copy.id, bookmark, kept := state.kept ++ [copy] } (count + 1)
          outer

/-- The list with the entry of the new element in place of that of the old. -/
def replaceEntry (old : Nat) (new : FormatEntry) (bookmark : Bookmark) (entries : List FormatEntry) :
    List FormatEntry :=
  match bookmark with
  | .same => exchangeEntry old new entries
  | .behind id =>
    (entries.flatMap fun entry => if entry.isOf id then [new, entry] else [entry]).filter
      (!·.isOf old)

/-- One round of adoption for a formatting element: `inner` and `outer` are the open elements within
and around it. Returns whether there was a block to adopt. -/
def adoptOnce (format : OpenElement) (tag : Tag) (inner outer : List OpenElement) : Build Bool := do
  let between := inner.reverse.takeWhile (!·.isSpecial)
  match (inner.reverse.dropWhile (!·.isSpecial)) with
  | [] =>
    modify fun b => { b with stack := outer }
    unformat format.id
    return false
  | block :: within =>
    let state ← adoptBetween block.id { last := block.id } 1 between.reverse
    modifyTree (·.detach state.last)
    let place ← placeIn outer.head?
    modifyTree (·.insert place state.last)
    let copy ← createElement .html tag
    modifyTree (·.moveChildren block.id copy.id)
    move copy.id block.id
    modify fun b => { b with
      formatting := replaceEntry format.id (.element copy tag) state.bookmark b.formatting
      stack := within.reverse ++ copy :: block :: state.kept ++ outer }
    return true

/-- Rounds of adoption for the formatting element of this name. -/
def adoptRounds (name : String) : Nat → Build Unit
  | 0 => return ()
  | rounds + 1 => do
    let b ← get
    let entry? := (recentEntries b.formatting).find? fun entry =>
      match entry with
      | .marker => false
      | .element _ tag => tag.name == name
    match entry? with
    | some (.element e tag) =>
      if !b.stack.any (·.id == e.id) then unformat e.id
      else if reaches OpenElement.endsScope (·.id == e.id) b.stack then
        let inner := b.stack.takeWhile (·.id != e.id)
        let outer := (b.stack.dropWhile (·.id != e.id)).tail
        if ← adoptOnce e tag inner outer then adoptRounds name rounds
    | _ => closeOrdinary name

/-- Closes a formatting element. -/
def closeFormatting (name : String) : Build Unit := do
  let b ← get
  match b.stack with
  | e :: _ =>
    if e.isNamed name && !b.formatting.any (·.isOf e.id) then pop
    else adoptRounds name 8
  | [] => return ()

/-- Closes a link before another is opened. -/
def closeOpenLink : Build Unit := do
  let entry? := (recentEntries (← get).formatting).find? fun entry =>
    match entry with
    | .marker => false
    | .element e _ => e.isNamed "a"
  match entry? with
  | some (.element e _) =>
    closeFormatting "a"
    unformat e.id
    unstack e.id
  | _ => return ()

end LivePreview.Html
