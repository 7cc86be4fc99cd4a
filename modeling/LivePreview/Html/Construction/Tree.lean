import LivePreview.Html.Node
/-!
# LivePreview.Html.Construction.Tree

**A tree under construction.** Its nodes have numbers, so that they can be moved while others point
at them. Text that is put next to text becomes part of it. What is put into a template goes to a
node of its own, which no other node has as a child.
-/

namespace LivePreview.Html

/-- What a node is. -/
inductive Content
  | root
  | doctype (name : String)
  | comment (text : String)
  | text (text : String)
  | element (vocabulary : Vocabulary) (name : String) (attributes : List Attribute)

/-- A node with its links. -/
structure Cell where
  content : Content
  parent : Option Nat := none
  children : Array Nat := #[]
  /-- Where the contents go, if the node is a template. -/
  contents : Option Nat := none

/-- The nodes, by number; the first is the root. -/
structure Tree where
  cells : Array Cell

/-- Where something is put. -/
inductive Place
  /-- Behind the children of a node. -/
  | last (parent : Nat)
  /-- In front of a node. -/
  | before (sibling : Nat)

namespace Tree

/-- The number of the root. -/
def root : Nat := 0

/-- The tree without nodes besides the root. -/
def empty : Tree := ⟨#[{ content := .root }]⟩

/-- The node of this number. -/
def cell? (t : Tree) (id : Nat) : Option Cell := t.cells[id]?

/-- Changes a node. -/
def update (t : Tree) (id : Nat) (f : Cell → Cell) : Tree :=
  { t with cells := t.cells.modify id f }

/-- Adds a node that has no parent yet; its number is the old number of nodes. -/
def add (t : Tree) (cell : Cell) : Nat × Tree :=
  (t.cells.size, { t with cells := t.cells.push cell })

/-- The parent of a node. -/
def parent? (t : Tree) (id : Nat) : Option Nat := (t.cell? id).bind (·.parent)

/-- The children of a node. -/
def children (t : Tree) (id : Nat) : Array Nat := ((t.cell? id).map (·.children)).getD #[]

/-- The text of a text node. -/
def text? (t : Tree) (id : Nat) : Option String :=
  match t.cell? id with
  | some { content := .text s, .. } => some s
  | _ => none

/-- Takes a node out of the children of its parent. -/
def detach (t : Tree) (id : Nat) : Tree :=
  match t.parent? id with
  | none => t
  | some parent =>
    let t := t.update parent fun c => { c with children := c.children.filter (· != id) }
    t.update id fun c => { c with parent := none }

/-- The parent at a place, and the index of the child that will stand there. -/
def locate (t : Tree) : Place → Nat × Nat
  | .last parent => (parent, (t.children parent).size)
  | .before sibling =>
    let parent := (t.parent? sibling).getD root
    (parent, ((t.children parent).idxOf? sibling).getD (t.children parent).size)

/-- Puts a detached node at a place. -/
def insert (t : Tree) (place : Place) (id : Nat) : Tree :=
  let (parent, index) := t.locate place
  let t := t.update parent fun c => { c with children := c.children.insertIdxIfInBounds index id }
  t.update id fun c => { c with parent := some parent }

/-- Puts text at a place. -/
def insertText (t : Tree) (place : Place) (text : String) : Tree :=
  let (parent, index) := t.locate place
  let neighbour := if index = 0 then none else (t.children parent)[index - 1]?
  match neighbour.filter fun id => (t.text? id).isSome with
  | some id => t.update id fun c =>
      match c.content with
      | .text s => { c with content := .text (s ++ text) }
      | _ => c
  | none =>
    let (id, t) := t.add { content := .text text }
    t.insert place id

/-- Moves all children of a node behind the children of another. -/
def moveChildren (t : Tree) (source target : Nat) : Tree :=
  let moved := t.children source
  let t := t.update source fun c => { c with children := #[] }
  let t := t.update target fun c => { c with children := c.children ++ moved }
  moved.foldl (fun t id => t.update id fun c => { c with parent := some target }) t

/-- Gives an element those attributes that it does not have yet. -/
def addAttributes (t : Tree) (id : Nat) (more : List Attribute) : Tree :=
  t.update id fun c =>
    match c.content with
    | .element vocabulary name known =>
      let fresh := more.filter fun a => !known.any (·.name == a.name)
      { c with content := .element vocabulary name (known ++ fresh) }
    | _ => c

/-! ### The finished tree -/

/-- The node of this number with all below it; `depth` bounds the levels. -/
def node? (t : Tree) : Nat → Nat → Option Node
  | 0, _ => none
  | depth + 1, id =>
    (t.cell? id).bind fun c =>
      match c.content with
      | .root => none
      | .doctype name => some (.doctype name)
      | .comment text => some (.comment text)
      | .text text => some (.text text)
      | .element vocabulary name attributes =>
        some (.element vocabulary name attributes (c.children.toList.filterMap (t.node? depth)))

/-- The document. No path is longer than the number of nodes. -/
def document (t : Tree) : List Node :=
  (t.children root).toList.filterMap (t.node? t.cells.size)

end Tree

end LivePreview.Html
