import LivePreview.Code.Exports
import LivePreview.Dependency
import LivePreview.Slot
import LivePreview.StandIn
/-!
# LivePreview.Loader

The **loader plan** lists what fills the slots before the component runs: code that is inlined
first, then the packages that are fetched, each behind its peers. A slot is filled once, by
whatever asks for it first.

Design points:

* A statement is data (`Loader.Inlined`, `Loader.Fetch`) with one rendering, so what a plan does
  can be read off without reading its text.
* The plan is a walk over the graph of peers. A slot is marked before its peers are visited, so
  cycles end; and as every package with peers is in the registry, the number of its entries
  bounds how deep the walk goes (`Loader.reach`).
-/

namespace LivePreview

namespace Loader

/-! ### Statements -/

/-- Code that fills a slot in place. -/
inductive Inlined
  /-- A hand-written expression. -/
  | standIn (slot source : String)
  /-- A module body without export syntax, and its exports: names and what they are bound to. -/
  | moduleBody (slot code : String) (fields : List (String × String))
  deriving Repr, DecidableEq

/-- A package that is fetched into its slot. -/
structure Fetch where
  specifier : String
  slot : String
  url : String
  deriving Repr, DecidableEq, Inhabited

/-- The slot that a statement fills. -/
def Inlined.slot : Inlined → String
  | standIn slot _ => slot
  | moduleBody slot _ _ => slot

/-- The text of a slot. -/
def slotText (slot : String) : String :=
  "__env[\"" ++ slot ++ "\"]"

/-- The text of a statement. -/
def Inlined.render : Inlined → String
  | standIn slot source => slotText slot ++ " = " ++ source ++ ";"
  | moduleBody slot code fields =>
    let fields := ", ".intercalate (fields.map fun field => field.1 ++ ": " ++ field.2)
    slotText slot ++ " = (function () \x7b\n" ++ code ++ "\nreturn \x7b " ++ fields ++
      " \x7d;\n\x7d)();"

/-- The text of a fetch. If it fails, the slot stays undefined and a warning is written. -/
def Fetch.render (f : Fetch) : String :=
  "let " ++ f.slot ++ ";\ntry \x7b\n  " ++ f.slot ++ " = await import(" ++ Json.literal f.url ++
    ");\n\x7d catch (error) \x7b\n  console.warn(\"[preview] could not load\", " ++
    Json.literal f.specifier ++ ", error);\n\x7d\n" ++ slotText f.slot ++ " = " ++ f.slot ++ ";"

/-- The name for the default export of an inlined module body. -/
def defaultLocal : String := "__shimDefault"

/-- A module body as a statement that fills a slot: its exports become the fields of an object. -/
def Inlined.ofBody (slot body : String) : Inlined :=
  let m := Code.stripExports defaultLocal body.toList
  let default := m.defaultBinding.toList.map fun name => ("default", name)
  let named := (m.exports.filter (·.exported != "default")).map fun e => (e.exported, e.localName)
  .moduleBody slot (String.ofList (Text.trimEnd m.code)) (default ++ named)

/-! ### Plans -/

/-- The statements that fill the slots, in order. -/
structure Plan where
  inlined : List Inlined := []
  fetches : List Fetch := []
  deriving Repr, DecidableEq, Inhabited

/-- The texts of the statements: what is inlined, then what is fetched. -/
def Plan.statements (plan : Plan) : List String :=
  plan.inlined.map Inlined.render ++ plan.fetches.map Fetch.render

/-- A plan under way. -/
structure Walk where
  /-- The slots that are taken. -/
  taken : List String := []
  plan : Plan := {}

/-- Takes a slot. -/
def Walk.take (w : Walk) (slot : String) : Walk :=
  { w with taken := slot :: w.taken }

/-- Inlines code, unless its slot is taken. -/
def Walk.inline (w : Walk) (code : Inlined) : Walk :=
  if w.taken.contains code.slot then w
  else { w.take code.slot with plan := { w.plan with inlined := w.plan.inlined ++ [code] } }

/-- How a package that is known only by its name is provided. -/
inductive Provision
  /-- It needs nothing, or nothing can be done. -/
  | nothing
  | body (body : String)
  | fetch (url : String) (peers : List String)

/-- How a peer or the base of an animation package is provided. -/
def provision (config : Config) (specifier : String) : Provision :=
  if config.isCore specifier then .nothing
  else
    match config.registry.get? specifier with
    | none => .fetch (config.publicUrl specifier) []
    | some d =>
      match d.provider with
      | .core | .unsupported => .nothing
      | .cdn => .fetch (d.locator.getD (config.publicUrl specifier)) d.peers
      | .shim => .body (d.shimBody.getD "")

/-- Fetches a package behind its peers, unless its slot is taken. The first argument bounds the
depth. -/
def fetch (config : Config) : Nat → String → String → List String → Walk → Walk
  | 0, _, _, _, w => w
  | depth + 1, specifier, url, peers, w =>
    let slot := Slot.ofSpecifier specifier
    if w.taken.contains slot then w
    else
      let w := peers.foldl (fun w peer =>
        match provision config peer with
        | .nothing => w
        | .body body => w.inline (.ofBody (Slot.ofSpecifier peer) body)
        | .fetch url peers => fetch config depth peer url peers w) (w.take slot)
      { w with plan := { w.plan with fetches := w.plan.fetches ++ [⟨specifier, slot, url⟩] } }

/-- How deep peers can follow each other: through every entry of the registry, then to a package
that it does not know, from a package that it does not know. -/
def reach (config : Config) : Nat :=
  config.registry.size + 2

/-- Provides a package that is known only by its name. -/
def provide (config : Config) (specifier : String) (w : Walk) : Walk :=
  match provision config specifier with
  | .nothing => w
  | .body body => w.inline (.ofBody (Slot.ofSpecifier specifier) body)
  | .fetch url peers => fetch config (reach config) specifier url peers w

/-- Provides a dependency. -/
def add (config : Config) (w : Walk) (c : Classification) : Walk :=
  match c.resolution with
  | .shim body | .localShim body => w.inline (.ofBody (Slot.ofSpecifier c.specifier) body)
  | .helperShim helper => w.inline (.standIn (StandIn.helperSlot helper) (StandIn.helperSource helper))
  | .animationFamily base =>
    provide config base
      (w.inline (.standIn (StandIn.animationSlot base) (StandIn.animationSource base)))
  | .fetch url peers => fetch config (reach config) c.specifier url peers w
  | .framework _ | .stylesheet _ | .localEmpty | .rejected _ => w

/-- The plan that provides these dependencies. -/
def plan (config : Config) (classifications : List Classification) : Plan :=
  (classifications.foldl (add config) {}).plan

end Loader

end LivePreview
