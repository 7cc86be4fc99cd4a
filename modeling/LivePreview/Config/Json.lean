import LivePreview.Config
import LivePreview.Json.Reading
/-!
# LivePreview.Config.Json

The **configuration as JSON**: how it is written and how it is read. Fields are written under
their names, all of them; read, a field that is missing has its default, and a registry that is
given takes the place of the whole standard registry.
-/

namespace LivePreview

open Json (Value Reading Problem)

/-! ### Names of variants -/

/-- The providers by name. -/
def Provider.names : List (String × Provider) :=
  [("core", .core), ("cdn", .cdn), ("shim", .shim), ("unsupported", .unsupported)]

/-- The name of a provider. -/
def Provider.name : Provider → String
  | core => "core"
  | cdn => "cdn"
  | shim => "shim"
  | unsupported => "unsupported"

/-- The scan modes by name. -/
def ScanMode.names : List (String × ScanMode) :=
  [("heuristic", .heuristic), ("strict", .strict)]

/-- The name of a scan mode. -/
def ScanMode.name : ScanMode → String
  | heuristic => "heuristic"
  | strict => "strict"

/-! ### Writing -/

/-- A descriptor as JSON. -/
def Descriptor.json (d : Descriptor) : Value :=
  .object [
    ("type", .string d.provider.name),
    ("locator", .ofText? d.locator),
    ("globalName", .ofText? d.globalName),
    ("shimBody", .ofText? d.shimBody),
    ("peerDependencies", .ofTexts d.peers)]

/-- A dictionary as JSON. -/
def Dictionary.json {α : Type} (write : α → Value) (d : Dictionary α) : Value :=
  .object (d.entries.map fun entry => (entry.1, write entry.2))

/-- A configuration as JSON. -/
def Config.json (c : Config) : Value :=
  .object [
    ("registry", c.registry.json Descriptor.json),
    ("coreSpecifiers", .ofTexts c.coreSpecifiers),
    ("denylist", .ofTexts c.denylist),
    ("dangerousPatterns", .ofTexts c.dangerousPatterns),
    ("localShims", c.localShims.json .string),
    ("cdnBase", .string c.cdnBase),
    ("cdnQuery", .string c.cdnQuery),
    ("frameworkUrl", .string c.frameworkUrl),
    ("domClientUrl", .string c.domClientUrl),
    ("compilerUrl", .string c.compilerUrl),
    ("dependencyBudgetMs", .ofNat c.dependencyBudgetMs.toNat),
    ("scanMode", .string c.scanMode.name),
    ("guardStaleMount", .bool c.guardStaleMount),
    ("emitDocument", .bool c.emitDocument),
    ("mountNodeId", .string c.mountNodeId)]

/-! ### Reading descriptors -/

/-- The fields of a descriptor that were read so far. -/
structure Descriptor.Draft where
  provider : Option Provider := none
  locator : Option (Option String) := none
  globalName : Option (Option String) := none
  shimBody : Option (Option String) := none
  peers : Option (List String) := none

/-- Where a field of a descriptor goes. -/
def Descriptor.Draft.put (field : String) :
    Option (Json.Tree → Draft → Except Problem Draft) :=
  match field with
  | "type" => some (Json.once field (·.provider) (Json.variant Provider.names)
      fun d v => { d with provider := some v })
  | "locator" => some (Json.once field (·.locator) (Json.optional Json.text)
      fun d v => { d with locator := some v })
  | "globalName" => some (Json.once field (·.globalName) (Json.optional Json.text)
      fun d v => { d with globalName := some v })
  | "shimBody" => some (Json.once field (·.shimBody) (Json.optional Json.text)
      fun d v => { d with shimBody := some v })
  | "peerDependencies" => some (Json.once field (·.peers) (Json.list Json.text)
      fun d v => { d with peers := some v })
  | _ => none

/-- The form of a descriptor. -/
def Descriptor.form : Json.RecordForm Descriptor.Draft Descriptor where
  name := "struct DependencyDescriptor"
  fields := ["type", "locator", "globalName", "shimBody", "peerDependencies"]
  empty := {}
  put := Descriptor.Draft.put
  finish d := return {
    provider := ← Json.required "type" d.provider
    locator := d.locator.getD none
    globalName := d.globalName.getD none
    shimBody := d.shimBody.getD none
    peers := d.peers.getD [] }

/-- A descriptor. -/
def Descriptor.reading : Reading Descriptor := Descriptor.form.read

/-! ### Reading configurations -/

/-- The fields of a configuration that were read so far. -/
structure Config.Draft where
  registry : Option Registry := none
  coreSpecifiers : Option (List String) := none
  denylist : Option (List String) := none
  dangerousPatterns : Option (List String) := none
  localShims : Option (Dictionary String) := none
  cdnBase : Option String := none
  cdnQuery : Option String := none
  frameworkUrl : Option String := none
  domClientUrl : Option String := none
  compilerUrl : Option String := none
  dependencyBudgetMs : Option Nat := none
  scanMode : Option ScanMode := none
  guardStaleMount : Option Bool := none
  emitDocument : Option Bool := none
  mountNodeId : Option String := none

/-- Where a field of a configuration goes. -/
def Config.Draft.put (field : String) : Option (Json.Tree → Draft → Except Problem Draft) :=
  match field with
  | "registry" => some (Json.once field (·.registry) (Json.dictionary Descriptor.reading)
      fun d v => { d with registry := some v })
  | "coreSpecifiers" => some (Json.once field (·.coreSpecifiers) (Json.list Json.text)
      fun d v => { d with coreSpecifiers := some v })
  | "denylist" => some (Json.once field (·.denylist) (Json.list Json.text)
      fun d v => { d with denylist := some v })
  | "dangerousPatterns" => some (Json.once field (·.dangerousPatterns) (Json.list Json.text)
      fun d v => { d with dangerousPatterns := some v })
  | "localShims" => some (Json.once field (·.localShims) (Json.dictionary Json.text)
      fun d v => { d with localShims := some v })
  | "cdnBase" => some (Json.once field (·.cdnBase) Json.text
      fun d v => { d with cdnBase := some v })
  | "cdnQuery" => some (Json.once field (·.cdnQuery) Json.text
      fun d v => { d with cdnQuery := some v })
  | "frameworkUrl" => some (Json.once field (·.frameworkUrl) Json.text
      fun d v => { d with frameworkUrl := some v })
  | "domClientUrl" => some (Json.once field (·.domClientUrl) Json.text
      fun d v => { d with domClientUrl := some v })
  | "compilerUrl" => some (Json.once field (·.compilerUrl) Json.text
      fun d v => { d with compilerUrl := some v })
  | "dependencyBudgetMs" => some (Json.once field (·.dependencyBudgetMs) Json.word
      fun d v => { d with dependencyBudgetMs := some v })
  | "scanMode" => some (Json.once field (·.scanMode) (Json.variant ScanMode.names)
      fun d v => { d with scanMode := some v })
  | "guardStaleMount" => some (Json.once field (·.guardStaleMount) Json.bool
      fun d v => { d with guardStaleMount := some v })
  | "emitDocument" => some (Json.once field (·.emitDocument) Json.bool
      fun d v => { d with emitDocument := some v })
  | "mountNodeId" => some (Json.once field (·.mountNodeId) Json.text
      fun d v => { d with mountNodeId := some v })
  | _ => none

/-- The configuration of a draft: defaults stand in for what is missing. -/
def Config.Draft.finish (d : Draft) : Config :=
  let standard : Config := {}
  { registry := d.registry.getD standard.registry
    coreSpecifiers := d.coreSpecifiers.getD standard.coreSpecifiers
    denylist := d.denylist.getD standard.denylist
    dangerousPatterns := d.dangerousPatterns.getD standard.dangerousPatterns
    localShims := d.localShims.getD standard.localShims
    cdnBase := d.cdnBase.getD standard.cdnBase
    cdnQuery := d.cdnQuery.getD standard.cdnQuery
    frameworkUrl := d.frameworkUrl.getD standard.frameworkUrl
    domClientUrl := d.domClientUrl.getD standard.domClientUrl
    compilerUrl := d.compilerUrl.getD standard.compilerUrl
    dependencyBudgetMs := (d.dependencyBudgetMs.map UInt64.ofNat).getD standard.dependencyBudgetMs
    scanMode := d.scanMode.getD standard.scanMode
    guardStaleMount := d.guardStaleMount.getD standard.guardStaleMount
    emitDocument := d.emitDocument.getD standard.emitDocument
    mountNodeId := d.mountNodeId.getD standard.mountNodeId }

/-- The form of a configuration. -/
def Config.form : Json.RecordForm Config.Draft Config where
  name := "struct PreviewConfig"
  fields := ["registry", "coreSpecifiers", "denylist", "dangerousPatterns", "localShims",
    "cdnBase", "cdnQuery", "frameworkUrl", "domClientUrl", "compilerUrl", "dependencyBudgetMs",
    "scanMode", "guardStaleMount", "emitDocument", "mountNodeId"]
  empty := {}
  put := Config.Draft.put
  finish d := .ok d.finish

/-- A configuration. -/
def Config.reading : Reading Config := Config.form.read

/-- The configuration that a text denotes. -/
def Config.parse (json : String) : Except Problem Config :=
  Json.parse Config.reading json

end LivePreview
