import LivePreview.Config.Json
import LivePreview.Document
import LivePreview.Error
import LivePreview.Import.Strict
/-!
# LivePreview.Preview

The **preview** of a component, from the request to the output. The imports are found and judged; if
none is refused, a loader plan and a module text are made, and from them the bootstrap and, if it is
asked for, the document.
-/

namespace LivePreview

open Json (Value Reading Problem)

/-! ### Requests -/

/-- The framework that components are written for. -/
def supportedFramework : String := "react"

/-- A component to preview. -/
structure Request where
  source : String
  language : Language := .tsx
  framework : String := supportedFramework
  files : SiblingFiles := .empty
  /-- The number of the build. -/
  generation : UInt64 := 0

/-- A request as JSON. -/
def Request.json (r : Request) : Value :=
  .object [
    ("source", .string r.source),
    ("language", .string r.language.extension),
    ("framework", .string r.framework),
    ("files", r.files.files.json .string),
    ("generation", .ofNat r.generation.toNat)]

/-- The fields of a request that were read so far. -/
structure Request.Draft where
  source : Option String := none
  language : Option Language := none
  framework : Option String := none
  files : Option (Dictionary String) := none
  generation : Option Nat := none

/-- Where a field of a request goes. -/
def Request.Draft.put (field : String) : Option (Json.Tree → Draft → Except Problem Draft) :=
  match field with
  | "source" => some (Json.once field (·.source) Json.text
      fun d v => { d with source := some v })
  | "language" => some (Json.once field (·.language) (Json.variant Language.names)
      fun d v => { d with language := some v })
  | "framework" => some (Json.once field (·.framework) Json.text
      fun d v => { d with framework := some v })
  | "files" => some (Json.once field (·.files) (Json.dictionary Json.text)
      fun d v => { d with files := some v })
  | "generation" => some (Json.once field (·.generation) Json.word
      fun d v => { d with generation := some v })
  | _ => none

/-- The form of a request. The paths of its files are taken as they are given. -/
def Request.form : Json.RecordForm Request.Draft Request where
  name := "struct PreviewRequest"
  fields := ["source", "language", "framework", "files", "generation"]
  empty := {}
  put := Request.Draft.put
  finish d := return {
    source := ← Json.required "source" d.source
    language := d.language.getD .tsx
    framework := d.framework.getD supportedFramework
    files := ⟨d.files.getD .empty⟩
    generation := (d.generation.map UInt64.ofNat).getD 0 }

/-- A request. -/
def Request.reading : Reading Request := Request.form.read

/-- The request that a text denotes. -/
def Request.parse (json : String) : Except Problem Request :=
  Json.parse Request.reading json

/-! ### Plans -/

/-- What is decided about a component before text is written. -/
structure Plan where
  mode : Mode
  classifications : List Classification
  /-- The statements that begin like an import and have no known shape. -/
  droppedImports : List String
  /-- What runs the component, unless the preview is disabled. -/
  runtime : Option Runtime

namespace Plan

/-- The first dependency that is refused. -/
def unsupported (plan : Plan) : Option String :=
  (plan.classifications.find? (·.verdict == .refused)).map (·.specifier)

/-- The packages that are fetched on trust, each once. -/
def autoDetectedPackages (plan : Plan) : List String :=
  ((plan.classifications.filter (·.verdict == .autoDetected)).map
    fun c => packageName c.specifier).eraseDups

/-- The plan for a request. -/
def ofRequest (request : Request) (config : Config) : Except PreviewError Plan :=
  if request.framework != supportedFramework then
    .error (.unsupportedFramework request.framework)
  else
    let scan := ImportScan.ofSource config.scanMode request.source
    let classifications := config.classifyRecords scan.records
    let mode := Mode.ofClassifications classifications
    let runtime :=
      if mode = .disabled then none
      else
        let loader := Loader.plan config classifications
        let text := ModuleText.ofSource scan.stripped scan.records classifications request.files
        some (Runtime.ofParts loader text request.language)
    .ok { mode, classifications, droppedImports := scan.dropped, runtime }

end Plan

/-! ### Output -/

/-- The name of a mode. -/
def Mode.name : Mode → String
  | live => "live"
  | shimmed => "shimmed"
  | auto => "auto"
  | disabled => "disabled"

/-- What a preview amounts to. -/
structure Output where
  mode : Mode
  /-- The bootstrap, unless the preview is disabled. -/
  runtimeCode : Option String
  /-- Why the preview is disabled. -/
  error : Option String := none
  autoDetectedPackages : List String := []
  /-- The document, if it was asked for. -/
  document : Option String := none
  deriving Repr, DecidableEq

/-- An output as JSON; what is not there is left out, apart from the bootstrap. -/
def Output.json (o : Output) : Value :=
  .object (
    [("mode", .string o.mode.name), ("runtimeCode", .ofText? o.runtimeCode)] ++
    o.error.toList.map (fun e => ("error", .string e)) ++
    (if o.autoDetectedPackages.isEmpty then []
      else [("autoDetectedPackages", .ofTexts o.autoDetectedPackages)]) ++
    o.document.toList.map (fun d => ("document", .string d)))

/-- Previews a component. A dependency that is refused is no error: the output is disabled and says
why. -/
def preview (request : Request) (config : Config) : Except PreviewError Output := do
  let plan ← Plan.ofRequest request config
  match plan.runtime with
  | none =>
    let reason := PreviewError.unsupportedDependency (plan.unsupported.getD "")
    return { mode := plan.mode, runtimeCode := none, error := some reason.message,
             autoDetectedPackages := plan.autoDetectedPackages }
  | some runtime =>
    return {
      mode := plan.mode
      runtimeCode := some (bootstrap runtime config request.language request.generation)
      autoDetectedPackages := plan.autoDetectedPackages
      document :=
        if config.emitDocument then
          some (document runtime config request.language request.generation)
        else none }

/-- Previews components, each on its own. -/
def previewAll (requests : List Request) (config : Config) :
    List (Except PreviewError Output) :=
  requests.map fun request => preview request config

/-! ### From JSON to JSON -/

/-- Why a preview cannot be made from texts. -/
inductive TextFailure
  /-- The request cannot be read. -/
  | request (problem : Problem)
  /-- There is an error. -/
  | preview (error : PreviewError)
  deriving Repr, DecidableEq

/-- The wording of a failure. -/
def TextFailure.message : TextFailure → String
  | request problem => "Request parse error: " ++ problem.message
  | preview error => error.message

/-- Reads a configuration; without a text it is the standard one. -/
def Config.ofText? : Option String → Except PreviewError Config
  | none => .ok {}
  | some json => (Config.parse json).mapError .config

/-- Reads a configuration file, given the bytes at a path if there are any. -/
def Config.ofFile (path : String) (bytes : Option (List Nat)) : Except PreviewError Config :=
  match bytes with
  | none => .error (.io path .missing)
  | some bytes =>
    match Text.decode? bytes with
    | none => .error (.io path .notText)
    | some text => Config.ofText? (some (String.ofList text))

/-- Previews a component that is given as JSON, under a configuration that is given as JSON. -/
def previewText (requestJson : String) (configJson : Option String) :
    Except TextFailure Output := do
  let request ← (Request.parse requestJson).mapError .request
  let config ← (Config.ofText? configJson).mapError .preview
  (preview request config).mapError .preview

end LivePreview
