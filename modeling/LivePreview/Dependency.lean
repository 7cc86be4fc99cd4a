import LivePreview.Config
import LivePreview.Import.Record
import LivePreview.Text.Search
import LivePreview.Text.Utf8
import LivePreview.Text.Word
/-!
# LivePreview.Dependency

What a preview does about a **dependency**. Every specifier of an import is judged against the
configuration: a *verdict* says what kind of dependency it is, a *resolution* says what has to
be done to provide it. The verdicts of all dependencies together give the mode of the preview.

A package that the registry does not know is accepted only if its name is well formed, carries
nothing dangerous and does not belong to a package that needs the host (`refusal?`).
-/

namespace LivePreview

open Text

/-- The kind of a dependency. -/
inductive Verdict
  /-- A file beside the component. -/
  | nearby
  /-- Part of the framework. -/
  | core
  /-- A package that the registry knows, or a part of a package. -/
  | registryKnown
  /-- A package that is fetched on trust. -/
  | autoDetected
  /-- A dependency that is refused. -/
  | refused
  deriving Repr, DecidableEq, Inhabited

/-- The helper components that have a stand-in. -/
inductive Helper
  | link
  | image
  deriving Repr, DecidableEq, Inhabited

/-- The specifier of a helper. -/
def Helper.specifier : Helper → String
  | link => "next/link"
  | image => "next/image"

/-- The helper of a specifier. -/
def Helper.ofSpecifier? (specifier : String) : Option Helper :=
  if specifier = "next/link" then some .link
  else if specifier = "next/image" then some .image
  else none

/-- How a dependency is provided. -/
inductive Resolution
  /-- By a global of the framework. -/
  | framework (globalName : String)
  /-- By a stylesheet beside the component; a module binds its classes. -/
  | stylesheet (isModule : Bool)
  /-- By a module body that the configuration gives for a relative specifier. -/
  | localShim (body : String)
  /-- By nothing: a component that shows nothing is bound. -/
  | localEmpty
  /-- By a stand-in for part of an animation package, and by that package. -/
  | animationFamily (base : String)
  /-- By a stand-in for a helper component. -/
  | helperShim (helper : Helper)
  /-- By a module body of the registry. -/
  | shim (body : String)
  /-- By fetching it, behind its peers. -/
  | fetch (url : String) (peers : List String)
  /-- Not at all. -/
  | rejected (reason : String)
  deriving Repr, DecidableEq, Inhabited

/-- Is the dependency provided by code that stands in for it? -/
def Resolution.isShim : Resolution → Bool
  | shim _ | localShim _ | helperShim _ | animationFamily _ => true
  | _ => false

/-- A specifier and what was decided about it. -/
structure Classification where
  specifier : String
  verdict : Verdict
  resolution : Resolution
  deriving Repr, DecidableEq, Inhabited

/-- How a preview runs. -/
inductive Mode
  /-- With its own dependencies. -/
  | live
  /-- With stand-ins for some of them. -/
  | shimmed
  /-- With packages that are fetched on trust. -/
  | auto
  /-- Not at all. -/
  | disabled
  deriving Repr, DecidableEq, Inhabited

/-! ### Package names -/

/-- Is `c` a small ASCII letter or a digit? -/
def isPackageStart (c : Char) : Bool :=
  (97 ≤ c.toNat && c.toNat ≤ 122) || isDigit c

/-- May `c` stand in a package name? -/
def isPackagePart (c : Char) : Bool :=
  isPackageStart c || c == '.' || c == '_' || c == '~' || c == '-'

/-- May `c` stand in a path below a package? -/
def isSubpathPart (c : Char) : Bool :=
  isAsciiAlnum c || c == '.' || c == '_' || c == '~' || c == '-'

/-- Is the text the name of a package or of a scope? -/
def isPackageWord : List Char → Bool
  | [] => false
  | c :: rest => isPackageStart c && rest.all isPackagePart

/-- Is the text one step of a path below a package? -/
def isSubpathSegment (text : List Char) : Bool :=
  !text.isEmpty && text.all isSubpathPart

/-- Is the specifier a package name, with or without a scope in front and a path behind? -/
def isPackagePath (specifier : List Char) : Bool :=
  match splitAtChar '/' specifier with
  | [] => false
  | ('@' :: scope) :: rest =>
    match rest with
    | [] => false
    | name :: path => isPackageWord scope && isPackageWord name && path.all isSubpathSegment
  | name :: path => isPackageWord name && path.all isSubpathSegment

/-- The package that a specifier belongs to: the first segment, with the second one if the first
is a scope. -/
def packageName (specifier : String) : String :=
  match splitAtChar '/' specifier.toList with
  | ('@' :: scope) :: name :: _ => String.ofList ('@' :: scope ++ '/' :: name)
  | first :: _ => String.ofList first
  | [] => specifier

/-- The animation packages whose parts have a stand-in. -/
def animationFamilies : List String := ["framer-motion", "motion", "gsap"]

/-- The longest specifier of a package, in bytes. -/
def maxSpecifierBytes : Nat := 214

/-! ### Judging -/

/-- The global of a framework package that the registry does not name. -/
def frameworkGlobal (specifier : String) : String :=
  if startsWith "react-dom".toList specifier.toList then "ReactDOM" else "React"

namespace Config

/-- The global that a core package is read from. -/
def globalOf (config : Config) (specifier : String) : String :=
  ((config.registry.get? specifier).bind (·.globalName)).getD (frameworkGlobal specifier)

/-- Why a package that the registry does not know is refused. -/
def refusal? (config : Config) (specifier : String) : Option String :=
  let text := specifier.toList
  if text.isEmpty || byteSize text > maxSpecifierBytes then some "invalid package name"
  else if config.dangerousPatterns.any fun p => contains p.toList text then
    some "dangerous pattern"
  else if !isPackagePath text then some "invalid package name"
  else if config.isDenylisted (packageName specifier) then some "host capability"
  else none

/-- Does the text end with `tail`? -/
def endsWith (tail text : List Char) : Bool :=
  startsWith tail.reverse text.reverse

/-- How a relative specifier is provided. -/
def resolveNearby (config : Config) (specifier : String) : Resolution :=
  let has := fun (tail : String) => endsWith tail.toList specifier.toList
  if has ".module.css" || has ".module.scss" then .stylesheet true
  else if has ".css" || has ".scss" then .stylesheet false
  else
    match config.localShims.get? specifier with
    | some body => .localShim body
    | none => .localEmpty

/-- The decision that refuses a dependency. -/
def refuse (reason : String) : Verdict × Resolution :=
  (.refused, .rejected reason)

/-- How a path below a package without scope is provided. -/
def resolveSubpath (config : Config) (specifier : String) : Verdict × Resolution :=
  let base := String.ofList (specifier.toList.takeWhile (· != '/'))
  if config.isDenylisted base then refuse "host capability"
  else
    match config.refusal? specifier with
    | some reason => refuse reason
    | none =>
      if animationFamilies.contains base then (.registryKnown, .animationFamily base)
      else
        match Helper.ofSpecifier? specifier with
        | some helper => (.registryKnown, .helperShim helper)
        | none => (.registryKnown, .fetch (config.publicUrl specifier) [])

/-- How a package that the registry knows is provided. -/
def resolveKnown (config : Config) (specifier : String) (d : Descriptor) :
    Verdict × Resolution :=
  match d.provider with
  | .core => (.core, .framework (d.globalName.getD (frameworkGlobal specifier)))
  | .cdn => (.registryKnown, .fetch (d.locator.getD (config.publicUrl specifier)) d.peers)
  | .shim => (.registryKnown, .shim (d.shimBody.getD ""))
  | .unsupported => refuse "not supported in previews"

/-- The decision about a specifier. -/
def decide (config : Config) (specifier : String) : Verdict × Resolution :=
  let text := specifier.toList
  if config.isCore specifier then (.core, .framework (config.globalOf specifier))
  else if startsWith "./".toList text || startsWith "../".toList text then
    (.nearby, config.resolveNearby specifier)
  else if !startsWith "@".toList text && text.contains '/' then config.resolveSubpath specifier
  else
    match config.registry.get? specifier with
    | some d => config.resolveKnown specifier d
    | none =>
      match config.refusal? specifier with
      | none => (.autoDetected, .fetch (config.publicUrl specifier) [])
      | some reason => refuse reason

/-- Judges a specifier. -/
def classify (config : Config) (specifier : String) : Classification :=
  let (verdict, resolution) := config.decide specifier
  { specifier, verdict, resolution }

/-- The specifiers of the records that count at run time, each once, in source order. -/
def runtimeModules (records : List ImportRecord) : List String :=
  ((records.filter (!·.typeOnly)).map (·.module)).eraseDups

/-- Judges what the records import, each specifier once, in source order. -/
def classifyRecords (config : Config) (records : List ImportRecord) : List Classification :=
  (runtimeModules records).map config.classify

end Config

/-- The mode of a preview with these dependencies: one that is refused disables it, else one on
trust makes it automatic, else one with a stand-in makes it shimmed. -/
def Mode.ofClassifications (classifications : List Classification) : Mode :=
  if classifications.any (·.verdict == .refused) then .disabled
  else if classifications.any (·.verdict == .autoDetected) then .auto
  else if classifications.any (·.resolution.isShim) then .shimmed
  else .live

end LivePreview
