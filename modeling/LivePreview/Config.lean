import LivePreview.Dictionary
import LivePreview.Text.Blank
import LivePreview.Text.Join
/-!
# LivePreview.Config

The **configuration** of a preview: the registry of known packages, what is never loaded, and
where the run time comes from. It is plain data; every stage takes it as an argument, and a
configuration that names only some fields has the defaults of this module for the others.
-/

namespace LivePreview

open Text (joinLines)

/-! ### The registry -/

/-- Who provides a package. -/
inductive Provider
  /-- The run time itself: the component framework. -/
  | core
  /-- The public registry; the package is fetched. -/
  | cdn
  /-- A module body that is inlined. -/
  | shim
  /-- Nobody: the package is known and refused. -/
  | unsupported
  deriving Repr, DecidableEq, Inhabited

/-- What the registry knows of a package. -/
structure Descriptor where
  provider : Provider
  /-- The address to fetch from, if it is not the usual one. -/
  locator : Option String := none
  /-- The global that holds a core package. -/
  globalName : Option String := none
  /-- The body of an inlined package. -/
  shimBody : Option String := none
  /-- The packages that have to be loaded before. -/
  peers : List String := []
  deriving Repr, DecidableEq, Inhabited

/-- The known packages by specifier. -/
abbrev Registry := Dictionary Descriptor

namespace Registry

/-- A package of the framework. -/
def core (globalName : String) : Descriptor :=
  { provider := .core, globalName := some globalName }

/-- A package that is fetched. -/
def cdn (locator : String) (peers : List String) : Descriptor :=
  { provider := .cdn, locator := some locator, peers }

/-- A package that is inlined. -/
def shim (body : String) : Descriptor :=
  { provider := .shim, shimBody := some body }

/-- A package that is refused. -/
def unsupported : Descriptor :=
  { provider := .unsupported }

/-- The query that pins the framework which fetched packages share. -/
def frameworkQuery : String := "deps=react@18.3.1,react-dom@18.3.1"

/-- An address of the public registry that pins the framework. -/
def pinned (package : String) : String :=
  "https://esm.sh/" ++ package ++ "?" ++ frameworkQuery

/-- The body of the package that joins class names. -/
def classNamesBody : String :=
  joinLines [
    "export default function clsx(...args) \x7b",
    "  const out = [];",
    "  const walk = (value) => \x7b",
    "    if (!value) return;",
    "    if (typeof value === \"string\" || typeof value === \"number\") out.push(String(value));",
    "    else if (Array.isArray(value)) value.forEach(walk);",
    "    else if (typeof value === \"object\") for (const key in value) if (value[key]) out.push(key);",
    "  \x7d;",
    "  args.forEach(walk);",
    "  return out.join(\" \");",
    "\x7d",
    "export \x7b clsx \x7d;"]

/-- The body of the package that makes unique identifiers. -/
def uniqueIdBody : String :=
  joinLines [
    "export function v4() \x7b",
    "  if (typeof crypto !== \"undefined\" && crypto.randomUUID) return crypto.randomUUID();",
    "  return \"xxxxxxxx-xxxx-4xxx-yxxx-xxxxxxxxxxxx\".replace(/[xy]/g, (c) => \x7b",
    "    const r = (Math.random() * 16) | 0;",
    "    return (c === \"x\" ? r : (r & 0x3) | 0x8).toString(16);",
    "  \x7d);",
    "\x7d"]

/-- The registry of a configuration that names none. -/
def standard : Registry :=
  .ofList [
    ("react", core "React"),
    ("react-dom", core "ReactDOM"),
    ("react-dom/client", core "ReactDOM"),
    ("react/jsx-runtime", core "React"),
    ("framer-motion", cdn (pinned "framer-motion@11.2.10") []),
    ("motion", cdn (pinned "motion@11.2.10") []),
    ("gsap", cdn "https://esm.sh/gsap@3.12.5" []),
    ("lucide-react", cdn (pinned "lucide-react@0.395.0") []),
    ("recharts", cdn (pinned "recharts@2.12.7") []),
    ("three", cdn "https://esm.sh/three@0.165.0" []),
    ("@react-three/fiber", cdn (pinned "@react-three/fiber@8.16.8") ["three"]),
    ("@react-three/drei",
      cdn (pinned "@react-three/drei@9.107.0") ["three", "@react-three/fiber"]),
    ("clsx", shim classNamesBody),
    ("classnames", shim classNamesBody),
    ("uuid", shim uniqueIdBody),
    ("react-native", unsupported),
    ("next", unsupported)]

end Registry

/-! ### The configuration -/

/-- How import statements are found. -/
inductive ScanMode
  /-- Line by line. -/
  | heuristic
  /-- By parsing the module; a module that does not parse is scanned line by line. -/
  | strict
  deriving Repr, DecidableEq, Inhabited

/-- The settings of a preview. -/
structure Config where
  registry : Registry := Registry.standard
  /-- The specifiers that the run time supplies itself. -/
  coreSpecifiers : List String := ["react", "react-dom", "react-dom/client", "react/jsx-runtime"]
  /-- The packages that need the host and are never loaded. -/
  denylist : List String :=
    ["fs", "fs-extra", "path", "os", "child_process", "net", "http", "https", "http2",
     "tls", "dgram", "dns", "cluster", "worker_threads", "vm", "module", "process",
     "readline", "repl", "inspector", "v8", "perf_hooks", "async_hooks", "electron"]
  /-- Texts that no specifier may contain. -/
  dangerousPatterns : List String :=
    ["://", "..", "node:", "file:", "data:", "javascript:", "\\", "child_process",
     "process.env", "__proto__"]
  /-- Module bodies for relative specifiers. -/
  localShims : Dictionary String := .empty
  /-- Where unknown packages are fetched from. -/
  cdnBase : String := "https://esm.sh"
  /-- What is asked of that place for every package. -/
  cdnQuery : String := Registry.frameworkQuery
  frameworkUrl : String := "https://esm.sh/react@18.3.1"
  domClientUrl : String := "https://esm.sh/react-dom@18.3.1/client"
  compilerUrl : String := "https://esm.sh/@babel/standalone@7.24.7"
  /-- The time that loading may take, checked once before compiling. -/
  dependencyBudgetMs : UInt64 := 15000
  scanMode : ScanMode := .heuristic
  /-- Check the build's generation right before mounting. -/
  guardStaleMount : Bool := true
  /-- Also give the complete document. -/
  emitDocument : Bool := false
  mountNodeId : String := "root"

instance : Inhabited Config := ⟨{}⟩

namespace Config

/-- Does the run time supply this specifier? -/
def isCore (config : Config) (specifier : String) : Bool :=
  config.coreSpecifiers.contains specifier

/-- Does this package need the host? -/
def isDenylisted (config : Config) (package : String) : Bool :=
  config.denylist.contains package

/-- The address of a package that the registry does not know. Slashes at the end of the base do
not count, and an empty query is left out. -/
def publicUrl (config : Config) (specifier : String) : String :=
  let base := String.ofList (Text.dropEndWhile (· == '/') config.cdnBase.toList)
  if config.cdnQuery.isEmpty then base ++ "/" ++ specifier
  else base ++ "/" ++ specifier ++ "?" ++ config.cdnQuery

end Config

end LivePreview
