import LivePreview.Dictionary
import LivePreview.Error
import LivePreview.Text.Search
import LivePreview.Text.Utf8
/-!
# LivePreview.SiblingFiles

The **files beside a component**, by their path relative to it. A path is kept in a normal form:
its names joined by slashes, without empty and dot segments, every `..` taking back the name
before it. A path that climbs out of the set, and one without names, denotes nothing.
-/

namespace LivePreview

open Text

/-- The files beside a component. -/
structure SiblingFiles where
  /-- The contents by path. -/
  files : Dictionary String

namespace SiblingFiles

instance : Inhabited SiblingFiles := ⟨⟨.empty⟩⟩

/-- No files. -/
def empty : SiblingFiles := ⟨.empty⟩

/-! ### Paths -/

/-- The segments of a path; slashes and backslashes separate them. -/
def segments (path : List Char) : List (List Char) :=
  splitAtChar '/' (path.map fun c => if c = '\\' then '/' else c)

/-- The names that segments lead to, behind the names `back` (backwards); `none` if they climb
out. -/
def resolveSegments (back : List (List Char)) : List (List Char) → Option (List (List Char))
  | [] => some back.reverse
  | segment :: rest =>
    if segment = [] ∨ segment = ['.'] then resolveSegments back rest
    else if segment = ['.', '.'] then
      match back with
      | [] => none
      | _ :: names => resolveSegments names rest
    else resolveSegments (segment :: back) rest

/-- The normal form of a path, if it denotes a file. -/
def normalize? (path : String) : Option String :=
  match resolveSegments [] (segments path.toList) with
  | none | some [] => none
  | some names => some (String.ofList (['/'].intercalate names))

/-! ### The set -/

/-- Puts a file into the set; a path that denotes none changes nothing. -/
def insert (s : SiblingFiles) (path contents : String) : SiblingFiles :=
  match normalize? path with
  | some key => ⟨s.files.insert key contents⟩
  | none => s

/-- The contents of the file that a specifier denotes. -/
def resolve? (s : SiblingFiles) (specifier : String) : Option String :=
  (normalize? specifier).bind s.files.get?

/-- The number of files. -/
def size (s : SiblingFiles) : Nat :=
  s.files.size

/-- The set of the entries of a dictionary, put in in the order of the paths. -/
def ofDictionary (files : Dictionary String) : SiblingFiles :=
  files.entries.foldl (fun s entry => s.insert entry.1 entry.2) empty

/-! ### Reading a directory -/

/-- What stands in a directory. -/
inductive Entry
  | file (bytes : List Nat)
  | directory
  deriving Repr, DecidableEq

/-- The extensions of the files that count. -/
def extensions : List String := ["css", "scss", "js", "jsx", "ts", "tsx", "json"]

/-- The extension of a file name: what follows its last dot, unless the name begins with it. -/
def extension? (name : List Char) : Option String :=
  match name.reverse.dropWhile (· != '.') with
  | _ :: _ :: _ => some (String.ofList (name.reverse.takeWhile (· != '.')).reverse)
  | _ => none

/-- Is this a name that is passed over with all below it? -/
def isHidden (name : List Char) : Bool :=
  startsWith ['.'] name || name == "node_modules".toList

/-- Has the file a name that counts? -/
def isLoadable (name : List Char) : Bool :=
  match extension? name with
  | some ext => extensions.contains ext
  | none => false

/-- The entries below `root`, each with the names that lead to it from there. -/
def below (root : List (List Char)) (entries : List (List (List Char) × Entry)) :
    List (List (List Char) × Entry) :=
  entries.filterMap fun (names, entry) =>
    if root.isPrefixOf names then some (names.drop root.length, entry) else none

/-- Joins a place and names below it. -/
def joinPath (place : String) (names : List (List Char)) : String :=
  names.foldl (fun path name => path ++ "/" ++ String.ofList name) place

/-- Reads the files that count among entries below the directory at `place`. -/
def collect (place : String) (s : SiblingFiles) :
    List (List (List Char) × Entry) → Except PreviewError SiblingFiles
  | [] => .ok s
  | (_, .directory) :: rest => collect place s rest
  | (names, .file bytes) :: rest =>
    let name := names.getLastD (place.toList.reverse.takeWhile (· != '/')).reverse
    if names.any isHidden || !isLoadable name then collect place s rest
    else
      match decode? bytes with
      | none => .error (.io (joinPath place names) .notText)
      | some contents =>
        collect place (s.insert (joinPath "" names) (String.ofList contents)) rest

/-- Loads the files that count from the directory that `root` leads to. The entries are listed by
the names that lead to them from the directory at `place`. Hidden names and `node_modules` are
passed over with all below them. -/
def ofDirectory (place : String) (root : List (List Char))
    (entries : List (List (List Char) × Entry)) : Except PreviewError SiblingFiles :=
  let found := below root entries
  let place := joinPath place root
  if found.isEmpty && !root.isEmpty then .error (.io place (.missingRoot place))
  else collect place empty found

end SiblingFiles

end LivePreview
