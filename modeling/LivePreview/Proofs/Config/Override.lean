import Mathlib.Data.Finset.Basic
import LivePreview.Proofs.Config.Descriptor
/-!
# LivePreview.Proofs.Config.Override

**Configurations that are read.** A configuration is what it has in its fields (`Config.ext_content`). An
object that gives some of the fields of a configuration, in any order and among members that no
configuration knows (`Config.Spelled`), is read as a configuration that has these fields and the
defaults for the others; the object that is written gives all of them, so it is read as the
configuration itself (`Config.parse_overrides`).
-/

namespace LivePreview

open Json (Value Reading)

/-! ### Dictionaries that were written -/

/-- Does the value stand for the dictionary? It has an entry for each key, in any order. -/
def Dictionary.Spelled {α : Type} (d : Dictionary α) (spelled : α → Value → Prop) (v : Value) : Prop :=
  ∃ entries, v = .object entries ∧ (∀ key, key ∈ entries.map (·.1) ↔ key ∈ d.keys) ∧
    ∀ key entry, (key, entry) ∈ entries → ∀ x ∈ d.get? key, spelled x entry

theorem Dictionary.Spelled.reading_eq {α : Type} {d : Dictionary α} {spelled : α → Value → Prop}
    {reading : Reading α} (hread : ∀ x v, spelled x v → reading v.textTree = .ok x) {v : Value}
    (h : d.Spelled spelled v) : Json.dictionary reading v.textTree = .ok d := by
  obtain ⟨entries, rfl, hkeys, hentries⟩ := h
  exact Json.dictionary_textTrees hkeys
    fun key entry hm x hx => hread x entry (hentries key entry hm x hx)

theorem Dictionary.spelled_json {α : Type} {spelled : α → Value → Prop} {write : α → Value}
    (hwrite : ∀ x, spelled x (write x)) (d : Dictionary α) : d.Spelled spelled (d.json write) := by
  refine ⟨d.entries.map fun entry => (entry.1, write entry.2), rfl, fun key => ?_,
    fun key v hm x hx => ?_⟩
  · simp [Dictionary.keys]
  · obtain ⟨⟨name, y⟩, hy, he⟩ := List.mem_map.1 hm
    obtain ⟨rfl, rfl⟩ := Prod.mk.inj he
    rw [Option.some.inj (hx.symm.trans (get?_of_mem hy))]
    exact hwrite y

theorem variant_scanMode (mode : ScanMode) :
    Json.variant ScanMode.names (Value.string mode.name).textTree = .ok mode := by
  cases mode <;> rfl

theorem word_ofNat (n : UInt64) : Json.word (Value.ofNat n.toNat).textTree = .ok n.toNat := by
  have hlt := n.toNat_lt
  have hexact : (Json.Number.integer n.toNat).Exact := ⟨by omega, by omega⟩
  rw [Value.ofNat, Value.textTree, Json.Number.textTree_of_exact hexact]
  rfl

/-! ### The fields of a configuration -/

namespace Config

/-- The fields of a configuration. -/
inductive Field
  | registry
  | coreSpecifiers
  | denylist
  | dangerousPatterns
  | localShims
  | cdnBase
  | cdnQuery
  | frameworkUrl
  | domClientUrl
  | compilerUrl
  | dependencyBudgetMs
  | scanMode
  | guardStaleMount
  | emitDocument
  | mountNodeId
  deriving DecidableEq

namespace Field

/-- All fields, in the order in which they are written. -/
def all : List Field :=
  [registry, coreSpecifiers, denylist, dangerousPatterns, localShims, cdnBase, cdnQuery, frameworkUrl,
    domClientUrl, compilerUrl, dependencyBudgetMs, scanMode, guardStaleMount, emitDocument, mountNodeId]

/-- The name that a field is written under. -/
def name : Field → String
  | registry => "registry"
  | coreSpecifiers => "coreSpecifiers"
  | denylist => "denylist"
  | dangerousPatterns => "dangerousPatterns"
  | localShims => "localShims"
  | cdnBase => "cdnBase"
  | cdnQuery => "cdnQuery"
  | frameworkUrl => "frameworkUrl"
  | domClientUrl => "domClientUrl"
  | compilerUrl => "compilerUrl"
  | dependencyBudgetMs => "dependencyBudgetMs"
  | scanMode => "scanMode"
  | guardStaleMount => "guardStaleMount"
  | emitDocument => "emitDocument"
  | mountNodeId => "mountNodeId"

/-- What a field holds. -/
def Content : Field → Type
  | registry => Registry
  | coreSpecifiers | denylist | dangerousPatterns => List String
  | localShims => Dictionary String
  | cdnBase | cdnQuery | frameworkUrl | domClientUrl | compilerUrl | mountNodeId => String
  | dependencyBudgetMs => Nat
  | scanMode => ScanMode
  | guardStaleMount | emitDocument => Bool

/-- How a field is read. -/
def reading : (f : Field) → Reading f.Content
  | registry => Json.dictionary Descriptor.reading
  | coreSpecifiers | denylist | dangerousPatterns => Json.list Json.text
  | localShims => Json.dictionary Json.text
  | cdnBase | cdnQuery | frameworkUrl | domClientUrl | compilerUrl | mountNodeId => Json.text
  | dependencyBudgetMs => Json.word
  | scanMode => Json.variant ScanMode.names
  | guardStaleMount | emitDocument => Json.bool

theorem mem_all (f : Field) : f ∈ all := by
  cases f <;> decide

end Field

/-- A record knows the names of its fields. -/
theorem exists_name {name : String} (h : name ∈ form.fields) : ∃ f, Field.name f = name := by
  have hall : form.fields = Field.all.map Field.name := rfl
  obtain ⟨f, -, hf⟩ := List.mem_map.1 (hall ▸ h)
  exact ⟨f, hf⟩

theorem name_mem_fields (f : Field) : f.name ∈ form.fields := by
  cases f <;> decide

/-- What a configuration has in a field. -/
def content (c : Config) : (f : Field) → f.Content
  | .registry => c.registry
  | .coreSpecifiers => c.coreSpecifiers
  | .denylist => c.denylist
  | .dangerousPatterns => c.dangerousPatterns
  | .localShims => c.localShims
  | .cdnBase => c.cdnBase
  | .cdnQuery => c.cdnQuery
  | .frameworkUrl => c.frameworkUrl
  | .domClientUrl => c.domClientUrl
  | .compilerUrl => c.compilerUrl
  | .dependencyBudgetMs => c.dependencyBudgetMs.toNat
  | .scanMode => c.scanMode
  | .guardStaleMount => c.guardStaleMount
  | .emitDocument => c.emitDocument
  | .mountNodeId => c.mountNodeId

/-- A configuration is what it has in its fields. -/
theorem ext_content {a b : Config} (h : ∀ f, a.content f = b.content f) : a = b := by
  have hbudget : a.dependencyBudgetMs = b.dependencyBudgetMs :=
    UInt64.toNat_inj.1 (h .dependencyBudgetMs)
  obtain ⟨⟩ := a
  obtain ⟨⟩ := b
  simp only [Config.mk.injEq]
  exact ⟨h .registry, h .coreSpecifiers, h .denylist, h .dangerousPatterns, h .localShims, h .cdnBase,
    h .cdnQuery, h .frameworkUrl, h .domClientUrl, h .compilerUrl, hbudget, h .scanMode,
    h .guardStaleMount, h .emitDocument, h .mountNodeId⟩

/-- What is written for a field. -/
def value (c : Config) : Field → Value
  | .registry => c.registry.json Descriptor.json
  | .coreSpecifiers => .ofTexts c.coreSpecifiers
  | .denylist => .ofTexts c.denylist
  | .dangerousPatterns => .ofTexts c.dangerousPatterns
  | .localShims => c.localShims.json .string
  | .cdnBase => .string c.cdnBase
  | .cdnQuery => .string c.cdnQuery
  | .frameworkUrl => .string c.frameworkUrl
  | .domClientUrl => .string c.domClientUrl
  | .compilerUrl => .string c.compilerUrl
  | .dependencyBudgetMs => .ofNat c.dependencyBudgetMs.toNat
  | .scanMode => .string c.scanMode.name
  | .guardStaleMount => .bool c.guardStaleMount
  | .emitDocument => .bool c.emitDocument
  | .mountNodeId => .string c.mountNodeId

/-- What a draft has in a field. -/
def Draft.get : (f : Field) → Draft → Option f.Content
  | .registry => (·.registry)
  | .coreSpecifiers => (·.coreSpecifiers)
  | .denylist => (·.denylist)
  | .dangerousPatterns => (·.dangerousPatterns)
  | .localShims => (·.localShims)
  | .cdnBase => (·.cdnBase)
  | .cdnQuery => (·.cdnQuery)
  | .frameworkUrl => (·.frameworkUrl)
  | .domClientUrl => (·.domClientUrl)
  | .compilerUrl => (·.compilerUrl)
  | .dependencyBudgetMs => (·.dependencyBudgetMs)
  | .scanMode => (·.scanMode)
  | .guardStaleMount => (·.guardStaleMount)
  | .emitDocument => (·.emitDocument)
  | .mountNodeId => (·.mountNodeId)

/-- Gives a field to a draft. -/
def Draft.set : (f : Field) → Draft → f.Content → Draft
  | .registry => fun d v => { d with registry := some v }
  | .coreSpecifiers => fun d v => { d with coreSpecifiers := some v }
  | .denylist => fun d v => { d with denylist := some v }
  | .dangerousPatterns => fun d v => { d with dangerousPatterns := some v }
  | .localShims => fun d v => { d with localShims := some v }
  | .cdnBase => fun d v => { d with cdnBase := some v }
  | .cdnQuery => fun d v => { d with cdnQuery := some v }
  | .frameworkUrl => fun d v => { d with frameworkUrl := some v }
  | .domClientUrl => fun d v => { d with domClientUrl := some v }
  | .compilerUrl => fun d v => { d with compilerUrl := some v }
  | .dependencyBudgetMs => fun d v => { d with dependencyBudgetMs := some v }
  | .scanMode => fun d v => { d with scanMode := some v }
  | .guardStaleMount => fun d v => { d with guardStaleMount := some v }
  | .emitDocument => fun d v => { d with emitDocument := some v }
  | .mountNodeId => fun d v => { d with mountNodeId := some v }

/-- A configuration is read field by field. -/
def fields : form.Fields Field where
  name := Field.name
  Content := Field.Content
  reading := Field.reading
  get := Draft.get
  set := Draft.set
  name_injective f g h := by
    cases f <;> cases g <;> first | rfl | exact absurd h (by decide)
  put_name f := by cases f <;> rfl
  put_other field h := by
    show Draft.put field = none
    unfold Draft.put
    split
    case h_16 => rfl
    all_goals exact absurd (exists_name (by decide)) (not_exists.2 h)
  get_set f _ _ := by cases f <;> rfl
  get_set_of_ne f g _ _ h := by
    cases f <;> cases g <;> first | rfl | exact absurd rfl h
  get_empty f := by cases f <;> rfl

/-! ### Configurations that are given in part -/

variable {c : Config} {given : Finset Field} {members : List (String × Value)}

/-- Does the value stand for what the configuration has in the field? Entries of dictionaries may stand
in any order, and descriptors may be given in part. -/
def Spells (c : Config) : Field → Value → Prop
  | .registry, v =>
    c.registry.Spelled (fun d entry => ∃ members, entry = .object members ∧ d.Spelled members) v
  | .localShims, v => c.localShims.Spelled (fun body entry => entry = .string body) v
  | f, v => v = c.value f

/-- Do these members give just these fields of the configuration, each once? There may be other
members, which no configuration knows. -/
structure Spelled (c : Config) (given : Finset Field) (members : List (String × Value)) : Prop where
  once : ∀ f : Field, (members.map (·.1)).count f.name = if f ∈ given then 1 else 0
  value : ∀ f v, (f.name, v) ∈ members → c.Spells f v

/-- What stands for a field is read as what the configuration has there. -/
theorem reading_of_spells {f : Field} {v : Value} (h : c.Spells f v) :
    f.reading v.textTree = .ok (c.content f) := by
  cases f with
  | registry =>
    refine Dictionary.Spelled.reading_eq (fun d entry hentry => ?_) h
    obtain ⟨members, rfl, hmembers⟩ := hentry
    exact hmembers.reading_eq
  | localShims =>
    refine Dictionary.Spelled.reading_eq (fun body entry hentry => ?_) h
    rw [hentry]
    rfl
  | coreSpecifiers | denylist | dangerousPatterns =>
    obtain rfl : v = _ := h
    exact list_ofTexts _
  | dependencyBudgetMs =>
    obtain rfl : v = _ := h
    exact word_ofNat c.dependencyBudgetMs
  | scanMode =>
    obtain rfl : v = _ := h
    exact variant_scanMode c.scanMode
  | _ =>
    obtain rfl : v = _ := h
    rfl

/-- What is written for a field stands for it. -/
theorem spells_value (c : Config) (f : Field) : c.Spells f (c.value f) := by
  cases f with
  | registry => exact Dictionary.spelled_json Descriptor.spelled_json c.registry
  | localShims =>
    refine Dictionary.spelled_json ?_ c.localShims
    exact fun _ => rfl
  | _ => exact rfl

/-- The members that are written give all fields. -/
theorem spelled_json (c : Config) :
    ∃ members, c.json = .object members ∧ c.Spelled Field.all.toFinset members := by
  have hnodup : form.fields.Nodup := by decide
  refine ⟨Field.all.map fun f => (f.name, c.value f), rfl, fun f => ?_, fun f v hm => ?_⟩
  · have hcount : form.fields.count f.name = 1 := by
      rw [hnodup.count, if_pos (name_mem_fields f)]
    rw [if_pos (List.mem_toFinset.2 f.mem_all)]
    exact hcount
  · obtain ⟨g, -, hg⟩ := List.mem_map.1 hm
    obtain ⟨hname, rfl⟩ := Prod.mk.inj hg
    rw [← fields.name_injective hname]
    exact spells_value c g

/-- A finished draft has what it was given, and else the default. -/
theorem content_finish {last : Draft} {f : Field}
    (hlast : Draft.get f last = if f ∈ given then some (c.content f) else none) :
    last.finish.content f = if f ∈ given then c.content f else ({} : Config).content f := by
  cases f with
  | dependencyBudgetMs =>
    have hbudget : last.dependencyBudgetMs =
        if .dependencyBudgetMs ∈ given then some c.dependencyBudgetMs.toNat else none := hlast
    show ((last.dependencyBudgetMs.map UInt64.ofNat).getD _).toNat = _
    rw [hbudget]
    split
    · exact congrArg UInt64.toNat UInt64.ofNat_toNat
    · rfl
  | _ =>
    refine Eq.trans (congrArg (Option.getD · _) hlast) ?_
    split <;> rfl

/-- **An object is read as the configuration that it gives**, with the defaults for what is missing. -/
theorem Spelled.exists_reading (h : c.Spelled given members) :
    ∃ read, Config.reading (Value.object members).textTree = .ok read ∧
      ∀ f, read.content f = if f ∈ given then c.content f else ({} : Config).content f := by
  have hname (f : Field) : f.name ∈ members.map (·.1) ↔ f ∈ given := by
    rw [← List.count_pos_iff, h.once f]
    split <;> simp_all
  have honce (f : Field) : (members.map (·.1)).count f.name ≤ 1 := by
    rw [h.once f]
    split <;> omega
  obtain ⟨last, hlast, hget⟩ := fields.putMembers_textTrees honce
    fun f v hm => reading_of_spells (h.value f v hm)
  refine ⟨last.finish, ?_, fun f => content_finish ?_⟩
  · show form.putMembers form.empty (Json.memberTextTrees members) >>= form.finish = _
    rw [hlast]
    rfl
  · exact (hget f).trans (if_congr (hname f) rfl rfl)

/-- **A configuration is read back, and so is any part of it.** Its text is read as the configuration. The
text of an object that gives some of its fields, in any order and with members that no configuration
knows, is read as the configuration that has these fields and else the defaults; a registry that is
given is all there is of the registry. -/
theorem parse_overrides (c : Config) :
    Config.parse c.json.text = .ok c ∧
      ∀ (given : Finset Field) (members : List (String × Value)), c.Spelled given members →
        ∃ read, Config.parse (Value.object members).text = .ok read ∧
          ∀ f, read.content f = if f ∈ given then c.content f else ({} : Config).content f := by
  refine ⟨?_, fun given members h => ?_⟩
  · obtain ⟨members, hjson, hspelled⟩ := c.spelled_json
    obtain ⟨read, hread, hcontent⟩ := hspelled.exists_reading
    have hsame : read = c := ext_content fun f => by
      rw [hcontent f, if_pos (List.mem_toFinset.2 f.mem_all)]
    rw [Config.parse, Json.parse_value_text, hjson, hread, hsame]
  · rw [Config.parse, Json.parse_value_text]
    exact h.exists_reading

/-- A package that is fetched. -/
def leftPad : Descriptor :=
  { provider := .cdn, locator := some "https://x.test/lp.js" }

/-- What is given of the package. -/
def leftPadMembers : List (String × Value) :=
  [("locator", .string "https://x.test/lp.js"), ("type", .string "cdn")]

theorem spelled_leftPad : leftPad.Spelled leftPadMembers := by
  refine ⟨fun f => ?_, fun f v hm => ?_, fun f hm => ?_⟩
  · cases f <;> decide
  · cases f <;> simp [leftPadMembers, Descriptor.Field.name] at hm
    all_goals exact hm
  · cases f
    case provider | locator => exact absurd (by decide) hm
    all_goals rfl

/-- A registry of one package, and a place where others are fetched from. -/
def leftPadConfig : Config :=
  { registry := .ofList [("left-pad", leftPad)], cdnBase := "https://cdn.example.test/" }

/-- Two fields of it behind a member that no configuration knows. -/
def leftPadFields : List (String × Value) :=
  [("version", .number (.float 0x3ff8000000000000)), ("cdnBase", .string "https://cdn.example.test/"),
    ("registry", .object [("left-pad", .object leftPadMembers)])]

/-- The registry is replaced, and what is not given has its default. -/
theorem parse_overrides_registry :
    leftPadConfig.Spelled {.registry, .cdnBase} leftPadFields ∧
      ∃ read, Config.parse (Value.object leftPadFields).text = .ok read ∧
        read.registry = .ofList [("left-pad", leftPad)] ∧ read.cdnBase = "https://cdn.example.test/" ∧
        read.denylist = ({} : Config).denylist := by
  have hregistry : leftPadConfig.Spells .registry (.object [("left-pad", .object leftPadMembers)]) := by
    refine ⟨_, rfl, fun key => Iff.rfl, fun key entry hm d hd => ⟨leftPadMembers, ?_⟩⟩
    obtain ⟨rfl, rfl⟩ := Prod.mk.inj (List.mem_singleton.1 hm)
    obtain rfl : leftPad = d := Option.some.inj hd
    exact ⟨rfl, spelled_leftPad⟩
  have hspelled : leftPadConfig.Spelled {.registry, .cdnBase} leftPadFields := by
    refine ⟨fun f => ?_, fun f v hm => ?_⟩
    · cases f <;> rfl
    · cases f <;> simp [leftPadFields, Field.name] at hm
      · exact hm ▸ hregistry
      · exact hm
  obtain ⟨read, hread, hcontent⟩ := (parse_overrides leftPadConfig).2 _ _ hspelled
  exact ⟨hspelled, read, hread, hcontent .registry, hcontent .cdnBase, hcontent .denylist⟩

end Config

end LivePreview
