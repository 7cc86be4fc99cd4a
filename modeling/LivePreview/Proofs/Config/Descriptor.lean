import LivePreview.Config.Json
import LivePreview.Proofs.Json.Fields
/-!
# LivePreview.Proofs.Config.Descriptor

**Descriptors that are read.** An object stands for a descriptor if it names the provider and whatever
the descriptor has beyond it (`Descriptor.Spelled`); a field that the descriptor does not have may be
left out. Such an object is read as the descriptor, and the object that is written is one.
-/

namespace LivePreview

open Json (Value Reading)

/-! ### Lists and texts that were written -/

theorem itemTextTrees_texts (texts : List String) :
    Json.itemTextTrees (texts.map .string) = texts.map fun text => .string (.ok text) := by
  induction texts with
  | nil => rfl
  | cons text texts ih => exact congrArg _ ih

theorem list_ofTexts (texts : List String) :
    Json.list Json.text (Value.ofTexts texts).textTree = .ok texts := by
  rw [Value.ofTexts, Value.textTree, itemTextTrees_texts]
  show (texts.map fun text => Json.Tree.string (.ok text)).mapM Json.text = .ok texts
  induction texts with
  | nil => rfl
  | cons text texts ih =>
    rw [List.map_cons, List.mapM_cons, ih]
    rfl

theorem optional_ofText? (text : Option String) :
    Json.optional Json.text (Value.ofText? text).textTree = .ok text := by
  cases text <;> rfl

theorem variant_provider (p : Provider) :
    Json.variant Provider.names (Value.string p.name).textTree = .ok p := by
  cases p <;> rfl

theorem getD_eq {α : Type} {given : Option α} {value standard : α}
    (h : given = some value ∨ given = none ∧ value = standard) : given.getD standard = value := by
  rcases h with rfl | ⟨rfl, rfl⟩ <;> rfl

/-! ### The fields of a descriptor -/

namespace Descriptor

/-- The fields of a descriptor. -/
inductive Field
  | provider
  | locator
  | globalName
  | shimBody
  | peers
  deriving DecidableEq

/-- The name that a field is written under. -/
def Field.name : Field → String
  | provider => "type"
  | locator => "locator"
  | globalName => "globalName"
  | shimBody => "shimBody"
  | peers => "peerDependencies"

/-- All fields, in the order in which they are written. -/
def Field.all : List Field := [provider, locator, globalName, shimBody, peers]

/-- A record knows the names of its fields. -/
theorem exists_name {name : String} (h : name ∈ form.fields) : ∃ f, Field.name f = name := by
  have hall : form.fields = Field.all.map Field.name := rfl
  obtain ⟨f, -, hf⟩ := List.mem_map.1 (hall ▸ h)
  exact ⟨f, hf⟩

theorem name_mem_fields (f : Field) : f.name ∈ form.fields := by
  cases f <;> decide

/-- What a field holds. -/
def Field.Content : Field → Type
  | provider => Provider
  | locator | globalName | shimBody => Option String
  | peers => List String

variable (d : Descriptor)

/-- What a descriptor has in a field. -/
def content : (f : Field) → f.Content
  | .provider => d.provider
  | .locator => d.locator
  | .globalName => d.globalName
  | .shimBody => d.shimBody
  | .peers => d.peers

/-- What is written for a field. -/
def value : Field → Value
  | .provider => .string d.provider.name
  | .locator => .ofText? d.locator
  | .globalName => .ofText? d.globalName
  | .shimBody => .ofText? d.shimBody
  | .peers => .ofTexts d.peers

/-- May the field be left out? -/
def Omits : Field → Prop
  | .provider => False
  | .locator => d.locator = none
  | .globalName => d.globalName = none
  | .shimBody => d.shimBody = none
  | .peers => d.peers = []

/-- How a field is read. -/
def Field.reading : (f : Field) → Reading f.Content
  | provider => Json.variant Provider.names
  | locator | globalName | shimBody => Json.optional Json.text
  | peers => Json.list Json.text

/-- What a draft has in a field. -/
def Draft.get : (f : Field) → Draft → Option f.Content
  | .provider => (·.provider)
  | .locator => (·.locator)
  | .globalName => (·.globalName)
  | .shimBody => (·.shimBody)
  | .peers => (·.peers)

/-- Gives a field to a draft. -/
def Draft.set : (f : Field) → Draft → f.Content → Draft
  | .provider => fun d v => { d with provider := some v }
  | .locator => fun d v => { d with locator := some v }
  | .globalName => fun d v => { d with globalName := some v }
  | .shimBody => fun d v => { d with shimBody := some v }
  | .peers => fun d v => { d with peers := some v }

/-- A descriptor is read field by field. -/
def fields : form.Fields Field where
  name := Field.name
  Content := Field.Content
  reading := Field.reading
  get := Draft.get
  set := Draft.set
  name_injective f g h := by
    cases f <;> cases g <;> first | rfl | exact absurd h (by decide)
  put_name f := by cases f <;> rfl
  put_other field h := by
    show Draft.put field = none
    unfold Draft.put
    split
    case h_6 => rfl
    all_goals exact absurd (exists_name (by decide)) (not_exists.2 h)
  get_set f _ _ := by cases f <;> rfl
  get_set_of_ne f g _ _ h := by
    cases f <;> cases g <;> first | rfl | exact absurd rfl h
  get_empty f := by cases f <;> rfl

variable {d : Descriptor} {members : List (String × Value)}

theorem reading_value (d : Descriptor) (f : Field) :
    f.reading (d.value f).textTree = .ok (d.content f) := by
  cases f with
  | provider => exact variant_provider d.provider
  | locator => exact optional_ofText? d.locator
  | globalName => exact optional_ofText? d.globalName
  | shimBody => exact optional_ofText? d.shimBody
  | peers => exact list_ofTexts d.peers

/-- Do these members stand for the descriptor? Each field is named at most once and has what the
descriptor has there; one that is left out may be. There may be other members. -/
structure Spelled (d : Descriptor) (members : List (String × Value)) : Prop where
  once : ∀ f : Field, (members.map (·.1)).count f.name ≤ 1
  value : ∀ f v, (f.name, v) ∈ members → v = d.value f
  omitted : ∀ f : Field, f.name ∉ members.map (·.1) → d.Omits f

/-- An object that stands for a descriptor is read as the descriptor. -/
theorem Spelled.reading_eq (h : d.Spelled members) :
    Descriptor.reading (Value.object members).textTree = .ok d := by
  have hread (f : Field) (v : Value) (hm : (f.name, v) ∈ members) :
      f.reading v.textTree = .ok (d.content f) := by
    rw [h.value f v hm, reading_value]
  obtain ⟨last, hlast, hgiven⟩ := fields.putMembers_textTrees h.once hread
  -- What is left out is what stands in for it.
  have hget (f : Field) :
      Draft.get f last = some (d.content f) ∨ Draft.get f last = none ∧ d.Omits f := by
    by_cases hm : f.name ∈ members.map (·.1)
    · exact .inl ((hgiven f).trans (if_pos hm))
    · exact .inr ⟨(hgiven f).trans (if_neg hm), h.omitted f hm⟩
  have hprovider : last.provider = some d.provider := (hget .provider).resolve_right fun h => h.2
  have hlocator : last.locator.getD none = d.locator := getD_eq (hget .locator)
  have hglobalName : last.globalName.getD none = d.globalName := getD_eq (hget .globalName)
  have hshimBody : last.shimBody.getD none = d.shimBody := getD_eq (hget .shimBody)
  have hpeers : last.peers.getD [] = d.peers := getD_eq (hget .peers)
  have hfinish : form.finish last = .ok d := by
    simp only [form, hprovider, hlocator, hglobalName, hshimBody, hpeers]
    rfl
  show form.putMembers form.empty (Json.memberTextTrees members) >>= form.finish = .ok d
  rw [hlast]
  exact hfinish

/-- The members that are written stand for the descriptor. -/
theorem spelled_json (d : Descriptor) : ∃ members, d.json = .object members ∧ d.Spelled members := by
  have hnodup : form.fields.Nodup := by decide
  refine ⟨Field.all.map fun f => (f.name, d.value f), rfl, fun f => ?_, fun f v hm => ?_, fun f hm => ?_⟩
  · exact List.nodup_iff_count.1 hnodup f.name
  · obtain ⟨g, -, hg⟩ := List.mem_map.1 hm
    obtain ⟨hname, rfl⟩ := Prod.mk.inj hg
    rw [fields.name_injective hname]
  · exact absurd (name_mem_fields f) hm

end Descriptor

end LivePreview
