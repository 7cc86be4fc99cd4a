import LivePreview.Preview
import LivePreview.Proofs.Code.Exports
import LivePreview.Proofs.Loader.Serving
import LivePreview.Proofs.Text.Words
/-!
# LivePreview.Proofs.SiblingFiles

**How the paths of files are spelled.** A path in normal form is its own normal form, so a set that is
built file by file holds normal paths only, and under each of them the last file whose path denotes it
(`resolve?_ofDictionary`).

A request that is read takes its files as they are given. A specifier then finds the file whose path is
spelled in normal form, whatever other paths denote the same file. This agrees with the set that is built
from the same files exactly if for each file the spelling does not matter (`SpelledOut`), and in
particular if all paths are in normal form.
-/

namespace LivePreview

open Text

namespace SiblingFiles

/-! ### Normal forms of paths -/

/-- May the segment be a name in a path in normal form? -/
structure IsName (segment : List Char) : Prop where
  ne_nil : segment ≠ []
  ne_dot : segment ≠ ['.']
  ne_dots : segment ≠ ['.', '.']
  slash : '/' ∉ segment
  backslash : '\\' ∉ segment

variable {back names parts : List (List Char)} {path key : String}

/-- Segments have no separators. -/
theorem not_mem_of_mem_segments {path segment : List Char} (h : segment ∈ segments path) :
    '/' ∉ segment ∧ '\\' ∉ segment := by
  refine ⟨not_mem_of_mem_splitAtChar h, fun hm => ?_⟩
  obtain ⟨c, -, hc⟩ := List.mem_map.1 ((infix_of_mem_splitAtChar h).subset hm)
  split at hc
  · exact absurd hc (by decide)
  · next hne => exact hne hc

/-- Whatever segments lead to are names. -/
theorem isName_of_resolveSegments (hb : ∀ name ∈ back, IsName name)
    (hp : ∀ part ∈ parts, '/' ∉ part ∧ '\\' ∉ part) (h : resolveSegments back parts = some names) :
    ∀ name ∈ names, IsName name := by
  induction parts generalizing back with
  | nil =>
    rw [← Option.some.inj h]
    exact fun name hn => hb name (List.mem_reverse.1 hn)
  | cons part parts ih =>
    have hlater : ∀ later ∈ parts, '/' ∉ later ∧ '\\' ∉ later :=
      fun later hl => hp later (List.mem_cons_of_mem _ hl)
    unfold resolveSegments at h
    split at h
    · exact ih hb hlater h
    · next hdot =>
      split at h
      · cases back with
        | nil => exact nomatch h
        | cons last back => exact ih (fun name hn => hb name (List.mem_cons_of_mem _ hn)) hlater h
      · next hdots =>
        rw [not_or] at hdot
        obtain ⟨hslash, hbackslash⟩ := hp part List.mem_cons_self
        refine ih (fun name hn => ?_) hlater h
        rcases List.mem_cons.1 hn with rfl | hn
        · exact ⟨hdot.1, hdot.2, hdots, hslash, hbackslash⟩
        · exact hb name hn

/-- Names lead to themselves. -/
theorem resolveSegments_of_isName (h : ∀ name ∈ names, IsName name) :
    resolveSegments back names = some (back.reverse ++ names) := by
  induction names generalizing back with
  | nil => rw [resolveSegments, List.append_nil]
  | cons name names ih =>
    have hname := h name List.mem_cons_self
    unfold resolveSegments
    rw [if_neg (by simp [hname.ne_nil, hname.ne_dot]), if_neg hname.ne_dots,
      ih fun later hl => h later (List.mem_cons_of_mem _ hl), List.reverse_cons, List.append_assoc]
    rfl

/-- The segments of a path that is made up of names are the names. -/
theorem segments_intercalate (hne : names ≠ []) (h : ∀ name ∈ names, IsName name) :
    segments (['/'].intercalate names) = names := by
  have hbackslash : '\\' ∉ ['/'].intercalate names :=
    not_mem_intercalate (by decide) fun name hn => (h name hn).backslash
  -- There is no backslash that could become a slash.
  rw [segments, map_ite_of_not_mem hbackslash]
  exact splitAtChar_eq_iff.2 ⟨hne, rfl, fun name hn => (h name hn).slash⟩

/-- A normal form is names with slashes between them. -/
theorem exists_names (h : normalize? path = some key) :
    ∃ names, names ≠ [] ∧ (∀ name ∈ names, IsName name) ∧
      key = String.ofList (['/'].intercalate names) := by
  rw [normalize?] at h
  cases hnames : resolveSegments [] (segments path.toList) with
  | none =>
    rw [hnames] at h
    exact nomatch h
  | some names =>
    rw [hnames] at h
    cases names with
    | nil => exact nomatch h
    | cons name names =>
      refine ⟨name :: names, List.cons_ne_nil _ _, ?_, (Option.some.inj h).symm⟩
      exact isName_of_resolveSegments (fun _ hn => absurd hn List.not_mem_nil)
        (fun _ => not_mem_of_mem_segments) hnames

/-- A path in normal form is its own normal form. -/
theorem normalize?_of_normalize? (h : normalize? path = some key) : normalize? key = some key := by
  obtain ⟨names, hne, hnames, rfl⟩ := exists_names h
  have hresolve : resolveSegments [] (segments (['/'].intercalate names)) = some names := by
    rw [segments_intercalate hne hnames, resolveSegments_of_isName hnames]
    rfl
  rw [normalize?, String.toList_ofList, hresolve]
  cases names with
  | nil => exact absurd rfl hne
  | cons name names => rfl

/-! ### Sets that are built -/

/-- Does the path of the entry denote the file with this normal form? -/
def denotes (key : String) (entry : String × String) : Bool :=
  normalize? entry.1 == some key

/-- What the last of the entries holds whose path denotes the file with this normal form. -/
def last? (entries : List (String × String)) (key : String) : Option String :=
  (entries.reverse.find? (denotes key)).map (·.2)

theorem normalize?_of_find? {entries : List (String × String)} {entry : String × String}
    (h : entries.find? (denotes key) = some entry) : normalize? entry.1 = some key := by
  have hdenotes : denotes key entry = true := List.find?_some h
  exact beq_iff_eq.1 hdenotes

theorem get?_insert (s : SiblingFiles) (entry : String × String) (key : String) :
    (s.insert entry.1 entry.2).files.get? key =
      if denotes key entry then some entry.2 else s.files.get? key := by
  unfold insert denotes
  cases h : normalize? entry.1 with
  | none => simp
  | some other =>
    rw [Dictionary.get?_insert]
    by_cases hk : key = other
    · simp [hk]
    · simp [hk, Ne.symm hk]

theorem get?_foldl_insert (entries : List (String × String)) (s : SiblingFiles) (key : String) :
    (entries.foldl (fun s entry => s.insert entry.1 entry.2) s).files.get? key =
      (last? entries key).or (s.files.get? key) := by
  induction entries generalizing s with
  | nil => rfl
  | cons entry entries ih =>
    rw [List.foldl_cons, ih, get?_insert, last?, last?, List.reverse_cons, List.find?_append]
    cases entries.reverse.find? (denotes key) with
    | some found => rfl
    | none => cases hd : denotes key entry <;> simp [hd]

/-- In a set that is built, a specifier finds the last file whose path denotes the same file. -/
theorem resolve?_ofDictionary (files : Dictionary String) (specifier : String) :
    (ofDictionary files).resolve? specifier =
      (normalize? specifier).bind (last? files.entries) := by
  unfold resolve? ofDictionary
  refine congrArg _ (funext fun key => ?_)
  rw [get?_foldl_insert]
  exact Option.or_none

/-! ### Sets that are taken as they are given -/

/-- For each file that a path denotes, what stands under its normal form is what the last path that
denotes it gives. -/
def SpelledOut (files : Dictionary String) : Prop :=
  ∀ path ∈ files.keys, ∀ key, normalize? path = some key → files.get? key = last? files.entries key

theorem last?_eq_none {files : Dictionary String} (h : ∀ path ∈ files.keys, normalize? path ≠ some key) :
    last? files.entries key = none := by
  refine Option.map_eq_none_iff.2 (List.find?_eq_none.2 fun entry he => ?_)
  have hkey := h entry.1 (List.mem_map_of_mem (List.mem_reverse.1 he))
  simpa [denotes] using hkey

/-- The specifiers find the same in both sets exactly if for each file the spelling does not matter. -/
theorem resolve?_eq_iff (files : Dictionary String) :
    (∀ specifier, resolve? ⟨files⟩ specifier = (ofDictionary files).resolve? specifier) ↔
      SpelledOut files := by
  constructor
  · intro h path _ key hkey
    have hfound := h path
    rw [resolve?_ofDictionary, resolve?, hkey] at hfound
    exact hfound
  · intro h specifier
    rw [resolve?_ofDictionary, resolve?]
    cases hkey : normalize? specifier with
    | none => rfl
    | some key =>
      show files.get? key = last? files.entries key
      by_cases hdenoted : ∃ path ∈ files.keys, normalize? path = some key
      · obtain ⟨path, hpath, hnormal⟩ := hdenoted
        exact h path hpath key hnormal
      · have hnone : ∀ path ∈ files.keys, normalize? path ≠ some key :=
          fun path hpath hnormal => hdenoted ⟨path, hpath, hnormal⟩
        rw [last?_eq_none hnone]
        -- A path in normal form denotes itself, so it is not there either.
        cases hget : files.get? key with
        | none => rfl
        | some contents =>
          exact absurd (normalize?_of_normalize? hkey) (hnone key (Dictionary.mem_keys_of_get? hget))

/-- Are all paths in normal form? -/
def Normal (s : SiblingFiles) : Prop :=
  ∀ path ∈ s.files.keys, normalize? path = some path

/-- Paths in normal form denote one file each. -/
theorem spelledOut_of_normal {files : Dictionary String} (h : Normal ⟨files⟩) : SpelledOut files := by
  intro path hpath key hkey
  obtain rfl : path = key := Option.some.inj ((h path hpath).symm.trans hkey)
  obtain ⟨contents, hget⟩ := Dictionary.exists_of_mem_keys hpath
  have hentry := Dictionary.mem_entries_of_get? hget
  rw [hget, last?]
  cases hfind : files.entries.reverse.find? (denotes path) with
  | none =>
    have hnot := List.find?_eq_none.1 hfind _ (List.mem_reverse.2 hentry)
    exact absurd (beq_iff_eq.2 hkey) hnot
  | some entry =>
    have hmem : entry ∈ files.entries := List.mem_reverse.1 (List.mem_of_find?_eq_some hfind)
    have hsame : entry.1 = path := Option.some.inj
      ((h entry.1 (List.mem_map_of_mem hmem)).symm.trans (normalize?_of_find? hfind))
    have hvalue : files.get? entry.1 = some entry.2 := Dictionary.get?_of_mem hmem
    rw [hsame, hget] at hvalue
    exact hvalue

/-- A set that is built holds paths in normal form only. -/
theorem normal_ofDictionary (files : Dictionary String) : (ofDictionary files).Normal := by
  intro path hpath
  obtain ⟨contents, hget⟩ := Dictionary.exists_of_mem_keys hpath
  unfold ofDictionary at hget
  rw [get?_foldl_insert] at hget
  have hlast : last? files.entries path = some contents := by
    cases hl : last? files.entries path with
    | none =>
      rw [hl] at hget
      exact nomatch hget
    | some other =>
      rw [hl] at hget
      exact hget
  obtain ⟨entry, hfind, -⟩ := Option.map_eq_some_iff.1 hlast
  exact normalize?_of_normalize? (normalize?_of_find? hfind)

end SiblingFiles

/-! ### Components with the same files -/

section Files

variable {files others : SiblingFiles}

theorem Resolution.value?_congr (h : files.resolve? = others.resolve?) (specifier : String)
    (r : Resolution) : r.value? files specifier = r.value? others specifier := by
  cases r <;> simp only [value?, h]

theorem Bindings.ofRecords_congr (h : files.resolve? = others.resolve?) (records : List ImportRecord)
    (classifications : List Classification) :
    ofRecords files records classifications = ofRecords others records classifications := by
  have hinject : ∀ b record, inject b files record = inject b others record := by
    intro b record
    rw [inject, inject, h]
  have hadd : ∀ b record r, add files b record r = add others b record r := by
    intro b record r
    unfold add
    rw [Resolution.value?_congr h]
    cases r with
    | stylesheet isModule => rw [hinject]
    | _ => rfl
  simp only [ofRecords, hadd]

/-- A preview depends on the files only through what specifiers find. -/
theorem preview_congr (h : files.resolve? = others.resolve?) (r : Request) :
    preview { r with files := files } = preview { r with files := others } := by
  have hplan : Plan.ofRequest { r with files := files } =
      Plan.ofRequest { r with files := others } := by
    simp only [funext_iff, Plan.ofRequest, ModuleText.ofSource, Bindings.ofRecords_congr h,
      implies_true]
  funext config
  simp only [preview, hplan]

end Files

end LivePreview
