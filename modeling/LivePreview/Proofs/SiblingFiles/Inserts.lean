import Mathlib.Data.Finset.Card
import Mathlib.Data.List.Dedup
import LivePreview.Proofs.SiblingFiles
import LivePreview.Proofs.Text.Utf8
/-!
# LivePreview.Proofs.SiblingFiles.Inserts

**A set of files is a map from normal paths.** What a specifier finds is what was put in last under
its normal form, and as many files are in the set as there are normal forms of the paths that were
put in (`ofInserts_maps`).

A path denotes nothing if somewhere in it more segments lead up than names came before (`Climbs`),
whatever follows, or if in the end all its names are taken back.
-/

namespace LivePreview.SiblingFiles

open Text

variable {back names parts : List (List Char)} {path key specifier contents : String}
  {inserts : List (String × String)}

/-! ### Paths that denote nothing -/

/-- Is the segment a name, and not one that stays or leads up? -/
def isName (segment : List Char) : Bool :=
  !(segment == [] || segment == ['.'] || segment == ['.', '.'])

/-- How many names the segments have. -/
def down (parts : List (List Char)) : Nat :=
  parts.countP isName

/-- How many of the segments lead up. -/
def up (parts : List (List Char)) : Nat :=
  parts.count ['.', '.']

/-- Are there segments at the front of which more lead up than there are names? -/
def Climbs (path : String) : Prop :=
  ∃ front, front <+: segments path.toList ∧ down front < up front

theorem counts_of_stay {part : List Char} (h : part = [] ∨ part = ['.'])
    (parts : List (List Char)) :
    down (part :: parts) = down parts ∧ up (part :: parts) = up parts := by
  rcases h with rfl | rfl <;> simp [down, up, isName]

theorem counts_of_up (parts : List (List Char)) :
    down (['.', '.'] :: parts) = down parts ∧ up (['.', '.'] :: parts) = up parts + 1 := by
  simp [down, up, isName]

theorem counts_of_name {part : List Char} (hstay : ¬(part = [] ∨ part = ['.']))
    (hup : part ≠ ['.', '.']) (parts : List (List Char)) :
    down (part :: parts) = down parts + 1 ∧ up (part :: parts) = up parts := by
  rw [not_or] at hstay
  simp [down, up, isName, hstay.1, hstay.2, hup]

/-- A front that climbs is not empty. -/
theorem exists_front_cons_iff {part : List Char} {n : Nat} :
    (∃ front, front <+: part :: parts ∧ n + down front < up front) ↔
      ∃ front, front <+: parts ∧ n + down (part :: front) < up (part :: front) := by
  constructor
  · rintro ⟨front, hfront, hlt⟩
    rcases List.prefix_cons_iff.1 hfront with rfl | ⟨front, rfl, hrest⟩
    · exact absurd hlt (Nat.not_lt_zero _)
    · exact ⟨front, hrest, hlt⟩
  · rintro ⟨front, hfront, hlt⟩
    exact ⟨part :: front, List.cons_prefix_cons.2 ⟨rfl, hfront⟩, hlt⟩

/-- Behind some names, segments climb out if at the front more of them lead up than there are names
in all. -/
theorem resolveSegments_eq_none_iff : resolveSegments back parts = none ↔
    ∃ front, front <+: parts ∧ back.length + down front < up front := by
  induction parts generalizing back with
  | nil => simp [resolveSegments, up]
  | cons part parts ih =>
    rw [exists_front_cons_iff]
    unfold resolveSegments
    split_ifs with hstay hup
    · simp only [ih, counts_of_stay hstay]
    · subst hup
      simp only [counts_of_up]
      cases back with
      | nil => exact iff_of_true rfl ⟨[], List.nil_prefix, Nat.succ_pos _⟩
      | cons name back =>
        rw [ih, List.length_cons]
        refine exists_congr fun front => and_congr_right fun _ => ?_
        omega
    · simp only [ih, counts_of_name hstay hup, List.length_cons]
      refine exists_congr fun front => and_congr_right fun _ => ?_
      omega

/-- Each segment that leads up takes back one name. -/
theorem length_resolveSegments (h : resolveSegments back parts = some names) :
    names.length + up parts = back.length + down parts := by
  induction parts generalizing back with
  | nil =>
    rw [← Option.some.inj h, List.length_reverse]
    rfl
  | cons part parts ih =>
    unfold resolveSegments at h
    split_ifs at h with hstay hup
    · rw [(counts_of_stay hstay parts).1, (counts_of_stay hstay parts).2]
      exact ih h
    · subst hup
      cases back with
      | nil => cases h
      | cons name back =>
        have hlength := ih h
        rw [(counts_of_up parts).1, (counts_of_up parts).2, List.length_cons]
        omega
    · have hlength := ih h
      rw [List.length_cons] at hlength
      rw [(counts_of_name hstay hup parts).1, (counts_of_name hstay hup parts).2]
      omega

/-- A path denotes nothing exactly if it climbs out or takes back all its names. -/
theorem normalize?_eq_none_iff : normalize? path = none ↔
    Climbs path ∨ down (segments path.toList) = up (segments path.toList) := by
  have hclimbs : resolveSegments [] (segments path.toList) = none ↔ Climbs path := by
    rw [resolveSegments_eq_none_iff]
    simp only [List.length_nil, Nat.zero_add]
    exact Iff.rfl
  rw [normalize?]
  cases hresolve : resolveSegments [] (segments path.toList) with
  | none => exact iff_of_true rfl (.inl (hclimbs.1 hresolve))
  | some names =>
    have hnot : ¬ Climbs path := fun h =>
      Option.some_ne_none names (hresolve.symm.trans (hclimbs.2 h))
    have hlength := length_resolveSegments hresolve
    rw [List.length_nil] at hlength
    rw [or_iff_right hnot]
    cases names with
    | nil => exact iff_of_true rfl (by rw [List.length_nil] at hlength; omega)
    | cons name names =>
      rw [List.length_cons] at hlength
      exact iff_of_false (Option.some_ne_none _) (by omega)

/-- The segments of a normal form are names. -/
theorem isName_of_mem_normalize? (h : normalize? path = some key) :
    ∀ segment ∈ segments key.toList, IsName segment := by
  obtain ⟨names, hne, hnames, rfl⟩ := exists_names h
  rw [String.toList_ofList, segments_intercalate hne hnames]
  exact hnames

theorem backslash_not_mem_normalize? (h : normalize? path = some key) : '\\' ∉ key.toList := by
  obtain ⟨names, -, hnames, rfl⟩ := exists_names h
  rw [String.toList_ofList]
  exact not_mem_intercalate (by decide) fun name hn => (hnames name hn).backslash

/-! ### Files that were put in -/

/-- The set of the files that are put in, one after the other. -/
def ofInserts (inserts : List (String × String)) : SiblingFiles :=
  inserts.foldl (fun s entry => s.insert entry.1 entry.2) empty

theorem get?_ofInserts (inserts : List (String × String)) (key : String) :
    (ofInserts inserts).files.get? key = last? inserts key := by
  rw [ofInserts, get?_foldl_insert]
  exact Option.or_none

/-- The last entry for a file has no other behind it. -/
theorem last?_eq_some_iff : last? inserts key = some contents ↔
    ∃ earlier path later, inserts = earlier ++ (path, contents) :: later ∧
      normalize? path = some key ∧ ∀ entry ∈ later, normalize? entry.1 ≠ some key := by
  rw [last?, Option.map_eq_some_iff]
  constructor
  · rintro ⟨⟨path, value⟩, hfind, rfl⟩
    obtain ⟨hpath, before, behind, hsplit, hother⟩ := List.find?_eq_some_iff_append.1 hfind
    refine ⟨behind.reverse, path, before.reverse, ?_, beq_iff_eq.1 hpath, fun entry he => ?_⟩
    · rw [← List.reverse_reverse inserts, hsplit]
      simp
    · simpa [denotes] using hother entry (List.mem_reverse.1 he)
  · rintro ⟨earlier, path, later, rfl, hpath, hother⟩
    refine ⟨(path, contents), List.find?_eq_some_iff_append.2 ⟨beq_iff_eq.2 hpath, later.reverse,
      earlier.reverse, by simp, fun entry he => ?_⟩, rfl⟩
    simpa [denotes] using hother entry (List.mem_reverse.1 he)

/-- The keys are the normal forms of the paths. -/
theorem mem_keys_ofInserts : key ∈ (ofInserts inserts).files.keys ↔
    key ∈ inserts.filterMap fun entry => normalize? entry.1 := by
  constructor
  · intro h
    obtain ⟨contents, hget⟩ := Dictionary.exists_of_mem_keys h
    rw [get?_ofInserts, last?_eq_some_iff] at hget
    obtain ⟨earlier, path, later, rfl, hpath, -⟩ := hget
    exact List.mem_filterMap.2 ⟨(path, contents), List.mem_append_right _ List.mem_cons_self, hpath⟩
  · intro h
    by_contra hnot
    have hnone := Dictionary.get?_of_not_mem_keys hnot
    rw [get?_ofInserts, last?, Option.map_eq_none_iff, List.find?_eq_none] at hnone
    obtain ⟨entry, he, hpath⟩ := List.mem_filterMap.1 h
    exact hnone entry (List.mem_reverse.2 he) (beq_iff_eq.2 hpath)

theorem size_ofInserts (inserts : List (String × String)) :
    (ofInserts inserts).size = (inserts.filterMap fun entry => normalize? entry.1).toFinset.card := by
  let keys := (ofInserts inserts).files.keys
  have hascending : keys.Pairwise (· < ·) :=
    List.pairwise_map.2 (ofInserts inserts).files.ascending
  have hnodup : keys.Nodup := hascending.imp fun {a b} hlt he => by
    rw [he] at hlt
    exact String.lt_irrefl b hlt
  have hsame : keys.toFinset = (inserts.filterMap fun entry => normalize? entry.1).toFinset :=
    Finset.ext fun key => by rw [List.mem_toFinset, List.mem_toFinset, mem_keys_ofInserts]
  rw [← hsame, List.toFinset_card_of_nodup hnodup]
  exact (List.length_map _).symm

/-- The entries of a dictionary, listed in the order of the bytes of their keys, are those of the
dictionary as it lists them. -/
theorem entries_eq_of_encode_lt {listed : List (String × String)} {files : Dictionary String}
    (hsame : listed.Perm files.entries)
    (hsorted : listed.Pairwise fun a b => encode a.1.toList < encode b.1.toList) :
    files.entries = listed := by
  have hentries : files.entries.Pairwise fun a b => encode a.1.toList < encode b.1.toList :=
    files.ascending.imp fun hlt => encode_lt (String.lt_iff.1 hlt)
  refine (hsame.eq_of_pairwise (fun a b _ _ hab hba => ?_) hsorted hentries).symm
  exact absurd (List.lt_trans hab hba) (List.lt_irrefl _)

/-- **A set of files maps normal paths to contents.** In a set into which files were put one after
the other, a specifier finds the contents that were put in last under a path with the same normal
form, and nothing if there are none. It finds nothing in any set if it climbs out or takes back all
its names. A normal form is its own normal form; its segments are names, and it has no backslash. The
size of the set is the number of different normal forms. And the set of a dictionary's files is what
comes of putting them in in the order of the bytes of their paths. -/
theorem ofInserts_maps (inserts : List (String × String)) :
    (∀ specifier contents, (ofInserts inserts).resolve? specifier = some contents ↔
      ∃ key earlier path later, normalize? specifier = some key ∧
        inserts = earlier ++ (path, contents) :: later ∧ normalize? path = some key ∧
        ∀ entry ∈ later, normalize? entry.1 ≠ some key) ∧
    (∀ specifier, Climbs specifier ∨
        down (segments specifier.toList) = up (segments specifier.toList) →
      (ofInserts inserts).resolve? specifier = none) ∧
    (∀ path key, normalize? path = some key → normalize? key = some key ∧
      (∀ segment ∈ segments key.toList, segment ≠ [] ∧ segment ≠ ['.'] ∧ segment ≠ ['.', '.']) ∧
      '\\' ∉ key.toList) ∧
    (ofInserts inserts).size = (inserts.filterMap fun entry => normalize? entry.1).toFinset.card ∧
    ∀ files : Dictionary String, ∀ listed : List (String × String), listed.Perm files.entries →
      (listed.Pairwise fun a b => encode a.1.toList < encode b.1.toList) →
      ofDictionary files = ofInserts listed := by
  refine ⟨fun specifier contents => ?_, fun specifier hnothing => ?_, fun path key h => ?_,
    size_ofInserts inserts, fun files listed hsame hsorted => ?_⟩
  · rw [resolve?, Option.bind_eq_some_iff]
    refine exists_congr fun key => ?_
    rw [get?_ofInserts, last?_eq_some_iff]
    constructor
    · rintro ⟨hkey, earlier, path, later, h⟩
      exact ⟨earlier, path, later, hkey, h⟩
    · rintro ⟨earlier, path, later, hkey, h⟩
      exact ⟨hkey, earlier, path, later, h⟩
  · rw [resolve?, normalize?_eq_none_iff.2 hnothing]
    rfl
  · have hnames := isName_of_mem_normalize? h
    refine ⟨normalize?_of_normalize? h, fun segment hs => ?_, backslash_not_mem_normalize? h⟩
    exact ⟨(hnames segment hs).ne_nil, (hnames segment hs).ne_dot, (hnames segment hs).ne_dots⟩
  · rw [ofDictionary, entries_eq_of_encode_lt hsame hsorted]
    rfl

/-- Three files, the first of which is out of reach and the others are one. -/
def spellings : List (String × String) :=
  [("../up.css", "a"), ("./a/../card.css", "b"), ("styles\\..\\card.css", "c")]

/-- The last spelling counts, a specifier that climbs out finds nothing although names follow, and the
dictionary of the same files makes up the same set. -/
theorem ofInserts_maps_spellings :
    normalize? "styles\\..\\card.css" = some "card.css" ∧
      normalize? "card.css" = some "card.css" ∧
      (ofInserts spellings).resolve? "./x/../card.css" = some "c" ∧
      Climbs "a/../../up.css" ∧ (ofInserts spellings).resolve? "a/../../up.css" = none ∧
      (ofInserts spellings).size = 1 ∧
      spellings.Perm (Dictionary.ofList spellings).entries ∧
      (spellings.Pairwise fun a b => encode a.1.toList < encode b.1.toList) ∧
      ofDictionary (.ofList spellings) = ofInserts spellings := by
  obtain ⟨hfound, hnothing, hnormal, hsize, hlisted⟩ := ofInserts_maps spellings
  have hcard : normalize? "styles\\..\\card.css" = some "card.css" := by decide +kernel
  have hlast := (hfound "./x/../card.css" "c").2 ⟨"card.css", spellings.take 2, _, [],
    by decide +kernel, rfl, hcard, fun _ he => absurd he List.not_mem_nil⟩
  have hclimbs : Climbs "a/../../up.css" :=
    ⟨[['a'], ['.', '.'], ['.', '.']], by decide +kernel, by decide +kernel⟩
  have hsame : (Dictionary.ofList spellings).entries = spellings :=
    Dictionary.entries_ofList (by decide +kernel)
  have hperm : spellings.Perm (Dictionary.ofList spellings).entries := by rw [hsame]
  have hsorted : spellings.Pairwise fun a b => encode a.1.toList < encode b.1.toList := by
    decide +kernel
  exact ⟨hcard, (hnormal _ _ hcard).1, hlast, hclimbs, hnothing _ (.inl hclimbs),
    hsize.trans (by decide +kernel), hperm, hsorted, hlisted _ _ hperm hsorted⟩

end LivePreview.SiblingFiles
