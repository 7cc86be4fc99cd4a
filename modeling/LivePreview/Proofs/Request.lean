import LivePreview.Proofs.Json.Kept
import LivePreview.Proofs.SiblingFiles
/-!
# LivePreview.Proofs.Request

**The files of a request that is read.** The object that stands for them in the text is taken entry by
entry, whatever else the text says, and no path is brought into normal form (`files_of_parse`). So the
component finds what it would find in a set that is built from the same entries exactly if for each file
the spelling of its paths does not matter.
-/

namespace LivePreview

open Json (Tree)
open SiblingFiles (normalize? ofDictionary SpelledOut)

namespace Request

variable {json field : String} {content : Tree} {draft next : Draft}
  {put : Tree → Draft → Except Json.Problem Draft}
  {entries : List (String × String)} {r : Request}

/-! ### Requests that were written -/

theorem exact_texts (entries : List (String × String)) :
    Json.MembersExact (entries.map fun entry => (entry.1, .string entry.2)) := by
  induction entries with
  | nil => trivial
  | cons entry entries ih => exact ⟨trivial, ih⟩

theorem memberTrees_texts (entries : List (String × String)) :
    .object (Json.memberTrees (entries.map fun entry => (entry.1, .string entry.2))) =
      Json.textObject entries := by
  refine congrArg Tree.object ?_
  induction entries with
  | nil => rfl
  | cons entry entries ih => exact congrArg _ ih

theorem exact_json (r : Request) : r.json.Exact := by
  have hgeneration := r.generation.toNat_lt
  exact ⟨trivial, trivial, trivial, exact_texts _, ⟨by omega, by omega⟩, trivial⟩

/-- The tree of a request. -/
theorem tree_json (r : Request) : r.json.tree = .object [
    (.string (.ok "source"), .string (.ok r.source)),
    (.string (.ok "language"), .string (.ok r.language.extension)),
    (.string (.ok "framework"), .string (.ok r.framework)),
    (.string (.ok "files"), Json.textObject r.files.files.entries),
    (.string (.ok "generation"), .number (.ok (.integer r.generation.toNat)))] := by
  rw [← memberTrees_texts]
  rfl

/-- A request is read from its text. -/
theorem parse_json (r : Request) : Request.parse r.json.text = .ok r := by
  have hlanguage : Json.variant Language.names (.string (.ok r.language.extension)) =
      .ok r.language := by
    cases r.language <;> rfl
  have hfiles : Json.dictionary Json.text (Json.textObject r.files.files.entries) =
      .ok r.files.files := by
    rw [Json.dictionary_textObject]
    exact congrArg Except.ok (Dictionary.ext (Dictionary.entries_ofList r.files.files.ascending))
  have hgeneration : Json.word (.number (.ok (.integer r.generation.toNat))) =
      .ok r.generation.toNat := rfl
  rw [Request.parse, Json.parse_written (exact_json r), tree_json]
  simp [Request.reading, Json.RecordForm.read, Json.RecordForm.putMembers, Json.key, form, Draft.put,
    Json.once, Json.text, hlanguage, hfiles, hgeneration, Json.required, bind, Except.bind, pure,
    Except.pure]

/-! ### Files as they are given -/

/-- Files that are given stay as they are. -/
theorem files_put {files : Dictionary String} (hput : form.put field = some put)
    (h : put content draft = .ok next) (hf : draft.files = some files) : next.files = some files := by
  change Draft.put field = some put at hput
  unfold Draft.put at hput
  split at hput
  case h_6 => exact nomatch hput
  all_goals
    obtain ⟨hnone, value, -, rfl⟩ := Json.once_eq_ok_iff.1 (Option.some.inj hput ▸ h)
  case h_4 => exact nomatch hf.symm.trans hnone
  all_goals exact hf

/-- Does the tree of a request give these files, under their name or in their place? -/
inductive GivesFiles (entries : List (String × String)) : Tree → Prop
  | named (before after : List (Tree × Tree)) :
    GivesFiles entries
      (.object (before ++ (.string (.ok "files"), Json.textObject entries) :: after))
  | placed (source language framework : Tree) (after : List Tree) :
    GivesFiles entries
      (.array (source :: language :: framework :: Json.textObject entries :: after))

/-- The text of a request gives its files. -/
theorem givesFiles_json (r : Request) :
    GivesFiles r.files.files.entries (Json.read r.json.text.toList).1 := by
  rw [Json.Value.text, String.toList_ofList, Json.read_chars (exact_json r), tree_json]
  exact .named [_, _, _] [_]

theorem files_of_put {given : Draft} (h : Json.once "files" (·.files) (Json.dictionary Json.text)
      (fun d v => { d with files := some v }) (Json.textObject entries) draft = .ok given) :
    given.files = some (.ofList entries) := by
  obtain ⟨-, files, hdictionary, rfl⟩ := Json.once_eq_ok_iff.1 h
  rw [Json.dictionary_textObject] at hdictionary
  exact congrArg some (Except.ok.inj hdictionary).symm

theorem files_of_finish (h : form.finish draft = .ok r) (hf : draft.files = some (.ofList entries)) :
    r.files = ⟨.ofList entries⟩ := by
  obtain ⟨source, -, hr⟩ := Json.bind_eq_ok_iff.1 h
  rw [← Except.ok.inj hr, hf]
  rfl

/-- The files of a request are the entries of the object that its tree gives. -/
theorem files_of_reading {tree : Tree} (htree : GivesFiles entries tree)
    (h : Request.reading tree = .ok r) : r.files = ⟨.ofList entries⟩ := by
  cases htree with
  | named before after =>
    obtain ⟨last, hlast, hfinish⟩ := Json.bind_eq_ok_iff.1 h
    rw [Json.RecordForm.putMembers_append] at hlast
    obtain ⟨between, -, hmembers⟩ := Json.bind_eq_ok_iff.1 hlast
    rw [Json.RecordForm.putMembers_known (rfl : form.put "files" = some _)] at hmembers
    obtain ⟨given, hgiven, hrest⟩ := Json.bind_eq_ok_iff.1 hmembers
    exact files_of_finish hfinish
      (Json.RecordForm.putMembers_induction (motive := fun d => d.files = some (.ofList entries))
        (fun _ => files_put) hrest (files_of_put hgiven))
  | placed source language framework after =>
    obtain ⟨⟨record, more⟩, hrecord, h⟩ := Json.bind_eq_ok_iff.1 h
    obtain ⟨last, hlast, hfinish⟩ := Json.RecordForm.readItems_eq_ok hrecord
    obtain rfl : record = r := by
      dsimp only at h
      split at h
      · exact Except.ok.inj h
      all_goals exact nomatch h
    change form.putItems ["source", "language", "framework", "files", "generation"] {} _ = _ at hlast
    rw [Json.RecordForm.putItems_known (rfl : form.put "source" = some _)] at hlast
    obtain ⟨withSource, -, hlast⟩ := Json.bind_eq_ok_iff.1 hlast
    rw [Json.RecordForm.putItems_known (rfl : form.put "language" = some _)] at hlast
    obtain ⟨withLanguage, -, hlast⟩ := Json.bind_eq_ok_iff.1 hlast
    rw [Json.RecordForm.putItems_known (rfl : form.put "framework" = some _)] at hlast
    obtain ⟨withFramework, -, hlast⟩ := Json.bind_eq_ok_iff.1 hlast
    rw [Json.RecordForm.putItems_known (rfl : form.put "files" = some _)] at hlast
    obtain ⟨given, hgiven, hrest⟩ := Json.bind_eq_ok_iff.1 hlast
    exact files_of_finish hfinish
      (Json.RecordForm.putItems_induction (motive := fun d => d.files = some (.ofList entries))
        (fun _ => files_put) hrest (files_of_put hgiven))

/-- The files of a request are the entries of the object in its text. -/
theorem files_of_parse (htree : GivesFiles entries (Json.read json.toList).1)
    (h : Request.parse json = .ok r) : r.files = ⟨.ofList entries⟩ :=
  files_of_reading htree (Json.reading_of_parse h)

/-- Of the files in a request that is read, a specifier finds the one whose path is spelled as the
specifier's normal form. The files that are built from the same entries agree on every specifier exactly
if for each file the spelling does not matter, as it does not if all paths are in normal form; and then
the preview is the same. -/
theorem parse_resolves (htree : GivesFiles entries (Json.read json.toList).1)
    (h : Request.parse json = .ok r) :
    let given : Dictionary String := .ofList entries
    let built := ofDictionary given
    (∀ specifier, r.files.resolve? specifier = (normalize? specifier).bind given.get?) ∧
      ((∀ specifier, r.files.resolve? specifier = built.resolve? specifier) ↔ SpelledOut given) ∧
      built.Normal ∧ (r.files.Normal ↔ ∀ path ∈ entries.map (·.1), normalize? path = some path) ∧
      (r.files.Normal → SpelledOut given) ∧
      (SpelledOut given → ∀ configJson, previewText json configJson = do
        let config ← (Config.ofText? configJson).mapError .preview
        (preview { r with files := built } config).mapError .preview) := by
  intro given built
  have hfiles : r.files = ⟨given⟩ := files_of_parse htree h
  have hnormal : r.files.Normal ↔ ∀ path ∈ entries.map (·.1), normalize? path = some path := by
    rw [hfiles]
    exact forall_congr' fun path => imp_congr_left Dictionary.mem_keys_ofList
  refine ⟨?_, ?_, SiblingFiles.normal_ofDictionary given, hnormal, ?_, ?_⟩
  · rw [hfiles]
    exact fun _ => rfl
  · rw [hfiles]
    exact SiblingFiles.resolve?_eq_iff given
  · rw [hfiles]
    exact SiblingFiles.spelledOut_of_normal
  · intro hspelled configJson
    have hresolve : r.files.resolve? = built.resolve? := by
      rw [hfiles]
      exact funext ((SiblingFiles.resolve?_eq_iff given).2 hspelled)
    have hpreview : preview r = preview { r with files := built } := preview_congr hresolve r
    rw [previewText, h, ← hpreview]
    rfl

/-- A component beside one file. -/
def besideFile (path : String) : Request :=
  { source := "", files := ⟨.ofList [(path, ".a\x7b\x7d")]⟩ }

theorem parse_resolves_stylesheet :
    (besideFile "card.module.css").files.resolve? "./card.module.css" = some ".a\x7b\x7d" := by
  rw [(parse_resolves (givesFiles_json _) (parse_json _)).1]
  decide

/-- A file whose path is not in normal form is not found, although a set that is built from it has
it. -/
theorem parse_misses_spelling :
    let json := (besideFile "./card.module.css").json.text
    GivesFiles [("./card.module.css", ".a\x7b\x7d")] (Json.read json.toList).1 ∧
      ∃ r, Request.parse json = .ok r ∧ r.files.resolve? "./card.module.css" = none ∧
        (ofDictionary (.ofList [("./card.module.css", ".a\x7b\x7d")])).resolve?
          "./card.module.css" = some ".a\x7b\x7d" :=
  ⟨givesFiles_json (besideFile "./card.module.css"), _, parse_json _, by decide, by decide⟩

end Request

end LivePreview
