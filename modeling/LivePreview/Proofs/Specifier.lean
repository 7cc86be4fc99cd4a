import LivePreview.Dependency
import LivePreview.Proofs.Text.Occurrence
import LivePreview.Proofs.Text.Words
/-!
# LivePreview.Proofs.Specifier

**Which specifiers pass the check.** A specifier of a package has a form (`PackageForm`): a scope or
none, a name, and the steps of a path. The check for packages that the registry does not know passes
exactly what the configuration accepts (`Config.Accepts`), and that is said without going through the
text.
-/

namespace LivePreview

open Text

/-! ### Spelling -/

theorem not_mem_of_isPackageWord {word : List Char} {c : Char} (hc : isPackagePart c = false)
    (h : isPackageWord word = true) : c ∉ word := by
  cases word with
  | nil => exact List.not_mem_nil
  | cons d rest =>
    rw [isPackageWord, Bool.and_eq_true, List.all_eq_true] at h
    intro hm
    have hpart : isPackagePart c = true := by
      rcases List.mem_cons.1 hm with rfl | hm
      · simp [isPackagePart, h.1]
      · exact h.2 c hm
    rw [hc] at hpart
    exact Bool.false_ne_true hpart

theorem not_mem_of_isSubpathSegment {segment : List Char} {c : Char} (hc : isSubpathPart c = false)
    (h : isSubpathSegment segment = true) : c ∉ segment := by
  intro hm
  rw [isSubpathSegment, Bool.and_eq_true, List.all_eq_true] at h
  have hpart := h.2 c hm
  rw [hc] at hpart
  exact Bool.false_ne_true hpart

/-- A name or a scope does not begin like a scope. -/
theorem exists_cons_of_isPackageWord {word : List Char} (h : isPackageWord word = true) :
    ∃ c rest, word = c :: rest ∧ c ≠ '@' := by
  have hat : '@' ∉ word := not_mem_of_isPackageWord (by decide) h
  cases word with
  | nil => exact absurd h Bool.false_ne_true
  | cons c rest => exact ⟨c, rest, rfl, fun he => hat (he ▸ List.mem_cons_self)⟩

/-! ### The form of a specifier -/

/-- A specifier of a package, taken apart. -/
structure PackageForm where
  scope : Option (List Char)
  name : List Char
  /-- The steps of the path below the package. -/
  path : List (List Char)

namespace PackageForm

variable {form : PackageForm}

/-- What stands between the slashes. -/
def segments (form : PackageForm) : List (List Char) :=
  form.scope.toList.map ('@' :: ·) ++ form.name :: form.path

/-- The specifier that has this form. -/
def text (form : PackageForm) : List Char :=
  ['/'].intercalate form.segments

/-- Is everything spelled with the characters that may stand there? -/
structure Proper (form : PackageForm) : Prop where
  scope : ∀ scope ∈ form.scope, isPackageWord scope = true
  name : isPackageWord form.name = true
  path : ∀ step ∈ form.path, isSubpathSegment step = true

/-- The slashes of a specifier are those between its segments. -/
theorem Proper.not_mem_segments (h : form.Proper) : ∀ segment ∈ form.segments, '/' ∉ segment := by
  have hslash : isPackagePart '/' = false := by decide
  intro segment hsegment
  rcases List.mem_append.1 hsegment with hsegment | hsegment
  · obtain ⟨scope, hscope, rfl⟩ := List.mem_map.1 hsegment
    have hword := h.scope scope (Option.mem_toList.1 hscope)
    exact List.not_mem_cons_of_ne_of_not_mem (by decide) (not_mem_of_isPackageWord hslash hword)
  · rcases List.mem_cons.1 hsegment with rfl | hsegment
    · exact not_mem_of_isPackageWord hslash h.name
    · exact not_mem_of_isSubpathSegment (by decide) (h.path segment hsegment)

/-- A specifier is split into its segments. -/
theorem Proper.splitAtChar_text (h : form.Proper) : splitAtChar '/' form.text = form.segments := by
  refine splitAtChar_eq_iff.2 ⟨?_, rfl, h.not_mem_segments⟩
  simp [segments]

/-- The package that a specifier belongs to. -/
def package (form : PackageForm) : PackageForm :=
  { form with path := [] }

theorem segments_eq_append (form : PackageForm) :
    form.segments = form.package.segments ++ form.path := by
  simp [segments, package]

theorem Proper.package (h : form.Proper) : form.package.Proper :=
  ⟨h.scope, h.name, fun _ hstep => absurd hstep List.not_mem_nil⟩

/-- The package is found at the front of a specifier. -/
theorem Proper.toList_packageName (h : form.Proper) {specifier : String}
    (htext : form.text = specifier.toList) : (packageName specifier).toList = form.package.text := by
  rw [packageName, ← htext, h.splitAtChar_text]
  obtain ⟨scope, name, path⟩ := form
  cases scope with
  | some scope => simp [segments, text, PackageForm.package]
  | none =>
    obtain ⟨c, rest, rfl, hc⟩ := exists_cons_of_isPackageWord h.name
    simp [segments, text, PackageForm.package, hc]

end PackageForm

/-- The paths of packages are the texts with a proper form. -/
theorem isPackagePath_iff {text : List Char} :
    isPackagePath text = true ↔ ∃ form : PackageForm, form.Proper ∧ form.text = text := by
  constructor
  · intro h
    unfold isPackagePath at h
    split at h
    · exact absurd h Bool.false_ne_true
    · next scope rest hsplit =>
      split at h
      · exact absurd h Bool.false_ne_true
      · next name path =>
        simp only [Bool.and_eq_true, List.all_eq_true] at h
        refine ⟨⟨some scope, name, path⟩, ⟨?_, h.1.2, h.2⟩, (splitAtChar_eq_iff.1 hsplit).2.1⟩
        intro other hother
        rw [← Option.some.inj hother]
        exact h.1.1
    · next name path _ hsplit =>
      rw [Bool.and_eq_true, List.all_eq_true] at h
      exact ⟨⟨none, name, path⟩, ⟨nofun, h.1, h.2⟩, (splitAtChar_eq_iff.1 hsplit).2.1⟩
  · rintro ⟨form, h, rfl⟩
    rw [isPackagePath, h.splitAtChar_text]
    obtain ⟨scope, name, path⟩ := form
    have hname : isPackageWord name = true := h.name
    have hpath : path.all isSubpathSegment = true := List.all_eq_true.2 h.path
    cases scope with
    | some scope =>
      have hscope : isPackageWord scope = true := h.scope scope rfl
      simp [PackageForm.segments, hscope, hname, hpath]
    | none =>
      obtain ⟨c, rest, rfl, hc⟩ := exists_cons_of_isPackageWord hname
      simp [PackageForm.segments, hc, hname, hpath]

/-! ### The check -/

/-- May a package be fetched under this specifier though the registry does not know it? -/
structure Config.Accepts (config : Config) (specifier : String) : Prop where
  nonempty : specifier ≠ ""
  short : byteSize specifier.toList ≤ maxSpecifierBytes
  harmless : ∀ p ∈ config.dangerousPatterns, ¬ p.toList <:+: specifier.toList
  wellFormed : ∃ form : PackageForm, form.Proper ∧ form.text = specifier.toList
  permitted : packageName specifier ∉ config.denylist

namespace Config

variable {config : Config} {specifier : String}

/-- **The check passes what is accepted**, and nothing else. -/
theorem refusal?_eq_none_iff : config.refusal? specifier = none ↔ config.Accepts specifier := by
  have hpatterns : (config.dangerousPatterns.any fun p => contains p.toList specifier.toList) = false ↔
      ∀ p ∈ config.dangerousPatterns, ¬ p.toList <:+: specifier.toList := by
    simp only [List.any_eq_false, contains_iff]
  have hdenied : config.isDenylisted (packageName specifier) = false ↔
      packageName specifier ∉ config.denylist := by
    rw [isDenylisted, ← Bool.not_eq_true, List.contains_iff_mem]
  have hempty : specifier.toList.isEmpty = false ↔ specifier ≠ "" := by
    simp [List.isEmpty_eq_false_iff]
  constructor
  · intro h
    simp only [refusal?] at h
    split_ifs at h with hsize hpattern hform hpackage
    simp only [Bool.or_eq_true, decide_eq_true_eq, not_or, Bool.not_eq_true, not_lt] at hsize
    simp only [Bool.not_eq_true] at hpattern hform hpackage
    exact ⟨hempty.1 hsize.1, hsize.2, hpatterns.1 hpattern,
      isPackagePath_iff.1 (by simpa using hform), hdenied.1 hpackage⟩
  · intro h
    have hform : isPackagePath specifier.toList = true := isPackagePath_iff.2 h.wellFormed
    have hshort : ¬ byteSize specifier.toList > maxSpecifierBytes := Nat.not_lt.2 h.short
    simp [refusal?, hempty.2 h.nonempty, hshort, hpatterns.2 h.harmless, hform,
      hdenied.2 h.permitted]

instance (config : Config) (specifier : String) : Decidable (config.Accepts specifier) :=
  decidable_of_iff _ refusal?_eq_none_iff

end Config

end LivePreview
