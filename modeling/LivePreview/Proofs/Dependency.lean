import LivePreview.Proofs.Specifier
import LivePreview.Proofs.Url.Path
/-!
# LivePreview.Proofs.Dependency

**What becomes of an unknown package.** A specifier that is neither part of the framework nor a file
beside the component, and that the registry has no say in, is refused exactly if it is not accepted
(`Config.Accepts`). An accepted specifier is fetched from the public registry, unless it is a path
below a package and something stands in for it; and if no specifier may hold two dots in a row, its
path never leads out of the directory of its package.
-/

namespace LivePreview

open Text

/-! ### The path of a specifier -/

/-- May `c` stand between the slashes of a specifier? -/
def isSegmentPart (c : Char) : Bool :=
  c == '@' || isSubpathPart c

theorem isSubpathPart_of_isPackagePart {c : Char} (h : isPackagePart c = true) :
    isSubpathPart c = true := by
  have hstart : isPackageStart c = true → isAsciiAlnum c = true := by
    simp only [isPackageStart, isAsciiAlnum, isAsciiLetter, Bool.or_eq_true]
    rintro (hletter | hdigit)
    · exact .inl (.inr hletter)
    · exact .inr hdigit
  simp only [isPackagePart, isSubpathPart, Bool.or_eq_true] at h ⊢
  exact h.imp_left (Or.imp_left (Or.imp_left (Or.imp_left hstart)))

/-- No such character is encoded in a path. -/
theorem encodeChar_of_isSegmentPart {c : Char} (h : isSegmentPart c = true) :
    Url.encodeChar Url.pathSet c = [c] := by
  have hfree : Url.pathSet.all (fun d => !isSegmentPart d) = true := by decide
  have hset : c ∉ Url.pathSet := fun hc => by
    have hnot := List.all_eq_true.1 hfree c hc
    rw [h] at hnot
    exact Bool.false_ne_true hnot
  have hrange : 32 ≤ c.toNat ∧ c.toNat < 127 := by
    simp only [isSegmentPart, isSubpathPart, isAsciiAlnum, isAsciiLetter, isDigit, Bool.or_eq_true,
      Bool.and_eq_true, decide_eq_true_eq, beq_iff_eq] at h
    rcases h with rfl | (((((_ | _) | _) | rfl) | rfl) | rfl) | rfl
    all_goals first | decide | omega
  have hlow : ¬ c.toNat < 32 := by omega
  have hhigh : ¬ 127 ≤ c.toNat := by omega
  simp [Url.encodeChar, hlow, hhigh, hset]

namespace PackageForm

variable {form : PackageForm}

theorem Proper.spelled (h : form.Proper) :
    ∀ segment ∈ form.segments, ∀ c ∈ segment, isSegmentPart c = true := by
  have hword {word : List Char} (hw : isPackageWord word = true) {c : Char} (hc : c ∈ word) :
      isSegmentPart c = true := by
    have hpart : isPackagePart c = true :=
      Bool.of_not_eq_false fun hf => not_mem_of_isPackageWord hf hw hc
    rw [isSegmentPart, isSubpathPart_of_isPackagePart hpart, Bool.or_true]
  intro segment hsegment c hc
  rcases List.mem_append.1 hsegment with hsegment | hsegment
  · obtain ⟨scope, hscope, rfl⟩ := List.mem_map.1 hsegment
    rcases List.mem_cons.1 hc with rfl | hc
    · rfl
    · exact hword (h.scope scope (Option.mem_toList.1 hscope)) hc
  · rcases List.mem_cons.1 hsegment with rfl | hsegment
    · exact hword h.name hc
    · have hpart : isSubpathPart c = true :=
        Bool.of_not_eq_false fun hf => not_mem_of_isSubpathSegment hf (h.path segment hsegment) hc
      rw [isSegmentPart, hpart, Bool.or_true]

theorem Proper.not_mem_of_isSegmentPart (h : form.Proper) {c : Char} (hc : isSegmentPart c = false) :
    ∀ segment ∈ form.segments, c ∉ segment := by
  intro segment hsegment hm
  rw [h.spelled segment hsegment c hm] at hc
  exact Bool.false_ne_true hc.symm

/-- The steps of a specifier without two dots in a row are plain. -/
theorem Proper.plain (h : form.Proper) (hdots : ¬ "..".toList <:+: form.text) :
    ∀ segment ∈ form.segments, Url.Plain segment := by
  intro segment hsegment
  have hnot {c : Char} (hc : isSegmentPart c = false) : c ∉ segment :=
    h.not_mem_of_isSegmentPart hc segment hsegment
  refine ⟨h.not_mem_segments segment hsegment, hnot (by decide), fun hparent => ?_, ?_, ?_⟩
  · have hsame : segment = "..".toList := Url.eq_dots_of_dot? (hnot (by decide)) hparent
    exact hdots (hsame ▸ infix_intercalate hsegment)
  · rw [Url.percentEncode, List.flatMap_congr fun c hc =>
      encodeChar_of_isSegmentPart (h.spelled segment hsegment c hc)]
    exact List.flatMap_singleton' segment
  · unfold Url.isDriveLetter
    split
    · next c d =>
      have hcolon : d ≠ ':' := fun he => hnot (c := ':') (by decide) (by simp [he])
      have hbar : d ≠ '|' := fun he => hnot (c := '|') (by decide) (by simp [he])
      simp [hcolon, hbar]
    · rfl

/-- The steps of a package are names. -/
theorem Proper.named (h : form.Proper) :
    ∀ segment ∈ form.package.segments, segment ≠ [] ∧ Url.dot? segment ≠ some [] := by
  intro segment hsegment
  have hpercent : '%' ∉ segment :=
    h.package.not_mem_of_isSegmentPart (by decide) segment hsegment
  have hdot : isPackageWord ['.'] = false := by decide
  rcases List.mem_append.1 hsegment with hscope | hname
  · obtain ⟨scope, -, rfl⟩ := List.mem_map.1 hscope
    refine ⟨List.cons_ne_nil _ _, fun he => ?_⟩
    exact absurd (List.cons.inj (Url.eq_cons_of_dot? hpercent he)).1 (by decide)
  · obtain rfl : segment = form.name := List.mem_singleton.1 hname
    refine ⟨fun he => ?_, fun he => ?_⟩
    · have hword := h.name
      rw [he] at hword
      exact Bool.false_ne_true hword
    · have hword := h.name
      rw [Url.eq_cons_of_dot? hpercent he, hdot] at hword
      exact Bool.false_ne_true hword

/-- **A specifier without two dots in a row stays in the directory of its package**, however many of
its steps behind the package are taken. -/
theorem Proper.inside (h : form.Proper) (hdots : ¬ "..".toList <:+: form.text)
    {taken : List (List Char)} (hhome : form.package.segments <+: taken)
    (htaken : taken <+: form.segments) (scheme : List Char) :
    Url.Inside (Url.pathText form.package.segments) (Url.parsePath scheme (Url.pathText taken)) := by
  obtain ⟨below, rfl⟩ := hhome
  have hne : form.package.segments ≠ [] := by simp [segments, PackageForm.package]
  exact Url.inside_parsePath hne h.named (fun step hs => h.plain hdots step (htaken.subset hs)) scheme

end PackageForm

/-! ### The verdict -/

/-- Is this a path below a package without scope? -/
def IsBelow (specifier : String) : Prop :=
  ¬ "@".toList <+: specifier.toList ∧ '/' ∈ specifier.toList

instance (specifier : String) : Decidable (IsBelow specifier) :=
  inferInstanceAs (Decidable (_ ∧ _))

/-- A package without scope is named by the first step. -/
theorem packageName_of_unscoped {specifier : String} (h : ¬ "@".toList <+: specifier.toList) :
    packageName specifier = String.ofList (specifier.toList.takeWhile (· != '/')) := by
  obtain ⟨others, hsplit⟩ := exists_splitAtChar_eq_cons '/' specifier.toList
  have hfirst (scope : List Char) : specifier.toList.takeWhile (· != '/') ≠ '@' :: scope := by
    intro he
    have hat : '@' :: scope <+: specifier.toList := he ▸ List.takeWhile_prefix _
    exact h (List.IsPrefix.trans ⟨scope, rfl⟩ hat)
  rw [packageName, hsplit]
  split
  · next scope name rest he => exact absurd (List.cons.inj he).1 (hfirst scope)
  · next first rest _ he => rw [(List.cons.inj he).1]
  · next he => cases he

namespace Config

/-- Is the specifier neither part of the framework nor a file beside the component, and has the
registry no say in what becomes of it? -/
structure Unlisted (config : Config) (specifier : String) : Prop where
  notCore : config.isCore specifier = false
  notBeside : ¬ "./".toList <+: specifier.toList ∧ ¬ "../".toList <+: specifier.toList
  unknown : IsBelow specifier ∨ config.registry.get? specifier = none

/-- What provides an accepted path below a package without scope. -/
def belowPackage (config : Config) (specifier : String) : Resolution :=
  if packageName specifier ∈ animationFamilies then .animationFamily (packageName specifier)
  else
    match Helper.ofSpecifier? specifier with
    | some helper => .helperShim helper
    | none => .fetch (config.publicUrl specifier) []

variable {config : Config} {specifier : String}

theorem exists_refusal?_eq_some (h : ¬ config.Accepts specifier) :
    ∃ reason, config.refusal? specifier = some reason :=
  Option.ne_none_iff_exists'.1 fun hnone => h (refusal?_eq_none_iff.1 hnone)

theorem resolveSubpath_of_accepts (hscope : ¬ "@".toList <+: specifier.toList)
    (h : config.Accepts specifier) :
    config.resolveSubpath specifier = (.registryKnown, config.belowPackage specifier) := by
  have hpermitted : config.isDenylisted (packageName specifier) = false := by
    rw [isDenylisted, ← Bool.not_eq_true, List.contains_iff_mem]
    exact h.permitted
  simp only [resolveSubpath, ← packageName_of_unscoped hscope, hpermitted, belowPackage,
    refusal?_eq_none_iff.2 h, List.contains_iff_mem, Bool.false_eq_true, if_false]
  split_ifs with hfamily
  · rfl
  · cases Helper.ofSpecifier? specifier <;> rfl

theorem resolveSubpath_of_not_accepts (h : ¬ config.Accepts specifier) :
    ∃ reason, config.resolveSubpath specifier = refuse reason := by
  obtain ⟨reason, hreason⟩ := exists_refusal?_eq_some h
  simp only [resolveSubpath, hreason]
  split
  · exact ⟨_, rfl⟩
  · exact ⟨reason, rfl⟩

/-- An unlisted specifier is judged by what it is: a path below a package, or else a package. -/
theorem decide_of_unlisted (h : config.Unlisted specifier) :
    (IsBelow specifier → config.decide specifier = config.resolveSubpath specifier) ∧
    (¬ IsBelow specifier → config.decide specifier =
      match config.refusal? specifier with
      | none => (.autoDetected, .fetch (config.publicUrl specifier) [])
      | some reason => refuse reason) := by
  have hbeside : (startsWith "./".toList specifier.toList ||
      startsWith "../".toList specifier.toList) = false := by
    rw [← Bool.not_eq_true, Bool.or_eq_true, startsWith_iff, startsWith_iff, not_or]
    exact h.notBeside
  have hbelow : (!startsWith "@".toList specifier.toList && specifier.toList.contains '/') = true ↔
      IsBelow specifier := by
    simp only [IsBelow, Bool.and_eq_true, Bool.not_eq_true', ← Bool.not_eq_true, startsWith_iff,
      List.contains_iff_mem]
  refine ⟨fun hb => ?_, fun hb => ?_⟩
  · simp only [Config.decide, h.notCore, hbeside, hbelow.2 hb, Bool.false_eq_true, if_false, if_true]
  · have hunknown : config.registry.get? specifier = none := h.unknown.resolve_left hb
    unfold Config.decide
    dsimp only
    rw [h.notCore, hbeside, if_neg Bool.false_ne_true, if_neg Bool.false_ne_true,
      if_neg (mt hbelow.1 hb)]
    cases config.refusal? specifier with
    | none => rw [hunknown]
    | some reason => rw [hunknown]

theorem classify_of_not_accepts (h : config.Unlisted specifier) (hnot : ¬ config.Accepts specifier) :
    (config.classify specifier).verdict = .refused := by
  obtain ⟨hbelow, hwhole⟩ := decide_of_unlisted h
  show (config.decide specifier).1 = .refused
  by_cases hb : IsBelow specifier
  · obtain ⟨reason, hreason⟩ := resolveSubpath_of_not_accepts hnot
    rw [hbelow hb, hreason]
    rfl
  · obtain ⟨reason, hreason⟩ := exists_refusal?_eq_some hnot
    rw [hwhole hb, hreason]
    rfl

theorem classify_of_isBelow (h : config.Unlisted specifier) (haccepts : config.Accepts specifier)
    (hb : IsBelow specifier) : config.classify specifier =
      ⟨specifier, .registryKnown, config.belowPackage specifier⟩ := by
  rw [classify, (decide_of_unlisted h).1 hb, resolveSubpath_of_accepts hb.1 haccepts]

theorem classify_of_not_isBelow (h : config.Unlisted specifier) (haccepts : config.Accepts specifier)
    (hb : ¬ IsBelow specifier) : config.classify specifier =
      ⟨specifier, .autoDetected, .fetch (config.publicUrl specifier) []⟩ := by
  rw [classify, (decide_of_unlisted h).2 hb, refusal?_eq_none_iff.2 haccepts]

/-- The steps of a specifier begin with those of its package. -/
theorem Accepts.prefix_steps (h : config.Accepts specifier) :
    splitAtChar '/' (packageName specifier).toList <+: splitAtChar '/' specifier.toList := by
  obtain ⟨form, hform, htext⟩ := h.wellFormed
  rw [hform.toList_packageName htext, hform.package.splitAtChar_text, ← htext,
    hform.splitAtChar_text, form.segments_eq_append]
  exact List.prefix_append _ _

/-- An accepted specifier without two dots in a row stays in the directory of its package. -/
theorem Accepts.inside (h : config.Accepts specifier) (hdots : ".." ∈ config.dangerousPatterns)
    {taken : List (List Char)} (hhome : splitAtChar '/' (packageName specifier).toList <+: taken)
    (htaken : taken <+: splitAtChar '/' specifier.toList) (scheme : List Char) :
    Url.Inside ('/' :: (packageName specifier).toList)
      (Url.parsePath scheme (Url.pathText taken)) := by
  obtain ⟨form, hform, htext⟩ := h.wellFormed
  have hclean : ¬ "..".toList <:+: form.text := htext ▸ h.harmless ".." hdots
  rw [hform.toList_packageName htext] at hhome ⊢
  rw [hform.package.splitAtChar_text] at hhome
  rw [← htext, hform.splitAtChar_text] at htaken
  exact hform.inside hclean hhome htaken scheme

/-- **The check is all that stands between an unknown specifier and the registry.** It is refused
exactly if it is not accepted. If it is accepted, it is fetched on trust, or as part of a package if it
is a path below one, unless something stands in for it. Where no specifier may hold two dots in a row,
the address it is fetched from does not leave the directory of its package, not even on the way. -/
theorem classify_accepts (h : config.Unlisted specifier) :
    ((config.classify specifier).verdict ≠ .refused ↔ config.Accepts specifier) ∧
    (config.Accepts specifier →
      (¬ IsBelow specifier → config.classify specifier =
        ⟨specifier, .autoDetected, .fetch (config.publicUrl specifier) []⟩) ∧
      (IsBelow specifier → config.classify specifier =
        ⟨specifier, .registryKnown, config.belowPackage specifier⟩) ∧
      (".." ∈ config.dangerousPatterns → ∀ scheme,
        Url.Inside ('/' :: (packageName specifier).toList)
          (Url.parsePath scheme ('/' :: specifier.toList)) ∧
        ∀ taken, splitAtChar '/' (packageName specifier).toList <+: taken →
          taken <+: splitAtChar '/' specifier.toList →
          Url.Inside ('/' :: (packageName specifier).toList)
            (Url.parsePath scheme (Url.pathText taken)))) := by
  refine ⟨⟨fun hverdict => ?_, fun haccepts => ?_⟩, fun haccepts => ⟨classify_of_not_isBelow h haccepts,
    classify_of_isBelow h haccepts, fun hdots scheme => ⟨?_, fun taken hhome htaken =>
      haccepts.inside hdots hhome htaken scheme⟩⟩⟩
  · by_contra hnot
    exact hverdict (classify_of_not_accepts h hnot)
  · by_cases hb : IsBelow specifier
    · rw [classify_of_isBelow h haccepts hb]
      exact nofun
    · rw [classify_of_not_isBelow h haccepts hb]
      exact nofun
  · -- All steps are taken.
    have hall : Url.pathText (splitAtChar '/' specifier.toList) = '/' :: specifier.toList := by
      rw [Url.pathText, (splitAtChar_eq_iff.1 rfl).2.1]
    rw [← hall]
    exact haccepts.inside hdots (haccepts.prefix_steps) List.prefix_rfl scheme

/-- A path below a package without scope, and a step of it that names its own directory. -/
theorem classify_accepts_below :
    ({} : Config).Unlisted "date-fns/./format" ∧
      ({} : Config).classify "date-fns/./format" = ⟨"date-fns/./format", .registryKnown,
        .fetch "https://esm.sh/date-fns/./format?deps=react@18.3.1,react-dom@18.3.1" []⟩ ∧
      Url.Inside "/date-fns".toList (Url.parsePath "https".toList "/date-fns/./format".toList) := by
  have hbelow : IsBelow "date-fns/./format" := by decide
  have hunlisted : ({} : Config).Unlisted "date-fns/./format" := ⟨by decide, by decide, .inl hbelow⟩
  have haccepts : ({} : Config).Accepts "date-fns/./format" := by decide
  obtain ⟨-, hsubpath, hinside⟩ := (classify_accepts hunlisted).2 haccepts
  exact ⟨hunlisted, hsubpath hbelow, (hinside (by decide) "https".toList).1⟩

end Config

end LivePreview
