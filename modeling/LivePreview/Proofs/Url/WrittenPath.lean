import LivePreview.Proofs.Url.Path
import LivePreview.Proofs.Url.Percent
/-!
# LivePreview.Proofs.Url.WrittenPath

**A path is read as it was written.** Reading resolves the dot segments of a path and encodes its steps.
In the steps that it leaves (`WrittenSteps`) there is nothing more to resolve, and nothing more to encode:
a percent sign and digits that stand for a dot are not made by encoding. So the text of a path is read
as that path (`parsePath_of_written`), except that a bar becomes a colon in the first step of a file.
-/

namespace LivePreview.Url

open Text

variable {set : EncodeSet} {special isFile : Bool} {step segment rest : List Char}
  {steps back : List (List Char)} {scheme path : List Char}

/-! ### Written steps -/

/-- Is the step as it is written: is it no dot segment, and is nothing in it encoded? With a special
scheme, a backslash stands for a slash. -/
structure WrittenStep (special : Bool) (step : List Char) : Prop where
  noSlash : '/' ∉ step
  noBackslash : special = true → '\\' ∉ step
  encoded : IsEncoded pathSet step
  noDot : dot? step ≠ some []
  noParent : (dot? step).bind dot? ≠ some []

theorem writtenStep_nil (special : Bool) : WrittenStep special [] where
  noSlash := List.not_mem_nil
  noBackslash := fun _ => List.not_mem_nil
  encoded := fun _ hc => absurd hc List.not_mem_nil
  noDot := nofun
  noParent := nofun

/-- A character other than a percent sign in an encoded text was there before. -/
theorem eq_cons_of_percentEncode_eq {c : Char} {text : List Char} (hc : c ≠ '%')
    (h : percentEncode set text = c :: rest) :
    ∃ behind, text = c :: behind ∧ percentEncode set behind = rest := by
  cases text with
  | nil => cases h
  | cons d behind =>
    rw [percentEncode, List.flatMap_cons] at h
    rcases encodeChar_eq_or set d with ⟨hkept, -⟩ | hbytes
    · rw [hkept] at h
      obtain ⟨rfl, hrest⟩ := List.cons.inj h
      exact ⟨behind, rfl, hrest⟩
    · obtain ⟨b, bytes, hd⟩ := List.exists_cons_of_ne_nil (encodeChar_ne_nil d)
      rw [hbytes, hd, List.flatMap_cons, percentByte] at h
      exact absurd (List.cons.inj h).1.symm hc

/-- Only a dot has the byte of a dot in front. -/
theorem eq_dot_of_encodeChar_eq {c : Char} {bytes : List Nat} (h : Text.encodeChar c = 0x2E :: bytes) :
    c = '.' := by
  have hread := firstCode?_encodeChar c []
  have hfirst : firstCode? (0x2E :: bytes) = some (0x2E, bytes) := by simp [firstCode?]
  rw [List.append_nil, h, hfirst] at hread
  exact Char.toNat_inj.1 (Prod.mk.inj (Option.some.inj hread)).1.symm

/-- No byte but that of a dot is spelled like an encoded dot. -/
theorem eq_of_dot?_percentByte {b : Nat} (hb : b < 256)
    (h : dot? (percentByte b ++ segment) = some rest) : b = 0x2E := by
  have htwo : ∀ n < 16, upperHex n = '2' → n = 2 := by decide
  have hfourteen : ∀ n < 16, upperHex n ≠ 'e' ∧ (upperHex n = 'E' → n = 14) := by decide
  have hlow := hfourteen (b % 16) (by omega)
  unfold dot? at h
  split at h
  · next he =>
    injection he with he
    exact absurd he (by decide)
  · next he =>
    simp only [percentByte, List.cons_append, List.cons.injEq] at he
    exact absurd he.2.2.1 hlow.1
  · next he =>
    simp only [percentByte, List.cons_append, List.cons.injEq] at he
    have hhigh := htwo (b / 16) (by omega) he.2.1
    have hlow := hlow.2 he.2.2.1
    omega
  · cases h

/-- An encoded text begins with a dot only if the text does. -/
theorem dot?_of_percentEncode (hdot : '.' ∉ set) (h : dot? (percentEncode set segment) = some rest) :
    ∃ behind, dot? segment = some behind ∧ percentEncode set behind = rest := by
  cases segment with
  | nil => cases h
  | cons c segment =>
    rw [percentEncode, List.flatMap_cons] at h
    rcases encodeChar_eq_or set c with ⟨hkept, -⟩ | hbytes
    · -- The characters of an encoded dot stood in the text.
      have hencoded : ∀ e, e = 'e' ∨ e = 'E' → percentEncode set segment = '2' :: e :: rest →
          ∃ behind, dot? ('%' :: segment) = some behind ∧ percentEncode set behind = rest := by
        intro e he hrest
        have hne : e ≠ '%' := by rcases he with rfl | rfl <;> decide
        obtain ⟨second, rfl, hsecond⟩ := eq_cons_of_percentEncode_eq (by decide) hrest
        obtain ⟨behind, rfl, hbehind⟩ := eq_cons_of_percentEncode_eq hne hsecond
        exact ⟨behind, by rcases he with rfl | rfl <;> rfl, hbehind⟩
      rw [hkept, List.singleton_append] at h
      unfold dot? at h
      split at h
      · next he =>
        injection he with hc hrest
        cases h
        exact ⟨segment, by rw [hc]; rfl, hrest⟩
      · next he =>
        injection he with hc hrest
        cases h
        rw [hc]
        exact hencoded 'e' (.inl rfl) hrest
      · next he =>
        injection he with hc hrest
        cases h
        rw [hc]
        exact hencoded 'E' (.inr rfl) hrest
      · cases h
    · -- The first byte would be that of a dot, and a dot is kept.
      obtain ⟨b, bytes, hc⟩ := List.exists_cons_of_ne_nil (encodeChar_ne_nil c)
      have hb : b ∈ encode [c] := by simp [encode, hc]
      rw [hbytes, hc, List.flatMap_cons, List.append_assoc] at h
      rw [eq_of_dot?_percentByte (lt_of_mem_encode hb) h] at hc
      obtain rfl := eq_dot_of_encodeChar_eq hc
      rw [encodeChar_of_visible (by decide) hdot, hc] at hbytes
      exact absurd (List.cons.inj hbytes).1 (by decide)

/-- A segment that is no dot segment is written as a step. -/
theorem writtenStep_percentEncode (hslash : '/' ∉ segment)
    (hbackslash : special = true → '\\' ∉ segment) (hdot : dot? segment ≠ some [])
    (hparent : (dot? segment).bind dot? ≠ some []) :
    WrittenStep special (percentEncode pathSet segment) := by
  have hkeeps : '.' ∉ pathSet := by decide
  have hnot : ∀ {mark : Char}, mark ∉ percentChars → mark ∉ segment →
      mark ∉ percentEncode pathSet segment := by
    intro mark hchars hm h
    exact (mem_percentEncode h).elim hchars fun hkept => hm hkept.1
  refine ⟨hnot (by decide) hslash, fun hs => hnot (by decide) (hbackslash hs),
    isEncoded_percentEncode (by decide) (by decide) segment, fun h => hdot ?_, fun h => hparent ?_⟩
  · obtain ⟨behind, hbehind, hnil⟩ := dot?_of_percentEncode hkeeps h
    rw [hbehind, percentEncode_eq_nil hnil]
  · obtain ⟨rest, hfirst, hsecond⟩ := Option.bind_eq_some_iff.1 h
    obtain ⟨behind, hbehind, rfl⟩ := dot?_of_percentEncode hkeeps hfirst
    obtain ⟨last, hlast, hnil⟩ := dot?_of_percentEncode hkeeps hsecond
    rw [hbehind, Option.bind_some, hlast, percentEncode_eq_nil hnil]

/-- A drive letter is written with a colon. -/
theorem writtenStep_drive (h : isDriveLetter step = true) :
    WrittenStep special (step.take 1 ++ [':']) := by
  unfold isDriveLetter at h
  split at h
  · next c d =>
    rw [Bool.and_eq_true] at h
    have hnone : dot? [c, ':'] = none := by
      unfold dot?
      split
      · next he =>
        injection he with he
        exact absurd he (ne_of_class h.1 (by decide))
      · next he => simp at he
      · next he => simp at he
      · rfl
    have hletter : ∀ e ∈ [c, ':'], (isAsciiLetter e || e == ':') = true := by simp [h.1]
    refine ⟨not_mem_of_forall_class hletter (by decide),
      fun _ => not_mem_of_forall_class hletter (by decide), fun e he => ⟨?_, ?_⟩, ?_, ?_⟩
    · have he := hletter e he
      rw [Bool.or_eq_true, beq_iff_eq] at he
      rcases he with he | rfl
      · exact isVisible_of_isAsciiAlnum (by rw [isAsciiAlnum, he, Bool.true_or])
      · decide
    · exact not_mem_of_class (p := fun e => isAsciiLetter e || e == ':') (hletter e he) (by decide)
    · show dot? [c, ':'] ≠ some []
      rw [hnone]
      exact (Option.some_ne_none []).symm
    · show (dot? [c, ':']).bind dot? ≠ some []
      rw [hnone]
      exact (Option.some_ne_none []).symm
  · cases h

/-! ### Resolving -/

/-- What is resolved are written steps. -/
theorem writtenStep_of_mem_resolvePath {steps : List (List Char)}
    (hslash : ∀ s ∈ steps, '/' ∉ s) (hbackslash : special = true → ∀ s ∈ steps, '\\' ∉ s)
    (hback : ∀ s ∈ back, WrittenStep special s) :
    ∀ s ∈ resolvePath isFile back steps, WrittenStep special s := by
  induction steps generalizing back with
  | nil => exact fun s hs => hback s (List.mem_reverse.1 hs)
  | cons segment rest ih =>
    replace ih := fun {back} => @ih back (fun s hs => hslash s (List.mem_cons_of_mem _ hs))
      (fun hsp s hs => hbackslash hsp s (List.mem_cons_of_mem _ hs))
    -- A path that ends in a dot segment ends in an empty step.
    have hends : ∀ {back}, (∀ s ∈ back, WrittenStep special s) →
        ∀ s ∈ (if rest.isEmpty then [] :: back else back), WrittenStep special s := by
      intro back hback s hs
      split at hs
      · rcases List.mem_cons.1 hs with rfl | hs
        · exact writtenStep_nil special
        · exact hback s hs
      · exact hback s hs
    unfold resolvePath
    dsimp only
    split
    · refine ih (hends ?_)
      split
      · split
        · exact hback
        · exact fun s hs => hback s (List.mem_cons_of_mem _ hs)
      · exact fun s hs => absurd hs List.not_mem_nil
    · next hparent =>
      split
      · exact ih (hends hback)
      · next hdot =>
        have hstep : WrittenStep special (percentEncode pathSet segment) :=
          writtenStep_percentEncode (hslash _ List.mem_cons_self)
            (fun hsp => hbackslash hsp _ List.mem_cons_self) (by simpa using hdot) (by simpa using hparent)
        refine ih fun s hs => ?_
        rcases List.mem_cons.1 hs with rfl | hs
        · split
          · next hdrive =>
            simp only [Bool.and_eq_true] at hdrive
            exact writtenStep_drive hdrive.2
          · exact hstep
        · exact hback s hs

/-- Something is left of every path. -/
theorem resolvePath_ne_nil (hne : steps ≠ []) : resolvePath isFile back steps ≠ [] := by
  induction steps generalizing back with
  | nil => exact absurd rfl hne
  | cons segment rest ih =>
    cases rest with
    | nil =>
      unfold resolvePath
      simp only [List.isEmpty_nil, if_true]
      split_ifs <;> simp [resolvePath]
    | cons next rest =>
      unfold resolvePath
      dsimp only
      split_ifs <;> exact ih (List.cons_ne_nil next rest)

/-- Written steps are resolved as they are, unless the first one of a file is a drive letter. -/
theorem resolvePath_of_written (h : ∀ s ∈ steps, WrittenStep special s)
    (hdrive : isFile = true → back = [] → ∀ s ∈ steps.head?, isDriveLetter s = false) :
    resolvePath isFile back steps = back.reverse ++ steps := by
  induction steps generalizing back with
  | nil => rw [resolvePath, List.append_nil]
  | cons step rest ih =>
    have hstep := h step List.mem_cons_self
    have hparent : ((dot? step).bind dot? == some []) = false := beq_eq_false_iff_ne.2 hstep.noParent
    have hdot : (dot? step == some []) = false := beq_eq_false_iff_ne.2 hstep.noDot
    have hkept : (isFile && back.isEmpty && isDriveLetter step) = false := by
      cases isFile with
      | false => rfl
      | true =>
        cases back with
        | cons s back => rfl
        | nil => exact hdrive rfl rfl step rfl
    unfold resolvePath
    simp only [hparent, hdot, percentEncode_of_isEncoded hstep.encoded, hkept, Bool.false_eq_true, if_false]
    rw [ih (fun s hs => h s (List.mem_cons_of_mem step hs)) fun _ he => absurd he (List.cons_ne_nil _ _)]
    simp

/-! ### Written paths -/

/-- Are these the steps of a path as it is written with the scheme? In the path of a file, nothing
follows an empty first step. -/
structure WrittenSteps (scheme : List Char) (steps : List (List Char)) : Prop where
  ne_nil : steps ≠ []
  written : ∀ s ∈ steps, WrittenStep (isSpecial scheme) s
  first : scheme = "file".toList → ∀ s ∈ steps.head?, s.isEmpty = true → steps.length ≤ 1

theorem not_mem_map_slash (text : List Char) : '\\' ∉ text.map fun c => if c = '\\' then '/' else c := by
  intro h
  obtain ⟨c, -, hc⟩ := List.mem_map.1 h
  split at hc
  · exact absurd hc (by decide)
  · next hne => exact hne hc

/-- The text behind a slash in front. -/
def belowRoot (text : List Char) : List Char :=
  match text with
  | '/' :: rest => rest
  | _ => text

theorem belowRoot_subset (text : List Char) : belowRoot text ⊆ text := by
  unfold belowRoot
  split
  · exact List.subset_cons_self _ _
  · exact List.Subset.refl _

/-- A path is resolved from the text behind its first slash. With a special scheme, backslashes are
slashes there. -/
theorem exists_readSteps_eq (scheme text : List Char) : ∃ below,
    (isSpecial scheme = true → '\\' ∉ below) ∧
      readSteps scheme text = resolvePath (scheme == "file".toList) [] (splitAtChar '/' below) := by
  refine ⟨belowRoot (if isSpecial scheme then text.map fun c => if c = '\\' then '/' else c else text),
    fun hspecial hm => ?_, rfl⟩
  rw [if_pos hspecial] at hm
  exact not_mem_map_slash text (belowRoot_subset _ hm)

/-- A path is written in such steps. -/
theorem exists_writtenSteps_parsePath (scheme text : List Char) :
    ∃ steps, parsePath scheme text = pathText steps ∧ WrittenSteps scheme steps := by
  obtain ⟨below, hbackslash, heq⟩ := exists_readSteps_eq scheme text
  unfold parsePath
  rw [heq]
  have hsegments : splitAtChar '/' below ≠ [] := (splitAtChar_eq_iff.1 rfl).1
  generalize hsteps : resolvePath (scheme == "file".toList) [] (splitAtChar '/' below) = steps
  dsimp only
  have hne : steps ≠ [] := hsteps ▸ resolvePath_ne_nil hsegments
  have hwritten : ∀ s ∈ steps, WrittenStep (isSpecial scheme) s := by
    rw [← hsteps]
    exact writtenStep_of_mem_resolvePath (fun s => not_mem_of_mem_splitAtChar)
      (fun hspecial s hs hm => hbackslash hspecial ((infix_of_mem_splitAtChar hs).subset hm))
      fun s hs => absurd hs List.not_mem_nil
  split
  · by_cases hlong : 1 < steps.length
    · -- The empty steps in front are dropped; if there are no others, the path is a slash.
      cases hkept : steps.dropWhile (fun s => s.isEmpty && decide (1 < steps.length)) with
      | nil =>
        refine ⟨[[]], by simp [pathText], List.cons_ne_nil _ _, fun s hs => ?_, fun _ _ _ _ => Nat.le_refl 1⟩
        rw [List.mem_singleton.1 hs]
        exact writtenStep_nil _
      | cons first rest =>
        have hsub : first :: rest ⊆ steps := hkept ▸ List.dropWhile_subset _
        refine ⟨first :: rest, rfl, List.cons_ne_nil _ _, fun s hs => hwritten s (hsub hs), ?_⟩
        intro _ s hs hempty
        have hnot := List.head?_dropWhile_not (fun s => s.isEmpty && decide (1 < steps.length)) steps
        rw [hkept] at hnot
        obtain rfl := Option.some.inj hs
        simp [hempty, hlong] at hnot
    · refine ⟨steps, congrArg pathText ?_, hne, hwritten, fun _ _ _ _ => Nat.le_of_not_lt hlong⟩
      exact List.dropWhile_eq_self_iff.2 fun _ => by simp [hlong]
  · next hfile =>
    exact ⟨steps, rfl, hne, hwritten, fun he => absurd (beq_iff_eq.2 he) hfile⟩

/-- The steps of a written path are found in it again. -/
theorem WrittenSteps.splitAtChar_eq (h : WrittenSteps scheme steps) :
    splitAtChar '/' (['/'].intercalate steps) = steps :=
  splitAtChar_eq_iff.2 ⟨h.ne_nil, rfl, fun s hs => (h.written s hs).noSlash⟩

/-- A written path is resolved from its steps. -/
theorem readSteps_pathText (h : WrittenSteps scheme steps) :
    readSteps scheme (pathText steps) = resolvePath (scheme == "file".toList) [] steps := by
  have hsame : (if isSpecial scheme then
      (pathText steps).map fun c => if c = '\\' then '/' else c else pathText steps) = pathText steps := by
    split
    · next hspecial =>
      exact map_ite_of_not_mem (List.not_mem_cons_of_ne_of_not_mem (by decide)
        (not_mem_intercalate (by decide) fun s hs => (h.written s hs).noBackslash hspecial))
    · rfl
  unfold readSteps
  dsimp only
  rw [hsame]
  simp only [pathText, h.splitAtChar_eq]

/-- **A written path is read as it is**, unless it is that of a file and begins with a drive letter. -/
theorem parsePath_of_written (h : WrittenSteps scheme steps)
    (hdrive : scheme = "file".toList → ∀ s ∈ steps.head?, isDriveLetter s = false) :
    readSteps scheme (pathText steps) = steps ∧ parsePath scheme (pathText steps) = pathText steps := by
  have hread : readSteps scheme (pathText steps) = steps := by
    rw [readSteps_pathText h]
    exact resolvePath_of_written h.written fun hfile _ => hdrive (beq_iff_eq.1 hfile)
  have hkept : scheme = "file".toList →
      steps.dropWhile (fun s => s.isEmpty && decide (1 < steps.length)) = steps := by
    intro hfile
    cases hsteps : steps with
    | nil => rfl
    | cons first rest =>
      have hfirst := h.first hfile first (by rw [hsteps]; rfl)
      rw [hsteps] at hfirst
      refine List.dropWhile_cons_of_neg ?_
      simp only [Bool.and_eq_true, decide_eq_true_eq, not_and, Nat.not_lt]
      exact hfirst
  refine ⟨hread, ?_⟩
  unfold parsePath
  dsimp only
  rw [hread]
  split
  · next hfile => rw [hkept (beq_iff_eq.1 hfile)]
  · rfl

/-- A drive letter at the root is never taken back. -/
theorem head?_resolvePath_of_drive (hdrive : isDriveLetter step = true) :
    (resolvePath isFile (back ++ [step]) steps).head? = some step := by
  induction steps generalizing back with
  | nil => simp [resolvePath]
  | cons segment rest ih =>
    have hends : ∀ back : List (List Char), (resolvePath isFile
        (if rest.isEmpty then [] :: (back ++ [step]) else back ++ [step]) rest).head? = some step := by
      intro back
      split
      · exact @ih ([] :: back)
      · exact ih
    unfold resolvePath
    dsimp only
    split
    · cases back with
      | nil =>
        simp only [List.nil_append, hdrive, if_true]
        exact hends []
      | cons last back =>
        by_cases hlast : isDriveLetter last = true
        · simp only [List.cons_append, hlast, if_true]
          exact hends (last :: back)
        · simp only [List.cons_append, hlast, Bool.false_eq_true, if_false]
          exact hends back
    · split
      · exact hends back
      · exact @ih (_ :: back)

/-- The path of a file that begins with a drive letter is read with a drive letter in front. -/
theorem any_head?_readSteps_of_drive (h : WrittenSteps scheme (step :: steps))
    (hfile : scheme = "file".toList) (hdrive : isDriveLetter step = true) :
    (readSteps scheme (pathText (step :: steps))).head?.any isDriveLetter = true := by
  have hstep := h.written step List.mem_cons_self
  have hparent : ((dot? step).bind dot? == some []) = false := beq_eq_false_iff_ne.2 hstep.noParent
  have hdot : (dot? step == some []) = false := beq_eq_false_iff_ne.2 hstep.noDot
  have hcolon : isDriveLetter (step.take 1 ++ [':']) = true := by
    unfold isDriveLetter at hdrive
    split at hdrive
    · next c d =>
      rw [Bool.and_eq_true] at hdrive
      simp [isDriveLetter, hdrive.1]
    · cases hdrive
  rw [readSteps_pathText h, hfile, beq_self_eq_true]
  unfold resolvePath
  simp only [hparent, hdot, percentEncode_of_isEncoded hstep.encoded, hdrive, List.isEmpty_nil,
    Bool.and_self, Bool.false_eq_true, if_false, if_true]
  rw [← List.nil_append [step.take 1 ++ [':']], head?_resolvePath_of_drive hcolon]
  exact hcolon

end LivePreview.Url
