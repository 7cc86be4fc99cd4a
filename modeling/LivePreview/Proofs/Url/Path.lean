import LivePreview.Proofs.Text.Words
import LivePreview.Url.Parser
/-!
# LivePreview.Proofs.Url.Path

**Paths that only lead down.** A dot segment is the one thing in a path that can lead back up, and a
drive letter or a character that has to be encoded is the one thing that changes a step. A path whose
steps are all plain (`Plain`) is therefore read as those steps, without the ones that name the
directory they stand in (`withoutDots`); what it begins with, it keeps (`Inside`).
-/

namespace LivePreview.Url

open Text

/-! ### Plain steps -/

/-- Is the step read as it stands, and does it not lead up? -/
structure Plain (step : List Char) : Prop where
  noSlash : '/' ∉ step
  noBackslash : '\\' ∉ step
  noParent : (dot? step).bind dot? ≠ some []
  asWritten : percentEncode pathSet step = step
  noDrive : isDriveLetter step = false

/-- The dots of a step in which nothing is encoded are dots. -/
theorem eq_cons_of_dot? {step rest : List Char} (hpercent : '%' ∉ step) (h : dot? step = some rest) :
    step = '.' :: rest := by
  unfold dot? at h
  split at h
  · rw [Option.some.inj h]
  · exact absurd List.mem_cons_self hpercent
  · exact absurd List.mem_cons_self hpercent
  · cases h

theorem eq_dots_of_dot? {step : List Char} (hpercent : '%' ∉ step)
    (h : (dot? step).bind dot? = some []) : step = ['.', '.'] := by
  obtain ⟨rest, hfirst, hsecond⟩ := Option.bind_eq_some_iff.1 h
  obtain rfl := eq_cons_of_dot? hpercent hfirst
  rw [List.mem_cons, not_or] at hpercent
  rw [eq_cons_of_dot? hpercent.2 hsecond]

/-- The steps without those that name the directory they stand in. Behind the last of these the path
still ends in a slash. -/
def withoutDots : List (List Char) → List (List Char)
  | [] => []
  | step :: rest =>
    if dot? step = some [] then if rest.isEmpty then [[]] else withoutDots rest
    else step :: withoutDots rest

/-- Steps that do not name their directory are kept. -/
theorem withoutDots_append {home : List (List Char)} (h : ∀ step ∈ home, dot? step ≠ some [])
    (steps : List (List Char)) : withoutDots (home ++ steps) = home ++ withoutDots steps := by
  induction home with
  | nil => rfl
  | cons step home ih =>
    rw [List.cons_append, withoutDots, if_neg (h step List.mem_cons_self),
      ih fun s hs => h s (List.mem_cons_of_mem step hs), List.cons_append]

/-- What is left is empty, or one of the steps and no dot. -/
theorem mem_withoutDots {step : List Char} {steps : List (List Char)} (h : step ∈ withoutDots steps) :
    step = [] ∨ step ∈ steps ∧ dot? step ≠ some [] := by
  induction steps with
  | nil => exact absurd h List.not_mem_nil
  | cons first rest ih =>
    have hrest (h : step ∈ withoutDots rest) :
        step = [] ∨ step ∈ first :: rest ∧ dot? step ≠ some [] :=
      (ih h).imp_right fun h => ⟨List.mem_cons_of_mem first h.1, h.2⟩
    unfold withoutDots at h
    split_ifs at h with hdot hlast
    · exact .inl (List.mem_singleton.1 h)
    · exact hrest h
    · rcases List.mem_cons.1 h with rfl | h
      · exact .inr ⟨List.mem_cons_self, hdot⟩
      · exact hrest h

/-- Plain steps are only ever put behind the steps that are there. -/
theorem resolvePath_of_plain {steps : List (List Char)} (h : ∀ step ∈ steps, Plain step)
    (isFile : Bool) (back : List (List Char)) :
    resolvePath isFile back steps = back.reverse ++ withoutDots steps := by
  induction steps generalizing back with
  | nil => rw [resolvePath, withoutDots, List.append_nil]
  | cons step rest ih =>
    have hstep := h step List.mem_cons_self
    replace ih := ih fun s hs => h s (List.mem_cons_of_mem step hs)
    have hnoParent : ((dot? step).bind dot? == some []) = false := beq_eq_false_iff_ne.2 hstep.noParent
    unfold resolvePath withoutDots
    simp only [hnoParent, hstep.asWritten, hstep.noDrive, Bool.and_false, Bool.false_eq_true, if_false,
      beq_iff_eq]
    split_ifs with hdot hlast
    · rw [ih, List.isEmpty_iff.1 hlast]
      simp [withoutDots]
    · rw [ih]
    · rw [ih]
      simp

/-! ### Plain paths -/

/-- Does the path go on from this directory, and does nothing behind it lead back out? -/
def Inside (directory path : List Char) : Prop :=
  ∃ below : List (List Char), path = directory ++ below.flatMap ('/' :: ·) ∧
    ∀ step ∈ below, '/' ∉ step ∧ dot? step ≠ some [] ∧ (dot? step).bind dot? ≠ some []

/-- Each step stands behind a slash. -/
theorem pathText_eq_flatMap {steps : List (List Char)} (hne : steps ≠ []) :
    pathText steps = steps.flatMap ('/' :: ·) := by
  induction steps with
  | nil => exact absurd rfl hne
  | cons step rest ih =>
    cases rest with
    | nil => simp [pathText]
    | cons next rest =>
      rw [List.flatMap_cons, ← ih (List.cons_ne_nil next rest), pathText, pathText,
        List.intercalate_cons_cons]
      simp

/-- The steps of a path of plain steps are read back. -/
theorem parsePath_pathText {steps : List (List Char)} (hne : steps ≠ [])
    (hfirst : ∀ step ∈ (withoutDots steps).head?, step ≠ []) (h : ∀ step ∈ steps, Plain step)
    (scheme : List Char) : parsePath scheme (pathText steps) = pathText (withoutDots steps) := by
  have hbackslash : '\\' ∉ pathText steps :=
    List.not_mem_cons_of_ne_of_not_mem (by decide)
      (not_mem_intercalate (by decide) fun step hs => (h step hs).noBackslash)
  have hsame : (if isSpecial scheme then
      (pathText steps).map fun c => if c = '\\' then '/' else c else pathText steps) = pathText steps := by
    rw [map_ite_of_not_mem hbackslash, ite_self]
  have hsplit : splitAtChar '/' (['/'].intercalate steps) = steps :=
    splitAtChar_eq_iff.2 ⟨hne, rfl, fun step hs => (h step hs).noSlash⟩
  -- The steps of a file never begin with an empty one that could be dropped.
  have hkeep (many : Bool) :
      (withoutDots steps).dropWhile (fun s => s.isEmpty && many) = withoutDots steps := by
    cases hsteps : withoutDots steps with
    | nil => rfl
    | cons first rest =>
      rw [hsteps] at hfirst
      have hnot : first.isEmpty = false := List.isEmpty_eq_false_iff.2 (hfirst first rfl)
      simp [hnot]
  unfold parsePath readSteps
  dsimp only
  rw [hsame]
  simp only [pathText, hsplit, resolvePath_of_plain h, List.reverse_nil, List.nil_append]
  rw [hkeep, ite_self]

/-- **A path of plain steps stays below the steps it begins with**, whatever the scheme. -/
theorem inside_parsePath {home below : List (List Char)} (hne : home ≠ [])
    (hhome : ∀ step ∈ home, step ≠ [] ∧ dot? step ≠ some []) (h : ∀ step ∈ home ++ below, Plain step)
    (scheme : List Char) : Inside (pathText home) (parsePath scheme (pathText (home ++ below))) := by
  have hkept : withoutDots (home ++ below) = home ++ withoutDots below :=
    withoutDots_append (fun step hs => (hhome step hs).2) below
  have hfirst : ∀ step ∈ (withoutDots (home ++ below)).head?, step ≠ [] := by
    intro step hs
    rw [hkept, List.head?_append_of_ne_nil home hne] at hs
    exact (hhome step (List.mem_of_mem_head? hs)).1
  refine ⟨withoutDots below, ?_, fun step hs => ?_⟩
  · rw [parsePath_pathText (List.append_ne_nil_of_left_ne_nil hne below) hfirst h, hkept,
      pathText_eq_flatMap (List.append_ne_nil_of_left_ne_nil hne _), pathText_eq_flatMap hne,
      List.flatMap_append]
  · rcases mem_withoutDots hs with rfl | ⟨hs, hdot⟩
    · exact ⟨List.not_mem_nil, nofun, nofun⟩
    · have hplain := h step (List.mem_append_right home hs)
      exact ⟨hplain.noSlash, hdot, hplain.noParent⟩

end LivePreview.Url
