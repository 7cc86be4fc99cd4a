import Mathlib.Data.List.Basic
import Mathlib.Data.Option.Basic
import LivePreview.Script.Literal
/-!
# LivePreview.Proofs.Script.Literal

**What is taken stands in front of the rest.** Every reader of words and literals splits the text that it
reads: what it took and what it leaves, one behind the other, are the text.
-/

namespace LivePreview.Script

open Text (dropLead?_eq_some_iff)

variable {text digits : List Char} {taken : Taken} {n : Nat} {c : Char} {value : List Char}
  {name word mark : String}

/-- What a condition leaves begins with a character that fails it. -/
theorem eq_of_dropWhile {p : Char → Bool} {first : Char} {after : List Char}
    (h : text.dropWhile p = first :: after) :
    p first = false ∧ text = text.takeWhile p ++ first :: after := by
  constructor
  · have hhead := List.head_dropWhile_not p (by simp [h] : text.dropWhile p ≠ [])
    simpa [h] using hhead
  · rw [← h, List.takeWhile_append_dropWhile]

/-! ### Escapes -/

theorem codePoint?_eq_append (h : codePoint? text = some (n, taken)) : taken.1 ++ taken.2 = text := by
  unfold codePoint? at h
  split at h
  · next rest =>
    dsimp only at h
    split at h
    · next first more last after hdigits hbehind =>
      obtain ⟨value, -, h⟩ := Option.bind_eq_some_iff.1 h
      obtain ⟨-, -, h⟩ := Option.bind_eq_some_iff.1 h
      obtain rfl := (Prod.mk.inj (Option.some.inj h)).2
      obtain ⟨hlast, hrest⟩ := eq_of_dropWhile hbehind
      obtain rfl : last = '\x7d' := by simpa using hlast
      dsimp only
      rw [hdigits] at hrest ⊢
      rw [hrest]
      simp
    · cases h
  · obtain ⟨-, -, h⟩ := Option.bind_eq_some_iff.1 h
    obtain ⟨value, -, h⟩ := Option.bind_eq_some_iff.1 h
    obtain rfl := (Prod.mk.inj (Option.some.inj h)).2
    exact List.take_append_drop 4 _

theorem octalDigits_leads : octalDigits text <+: text := by
  cases text with
  | nil => exact List.prefix_rfl
  | cons c rest => exact (List.takeWhile_prefix _).trans (List.take_prefix _ _)

theorem escape?_eq_append (h : escape? text = some (value, taken)) : taken.1 ++ taken.2 = text := by
  unfold escape? at h
  split at h
  · cases h
  · obtain rfl := (Prod.mk.inj (Option.some.inj h)).2
    rfl
  · next rest =>
    obtain ⟨⟨n, first, after⟩, hfirst, h⟩ := Option.bind_eq_some_iff.1 h
    have hrest : first ++ after = rest := codePoint?_eq_append hfirst
    have hsingle : taken = ('u' :: first, after) → taken.1 ++ taken.2 = 'u' :: rest := by
      rintro rfl
      rw [← hrest]
      rfl
    dsimp only at h
    split at h
    · next second hsecond =>
      have hafter : after = '\\' :: 'u' :: second := by
        split at hsecond
        · exact hsecond
        · exact nomatch hsecond
      split at h
      · next m more last hmore =>
        split at h
        · obtain rfl := (Prod.mk.inj (Option.some.inj h)).2
          have hlast : more ++ last = second := codePoint?_eq_append hmore
          rw [← hrest, hafter, ← hlast]
          simp
        · exact hsingle (Prod.mk.inj (Option.some.inj h)).2.symm
      · exact hsingle (Prod.mk.inj (Option.some.inj h)).2.symm
    · exact hsingle (Prod.mk.inj (Option.some.inj h)).2.symm
  · obtain ⟨-, -, h⟩ := Option.bind_eq_some_iff.1 h
    obtain ⟨value, -, h⟩ := Option.bind_eq_some_iff.1 h
    obtain rfl := (Prod.mk.inj (Option.some.inj h)).2
    exact congrArg _ (List.take_append_drop 2 _)
  · next c rest _ _ _ =>
    dsimp only at h
    split at h
    · obtain rfl := (Prod.mk.inj (Option.some.inj h)).2
      have hleads : octalDigits (c :: rest) <+: c :: rest := octalDigits_leads
      exact List.prefix_iff_eq_append.1 hleads
    · obtain rfl := (Prod.mk.inj (Option.some.inj h)).2
      rfl

/-! ### Names -/

theorem nameChar?_eq_append {isPart : Char → Bool} (h : nameChar? isPart text = some (c, taken)) :
    taken.1 ++ taken.2 = text := by
  unfold nameChar? at h
  split at h
  · cases h
  · obtain ⟨⟨n, digits, after⟩, hdigits, h⟩ := Option.bind_eq_some_iff.1 h
    obtain ⟨-, -, h⟩ := Option.bind_eq_some_iff.1 h
    obtain rfl := (Prod.mk.inj (Option.some.inj h)).2
    have hrest : digits ++ after = _ := codePoint?_eq_append hdigits
    rw [← hrest]
    rfl
  · split at h
    · obtain rfl := (Prod.mk.inj (Option.some.inj h)).2
      rfl
    · cases h

theorem nameChars_eq_append (isPart : Char → Bool) (bound text : List Char) :
    (nameChars isPart bound text).2.1 ++ (nameChars isPart bound text).2.2 = text := by
  induction bound generalizing text with
  | nil => rfl
  | cons _ bound ih =>
    rw [nameChars]
    cases hchar : nameChar? isPart text with
    | none => rfl
    | some found =>
      obtain ⟨c, first, rest⟩ := found
      have htext : first ++ rest = text := nameChar?_eq_append hchar
      dsimp only
      rw [List.append_assoc, ih rest, htext]

theorem nameWith?_eq_append {isPart : Char → Bool} (h : nameWith? isPart text = some (name, taken)) :
    taken.1 ++ taken.2 = text := by
  obtain ⟨⟨c, first, rest⟩, hfirst, h⟩ := Option.bind_eq_some_iff.1 h
  obtain rfl := (Prod.mk.inj (Option.some.inj h)).2
  have htext : first ++ rest = text := nameChar?_eq_append hfirst
  have hmore := nameChars_eq_append isPart rest rest
  dsimp only
  rw [List.append_assoc, hmore, htext]

theorem identifier?_eq_append (h : identifier? text = some (name, taken)) :
    taken.1 ++ taken.2 = text := by
  obtain ⟨⟨value, found⟩, hname, h⟩ := Option.bind_eq_some_iff.1 h
  obtain ⟨-, -, h⟩ := Option.bind_eq_some_iff.1 h
  obtain rfl := (Prod.mk.inj (Option.some.inj h)).2
  exact nameWith?_eq_append hname

theorem word?_eq_append (h : word? word text = some taken) :
    taken.1 = word.toList ∧ taken.1 ++ taken.2 = text := by
  obtain ⟨rest, hlead, h⟩ := Option.bind_eq_some_iff.1 h
  have htaken : taken = (word.toList, rest) := by
    cases rest with
    | nil => exact (Option.some.inj h).symm
    | cons c rest =>
      dsimp only at h
      obtain ⟨-, -, h⟩ := Option.bind_eq_some_iff.1 h
      exact (Option.some.inj h).symm
  rw [htaken]
  exact ⟨rfl, (dropLead?_eq_some_iff.1 hlead).symm⟩

/-! ### Strings -/

theorem stringBody?_eq_append {quote : Char} {bound : List Char}
    (h : stringBody? quote bound text = some (value, taken)) :
    taken.1 ++ taken.2 = text ∧ taken.1.getLast? = some quote := by
  induction bound generalizing text value taken with
  | nil => cases h
  | cons _ bound ih =>
    cases text with
    | nil => cases h
    | cons c rest =>
      rw [stringBody?] at h
      split at h
      · next hquote =>
        obtain rfl := (Prod.mk.inj (Option.some.inj h)).2
        exact ⟨rfl, congrArg some hquote⟩
      · split at h
        · cases h
        · -- What the first character takes is one character or an escape.
          have hmore : ∀ {front after values more last}, front ++ after = rest →
              stringBody? quote bound after = some (values, more, last) →
              (c :: front ++ more) ++ last = c :: rest ∧ (c :: front ++ more).getLast? = some quote := by
            intro front after values more last hrest hbody
            obtain ⟨hafter, hlast⟩ := ih hbody
            simp only at hafter hlast
            constructor
            · rw [← hrest, ← hafter]
              simp
            · rw [List.getLast?_append, hlast]
              rfl
          dsimp only at h
          split at h
          all_goals
            obtain ⟨⟨first, front, after⟩, hfirst, h⟩ := Option.bind_eq_some_iff.1 h
            obtain ⟨⟨values, more, last⟩, hbody, h⟩ := Option.bind_eq_some_iff.1 h
            obtain rfl := (Prod.mk.inj (Option.some.inj h)).2
          · exact hmore (escape?_eq_append hfirst) hbody
          · cases hfirst
            exact hmore (List.nil_append rest) hbody

/-- A string ends with a quote. -/
theorem string?_eq_append (h : string? text = some (name, taken)) :
    taken.1 ++ taken.2 = text ∧ ∃ quote, taken.1.getLast? = some quote ∧ (quote = '"' ∨ quote = '\'') := by
  cases text with
  | nil => cases h
  | cons c rest =>
    obtain ⟨_, hguard, h⟩ := Option.bind_eq_some_iff.1 h
    obtain ⟨⟨value, front, after⟩, hbody, h⟩ := Option.bind_eq_some_iff.1 h
    obtain rfl := (Prod.mk.inj (Option.some.inj h)).2
    obtain ⟨hrest, hlast⟩ := stringBody?_eq_append hbody
    refine ⟨congrArg _ hrest, c, ?_, ?_⟩
    · simp only at hlast ⊢
      rw [List.getLast?_cons, hlast]
      rfl
    · unfold guard at hguard
      split at hguard
      · next hquote => simpa using hquote
      · cases hguard

/-! ### Numbers -/

theorem digitRun_eq_append (isPart : Char → Bool) (text : List Char) :
    (digitRun isPart text).1 ++ (digitRun isPart text).2 = text := by
  induction text with
  | nil => rfl
  | cons c rest ih =>
    unfold digitRun
    split
    · exact congrArg _ ih
    · split
      · split
        · split
          · exact congrArg _ ih
          · rfl
        · rfl
      · rfl

theorem exponent_eq_append (text : List Char) : (exponent text).1 ++ (exponent text).2 = text := by
  cases text with
  | nil => rfl
  | cons e rest =>
    have hsigned : ∀ sign digits : List Char, sign ++ digits = rest →
        sign ++ ((digitRun Text.isDigit digits).1 ++ (digitRun Text.isDigit digits).2) = rest := by
      intro sign digits hrest
      rw [digitRun_eq_append, hrest]
    unfold exponent
    dsimp only
    split
    · split
      all_goals
        dsimp only
        split
        · rfl
      · exact congrArg (List.cons e) (hsigned ['+'] _ rfl)
      · exact congrArg (List.cons e) (hsigned ['-'] _ rfl)
      · exact congrArg (List.cons e) (hsigned [] _ rfl)
    · rfl

/-- Behind the digits and the fraction of a number, its exponent is taken, or a letter if there is
neither. -/
theorem decimal?_cases (h : decimal? text = some taken) :
    ∃ whole fraction rest, whole ++ (fraction ++ rest) = text ∧
      (taken = (whole ++ fraction ++ (exponent rest).1, (exponent rest).2) ∨
        ∃ after, fraction = [] ∧ exponent rest = ([], 'n' :: after) ∧ taken = (whole ++ ['n'], after)) := by
  unfold decimal? at h
  have hwhole := digitRun_eq_append Text.isDigit text
  generalize digitRun Text.isDigit text = run at h hwhole
  obtain ⟨whole, rest⟩ := run
  simp only at h hwhole
  -- The fraction is there, or it is a mere point, or there is none.
  split at h
  case' h_1 more =>
    split at h
    case' isTrue => refine ⟨whole, [], '.' :: more, hwhole, ?_⟩
    case' isFalse =>
      have hfraction := digitRun_eq_append Text.isDigit more
      refine ⟨whole, '.' :: (digitRun Text.isDigit more).1, (digitRun Text.isDigit more).2, ?_, ?_⟩
      · rw [List.cons_append, hfraction, hwhole]
  case' h_2 => refine ⟨whole, [], rest, hwhole, ?_⟩
  all_goals
    split at h
    · cases h
    · split at h
      · next after hpower =>
        split at h
        · next hempty =>
          rw [Bool.and_eq_true, List.isEmpty_iff, List.isEmpty_iff] at hempty
          exact .inr ⟨after, hempty.1, Prod.ext hempty.2 hpower, (Option.some.inj h).symm⟩
        · exact .inl (Option.some.inj h).symm
      · exact .inl (Option.some.inj h).symm

theorem decimal?_eq_append (h : decimal? text = some taken) : taken.1 ++ taken.2 = text := by
  obtain ⟨whole, fraction, rest, htext, rfl | ⟨after, rfl, hpower, rfl⟩⟩ := decimal?_cases h
  · simp only [List.append_assoc, exponent_eq_append, htext]
  · have hrest := exponent_eq_append rest
    rw [hpower] at hrest
    rw [← htext, ← hrest]
    simp

theorem based?_eq_append {isPart : Char → Bool} (h : based? isPart text = some taken) :
    taken.1 ++ taken.2 = text := by
  unfold based? at h
  have hrun := digitRun_eq_append isPart (text.drop 2)
  split at h
  · cases h
  all_goals
    next hsplit =>
      rw [hsplit] at hrun
      obtain rfl := Option.some.inj h
      conv_rhs => rw [← List.take_append_drop 2 text, ← hrun]
      simp

theorem number?_eq_append (h : number? text = some taken) : taken.1 ++ taken.2 = text := by
  unfold number? at h
  dsimp only at h
  repeat' split at h
  all_goals
    obtain ⟨run, hrun, h⟩ := Option.bind_eq_some_iff.1 h
    have htaken : run = taken := by
      -- What follows is looked at, but not taken.
      split at h
      · obtain ⟨-, -, h⟩ := Option.bind_eq_some_iff.1 h
        exact Option.some.inj h
      · exact Option.some.inj h
    rw [← htaken]
    first
      | exact based?_eq_append hrun
      | exact decimal?_eq_append hrun

/-! ### Regular expressions and templates -/

theorem regexBody?_eq_append {inClass : Bool} (h : regexBody? inClass text = some taken) :
    taken.1 ++ taken.2 = text := by
  fun_induction regexBody? inClass text generalizing taken with
  | case1 | case2 | case4 => cases h
  | case5 _ c _ _ _ hclose =>
    obtain rfl : c = '/' := by
      rw [Bool.and_eq_true, decide_eq_true_iff] at hclose
      exact hclose.1
    exact Option.some.inj h ▸ rfl
  | case3 | case6 =>
    rename_i ih
    obtain ⟨found, hfound, rfl⟩ := Option.map_eq_some_iff.1 h
    simp [← ih hfound]

theorem regex?_eq_append (h : regex? text = some taken) : taken.1 ++ taken.2 = text := by
  unfold regex? at h
  split at h
  · obtain ⟨-, -, h⟩ := Option.bind_eq_some_iff.1 h
    obtain ⟨⟨body, after⟩, hbody, h⟩ := Option.bind_eq_some_iff.1 h
    obtain ⟨-, -, h⟩ := Option.bind_eq_some_iff.1 h
    obtain rfl := Option.some.inj h
    have hflags := List.prefix_iff_eq_append.1 (List.takeWhile_prefix isNamePart (l := after))
    have hrest := regexBody?_eq_append hbody
    simp only [List.cons_append, List.append_assoc, hflags, hrest]
  · cases h

theorem templateBody?_eq_append {followed : Bool} (h : templateBody? text = some (taken, followed)) :
    taken.1 ++ taken.2 = text := by
  fun_induction templateBody? text generalizing taken followed with
  | case1 => cases h
  | case3 | case4 => exact (Prod.mk.inj (Option.some.inj h)).1 ▸ rfl
  | case2 _ _ ih | case5 _ _ _ _ _ ih =>
    obtain ⟨⟨found, more⟩, hfound, hsame⟩ := Option.map_eq_some_iff.1 h
    obtain rfl := (Prod.mk.inj hsame).1
    simp [← ih hfound]

theorem templatePart?_eq_append {first : Char} {followed : Bool}
    (h : templatePart? first followed text = some taken) : taken.1 ++ taken.2 = text := by
  unfold templatePart? at h
  split at h
  · cases h
  · obtain ⟨-, -, h⟩ := Option.bind_eq_some_iff.1 h
    obtain ⟨⟨⟨front, after⟩, more⟩, hbody, h⟩ := Option.bind_eq_some_iff.1 h
    obtain ⟨-, -, h⟩ := Option.bind_eq_some_iff.1 h
    obtain rfl := Option.some.inj h
    exact congrArg _ (templateBody?_eq_append hbody)

/-! ### Marks and markup -/

theorem mark?_eq_append (h : mark? mark text = some taken) :
    taken.1 = mark.toList ∧ taken.1 ++ taken.2 = text := by
  obtain ⟨rest, hlead, h⟩ := Option.bind_eq_some_iff.1 h
  obtain ⟨-, -, h⟩ := Option.bind_eq_some_iff.1 h
  obtain ⟨-, -, h⟩ := Option.bind_eq_some_iff.1 h
  obtain rfl := Option.some.inj h
  exact ⟨rfl, (dropLead?_eq_some_iff.1 hlead).symm⟩

theorem char?_eq_append (h : char? c text = some taken) : taken.1 ++ taken.2 = text := by
  unfold char? at h
  split at h
  · cases h
  · split at h
    · exact Option.some.inj h ▸ rfl
    · cases h

theorem markupNameParts_eq_append (bound text : List Char) :
    (markupNameParts bound text).1 ++ (markupNameParts bound text).2 = text := by
  fun_induction markupNameParts bound text with
  | case1 | case3 | case4 | case5 => rfl
  | case2 _ _ _ _ _ _ _ _ hname more last hmore ih =>
    have htext := nameWith?_eq_append hname
    rw [hmore] at ih
    simp only at htext ih
    simp [← htext, ← ih]

theorem markupName?_eq_append (h : markupName? text = some taken) : taken.1 ++ taken.2 = text := by
  obtain ⟨⟨value, front, rest⟩, hname, h⟩ := Option.bind_eq_some_iff.1 h
  obtain rfl := Option.some.inj h
  have htext := nameWith?_eq_append hname
  have hparts := markupNameParts_eq_append rest rest
  simp only at htext ⊢
  rw [List.append_assoc, hparts, htext]

theorem markupText?_eq_append (h : markupText? text = some taken) : taken.1 ++ taken.2 = text := by
  unfold markupText? at h
  dsimp only at h
  split at h
  · cases h
  · obtain rfl := Option.some.inj h
    exact List.takeWhile_append_dropWhile

theorem markupString?_eq_append (h : markupString? text = some taken) :
    taken.1 ++ taken.2 = text := by
  unfold markupString? at h
  split at h
  · cases h
  · obtain ⟨-, -, h⟩ := Option.bind_eq_some_iff.1 h
    split at h
    · next last after hbehind =>
      obtain rfl := Option.some.inj h
      obtain ⟨hlast, hrest⟩ := eq_of_dropWhile hbehind
      obtain rfl : last = _ := by simpa using hlast
      conv_rhs => rw [hrest]
      simp
    · cases h

end LivePreview.Script
