import LivePreview.Proofs.Json.Record
import LivePreview.Proofs.Url.Authority
import LivePreview.Proofs.Url.WrittenPath
/-!
# LivePreview.Proofs.Url.Written

**An address is read from its text as what it is.** What is read is in the form in which it is written
(`Written`): nothing in it is left to resolve, to encode or to drop. So its text is read as the same
address (`parse_eq_ok`), except that a drive letter in front of the path of a file stands for the host
there (`LosesHost`). Only a host is interpreted anew, and what it is read as is a hypothesis here.
-/

namespace LivePreview.Url

open Text

variable {u : Url} {a : Authority} {host : Host} {scheme text rest : List Char}
  {query fragment : Option (List Char)}

/-! ### Schemes -/

/-- Is this a scheme as it is written, in small letters? -/
structure WrittenScheme (scheme : List Char) : Prop where
  shape : ∃ c rest, scheme = c :: rest ∧ isAsciiLetter c = true ∧ ∀ d ∈ rest, isSchemePart d = true
  small : lowerAscii scheme = scheme

theorem scheme?_of_written (h : WrittenScheme scheme) (rest : List Char) :
    scheme? (scheme ++ ':' :: rest) = some (scheme, rest) := by
  obtain ⟨⟨c, tail, rfl, hc, htail⟩, hsmall⟩ := h
  have hstop : ∀ d ∈ (':' :: rest).head?, isSchemePart d = false := forall_head_cons (by decide) rest
  rw [List.cons_append, scheme?, if_pos hc, dropWhile_append_of_stop htail hstop,
    takeWhile_append_of_stop htail hstop, hsmall]
  rfl

theorem isAsciiLetter_toLower (c : Char) : isAsciiLetter c.toLower = isAsciiLetter c := by
  rw [Bool.eq_iff_iff]
  simp only [isAsciiLetter, toNat_toLower, Bool.or_eq_true, Bool.and_eq_true, decide_eq_true_eq]
  split_ifs <;> omega

theorem isSchemePart_toLower {c : Char} (h : isSchemePart c = true) : isSchemePart c.toLower = true := by
  by_cases hletter : isAsciiLetter c = true
  · rw [← isAsciiLetter_toLower] at hletter
    simp [isSchemePart, isAsciiAlnum, hletter]
  · have hcapital : ¬ (65 ≤ c.toNat ∧ c.toNat ≤ 90) := by
      intro hc
      simp [isAsciiLetter, hc] at hletter
    have hsame : c.toLower = c := Char.toNat_inj.1 (by rw [toNat_toLower, if_neg hcapital])
    rw [hsame]
    exact h

theorem writtenScheme_of_scheme? (h : scheme? text = some (scheme, rest)) : WrittenScheme scheme := by
  cases text with
  | nil => cases h
  | cons c tail =>
    rw [scheme?] at h
    split at h
    · next hc =>
      split at h
      · injection h with h
        rw [← (Prod.mk.inj h).1]
        refine ⟨⟨c.toLower, lowerAscii (tail.takeWhile isSchemePart), rfl, ?_, fun d hd => ?_⟩, ?_⟩
        · rw [isAsciiLetter_toLower, hc]
        · obtain ⟨e, he, rfl⟩ := List.mem_map.1 hd
          exact isSchemePart_toLower (List.mem_takeWhile_imp he)
        · exact lowerAscii_lowerAscii (c :: tail.takeWhile isSchemePart)
      · cases h
    · cases h

theorem isVisible_of_mem_scheme (h : WrittenScheme scheme) {c : Char} (hc : c ∈ scheme) :
    isVisible c = true := by
  obtain ⟨⟨d, tail, rfl, hd, htail⟩, -⟩ := h
  have hpart : isSchemePart c = true := by
    rcases List.mem_cons.1 hc with rfl | hc
    · simp [isSchemePart, isAsciiAlnum, hd]
    · exact htail c hc
  simp only [isSchemePart, Bool.or_eq_true, beq_iff_eq] at hpart
  rcases hpart with ((h | rfl) | rfl) | rfl
  · exact isVisible_of_isAsciiAlnum h
  all_goals decide

/-! ### Queries and fragments -/

/-- The text of a query and a fragment, each behind its mark. -/
def suffixText (query fragment : Option (List Char)) : List Char :=
  (match query with
    | some q => '?' :: q
    | none => []) ++
  match fragment with
  | some f => '#' :: f
  | none => []

/-- What is encoded in the query of an address with this scheme. -/
def querySetOf (scheme : List Char) : EncodeSet :=
  if isSpecial scheme then specialQuerySet else querySet

theorem head?_suffixText (query fragment : Option (List Char)) :
    ∀ c ∈ (suffixText query fragment).head?, c = '?' ∨ c = '#' := by
  intro c hc
  cases query with
  | some q => exact .inl (Option.some.inj hc).symm
  | none =>
    cases fragment with
    | some f => exact .inr (Option.some.inj hc).symm
    | none => cases hc

theorem isVisible_of_mem_suffixText (hquery : ∀ q ∈ query, IsEncoded (querySetOf scheme) q)
    (hfragment : ∀ f ∈ fragment, IsEncoded fragmentSet f) {c : Char}
    (hc : c ∈ suffixText query fragment) : isVisible c = true := by
  rcases List.mem_append.1 hc with hc | hc
  · cases query with
    | none => exact absurd hc List.not_mem_nil
    | some q =>
      rcases List.mem_cons.1 hc with rfl | hc
      · decide
      · exact (hquery q rfl c hc).1
  · cases fragment with
    | none => exact absurd hc List.not_mem_nil
    | some f =>
      rcases List.mem_cons.1 hc with rfl | hc
      · decide
      · exact (hfragment f rfl c hc).1

/-- A query and a fragment are read as they are written. -/
theorem withSuffix_suffixText (u : Url) (hquery : ∀ q ∈ query, IsEncoded (querySetOf u.scheme) q)
    (hfragment : ∀ f ∈ fragment, IsEncoded fragmentSet f) :
    withSuffix u (suffixText query fragment) = { u with query, fragment } := by
  have hhash : '#' ∈ querySetOf u.scheme := by
    unfold querySetOf
    split <;> decide
  -- The first hash is in front of the fragment.
  have hfront : ∀ c ∈ (match query with
      | some q => '?' :: q
      | none => []), (c != '#') = true := by
    intro c hc
    rw [bne_iff_ne]
    rintro rfl
    cases query with
    | none => cases hc
    | some q =>
      rcases List.mem_cons.1 hc with hc | hc
      · exact absurd hc (by decide)
      · exact (hquery q rfl _ hc).2 hhash
  have hstop : ∀ c ∈ (match fragment with
      | some f => '#' :: f
      | none => []).head?, (c != '#') = false := by
    intro c hc
    cases fragment with
    | none => cases hc
    | some f =>
      rw [← Option.some.inj hc]
      rfl
  unfold withSuffix suffixText
  simp only [takeWhile_append_of_stop hfront hstop, dropWhile_append_of_stop hfront hstop]
  congr 1
  · cases query with
    | none => rfl
    | some q => exact congrArg some (percentEncode_of_isEncoded (hquery q rfl))
  · cases fragment with
    | none => rfl
    | some f => exact congrArg some (percentEncode_of_isEncoded (hfragment f rfl))

theorem isEncoded_query_withSuffix (u : Url) (text : List Char) :
    ∀ q ∈ (withSuffix u text).query, IsEncoded (querySetOf u.scheme) q := by
  intro q hq
  unfold withSuffix at hq
  dsimp only at hq
  split at hq
  · rw [← Option.some.inj hq]
    show IsEncoded (querySetOf u.scheme) (percentEncode (querySetOf u.scheme) _)
    unfold querySetOf
    split <;> exact isEncoded_percentEncode (by decide) (by decide) _
  · cases hq

theorem isEncoded_fragment_withSuffix (u : Url) (text : List Char) :
    ∀ f ∈ (withSuffix u text).fragment, IsEncoded fragmentSet f := by
  intro f hf
  unfold withSuffix at hf
  dsimp only at hf
  split at hf
  · rw [← Option.some.inj hf]
    exact isEncoded_percentEncode (by decide) (by decide) _
  · cases hf

/-! ### Written addresses -/

/-- Is the address with this authority as it is written? A file has neither a user name nor a port. -/
structure Written (u : Url) (a : Authority) : Prop where
  scheme : WrittenScheme u.scheme
  authority : u.authority = some a
  parts : WrittenAuthority u.scheme a
  path : u.path = [] ∧ isSpecial u.scheme = false ∨ ∃ steps, u.path = pathText steps ∧
    WrittenSteps u.scheme steps
  query : ∀ q ∈ u.query, IsEncoded (querySetOf u.scheme) q
  fragment : ∀ f ∈ u.fragment, IsEncoded fragmentSet f
  file : u.scheme = "file".toList → a.userinfo = [] ∧ a.port = none

/-- Is it the address of a file whose path begins with a drive letter? In its text, that stands for the
host. -/
def LosesHost (u : Url) : Prop :=
  u.scheme = "file".toList ∧ ∃ first ∈ u.pathSteps.head?, isDriveLetter first = true

theorem text_eq (h : u.authority = some a) :
    u.text = u.scheme ++ ':' :: '/' :: '/' :: (a.text ++ (u.path ++ suffixText u.query u.fragment)) := by
  obtain ⟨scheme, authority, path, query, fragment⟩ := u
  obtain rfl := h
  cases query <;> cases fragment <;> simp [text, suffixText]

/-- A written path goes on to the query, and is empty or begins with a slash. -/
theorem Written.path_chars (h : Written u a) :
    (∀ c ∈ u.path, isVisible c = true ∧ isPathPart c = true) ∧ ∀ c ∈ u.path.head?, c = '/' := by
  rcases h.path with ⟨hpath, -⟩ | ⟨steps, hpath, hsteps⟩
  · rw [hpath]
    exact ⟨fun c hc => absurd hc List.not_mem_nil, fun c hc => nomatch hc⟩
  · rw [hpath]
    refine ⟨fun c hc => ?_, fun c hc => (Option.some.inj hc).symm⟩
    have hmarks : '?' ∈ pathSet ∧ '#' ∈ pathSet := by decide
    have hstep : ∀ s ∈ steps, ∀ c ∈ s, isVisible c = true ∧ isPathPart c = true := by
      intro s hs c hc
      obtain ⟨hvisible, hnot⟩ := (hsteps.written s hs).encoded c hc
      refine ⟨hvisible, ?_⟩
      rw [isPathPart, Bool.and_eq_true, bne_iff_ne, bne_iff_ne]
      constructor <;> rintro rfl
      · exact hnot hmarks.1
      · exact hnot hmarks.2
    rw [pathText_eq_flatMap hsteps.ne_nil] at hc
    obtain ⟨s, hs, hc⟩ := List.mem_flatMap.1 hc
    rcases List.mem_cons.1 hc with rfl | hc
    · decide
    · exact hstep s hs c hc

/-- All of it can be seen. -/
theorem Written.isVisible_of_mem_text (h : Written u a) {c : Char} (hc : c ∈ u.text) :
    isVisible c = true := by
  rw [text_eq h.authority] at hc
  simp only [List.mem_append, List.mem_cons] at hc
  rcases hc with hc | rfl | rfl | rfl | hc | hc | hc
  · exact isVisible_of_mem_scheme h.scheme hc
  · decide
  · decide
  · decide
  · exact (h.parts.chars c hc).1
  · exact (h.path_chars.1 c hc).1
  · exact isVisible_of_mem_suffixText h.query h.fragment hc

/-- Nothing is dropped from a text that can be seen. -/
theorem significant_of_visible (h : ∀ c ∈ text, isVisible c = true) : significant text = text := by
  have hlarge : ∀ c ∈ text, 33 ≤ c.toNat := by
    intro c hc
    have hv := h c hc
    simp only [isVisible, Bool.and_eq_true, decide_eq_true_eq] at hv
    exact hv.1
  have hnot : ∀ c ∈ text, decide (c.toNat ≤ 32) = false := by
    intro c hc
    have := hlarge c hc
    rw [decide_eq_false_iff_not]
    omega
  have hstrip : stripWhile (fun c => c.toNat ≤ 32) text = text :=
    stripWhile_eq_self (fun c hc => hnot c (List.mem_of_mem_head? hc))
      fun c hc => hnot c (List.mem_of_mem_getLast? hc)
  rw [significant, hstrip, List.filter_eq_self]
  intro c hc
  have hne : ∀ {mark : Char}, mark.toNat < 33 → (c != mark) = true := by
    intro mark hm
    rw [bne_iff_ne]
    rintro rfl
    have := hlarge c hc
    omega
  rw [Bool.and_eq_true, Bool.and_eq_true]
  exact ⟨⟨hne (by decide), hne (by decide)⟩, hne (by decide)⟩

/-- The path goes up to the query or the fragment. -/
theorem Written.path_parts (h : Written u a) :
    (u.path ++ suffixText u.query u.fragment).takeWhile isPathPart = u.path ∧
      (u.path ++ suffixText u.query u.fragment).dropWhile isPathPart =
        suffixText u.query u.fragment := by
  have hall : ∀ c ∈ u.path, isPathPart c = true := fun c hc => (h.path_chars.1 c hc).2
  have hstop : ∀ c ∈ (suffixText u.query u.fragment).head?, isPathPart c = false := by
    intro c hc
    rcases head?_suffixText _ _ c hc with rfl | rfl <;> decide
  exact ⟨takeWhile_append_of_stop hall hstop, dropWhile_append_of_stop hall hstop⟩

/-- What follows an authority ends it. -/
theorem Written.endsAuthority_of_head? (h : Written u a) (special : Bool) :
    ∀ c ∈ (u.path ++ suffixText u.query u.fragment).head?, endsAuthority special c = true := by
  intro c hc
  have hmark : c = '/' ∨ c = '?' ∨ c = '#' := by
    cases hpath : u.path with
    | nil =>
      rw [hpath] at hc
      exact .inr (head?_suffixText _ _ c hc)
    | cons d path =>
      rw [hpath] at hc
      refine .inl (h.path_chars.2 c ?_)
      rw [hpath]
      exact hc
  rcases hmark with rfl | rfl | rfl <;> rfl

/-- The steps of an address are those of its path. -/
theorem pathSteps_of_written {steps : List (List Char)} (hpath : u.path = pathText steps)
    (hsteps : WrittenSteps u.scheme steps) : u.pathSteps = steps := by
  unfold pathSteps
  rw [hpath]
  exact hsteps.splitAtChar_eq

/-- A written path is read as it is, unless it is empty or stands for the host. -/
theorem Written.parsePath_eq (h : Written u a) (hkept : ¬ u.LosesHost) :
    (if !isSpecial u.scheme && u.path.isEmpty then [] else parsePath u.scheme u.path) = u.path := by
  rcases h.path with ⟨hpath, hspecial⟩ | ⟨steps, hpath, hsteps⟩
  · rw [hpath, hspecial]
    rfl
  · have hne : u.path.isEmpty = false := by rw [hpath]; rfl
    have hdrive : u.scheme = "file".toList → ∀ s ∈ steps.head?, isDriveLetter s = false := by
      intro hfile s hs
      rw [← pathSteps_of_written hpath hsteps] at hs
      exact Bool.eq_false_iff.2 fun hdrive => hkept ⟨hfile, s, hs, hdrive⟩
    rw [hne, Bool.and_false, if_neg Bool.false_ne_true, hpath]
    exact (parsePath_of_written hsteps hdrive).2

/-- The first step of a file's path is read as a drive letter if and only if it is one. -/
theorem Written.any_head?_readSteps_iff (h : Written u a) (hfile : u.scheme = "file".toList) :
    (readSteps u.scheme u.path).head?.any isDriveLetter = true ↔ u.LosesHost := by
  rcases h.path with ⟨-, hnot⟩ | ⟨steps, hpath, hsteps⟩
  · rw [hfile] at hnot
    exact absurd hnot (by decide)
  · have hsame := pathSteps_of_written hpath hsteps
    constructor
    · intro hany
      by_contra hkept
      have hdrive : ∀ s ∈ steps.head?, isDriveLetter s = false := by
        intro s hs
        rw [← hsame] at hs
        exact Bool.eq_false_iff.2 fun hdrive => hkept ⟨hfile, s, hs, hdrive⟩
      rw [hpath, (parsePath_of_written hsteps fun _ => hdrive).1] at hany
      obtain ⟨s, hs, hletter⟩ := (Option.any_eq_true ..).1 hany
      exact absurd hletter (Bool.eq_false_iff.1 (hdrive s hs))
    · rintro ⟨-, first, hfirst, hdrive⟩
      rw [hsame] at hfirst
      obtain ⟨rest, rfl⟩ : ∃ rest, steps = first :: rest := by
        cases steps with
        | nil => cases hfirst
        | cons s rest => exact ⟨rest, by rw [Option.some.inj hfirst]⟩
      rw [hpath]
      exact any_head?_readSteps_of_drive hsteps hfile hdrive

theorem Written.parseWithAuthority_eq (h : Written u a) (hkept : ¬ u.LosesHost)
    (hhost : readHost u.scheme a.host.text = .ok host) (hne : host ≠ .domain []) :
    parseWithAuthority u.scheme (a.text ++ (u.path ++ suffixText u.query u.fragment)) =
      .ok { u with authority := some { a with host } } := by
  have hinside : ∀ c ∈ a.text, (!endsAuthority (isSpecial u.scheme) c) = true := by
    intro c hc
    have hends := (h.parts.chars c hc).2
    cases isSpecial u.scheme with
    | true => rw [hends]; rfl
    | false =>
      rw [endsAuthority] at hends ⊢
      simpa using (Bool.or_eq_false_iff.1 hends).1
  have hstop : ∀ c ∈ (u.path ++ suffixText u.query u.fragment).head?,
      (!endsAuthority (isSpecial u.scheme) c) = false := fun c hc => by
    rw [h.endsAuthority_of_head? _ c hc]
    rfl
  unfold parseWithAuthority
  simp only [takeWhile_append_of_stop hinside hstop, dropWhile_append_of_stop hinside hstop,
    parseAuthority_text h.parts hhost hne, bind, Except.bind, pure, Except.pure, List.nil_append,
    h.path_parts.1, h.path_parts.2, h.parsePath_eq hkept]
  exact congrArg Except.ok (withSuffix_suffixText
    { u with authority := some { a with host }, query := none, fragment := none } h.query h.fragment)

/-- A file is read from its text with the host that is written, unless the path stands for it. -/
theorem Written.parseFile_text (h : Written u a) (hfile : u.scheme = "file".toList)
    (hhost : parseHost a.host.text = .ok host) (hlocal : host ≠ .domain "localhost".toList) :
    parseFile u.scheme ('/' :: '/' :: (a.text ++ (u.path ++ suffixText u.query u.fragment))) =
      .ok (withSuffix
        { scheme := u.scheme
          authority := some
            { host := if (readSteps u.scheme u.path).head?.any isDriveLetter then .domain [] else host }
          path := parsePath u.scheme u.path
          query := none
          fragment := none }
        (suffixText u.query u.fragment)) := by
  obtain ⟨hinfo, hport⟩ := h.file hfile
  have hatext : a.text = a.host.text := by
    rw [Authority.text, hinfo, hport, List.nil_append]
    exact List.append_nil _
  have hinside : ∀ c ∈ a.text, (!endsAuthority true c) = true := fun c hc => by
    rw [(h.parts.chars c hc).2]
    rfl
  have hstop : ∀ c ∈ (u.path ++ suffixText u.query u.fragment).head?,
      (!endsAuthority true c) = false := fun c hc => by
    rw [h.endsAuthority_of_head? _ c hc]
    rfl
  have hnoDrive : isDriveLetter a.text = false := hatext ▸ h.parts.host.not_isDriveLetter
  have hempty : a.text.isEmpty = false := by
    rw [hatext]
    exact List.isEmpty_eq_false_iff.2 h.parts.host.ne_nil
  rw [← hatext] at hhost
  have hlocalhost : (host == .domain "localhost".toList) = false := beq_eq_false_iff_ne.2 hlocal
  unfold parseFile
  simp only [takeWhile_append_of_stop hinside hstop, dropWhile_append_of_stop hinside hstop,
    hnoDrive, hempty, hhost, hlocalhost, h.path_parts.1, h.path_parts.2, bind, Except.bind,
    pure, Except.pure, beq_self_eq_true, Bool.true_or, Bool.and_true, Bool.false_eq_true, if_true, if_false]

theorem Written.parseFile_eq (h : Written u a) (hkept : ¬ u.LosesHost)
    (hhost : readHost u.scheme a.host.text = .ok host)
    (hlocal : host ≠ .domain "localhost".toList) (hfile : u.scheme = "file".toList) :
    parseFile u.scheme ('/' :: '/' :: (a.text ++ (u.path ++ suffixText u.query u.fragment))) =
      .ok { u with authority := some { a with host } } := by
  have hspecial : isSpecial u.scheme = true := by
    rw [hfile]
    decide
  obtain ⟨hinfo, hport⟩ := h.file hfile
  have hpath : parsePath u.scheme u.path = u.path := by
    have := h.parsePath_eq hkept
    rwa [hspecial, Bool.not_true, Bool.false_and, if_neg Bool.false_ne_true] at this
  rw [readHost, if_pos hspecial] at hhost
  rw [h.parseFile_text hfile hhost hlocal, if_neg (mt (h.any_head?_readSteps_iff hfile).1 hkept), hpath,
    hinfo, hport]
  exact congrArg Except.ok (withSuffix_suffixText
    { u with authority := some { host }, query := none, fragment := none } h.query h.fragment)

/-- **The text of an address is read as that address**, with the host that the text of its host stands
for. -/
theorem Written.parse_eq_ok (h : Written u a) (hkept : ¬ u.LosesHost) (hhost : readHost u.scheme a.host.text = .ok host)
    (hne : host ≠ .domain []) (hlocal : host ≠ .domain "localhost".toList) :
    parse u.text = .ok { u with authority := some { a with host } } := by
  unfold parse
  rw [significant_of_visible fun c => h.isVisible_of_mem_text, text_eq h.authority,
    scheme?_of_written h.scheme]
  dsimp only
  split
  · next hfile => exact h.parseFile_eq hkept hhost hlocal (beq_iff_eq.1 hfile)
  · split
    · -- The slashes are passed over, and an authority does not begin with one.
      have hne : a.text ≠ [] :=
        List.append_ne_nil_of_left_ne_nil (List.append_ne_nil_of_right_ne_nil _ h.parts.host.ne_nil) _
      have hstop : ∀ c ∈ (a.text ++ (u.path ++ suffixText u.query u.fragment)).head?,
          (c == '/' || c == '\\') = false := by
        intro c hc
        rw [List.head?_append_of_ne_nil _ hne] at hc
        have hends := (h.parts.chars c (List.mem_of_mem_head? hc)).2
        simp only [endsAuthority, Bool.true_and, Bool.or_eq_false_iff] at hends
        rw [hends.1.1.1, hends.2]
        rfl
      have hslashes := dropWhile_append_of_stop (p := fun c => c == '/' || c == '\\') (a := ['/', '/'])
        (List.all_eq_true.1 (by decide)) hstop
      rw [List.cons_append, List.cons_append, List.nil_append] at hslashes
      rw [hslashes]
      exact h.parseWithAuthority_eq hkept hhost ‹host ≠ .domain []›
    · exact h.parseWithAuthority_eq hkept hhost hne

/-- The text of an address that loses its host is read as an address without one. -/
theorem Written.exists_parse_of_losesHost (h : Written u a) (hlost : u.LosesHost)
    (hhost : readHost u.scheme a.host.text = .ok host) (hlocal : host ≠ .domain "localhost".toList) :
    ∃ read, parse u.text = .ok read ∧ read.host? = none := by
  have hfile := hlost.1
  have hspecial : isSpecial u.scheme = true := by
    rw [hfile]
    decide
  rw [readHost, if_pos hspecial] at hhost
  unfold parse
  rw [significant_of_visible fun c => h.isVisible_of_mem_text, text_eq h.authority,
    scheme?_of_written h.scheme]
  dsimp only
  rw [if_pos (beq_iff_eq.2 hfile), h.parseFile_text hfile hhost hlocal,
    if_pos ((h.any_head?_readSteps_iff hfile).2 hlost)]
  exact ⟨_, rfl, rfl⟩

/-! ### What is read is written -/

theorem written_of_parseWithAuthority (hscheme : WrittenScheme scheme)
    (hfile : scheme ≠ "file".toList) (h : parseWithAuthority scheme text = .ok u)
    (ha : u.authority = some a) (hhost : WrittenHost a.host.text) : Written u a := by
  unfold parseWithAuthority at h
  simp only [bind, Except.bind, pure, Except.pure] at h
  split at h
  · cases h
  · next hauthority =>
    cases h
    cases ha
    refine ⟨hscheme, rfl, writtenAuthority_of_parseAuthority hauthority hhost, ?_,
      isEncoded_query_withSuffix _ _, isEncoded_fragment_withSuffix _ _, fun he => absurd he hfile⟩
    simp only [withSuffix]
    split
    · next hnone =>
      simp only [Bool.and_eq_true, Bool.not_eq_true'] at hnone
      exact .inl ⟨rfl, hnone.1⟩
    · obtain ⟨steps, hsteps, hwritten⟩ := exists_writtenSteps_parsePath scheme _
      exact .inr ⟨steps, hsteps, hwritten⟩

/-- A file has a host and a path. -/
theorem exists_of_parseFile (h : parseFile scheme text = .ok u) : ∃ host path suffix,
    u = withSuffix ⟨scheme, some { host }, parsePath scheme path, none, none⟩ suffix := by
  unfold parseFile at h
  extract_lets slash at h
  split at h
  next hostText rest _ =>
  dsimp only at h
  split at h <;>
    · obtain ⟨host, -, h⟩ := Json.bind_eq_ok_iff.1 h
      cases h
      exact ⟨_, _, _, rfl⟩

theorem written_of_parseFile (hscheme : WrittenScheme scheme) (h : parseFile scheme text = .ok u)
    (ha : u.authority = some a) (hhost : WrittenHost a.host.text) : Written u a := by
  obtain ⟨host, path, suffix, rfl⟩ := exists_of_parseFile h
  cases ha
  obtain ⟨steps, hsteps, hwritten⟩ := exists_writtenSteps_parsePath scheme path
  exact
    { scheme := hscheme
      authority := rfl
      parts := ⟨.inl rfl, hhost, fun p hp => nomatch hp⟩
      path := .inr ⟨steps, hsteps, hwritten⟩
      query := isEncoded_query_withSuffix _ _
      fragment := isEncoded_fragment_withSuffix _ _
      file := fun _ => ⟨rfl, rfl⟩ }

/-- **What is read is written**, if its host is. -/
theorem written_of_parse (h : parse text = .ok u) (ha : u.authority = some a)
    (hhost : WrittenHost a.host.text) : Written u a := by
  unfold parse at h
  split at h
  · cases h
  · next scheme rest hscheme =>
    replace hscheme := writtenScheme_of_scheme? hscheme
    split at h
    · next hfile => exact written_of_parseFile hscheme h ha hhost
    · next hfile =>
      have hfile : scheme ≠ "file".toList := fun he => hfile (beq_iff_eq.2 he)
      split at h
      · exact written_of_parseWithAuthority hscheme hfile h ha hhost
      · split at h
        · exact written_of_parseWithAuthority hscheme hfile h ha hhost
        · -- Without an authority, there is no host.
          injection h with h
          rw [← h] at ha
          cases ha

end LivePreview.Url
