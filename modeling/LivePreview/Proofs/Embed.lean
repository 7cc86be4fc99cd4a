import LivePreview.Embed
import LivePreview.Proofs.Url.Form
import LivePreview.Proofs.Url.Host
/-!
# LivePreview.Proofs.Embed

**The private form of an address has none itself.** The address that is made up for a player is written
as an address is written, and so it is read as what it was meant to be: the player without cookies, with
the query pairs of the video, or a player that is asked not to track. Neither is mapped again, and so a
mapping that runs whenever an address changes comes to an end.
-/

namespace LivePreview.Embed

open Text (isBlank isAsciiAlnum isDigit lowerAscii)
open Url (Written WrittenHost WrittenStep)

variable {u : Url} {name : List Char} {kept : List (List Char × List Char)}

/-! ### Reading the mapping -/

/-- The text of the private form of an address on a host, in small letters. -/
def formOn? (host : String) (u : Url) : Option (List Char) :=
  let steps := u.pathSteps.filter (!·.isEmpty)
  if watchHosts.contains host then watchForm? u steps
  else if host = "youtu.be" then
    match steps with
    | [name] => cookielessPlayer? name (pairs u)
    | _ => none
  else if host = "player.vimeo.com" then untrackedPlayer? u
  else if host = "vimeo.com" || host = "www.vimeo.com" then
    match steps with
    | [name] =>
      if isVideoNumber name then
        some ("https://player.vimeo.com/video/".toList ++ name ++ "?dnt=1".toList)
      else none
    | _ => none
  else none

theorem privateForm?_of_parse {source : String} (h : Url.parse (Text.trim source.toList) = .ok u) :
    privateForm? source =
      u.host?.bind fun host => (formOn? (String.ofList (lowerAscii host)) u).map String.ofList := by
  have hmap : ∀ text : Option (List Char),
      (text.bind fun form => some (String.ofList form)) = text.map String.ofList := by
    intro text
    cases text <;> rfl
  unfold privateForm?
  rw [h]
  dsimp only [Option.bind_eq_bind]
  cases u.host? with
  | none => rfl
  | some host =>
    rw [Option.bind_some, Option.bind_some, formOn?]
    generalize u.pathSteps.filter (!·.isEmpty) = steps
    -- Only one step names a video.
    rcases steps with _ | ⟨name, _ | ⟨next, rest⟩⟩ <;>
      · dsimp only
        split_ifs <;> first | rfl | exact hmap _

/-- The query pairs that a player keeps: all of them, except that a page to watch gives up those that
name the video. -/
def keptPairs (u : Url) : List (List Char × List Char) :=
  if u.pathSteps.filter (!·.isEmpty) = ["watch".toList] then (pairs u).filter (·.1 != ['v'])
  else pairs u

/-- An address on the first service is mapped to the player without cookies. -/
theorem exists_of_watchForm? {text : List Char}
    (h : watchForm? u (u.pathSteps.filter (!·.isEmpty)) = some text) :
    ∃ name, cookielessPlayer? name (keptPairs u) = some text := by
  unfold keptPairs
  generalize u.pathSteps.filter (!·.isEmpty) = steps at h ⊢
  unfold watchForm? at h
  split at h
  · next hsteps =>
    obtain ⟨step, rfl, hstep⟩ := List.map_eq_singleton_iff.1 hsteps
    obtain rfl : step = "watch".toList := by rw [← hstep, String.toList_ofList]
    obtain ⟨found, -, h⟩ := Option.bind_eq_some_iff.1 h
    exact ⟨found.2, by rw [if_pos rfl]; exact h⟩
  · next kind name hsteps =>
    split at h
    · refine ⟨name.toList, ?_⟩
      rw [if_neg]
      · exact h
      · rintro rfl
        cases hsteps
    · cases h
  · cases h

/-- What is mapped becomes the player without cookies, or a player that is asked not to track. -/
theorem formOn?_cases {host text : List Char}
    (h : formOn? (String.ofList (lowerAscii host)) u = some text) :
    (∃ name, cookielessPlayer? name (keptPairs u) = some text) ∨
      (lowerAscii host = "player.vimeo.com".toList ∧ untrackedPlayer? u = some text) ∨
      ∃ name, isVideoNumber name = true ∧
        text = "https://player.vimeo.com/video/".toList ++ name ++ "?dnt=1".toList := by
  unfold formOn? at h
  dsimp only at h
  split at h
  · exact .inl (exists_of_watchForm? h)
  · split at h
    · split at h
      · next name hsteps =>
        -- The step is no page to watch, as that is too short for the name of a video.
        refine .inl ⟨name, ?_⟩
        have hname : isVideoName name = true := by
          unfold cookielessPlayer? at h
          split at h
          · assumption
          · cases h
        rw [keptPairs, if_neg]
        · exact h
        · rw [hsteps]
          intro he
          rw [(List.cons.inj he).1] at hname
          exact absurd hname (by decide)
      · cases h
    · split at h
      · next hhost =>
        refine .inr (.inl ⟨?_, h⟩)
        rw [← hhost, String.toList_ofList]
      · split at h
        · split at h
          · split at h
            · next hnumber => exact .inr (.inr ⟨_, hnumber, (Option.some.inj h).symm⟩)
            · cases h
          · cases h
        · cases h

/-! ### Names of videos -/

/-- May `c` stand in the name of a video? -/
def isNameChar (c : Char) : Bool :=
  isAsciiAlnum c || c == '_' || c == '-'

theorem isVisible_of_isNameChar {c : Char} (h : isNameChar c = true) : Url.isVisible c = true := by
  rw [isNameChar, Bool.or_eq_true, Bool.or_eq_true, beq_iff_eq, beq_iff_eq] at h
  rcases h with (h | rfl) | rfl
  · exact Url.isVisible_of_isAsciiAlnum h
  all_goals decide

/-- The name of a video is a written step. -/
theorem writtenStep_of_name (h : ∀ c ∈ name, isNameChar c = true) : WrittenStep true name := by
  have hnone : Url.dot? name = none := by
    unfold Url.dot?
    split
    · exact absurd List.mem_cons_self (Text.not_mem_of_forall_class h (by decide))
    · exact absurd List.mem_cons_self (Text.not_mem_of_forall_class h (by decide))
    · exact absurd List.mem_cons_self (Text.not_mem_of_forall_class h (by decide))
    · rfl
  refine ⟨Text.not_mem_of_forall_class h (by decide),
    fun _ => Text.not_mem_of_forall_class h (by decide), fun c hc => ?_, ?_, ?_⟩
  · exact ⟨isVisible_of_isNameChar (h c hc), Text.not_mem_of_class (h c hc) (by decide)⟩
  · rw [hnone]
    exact nofun
  · rw [hnone]
    exact nofun

theorem isNameChar_of_isVideoName (h : isVideoName name = true) : ∀ c ∈ name, isNameChar c = true := by
  rw [isVideoName, Bool.and_eq_true, List.all_eq_true] at h
  exact h.2

theorem isNameChar_of_isVideoNumber (h : isVideoNumber name = true) :
    ∀ c ∈ name, isNameChar c = true := by
  rw [isVideoNumber, Bool.and_eq_true, List.all_eq_true] at h
  intro c hc
  rw [isNameChar, isAsciiAlnum, h.2 c hc, Bool.or_true, Bool.true_or, Bool.true_or]

/-! ### Players -/

/-- A player, by its host, the steps of its path, and its query. -/
def playerOn (host : List Char) (steps : List (List Char)) (query : Option (List Char)) : Url where
  scheme := "https".toList
  authority := some { host := .domain host }
  path := Url.pathText steps
  query := query
  fragment := none

theorem text_playerOn (host : List Char) (steps : List (List Char)) (query : Option (List Char)) :
    (playerOn host steps query).text =
      "https://".toList ++ host ++ Url.pathText steps ++ Url.suffixText query none := by
  rw [Url.text_eq (a := { host := .domain host }) rfl]
  simp [playerOn, Url.Authority.text, Url.Host.text, Url.portText]

/-- A player is written as it is read, if its steps are spelled like names. -/
theorem written_playerOn {host : List Char} {steps : List (List Char)} {query : Option (List Char)}
    (hhost : WrittenHost host) (hne : steps ≠ [])
    (hsteps : ∀ s ∈ steps, ∀ c ∈ s, isNameChar c = true)
    (hquery : ∀ q ∈ query, Url.IsEncoded Url.specialQuerySet q) :
    Written (playerOn host steps query) { host := .domain host } := by
  have hscheme : Url.WrittenScheme "https".toList :=
    ⟨⟨'h', "ttps".toList, rfl, by decide, List.all_eq_true.1 (by decide)⟩, by decide⟩
  have hfile : "https".toList ≠ "file".toList := by decide
  have hwritten : Url.WrittenSteps "https".toList steps :=
    ⟨hne, fun s hs => writtenStep_of_name (hsteps s hs), fun he => absurd he hfile⟩
  exact
    { scheme := hscheme
      authority := rfl
      parts := ⟨.inl rfl, hhost, fun p hp => nomatch hp⟩
      path := .inr ⟨steps, rfl, hwritten⟩
      query := hquery
      fragment := fun f hf => nomatch hf
      file := fun he => absurd he hfile }

/-- It is read from its text. -/
theorem parse_playerOn {host : List Char} {steps : List (List Char)} {query : Option (List Char)}
    (hwritten : Written (playerOn host steps query) { host := .domain host })
    (hread : Url.parseHost host = .ok (.domain host)) (hlocal : host ≠ "localhost".toList) :
    Url.parse (playerOn host steps query).text = .ok (playerOn host steps query) := by
  refine hwritten.parse_eq_ok (fun hlost => absurd hlost.1 (by decide : "https".toList ≠ "file".toList))
    hread ?_ ?_
  · intro he
    exact hwritten.parts.host.ne_nil (Url.Host.domain.inj he)
  · intro he
    exact hlocal (Url.Host.domain.inj he)

/-- The hosts of the two players are written, and are read as they are written. -/
theorem writtenHost_cookieless : WrittenHost "www.youtube-nocookie.com".toList :=
  Url.writtenHost_of_letters (by decide) (List.all_eq_true.1 (by decide))

theorem parseHost_cookieless : Url.parseHost "www.youtube-nocookie.com".toList =
    .ok (.domain "www.youtube-nocookie.com".toList) :=
  Url.parseHost_eq_ok_of_letters (List.all_eq_true.1 (by decide)) (by decide) (by decide)

theorem writtenHost_player : WrittenHost "player.vimeo.com".toList :=
  Url.writtenHost_of_letters (by decide) (List.all_eq_true.1 (by decide))

theorem parseHost_player :
    Url.parseHost "player.vimeo.com".toList = .ok (.domain "player.vimeo.com".toList) :=
  Url.parseHost_eq_ok_of_letters (List.all_eq_true.1 (by decide)) (by decide) (by decide)

/-- Nothing is trimmed from a text that can be seen. -/
theorem trim_of_visible {text : List Char} (h : ∀ c ∈ text, Url.isVisible c = true) :
    Text.trim text = text := by
  have hblank : ∀ c ∈ text, isBlank c = false := by
    intro c hc
    have hvisible := h c hc
    simp only [Url.isVisible, Bool.and_eq_true, decide_eq_true_eq] at hvisible
    rw [Bool.eq_false_iff]
    intro hb
    obtain ⟨r, hr, hlow, hhigh⟩ := Text.Ranges.exists_of_has hb
    have hranges : ∀ r ∈ Text.blankRanges, r.2 < 33 ∨ 126 < r.1 := by decide
    have := hranges r hr
    omega
  exact Text.trim_eq_self (fun c hc => hblank c (List.mem_of_mem_head? hc))
    fun c hc => hblank c (List.mem_of_mem_getLast? hc)

/-! ### What the players are -/

/-- Is it the player without cookies for a video, with these query pairs? -/
structure Cookieless (player : Url) (kept : List (List Char × List Char)) : Prop where
  scheme : player.scheme = "https".toList
  authority : player.authority = some { host := .domain "www.youtube-nocookie.com".toList }
  path : ∃ name, player.path = "/embed/".toList ++ name ∧ isVideoName name = true
  fragment : player.fragment = none
  pairs : pairs player = kept

/-- Is it a player of the second service that is asked not to track? -/
structure Untracked (player : Url) : Prop where
  host : ∃ host, player.host? = some host ∧ lowerAscii host = "player.vimeo.com".toList
  asked : ∃ value, ("dnt".toList, value) ∈ pairs player

theorem Cookieless.formOn?_eq_none (u : Url) : formOn? "www.youtube-nocookie.com" u = none := by
  unfold formOn?
  rw [if_neg (by decide), if_neg (by decide), if_neg (by decide), if_neg (by decide)]

theorem Untracked.formOn?_eq_none {player : Url} (h : Untracked player) :
    formOn? "player.vimeo.com" player = none := by
  obtain ⟨value, hvalue⟩ := h.asked
  have hasked : (Embed.pairs player).any (fun pair => pair.1 == "dnt".toList) = true :=
    List.any_eq_true.2 ⟨_, hvalue, beq_self_eq_true _⟩
  unfold formOn?
  rw [if_neg (by decide), if_neg (by decide), if_pos rfl]
  exact if_pos hasked

/-- The player without cookies is read as what it is meant to be. -/
theorem cookielessPlayer?_eq_some {text : List Char} (h : cookielessPlayer? name kept = some text) :
    ∃ player, player.text = text ∧ (∀ c ∈ text, Url.isVisible c = true) ∧
      Url.parse text = .ok player ∧ Cookieless player kept := by
  unfold cookielessPlayer? at h
  split at h
  · next hname =>
    let query := if kept.isEmpty then none else some (Url.appendPairs [] kept)
    let player := playerOn "www.youtube-nocookie.com".toList ["embed".toList, name] query
    have htext : player.text = text := by
      have hfront : "https://www.youtube-nocookie.com/embed/".toList =
          "https://".toList ++ "www.youtube-nocookie.com".toList ++ "/embed/".toList := by decide
      rw [← Option.some.inj h, hfront, text_playerOn]
      simp only [query]
      split <;> simp [Url.pathText, Url.suffixText]
    have hwritten : Written player { host := .domain "www.youtube-nocookie.com".toList } := by
      refine written_playerOn writtenHost_cookieless (List.cons_ne_nil _ _) ?_ fun q hq => ?_
      · exact List.forall_mem_cons.2 ⟨List.all_eq_true.1 (by decide),
          List.forall_mem_singleton.2 (isNameChar_of_isVideoName hname)⟩
      · simp only [query] at hq
        split at hq
        · cases hq
        · rw [← Option.some.inj hq]
          exact Url.isEncoded_appendPairs (List.Subset.refl _) (fun _ hc => absurd hc List.not_mem_nil) kept
    refine ⟨player, htext, ?_, ?_, rfl, rfl, ⟨name, ?_, hname⟩, rfl, ?_⟩
    · rw [← htext]
      exact fun c hc => hwritten.isVisible_of_mem_text hc
    · rw [← htext]
      exact parse_playerOn hwritten parseHost_cookieless (by decide)
    · simp [player, playerOn, Url.pathText]
    · have hnone : Url.queryPairs [] = [] := rfl
      show Url.queryPairs (query.getD []) = kept
      simp only [query]
      split
      · next hempty => rw [List.isEmpty_iff.1 hempty, Option.getD_none, hnone]
      · rw [Option.getD_some, Url.queryPairs_appendPairs, hnone, List.nil_append]
  · cases h

/-- A player that was asked not to track is read as that, unless it is read without its host. -/
theorem untrackedPlayer?_eq_some {source host text : List Char} (hparse : Url.parse source = .ok u)
    (hhost : u.host? = some host) (hname : lowerAscii host = "player.vimeo.com".toList)
    (h : untrackedPlayer? u = some text) :
    ∃ written read, written.text = text ∧ (∀ c ∈ text, Url.isVisible c = true) ∧
      Url.parse text = .ok read ∧ Untracked written ∧
      (Untracked read ∨ u.LosesHost ∧ read.host? = none) := by
  -- The address has an authority, and its host is the known one but for the case of its letters.
  obtain ⟨a, ha, hahost⟩ : ∃ a, u.authority = some a ∧ a.host.text = host := by
    unfold Url.host? at hhost
    split at hhost
    · next a ha =>
      split at hhost
      · cases hhost
      · exact ⟨a, ha, Option.some.inj hhost⟩
    · cases hhost
  obtain ⟨hwrittenHost, read, hread, hlower⟩ :=
    Url.exists_readHost (List.all_eq_true.1 (by decide)) (by decide) parseHost_player hname u.scheme
  rw [← hahost] at hwrittenHost hread
  have hu : Written u a := Url.written_of_parse hparse ha hwrittenHost
  unfold untrackedPlayer? at h
  dsimp only at h
  split at h
  · cases h
  · let asked := Url.appendPairs (u.query.getD []) [("dnt".toList, ['1'])]
    let address : Url := { u with query := some asked }
    have htext : address.text = text := Option.some.inj h
    have haddress : Written address a := by
      refine ⟨hu.scheme, ha, hu.parts, hu.path, fun q hq => ?_, hu.fragment, hu.file⟩
      obtain rfl := Option.some.inj hq
      refine Url.isEncoded_appendPairs ?_ ?_ _
      · show Url.querySetOf u.scheme ⊆ _
        unfold Url.querySetOf
        split
        · exact List.Subset.refl _
        · exact List.subset_cons_self _ _
      · cases hquery : u.query with
        | none => exact fun _ hc => absurd hc List.not_mem_nil
        | some q => exact hu.query q hquery
    have hasked : ("dnt".toList, ['1']) ∈ Url.queryPairs asked := by
      simp only [asked]
      rw [Url.queryPairs_appendPairs]
      exact List.mem_append_right _ (List.mem_singleton_self _)
    have hne : ∀ name : List Char, lowerAscii name ≠ "player.vimeo.com".toList →
        Url.Host.domain read ≠ .domain name := by
      intro name hname he
      obtain rfl := Url.Host.domain.inj he
      exact hname hlower
    have hvisible : ∀ c ∈ text, Url.isVisible c = true := by
      rw [← htext]
      exact fun c hc => haddress.isVisible_of_mem_text hc
    have huntracked : Untracked address := ⟨⟨host, hhost, hname⟩, ['1'], hasked⟩
    by_cases hlost : u.LosesHost
    · obtain ⟨short, hshort, hnoHost⟩ :=
        haddress.exists_parse_of_losesHost hlost hread (hne "localhost".toList (by decide))
      rw [htext] at hshort
      exact ⟨address, short, htext, hvisible, hshort, huntracked, .inr ⟨hlost, hnoHost⟩⟩
    · have hparsed := haddress.parse_eq_ok hlost hread (hne [] (by decide)) (hne "localhost".toList (by decide))
      rw [htext] at hparsed
      refine ⟨address, _, htext, hvisible, hparsed, huntracked, .inl ⟨⟨read, ?_, hlower⟩, ['1'], hasked⟩⟩
      have hread : read.isEmpty = false :=
        List.isEmpty_eq_false_iff.2 fun he => hne [] (by decide) (congrArg Url.Host.domain he)
      exact if_neg (Bool.eq_false_iff.1 hread)

/-- The player of a numbered video is asked not to track. -/
theorem untracked_of_isVideoNumber (h : isVideoNumber name = true) :
    let text := "https://player.vimeo.com/video/".toList ++ name ++ "?dnt=1".toList
    ∃ player, player.text = text ∧ (∀ c ∈ text, Url.isVisible c = true) ∧
      Url.parse text = .ok player ∧ Untracked player := by
  intro text
  let query := Url.appendPairs [] [("dnt".toList, ['1'])]
  let player := playerOn "player.vimeo.com".toList ["video".toList, name] (some query)
  have htext : player.text = text := by
    have hfront : "https://player.vimeo.com/video/".toList =
        "https://".toList ++ "player.vimeo.com".toList ++ "/video/".toList := by decide
    have hquery : "?dnt=1".toList = '?' :: query := by decide
    simp only [text, player]
    rw [hfront, hquery, text_playerOn]
    simp [Url.pathText, Url.suffixText]
  have hwritten : Written player { host := .domain "player.vimeo.com".toList } := by
    refine written_playerOn writtenHost_player (List.cons_ne_nil _ _) ?_ fun q hq => ?_
    · exact List.forall_mem_cons.2 ⟨List.all_eq_true.1 (by decide),
        List.forall_mem_singleton.2 (isNameChar_of_isVideoNumber h)⟩
    · obtain rfl := Option.some.inj hq
      decide
  rw [← htext]
  refine ⟨player, rfl, fun c hc => hwritten.isVisible_of_mem_text hc,
    parse_playerOn hwritten parseHost_player (by decide), ⟨_, rfl, by decide⟩, ['1'], ?_⟩
  show ("dnt".toList, ['1']) ∈ Url.queryPairs query
  simp only [query]
  rw [Url.queryPairs_appendPairs]
  exact List.mem_append_right _ (List.mem_singleton_self _)

/-! ### The mapping comes to an end -/

variable {text : List Char} {player : Url}

/-- A text that is read as an address without a private form has none. -/
theorem privateForm?_of_visible {host : List Char} (hvisible : ∀ c ∈ text, Url.isVisible c = true)
    (hparse : Url.parse text = .ok player) (hhost : player.host? = some host)
    (hnone : formOn? (String.ofList (lowerAscii host)) player = none) :
    privateForm? (String.ofList text) = none := by
  rw [privateForm?_of_parse (u := player), hhost, Option.bind_some, hnone]
  · rfl
  · rw [String.toList_ofList, trim_of_visible hvisible]
    exact hparse

theorem Cookieless.privateForm?_eq_none (h : Cookieless player kept)
    (hvisible : ∀ c ∈ text, Url.isVisible c = true) (hparse : Url.parse text = .ok player) :
    privateForm? (String.ofList text) = none := by
  have hhost : player.host? = some "www.youtube-nocookie.com".toList := by
    unfold Url.host?
    rw [h.authority]
    rfl
  exact privateForm?_of_visible hvisible hparse hhost (Cookieless.formOn?_eq_none player)

theorem Untracked.privateForm?_eq_none (h : Untracked player)
    (hvisible : ∀ c ∈ text, Url.isVisible c = true) (hparse : Url.parse text = .ok player) :
    privateForm? (String.ofList text) = none := by
  obtain ⟨host, hhost, hname⟩ := h.host
  refine privateForm?_of_visible hvisible hparse hhost ?_
  rw [hname]
  exact h.formOn?_eq_none

/-- A text that is read as an address without a host has no private form. -/
theorem privateForm?_of_noHost (hvisible : ∀ c ∈ text, Url.isVisible c = true)
    (hparse : Url.parse text = .ok player) (hhost : player.host? = none) :
    privateForm? (String.ofList text) = none := by
  rw [privateForm?_of_parse (u := player), hhost, Option.bind_none]
  rw [String.toList_ofList, trim_of_visible hvisible]
  exact hparse

/-- **The private form of an address has none itself**, and is what it is meant to be: the player
without cookies, with the query pairs of the address, except those that name the video of a page to
watch, or a player that is asked not to track. It is read from its text as such, except that a file whose
path begins with a drive letter is read without its host. -/
theorem privateForm?_settles {source form : String} (h : privateForm? source = some form) :
    privateForm? form = none ∧
      ∃ address written read, Url.parse (Text.trim source.toList) = .ok address ∧
        written.text = form.toList ∧ Url.parse form.toList = .ok read ∧
        (Cookieless written (keptPairs address) ∧ read = written ∨
          Untracked written ∧ (Untracked read ∨ address.LosesHost ∧ read.host? = none)) := by
  cases hparse : Url.parse (Text.trim source.toList) with
  | error e =>
    unfold privateForm? at h
    rw [hparse] at h
    cases h
  | ok address =>
    rw [privateForm?_of_parse hparse] at h
    obtain ⟨host, hhost, h⟩ := Option.bind_eq_some_iff.1 h
    obtain ⟨text, hform, rfl⟩ := Option.map_eq_some_iff.1 h
    rw [String.toList_ofList]
    rcases formOn?_cases hform with ⟨name, hplayer⟩ | ⟨hname, hplayer⟩ | ⟨name, hnumber, rfl⟩
    · obtain ⟨player, htext, hvisible, hread, hplayer⟩ := cookielessPlayer?_eq_some hplayer
      exact ⟨hplayer.privateForm?_eq_none hvisible hread, address, player, player, rfl, htext, hread,
        .inl ⟨hplayer, rfl⟩⟩
    · obtain ⟨written, read, htext, hvisible, hread, hwritten, hplayer⟩ :=
        untrackedPlayer?_eq_some hparse hhost hname hplayer
      refine ⟨?_, address, written, read, rfl, htext, hread, .inr ⟨hwritten, hplayer⟩⟩
      rcases hplayer with hplayer | ⟨-, hnoHost⟩
      · exact hplayer.privateForm?_eq_none hvisible hread
      · exact privateForm?_of_noHost hvisible hread hnoHost
    · obtain ⟨player, htext, hvisible, hread, hplayer⟩ := untracked_of_isVideoNumber hnumber
      exact ⟨hplayer.privateForm?_eq_none hvisible hread, address, player, player, rfl, htext, hread,
        .inr ⟨hplayer, .inl hplayer⟩⟩

/-- A page to watch becomes the player without cookies, which stays as it is. -/
theorem privateForm?_settles_watch :
    privateForm? "https://www.youtube.com/watch?v=dQw4w9WgXcQ&t=42" =
        some "https://www.youtube-nocookie.com/embed/dQw4w9WgXcQ?t=42" ∧
      privateForm? "https://www.youtube-nocookie.com/embed/dQw4w9WgXcQ?t=42" = none ∧
      ∃ address written read,
        Url.parse "https://www.youtube.com/watch?v=dQw4w9WgXcQ&t=42".toList = .ok address ∧
        written.text = "https://www.youtube-nocookie.com/embed/dQw4w9WgXcQ?t=42".toList ∧
        Url.parse "https://www.youtube-nocookie.com/embed/dQw4w9WgXcQ?t=42".toList = .ok read ∧
        (Cookieless written (keptPairs address) ∧ read = written ∨
          Untracked written ∧ (Untracked read ∨ address.LosesHost ∧ read.host? = none)) := by
  have hform : privateForm? "https://www.youtube.com/watch?v=dQw4w9WgXcQ&t=42" =
      some "https://www.youtube-nocookie.com/embed/dQw4w9WgXcQ?t=42" := by decide +kernel
  have htrim : Text.trim "https://www.youtube.com/watch?v=dQw4w9WgXcQ&t=42".toList =
      "https://www.youtube.com/watch?v=dQw4w9WgXcQ&t=42".toList := by decide +kernel
  have hsettled := privateForm?_settles hform
  rw [htrim] at hsettled
  exact ⟨hform, hsettled⟩

/-- An address of a file keeps its host behind empty steps, and loses it as soon as it is written. -/
example : privateForm? "file://player.vimeo.com//C:/video/1" =
    some "file://player.vimeo.com/C:/video/1?dnt=1" := by decide +kernel

end LivePreview.Embed
