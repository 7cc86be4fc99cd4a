import Mathlib.Data.Option.Basic
import LivePreview.Code.Exports
import LivePreview.Proofs.InertLiteral
import LivePreview.Proofs.Text.Lines
import LivePreview.Proofs.Text.Words
/-!
# LivePreview.Proofs.Code.Exports

**What a module body keeps when its export syntax goes.** A reader of export syntax puts blanks and a
stretch of the text that it read in place of what it takes (`Peels`), and a sweep lets readers work
only where a line begins. So left of whatever moves up is a line feed, a blank or nothing, and no mark
comes about that was not there: marks hold no blanks. The names that are collected on the way are
identifiers or words of the body.
-/

namespace LivePreview.Code

open Text

variable {m text rest : List Char}

/-! ### Readers go forward -/

section Suffix

theorem skipSpaces_suffix (text : List Char) : skipSpaces text <:+ text :=
  List.dropWhile_suffix _

theorem trimStart_suffix (text : List Char) : trimStart text <:+ text :=
  List.dropWhile_suffix _

theorem skipChar_suffix (c : Char) (text : List Char) : skipChar c text <:+ text := by
  cases text with
  | nil => exact List.suffix_refl _
  | cons d text =>
    rw [skipChar]
    split
    · exact List.suffix_cons d text
    · exact List.suffix_refl _

theorem word?_suffix {w : String} (h : word? w text = some rest) : rest <:+ text :=
  ⟨w.toList, (dropLead?_eq_some_iff.1 h).symm⟩

theorem gap?_suffix (h : gap? text = some rest) : rest <:+ text := by
  cases text with
  | nil => cases h
  | cons c text =>
    rw [gap?] at h
    split at h
    · cases h
      exact (trimStart_suffix text).trans (List.suffix_cons c text)
    · cases h

theorem wordGap?_suffix {w : String} (h : wordGap? w text = some rest) : rest <:+ text := by
  obtain ⟨behind, hw, hg⟩ := Option.bind_eq_some_iff.1 h
  exact (gap?_suffix hg).trans (word?_suffix hw)

theorem skipWordGap_suffix (w : String) (text : List Char) : skipWordGap w text <:+ text := by
  unfold skipWordGap
  cases h : wordGap? w text with
  | none => exact List.suffix_refl _
  | some rest => exact wordGap?_suffix h

/-- What stands between two marks and what is behind them come one after the other. -/
theorem between?_eq_append {opening closing : Char} {inner : List Char}
    (h : between? opening closing text = some (inner, rest)) :
    text = opening :: inner ++ closing :: rest := by
  cases text with
  | nil => cases h
  | cons c text =>
    rw [between?] at h
    split at h
    · next hc =>
      split at h
      · next d after hd =>
        cases h
        have hclosing : d = closing := by
          have hhead := List.head?_dropWhile_not (· != closing) text
          rw [hd] at hhead
          simpa using hhead
        subst hclosing
        rw [hc, List.cons_append, ← hd, List.takeWhile_append_dropWhile]
      · cases h
    · cases h

theorem between?_suffix {opening closing : Char} {inner : List Char}
    (h : between? opening closing text = some (inner, rest)) : rest <:+ text :=
  ⟨opening :: inner ++ [closing], by simp [between?_eq_append h]⟩

theorem between?_isInfix {opening closing : Char} {inner : List Char}
    (h : between? opening closing text = some (inner, rest)) : inner <:+: text :=
  ⟨[opening], closing :: rest, by simp [between?_eq_append h]⟩

theorem takeIdent?_suffix {name : List Char} (h : takeIdent? text = some (name, rest)) :
    rest <:+ text :=
  ⟨name, takeIdent?_append h⟩

theorem skipLineEnd_suffix (text : List Char) : skipLineEnd text <:+ text :=
  (skipChar_suffix _ _).trans ((skipChar_suffix _ _).trans ((skipSpaces_suffix _).trans
    ((skipChar_suffix _ _).trans (skipSpaces_suffix _))))

theorem exportGap?_suffix (h : exportGap? text = some rest) : rest <:+ text :=
  (wordGap?_suffix h).trans (skipSpaces_suffix text)

theorem fromName?_suffix (h : fromName? text = some rest) : rest <:+ text := by
  simp only [fromName?, Option.bind_eq_bind, Option.bind_eq_some_iff] at h
  obtain ⟨behind, hword, h⟩ := h
  have hbehind := word?_suffix hword
  split at h
  · next quote name hname =>
    have hquote : quote :: name <:+ behind := hname ▸ trimStart_suffix behind
    simp only [Option.bind_eq_some_iff] at h
    obtain ⟨-, -, -, -, h⟩ := h
    split at h
    · next c after hafter =>
      split at h
      · cases h
        have hrest : c :: rest <:+ name := hafter ▸ List.dropWhile_suffix _
        exact (List.suffix_cons c rest).trans
          (hrest.trans ((List.suffix_cons quote name).trans (hquote.trans hbehind)))
      · cases h
    · cases h
  · cases h

end Suffix

/-! ### Sweeps -/

section Sweep

variable {α : Type} {reader : List Char → Option (Hit α)}

/-- What a reader puts in place of what it takes: blanks, and then a stretch of the text that does
not end with a line feed. -/
structure Hit.Peels (hit : Hit α) (text : List Char) : Prop where
  exists_kept : ∃ blanks kept, hit.replacement = blanks ++ kept ∧
    (∀ c ∈ blanks, isBlank c = true) ∧ kept ++ hit.rest <:+ text ∧ kept.getLast? ≠ some '\n'

/-- Whatever the reader recognises, it peels. -/
def Peels (reader : List Char → Option (Hit α)) : Prop :=
  ∀ text hit, reader text = some hit → hit.Peels text

/-- A step of a sweep keeps a character, or it replaces what is recognised at the start of a line. -/
theorem sweep_cons (reader : List Char → Option (Hit α)) (atStart : Bool) (c : Char)
    (rest : List Char) :
    (sweep reader atStart (c :: rest) =
      ((sweep reader (c == '\n') rest).1, c :: (sweep reader (c == '\n') rest).2)) ∨
    atStart = true ∧ ∃ hit, reader (c :: rest) = some hit ∧ hit.rest.length < rest.length + 1 ∧
      sweep reader atStart (c :: rest) =
        (hit.result :: (sweep reader (startsLine (c :: rest) hit.rest) hit.rest).1,
          hit.replacement ++ (sweep reader (startsLine (c :: rest) hit.rest) hit.rest).2) := by
  rw [sweep]
  dsimp only
  split
  · next hstart =>
    split
    · exact .inl rfl
    · next hit hhit =>
      split
      · next hlen => exact .inr ⟨hstart, hit, hhit, hlen, rfl⟩
      · exact .inl rfl
  · exact .inl rfl

/-- The induction along a sweep: from what is behind a character that is kept or a hit to the text with
the character or the hit in front. -/
theorem sweep_induction (reader : List Char → Option (Hit α)) {motive : Bool → List Char → Prop}
    (nil : ∀ atStart, motive atStart [])
    (keep : ∀ atStart c rest, (sweep reader atStart (c :: rest)).2 = c :: (sweep reader (c == '\n') rest).2 →
      (sweep reader atStart (c :: rest)).1 = (sweep reader (c == '\n') rest).1 →
      motive (c == '\n') rest → motive atStart (c :: rest))
    (hit : ∀ text hit, reader text = some hit → 
      (sweep reader true text).2 = hit.replacement ++ (sweep reader (startsLine text hit.rest) hit.rest).2 →
      (sweep reader true text).1 = hit.result :: (sweep reader (startsLine text hit.rest) hit.rest).1 →
      motive (startsLine text hit.rest) hit.rest → motive true text)
    (atStart : Bool) (text : List Char) : motive atStart text := by
  induction hn : text.length using Nat.strongRecOn generalizing text atStart with
  | _ n ih =>
    cases text with
    | nil => exact nil atStart
    | cons c rest =>
      rw [List.length_cons] at hn
      rcases sweep_cons reader atStart c rest with he | ⟨rfl, found, hhit, hlen, he⟩
      · exact keep atStart c rest (by rw [he]) (by rw [he]) (ih rest.length (by omega) _ rest rfl)
      · exact hit _ found hhit (by rw [he]) (by rw [he]) (ih found.rest.length (by omega) _ found.rest rfl)

/-- Within a line, a sweep begins with the characters that it reads. -/
theorem prefix_of_prefix_sweep {p : List Char} (hp : '\n' ∉ p) (text : List Char)
    (h : p <+: (sweep reader false text).2) : p <+: text := by
  induction p generalizing text with
  | nil => exact List.nil_prefix
  | cons d p ih =>
    rw [List.mem_cons, not_or] at hp
    cases text with
    | nil =>
      rw [sweep] at h
      exact absurd (List.prefix_nil.1 h) (List.cons_ne_nil d p)
    | cons c rest =>
      rcases sweep_cons reader false c rest with he | ⟨hstart, -⟩
      · rw [he] at h
        obtain ⟨rfl, h⟩ := List.cons_prefix_cons.1 h
        have hline : (d == '\n') = false := by simpa using Ne.symm hp.1
        rw [hline] at h
        exact List.cons_prefix_cons.2 ⟨rfl, ih hp.2 rest h⟩
      · exact absurd hstart Bool.false_ne_true

/-- Behind a hit that keeps something at its end, the sweep goes on within the line. -/
theorem startsLine_of_kept {kept : List Char} (hs : kept ++ rest <:+ text) (hne : kept ≠ [])
    (hl : kept.getLast? ≠ some '\n') : startsLine text rest = false := by
  obtain ⟨before, rfl⟩ := hs
  have htake : (before ++ (kept ++ rest)).take ((before ++ (kept ++ rest)).length - rest.length) =
      before ++ kept := by
    rw [← List.append_assoc, List.length_append, Nat.add_sub_cancel, List.take_left]
  rw [startsLine, htake, List.getLast?_append_of_ne_nil _ hne]
  simpa using hl

/-- A mark has no line feed. -/
theorem feed_not_mem_mark (hm : m ∈ marks) : '\n' ∉ m := by
  have hall : ∀ m ∈ marks, '\n' ∉ m := by decide
  exact hall m hm

/-- Blanks hold nothing of a mark. -/
theorem sealed_of_blanks {blanks : List Char} (h : ∀ c ∈ blanks, isBlank c = true) :
    Sealed blanks :=
  .of_not_mem fun hc => absurd (h '<' hc) (by decide)

/-- A mark in what is kept and what the sweep makes of the rest stands in one of the two, or it stood
across them before. -/
theorem infix_kept_sweep {kept : List Char} (hm : m ∈ marks) (hs : kept ++ rest <:+ text)
    (hl : kept.getLast? ≠ some '\n')
    (hi : m <:+: kept ++ (sweep reader (startsLine text rest) rest).2) :
    m <:+: kept ++ rest ∨ m <:+: (sweep reader (startsLine text rest) rest).2 := by
  rcases List.infix_append_iff.1 hi with hi | hi | ⟨front, back, hmark, hfront, hback⟩
  · exact .inl (hi.trans (List.prefix_append kept rest).isInfix)
  · exact .inr hi
  · rcases eq_or_ne kept [] with rfl | hne
    · rw [List.suffix_nil.1 hfront, List.nil_append] at hmark
      rw [hmark]
      exact .inr hback.isInfix
    · rw [startsLine_of_kept hs hne hl] at hback
      have hfeed : '\n' ∉ back := fun hb =>
        feed_not_mem_mark hm (hmark ▸ List.mem_append_right front hb)
      have hback := prefix_of_prefix_sweep hfeed rest hback
      exact .inl (List.infix_append_iff.2 (.inr (.inr ⟨front, back, hmark, hfront, hback⟩)))

/-- **A sweep brings no mark about.** -/
theorem markless_sweep (hr : Peels reader) (atStart : Bool) (h : Markless text) :
    Markless (sweep reader atStart text).2 := by
  induction atStart, text using sweep_induction reader with
  | nil atStart =>
    rw [sweep]
    exact h
  | keep atStart c rest he _ ih =>
    intro m hm hi
    rw [he] at hi
    rcases List.infix_cons_iff.1 hi with hi | hi
    · -- A mark that begins with a kept character goes on within the line.
      obtain ⟨p, rfl, -⟩ := mark_eq_cons hm
      have hfeed := feed_not_mem_mark hm
      rw [List.mem_cons, not_or] at hfeed
      obtain ⟨rfl, hp⟩ := List.cons_prefix_cons.1 hi
      have hp := prefix_of_prefix_sweep hfeed.2 rest hp
      exact h _ hm (List.cons_prefix_cons.2 ⟨rfl, hp⟩).isInfix
    · exact ih (h.of_isInfix (List.suffix_cons c rest).isInfix) m hm hi
  | hit text hit hhit he _ ih =>
    intro m hm hi
    obtain ⟨blanks, kept, hreplacement, hblanks, hs, hl⟩ := (hr _ hit hhit).exists_kept
    have hkept : Markless (kept ++ hit.rest) := h.of_isInfix hs.isInfix
    rw [he, hreplacement, List.append_assoc] at hi
    rcases infix_kept_sweep hm hs hl ((sealed_of_blanks hblanks m hm).infix_append hi) with hi | hi
    · exact hkept m hm hi
    · exact ih (hkept.of_isInfix (List.suffix_append kept _).isInfix) m hm hi

/-- What a sweep collects was recognised somewhere in the text. -/
theorem exists_hit_of_mem_sweep {result : α} (hr : Peels reader) (atStart : Bool)
    (h : result ∈ (sweep reader atStart text).1) :
    ∃ line hit, line <:+ text ∧ reader line = some hit ∧ hit.result = result := by
  induction atStart, text using sweep_induction reader with
  | nil atStart =>
    rw [sweep] at h
    exact absurd h List.not_mem_nil
  | keep atStart c rest _ he ih =>
    rw [he] at h
    obtain ⟨line, hit, hline, hhit⟩ := ih h
    exact ⟨line, hit, hline.trans (List.suffix_cons c rest), hhit⟩
  | hit text hit hhit _ he ih =>
    rw [he] at h
    rcases List.mem_cons.1 h with rfl | h
    · exact ⟨_, hit, List.suffix_refl _, hhit, rfl⟩
    · obtain ⟨-, kept, -, -, hs, -⟩ := (hr _ hit hhit).exists_kept
      obtain ⟨line, hit', hline, hhit'⟩ := ih h
      exact ⟨line, hit', hline.trans ((List.suffix_append kept _).trans hs), hhit'⟩

end Sweep

/-! ### The readers of export syntax -/

/-- Whatever the reader recognises is a statement that is removed. -/
def Removes {α : Type} (reader : List Char → Option (Hit α)) : Prop :=
  ∀ text hit, reader text = some hit → ∃ rest, rest <:+ text ∧ hit = remove hit.result rest

/-- A statement that is removed leaves nothing. -/
theorem Removes.peels {α : Type} {reader : List Char → Option (Hit α)} (hr : Removes reader) :
    Peels reader := by
  intro text hit h
  obtain ⟨rest, hrest, he⟩ := hr text hit h
  rw [he]
  exact ⟨[], [], rfl, fun _ hc => absurd hc List.not_mem_nil, (skipLineEnd_suffix rest).trans hrest, by simp⟩

theorem removes_starReexport : Removes starReexport? := by
  intro text hit h
  simp only [starReexport?, Option.bind_eq_bind, Option.bind_eq_some_iff] at h
  obtain ⟨behind, hgap, starred, hstar, h⟩ := h
  have hstarred : trimStart starred <:+ text :=
    (trimStart_suffix starred).trans ((word?_suffix hstar).trans
      ((skipWordGap_suffix _ behind).trans (exportGap?_suffix hgap)))
  split at h
  · next named hwith =>
    simp only [Option.bind_eq_some_iff] at h
    obtain ⟨⟨name, behind⟩, hident, rest, hgap, after, hname, h⟩ := h
    cases h
    exact ⟨after, (fromName?_suffix hname).trans ((gap?_suffix hgap).trans
      ((takeIdent?_suffix hident).trans ((wordGap?_suffix hwith).trans hstarred))), rfl⟩
  · simp only [Option.bind_some, Option.bind_eq_some_iff] at h
    obtain ⟨after, hname, h⟩ := h
    cases h
    exact ⟨after, (fromName?_suffix hname).trans hstarred, rfl⟩

theorem removes_listReexport : Removes listReexport? := by
  intro text hit h
  simp only [listReexport?, Option.bind_eq_bind, Option.bind_eq_some_iff] at h
  obtain ⟨behind, hgap, ⟨inner, rest⟩, hlist, after, hname, h⟩ := h
  cases h
  exact ⟨after, (fromName?_suffix hname).trans ((trimStart_suffix rest).trans
    ((between?_suffix hlist).trans ((skipWordGap_suffix _ behind).trans (exportGap?_suffix hgap)))), rfl⟩

theorem removes_typeList : Removes typeList? := by
  intro text hit h
  simp only [typeList?, Option.bind_eq_bind, Option.bind_eq_some_iff] at h
  obtain ⟨behind, hgap, typed, htype, ⟨inner, rest⟩, hlist, h⟩ := h
  cases h
  exact ⟨rest, (between?_suffix hlist).trans ((wordGap?_suffix htype).trans (exportGap?_suffix hgap)), rfl⟩

/-- The list of a module's own names is a stretch of the text. -/
theorem exportList?_eq_some {hit : Hit (List ExportName)} (h : exportList? text = some hit) :
    ∃ list rest, list <:+: text ∧ rest <:+ text ∧ hit = remove (exportItems list) rest := by
  simp only [exportList?, Option.bind_eq_bind, Option.bind_eq_some_iff] at h
  obtain ⟨behind, hword, ⟨list, rest⟩, hlist, h⟩ := h
  cases h
  have hback : trimStart behind <:+ text :=
    (trimStart_suffix behind).trans ((word?_suffix hword).trans (skipSpaces_suffix text))
  exact ⟨list, rest, (between?_isInfix hlist).trans hback.isInfix, (between?_suffix hlist).trans hback, rfl⟩

theorem removes_exportList : Removes exportList? := by
  intro text hit h
  obtain ⟨list, rest, -, hrest, rfl⟩ := exportList?_eq_some h
  exact ⟨rest, hrest, rfl⟩

theorem isBlank_of_mem_indent {c : Char} (h : c ∈ text.takeWhile isSpaceOrTab) :
    isBlank c = true := by
  have hspace := List.mem_takeWhile_imp h
  simp only [isSpaceOrTab, Bool.or_eq_true, beq_iff_eq] at hspace
  rcases hspace with rfl | rfl <;> decide

theorem peels_exportKeyword : Peels exportKeyword? := by
  intro text hit h
  simp only [exportKeyword?, Option.bind_eq_bind, Option.bind_eq_some_iff] at h
  obtain ⟨rest, hgap, h⟩ := h
  cases h
  exact ⟨_, [], (List.append_nil _).symm, fun _ hc => isBlank_of_mem_indent hc,
    exportGap?_suffix hgap, by simp⟩

/-- A declaration is read up to the name that it introduces. -/
theorem declaration?_eq_append {name : List Char} (h : declaration? text = some (name, rest)) :
    ∃ front, text = front ++ name ++ rest ∧ isIdent name = true := by
  have hname : ∀ behind? : Option (List Char), (∀ behind, behind? = some behind → behind <:+ text) →
      behind?.bind takeIdent? = some (name, rest) →
      ∃ front, text = front ++ name ++ rest ∧ isIdent name = true := by
    intro behind? hbehind hbind
    obtain ⟨behind, hb, hident⟩ := Option.bind_eq_some_iff.1 hbind
    obtain ⟨front, rfl⟩ := hbehind behind hb
    exact ⟨front, by rw [List.append_assoc, takeIdent?_append hident], isIdent_of_takeIdent? hident⟩
  have hgap : ∀ (w : String) (t : List Char), t <:+ text → ∀ behind, wordGap? w t = some behind →
      behind <:+ text := fun w t ht behind hb => (wordGap?_suffix hb).trans ht
  simp only [declaration?, Option.orElse_eq_orElse, Option.orElse_eq_or, Option.or_eq_some_iff] at h
  -- A function may have a star in front of its name; the others have a keyword and a gap.
  rcases h with h | ⟨-, h | ⟨-, h | ⟨-, h | ⟨-, h | ⟨-, h⟩⟩⟩⟩⟩
  · refine hname _ (fun behind hb => ?_) h
    obtain ⟨starred, hword, rfl⟩ := Option.map_eq_some_iff.1 hb
    exact (trimStart_suffix _).trans ((skipChar_suffix _ _).trans ((trimStart_suffix starred).trans
      ((word?_suffix hword).trans (skipWordGap_suffix _ text))))
  · exact hname _ (hgap _ text (List.suffix_refl _)) h
  · exact hname _ (hgap _ _ (skipWordGap_suffix _ text)) h
  · exact hname _ (hgap _ text (List.suffix_refl _)) h
  · exact hname _ (hgap _ text (List.suffix_refl _)) h
  · exact hname _ (hgap _ text (List.suffix_refl _)) h

theorem exportedDeclaration?_eq_some {hit : Hit ExportName} (h : exportedDeclaration? text = some hit) :
    ∃ front name, front ++ name ++ hit.rest <:+ text ∧ isIdent name = true ∧
      hit.replacement = text.takeWhile isSpaceOrTab ++ (front ++ name) ∧
      hit.result = ⟨String.ofList name, String.ofList name⟩ := by
  simp only [exportedDeclaration?, Option.bind_eq_bind, Option.bind_eq_some_iff] at h
  obtain ⟨declared, hgap, ⟨name, rest⟩, hdeclared, h⟩ := h
  obtain ⟨front, rfl, hident⟩ := declaration?_eq_append hdeclared
  cases h
  refine ⟨front, name, exportGap?_suffix hgap, hident, ?_, rfl⟩
  show _ ++ (front ++ name ++ rest).take ((front ++ name ++ rest).length - rest.length) = _
  rw [List.length_append, Nat.add_sub_cancel, List.take_left]

theorem peels_exportedDeclaration : Peels exportedDeclaration? := by
  intro text hit h
  obtain ⟨front, name, hs, hident, hreplacement, -⟩ := exportedDeclaration?_eq_some h
  refine ⟨_, front ++ name, hreplacement, fun _ hc => isBlank_of_mem_indent hc, hs, fun hl => ?_⟩
  rw [List.getLast?_append_of_ne_nil _ (ne_nil_of_isIdent hident)] at hl
  have hfeed := unbroken_of_isIdent hident '\n' (List.mem_of_getLast? hl)
  exact absurd hfeed (by decide)

/-! ### Names -/

theorem infix_trim (text : List Char) : trim text <:+: text := by
  obtain ⟨blanks, -, he⟩ := exists_trimEnd_append (trimStart text)
  exact (List.IsPrefix.isInfix ⟨blanks, he⟩).trans (trimStart_suffix text).isInfix

theorem infix_of_mem_words {word : List Char} (h : word ∈ words text) : word <:+: text := by
  -- The word under way is the end of what was read.
  have hgo : ∀ t read : List Char, ∀ current : List Char, current.reverse <:+ read →
      ∀ word ∈ words.go t current, word <:+: read ++ t := by
    intro t
    induction t with
    | nil =>
      intro read current hc word hw
      cases current with
      | nil => exact absurd hw List.not_mem_nil
      | cons d current =>
        rw [List.mem_singleton.1 hw, List.append_nil]
        exact hc.isInfix
    | cons c t ih =>
      intro read current hc word hw
      have hread : read ++ c :: t = (read ++ [c]) ++ t := by simp
      rw [hread]
      rw [words.go.eq_def] at hw
      dsimp only at hw
      split at hw
      · split at hw
        · exact ih (read ++ [c]) [] (List.nil_suffix) word hw
        · rcases List.mem_cons.1 hw with rfl | hw
          · exact hc.isInfix.trans (by simpa using (List.prefix_append read (c :: t)).isInfix)
          · exact ih (read ++ [c]) [] (List.nil_suffix) word hw
      · refine ih (read ++ [c]) (c :: current) ?_ word hw
        obtain ⟨front, rfl⟩ := hc
        exact ⟨front, by simp⟩
  exact hgo text [] [] (List.suffix_refl _) word h

/-- A name that a module body exports: the name inside is an identifier, and the name outside has no
mark. -/
structure ExportName.Sound (e : ExportName) : Prop where
  localName : isIdent e.localName.toList = true
  exported : Markless e.exported.toList

theorem not_mem_of_isIdent {name : List Char} (h : isIdent name = true) : '<' ∉ name :=
  fun hc => absurd (isIdentPart_of_mem h hc) (by decide)

theorem sound_exportItems {list : List Char} (h : Markless list) :
    ∀ e ∈ exportItems list, e.Sound := by
  intro e he
  obtain ⟨part, hpart, he⟩ := List.mem_filterMap.1 he
  dsimp only at he
  split at he
  · cases he
  · have hinfix : trim part <:+: list := (infix_trim part).trans (infix_of_mem_splitAtChar hpart)
    have hword : ∀ word ∈ words (trim part), Markless word := fun word hw =>
      h.of_isInfix ((infix_of_mem_words hw).trans hinfix)
    unfold exportItem? at he
    split at he
    · cases he
    · next name more hwords =>
      rw [hwords] at hword
      split at he
      · next hident =>
        cases he
        refine ⟨by rw [String.toList_ofList]; exact hident, ?_⟩
        rw [String.toList_ofList]
        split
        · next newName _ => exact hword newName (by simp)
        · exact hword name List.mem_cons_self
      · cases he

/-- The names of the lists that are taken out. -/
theorem sound_exportLists (h : Markless text) :
    ∀ e ∈ (sweep exportList? true text).1.flatten, e.Sound := by
  intro e he
  obtain ⟨names, hnames, he⟩ := List.mem_flatten.1 he
  obtain ⟨line, hit, hline, hhit, rfl⟩ := exists_hit_of_mem_sweep removes_exportList.peels true hnames
  obtain ⟨list, rest, hlist, -, rfl⟩ := exportList?_eq_some hhit
  exact sound_exportItems (h.of_isInfix (hlist.trans hline.isInfix)) e he

/-- The names of the declarations that are no longer exported. -/
theorem sound_exportedDeclarations (text : List Char) :
    ∀ e ∈ (sweep exportedDeclaration? true text).1, e.Sound := by
  intro e he
  obtain ⟨line, hit, -, hhit, rfl⟩ := exists_hit_of_mem_sweep peels_exportedDeclaration true he
  obtain ⟨front, name, -, hident, -, hresult⟩ := exportedDeclaration?_eq_some hhit
  rw [hresult]
  refine ⟨by rw [String.toList_ofList]; exact hident, ?_⟩
  rw [String.toList_ofList]
  exact (Sealed.of_not_mem (not_mem_of_isIdent hident)).markless

/-! ### The default export -/

theorem functionName?_isIdent {name : List Char} (h : functionName? text = some name) :
    isIdent name = true := by
  simp only [functionName?, Option.bind_eq_bind, Option.bind_eq_some_iff] at h
  obtain ⟨behind, -, ⟨read, rest⟩, hident, h⟩ := h
  split at h
  · split at h
    · cases h
      exact isIdent_of_takeIdent? hident
    · cases h
  · cases h

theorem not_mem_className? {name : List Char} (h : className? text = some name) : '<' ∉ name := by
  simp only [className?, Option.bind_eq_bind, Option.bind_eq_some_iff] at h
  obtain ⟨behind, -, ⟨read, rest⟩, hident, -, -, h⟩ := h
  cases h
  exact not_mem_dropEndWhile (not_mem_of_isIdent (isIdent_of_takeIdent? hident))

/-- A declared name has no angle bracket: it is an identifier, but for dollar signs at its end. -/
theorem not_mem_declaredName? {name : List Char} (h : declaredName? text = some name) :
    '<' ∉ name := by
  unfold declaredName? at h
  split at h
  · next read hread =>
    split at h
    · cases h
    · cases h
      rw [Option.orElse_eq_orElse, Option.orElse_eq_or, Option.or_eq_some_iff] at hread
      rcases hread with hread | ⟨-, hread⟩
      · exact not_mem_of_isIdent (functionName?_isIdent hread)
      · exact not_mem_className? hread
  · cases h

/-- The part before the first line that a reader recognises ends with a line feed, and what is
recognised begins behind it. -/
theorem firstHit?_eq_some {α : Type} {reader : List Char → Option (Hit α)} {hit : Hit α}
    {atStart : Bool} {before : List Char} (h : firstHit? reader atStart text = some (before, hit)) :
    ∃ line, text = before ++ line ∧ reader line = some hit ∧
      (before = [] ∧ atStart = true ∨ ∃ front, before = front ++ ['\n']) := by
  induction text generalizing atStart before with
  | nil => cases h
  | cons c rest ih =>
    rw [firstHit?] at h
    split at h
    · next hit' hhit =>
      cases h
      split at hhit
      · next hstart => exact ⟨_, rfl, hhit, .inl ⟨rfl, hstart⟩⟩
      · cases hhit
    · obtain ⟨⟨front, hit'⟩, hfirst, he⟩ := Option.map_eq_some_iff.1 h
      cases he
      obtain ⟨line, rfl, hline, hfront⟩ := ih hfirst
      refine ⟨line, rfl, hline, .inr ?_⟩
      rcases hfront with ⟨rfl, hc⟩ | ⟨more, rfl⟩
      · rw [eq_of_beq hc]
        exact ⟨[], rfl⟩
      · exact ⟨c :: more, rfl⟩

/-- What stands around the first default export: lines, and the spaces that indent it. -/
theorem cutDefault?_eq_some {before indent : List Char}
    (h : cutDefault? text = some (before, indent, rest)) :
    ∃ line, text = before ++ line ∧ rest <:+ line ∧ (∀ c ∈ indent, isBlank c = true) ∧
      (before = [] ∨ ∃ front, before = front ++ ['\n']) := by
  simp only [cutDefault?, Option.bind_eq_bind, Option.bind_eq_some_iff] at h
  obtain ⟨⟨front, hit⟩, hfirst, h⟩ := h
  obtain ⟨line, rfl, hline, hfront⟩ := firstHit?_eq_some hfirst
  simp only [Option.bind_eq_some_iff] at hline
  obtain ⟨behind, hgap, rest, hdefault, hline⟩ := hline
  cases hline
  cases h
  exact ⟨line, rfl, (wordGap?_suffix hdefault).trans (exportGap?_suffix hgap),
    fun _ hc => isBlank_of_mem_indent hc, hfront.imp_left And.left⟩

/-! ### Module bodies -/

/-- What is known of a module body without export syntax. -/
structure StrippedModule.Sound (m : StrippedModule) : Prop where
  code : Markless m.code
  defaultBinding : ∀ name ∈ m.defaultBinding, '<' ∉ name.toList
  exports : ∀ e ∈ m.exports, e.Sound

variable {m : StrippedModule} {defaultLocal : String}

theorem sound_stripDefault (hd : '<' ∉ defaultLocal.toList) (h : m.Sound) :
    (stripDefault defaultLocal m).Sound := by
  unfold stripDefault
  split
  · exact h
  · next before indent rest hcut =>
    obtain ⟨line, htext, hrest, hindent, hbefore⟩ := cutDefault?_eq_some hcut
    have hcode := h.code
    rw [htext] at hcode
    have hrest : Markless rest :=
      hcode.of_isInfix (hrest.isInfix.trans (List.suffix_append before line).isInfix)
    have hsealed : Sealed (before ++ indent) := by
      refine Sealed.append ?_ (sealed_of_blanks hindent)
      have hmarkless : Markless before := hcode.of_isInfix (List.prefix_append before line).isInfix
      rcases hbefore with rfl | ⟨front, rfl⟩
      · exact .of_not_mem List.not_mem_nil
      · exact .of_concat hmarkless (by decide)
    split
    · next name hname =>
      refine ⟨hsealed.append_markless hrest, ?_, h.exports⟩
      rintro _ ⟨⟩
      rw [String.toList_ofList]
      exact not_mem_declaredName? hname
    · -- An anonymous default export becomes a constant, whose text is the only one that is new.
      refine ⟨?_, ?_, h.exports⟩
      · have hconst : Sealed ("const " ++ defaultLocal ++ " = ").toList := by
          refine .of_not_mem ?_
          simp only [String.toList_append, List.mem_append, not_or]
          exact ⟨⟨by decide, hd⟩, by decide⟩
        exact (hsealed.append hconst).append_markless hrest
      · rintro _ ⟨⟩
        exact hd

/-- **Without its export syntax a module body has no mark that it had not with it**, and neither have
the names that it exports. -/
theorem sound_stripExports (hd : '<' ∉ defaultLocal.toList) (h : Markless text) :
    (stripExports defaultLocal text).Sound := by
  have hstar := markless_sweep removes_starReexport.peels true h
  have hlist := markless_sweep removes_listReexport.peels true hstar
  have htypes := markless_sweep removes_typeList.peels true hlist
  have hnames := markless_sweep removes_exportList.peels true htypes
  have hlisted := sound_exportLists htypes
  have hcarried : StrippedModule.Sound {
      code := (stripExportLists text).1
      defaultBinding := ((stripExportLists text).2.find? (·.exported == "default")).map (·.localName) } := by
    refine ⟨hnames, fun name hn => ?_, fun _ he => absurd he List.not_mem_nil⟩
    obtain ⟨e, he, rfl⟩ := Option.map_eq_some_iff.1 hn
    exact not_mem_of_isIdent (hlisted e (List.mem_of_find?_eq_some he)).localName
  have hdefault := sound_stripDefault hd hcarried
  have hdeclared := markless_sweep peels_exportedDeclaration true hdefault.code
  refine ⟨markless_sweep peels_exportKeyword true hdeclared, hdefault.defaultBinding, fun e he => ?_⟩
  rcases List.mem_append.1 he with he | he
  · exact hlisted e he
  · exact sound_exportedDeclarations _ e he

end LivePreview.Code
