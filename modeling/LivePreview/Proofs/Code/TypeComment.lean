import LivePreview.Proofs.Code.TypeStripping
/-!
# LivePreview.Proofs.Code.TypeComment

**A comment behind an alias.** An alias without semicolon ends with its line unless it reaches over the
line end. What decides this in front of the line end are the last characters of the line, and these may
belong to a comment: a comment that ends like an unfinished type takes code behind it along, and no other
comment does (`TypeDeclaration.stripTypes_commented`).
-/

namespace LivePreview.Code

open Text

variable {w : Walk} {text rest comment : List Char} {d : TypeDeclaration}

/-! ### Where an alias reaches over a line end -/

/-- The text ends with an arrow or with a character that an alias goes on behind; blanks at its end do
not count. -/
def EndsOpen (text : List Char) : Prop :=
  ['=', '>'] <:+ trimEnd text ∨
    (dropEndWhile isAsciiBlank text).getLast? ∈ "=|&,:?(<\x7b[".toList.map some

instance (text : List Char) : Decidable (EndsOpen text) :=
  inferInstanceAs (Decidable (_ ∨ _))

/-- An alias reaches over a line end if it is not finished or if what follows goes on with it. -/
theorem reachesOver_iff :
    Walk.reachesOver text.reverse rest = true ↔ EndsOpen text ∨ Walk.reachesOver [] rest = true := by
  have harrow : startsWith ['>', '='] (text.reverse.dropWhile isBlank) = true ↔
      ['=', '>'] <:+ trimEnd text := by
    rw [startsWith_iff, ← List.reverse_prefix, trimEnd, dropEndWhile, List.reverse_reverse]
    rfl
  unfold Walk.reachesOver
  rw [Bool.or_eq_true, Bool.or_eq_true, harrow, EndsOpen, dropEndWhile, List.getLast?_reverse]
  refine or_congr (or_congr_right ?_) ?_
  · cases text.reverse.dropWhile isAsciiBlank with
    | nil => simp
    | cons c back =>
      rw [List.head?_cons, List.mem_map_of_injective (Option.some_injective Char)]
      exact List.contains_iff_mem
  · rfl

/-- The text is nothing that an alias goes on with. -/
structure StartsApart (text : List Char) : Prop where
  head : (text.dropWhile isAsciiBlank).head? ∉ "|&?:.=".toList.map some
  extends_eq : startsWith "extends ".toList (text.dropWhile isAsciiBlank) = false

theorem StartsApart.reachesOver_nil (h : StartsApart rest) : Walk.reachesOver [] rest = false := by
  obtain ⟨hhead, hextends⟩ := h
  unfold Walk.reachesOver
  rw [Bool.or_eq_false_iff]
  refine ⟨rfl, ?_⟩
  split
  · next heq =>
    rw [heq] at hhead
    exact absurd (List.mem_map_of_mem (by decide : '=' ∈ "|&?:.=".toList)) hhead
  · next c more _ heq =>
    rw [heq] at hhead hextends
    rw [hextends, Bool.or_false, Bool.eq_false_iff]
    intro hc
    exact hhead (List.mem_map_of_mem (List.mem_append_left ['='] (List.contains_iff_mem.1 hc)))
  · rfl

/-- The end of a line is blank. -/
theorem endsOpen_append_feed : EndsOpen (text ++ ['\n']) ↔ EndsOpen text := by
  have hcut : ∀ p : Char → Bool, p '\n' = true →
      dropEndWhile p (text ++ ['\n']) = dropEndWhile p text := by
    intro p hp
    rw [dropEndWhile, List.reverse_append]
    exact congrArg List.reverse (List.dropWhile_cons_of_pos hp)
  rw [EndsOpen, EndsOpen, trimEnd, trimEnd, hcut _ (by decide), hcut _ (by decide)]

/-- Of a line with a comment at its end, the end of the comment counts. -/
theorem endsOpen_append_comment (front comment : List Char) :
    EndsOpen (front ++ '/' :: '/' :: comment) ↔ EndsOpen comment := by
  have hcut : ∀ p : Char → Bool, p '/' = false →
      dropEndWhile p (front ++ '/' :: '/' :: comment) =
        front ++ ['/'] ++ '/' :: dropEndWhile p comment := by
    intro p hp
    rw [dropEndWhile_append_cons hp, List.append_assoc]
    exact congrArg (front ++ '/' :: ·) (dropEndWhile_append_cons hp [] comment)
  rw [EndsOpen, EndsOpen, trimEnd, trimEnd, hcut _ (by decide), hcut _ (by decide)]
  -- Neither the arrow nor one of the characters holds a slash.
  refine or_congr ?_ ?_
  · have hreverse : ∀ more : List Char, (front ++ ['/'] ++ '/' :: more).reverse =
        more.reverse ++ '/' :: '/' :: front.reverse := by simp
    rw [← List.reverse_prefix, hreverse, prefix_append_cons_iff (by decide), List.reverse_prefix]
  · rw [List.getLast?_append_of_ne_nil _ (List.cons_ne_nil _ _)]
    cases dropEndWhile isAsciiBlank comment with
    | nil => exact ⟨fun h => absurd h (by decide), fun h => absurd h (by decide)⟩
    | cons c more => rw [List.getLast?_cons_cons]

/-- What is behind a declaration is an end of the text. -/
theorem Walk.rest_suffix (w : Walk) (text : List Char) : w.rest text <:+ text := by
  induction text generalizing w with
  | nil => exact List.suffix_refl _
  | cons c text ih =>
    rw [Walk.rest]
    split
    · split
      · exact (ih _).trans (List.suffix_cons c text)
      · split
        · exact List.suffix_cons c text
        · exact List.suffix_refl _
    · exact (ih _).trans (List.suffix_cons c text)

/-! ### A walk over a comment -/

namespace Walk

/-- Inside a comment, up to the end of its line. -/
theorem over_line (hp : w.place = .lineComment) (hc : '\n' ∉ comment) :
    w.Over comment { w with back := comment.reverse ++ w.back } := by
  induction comment generalizing w with
  | nil => exact Over.refl w
  | cons c comment ih =>
    rw [List.mem_cons, not_or] at hc
    have hfeed : (c == '\n') = false := by simpa using Ne.symm hc.1
    have hplace : (w.move c).place = .lineComment := by
      simp [move, hp, Reading.step, Ne.symm hc.1]
    have hfirst : w.Over [c] (w.move c) := by
      refine ⟨rfl, fun after => ?_⟩
      simp [rest, hp, Reading.isCode, hfeed]
    have hread := hfirst.trans (ih hplace hc.2)
    simpa [move, hp, Reading.step, Ne.symm hc.1] using hread

/-- Over a comment up to the end of its line. -/
theorem over_comment (hp : w.place = .code) (hc : '\n' ∉ comment) :
    w.Over ('/' :: '/' :: comment)
      { w with place := .lineComment, back := ('/' :: '/' :: comment).reverse ++ w.back } := by
  have hslash : ∀ w : Walk, w.place.isCode = true → w.Over ['/'] (w.move '/') :=
    fun _ hw => over_code hw rfl fun _ => rfl
  have hplace : (w.move '/').place = .slash := by
    rw [move, hp]
    rfl
  have hplace' : ((w.move '/').move '/').place = .lineComment := by
    rw [move, hplace]
    rfl
  have hcomment := (hslash w (hp ▸ rfl)).trans
    ((hslash (w.move '/') (hplace ▸ rfl)).trans (over_line hplace' hc))
  rw [← hplace']
  simpa [move] using hcomment

/-- The end of the line behind an alias and a comment: the alias ends unless it reaches over it. -/
theorem rest_feed (hi : w.isInterface = false) (hp : w.place = .lineComment) (hd : w.depth = 0)
    (hb : w.inBody = true) (text : List Char) :
    w.rest ('\n' :: text) =
      if reachesOver w.back text then (w.move '\n').rest text else '\n' :: text := by
  have hcode : (w.place.isCode || (w.place == .lineComment && '\n' == '\n')) = true := by
    rw [hp]
    rfl
  rw [rest, if_pos hcode, overCode]
  cases reachesOver w.back text <;> simp [opens, closes, hi, hd, hb]

/-- Behind an unfinished type a walk takes something. -/
theorem rest_suffix_of_reachesOver {c : Char} (h : ∀ after, reachesOver w.back after = true) :
    w.rest (c :: text) <:+ text := by
  have hends : w.overCode c text ≠ .inr false := by
    intro heq
    unfold overCode at heq
    rw [h] at heq
    grind
  rw [rest]
  split
  · split
    · exact rest_suffix _ text
    · next takes heq =>
      cases takes with
      | true => exact List.suffix_refl text
      | false => exact absurd heq hends
  · exact rest_suffix _ text

end Walk

namespace TypeDeclaration

/-- The declaration with a comment in place of what ends it, up to the end of its line. -/
def commented (d : TypeDeclaration) (comment : List Char) : List Char :=
  d.opening ++ d.body ++ ' ' :: '/' :: '/' :: comment

theorem headed_commented (h : d.Writable) (hl : '\n' ∉ d.body) (hc : '\n' ∉ comment)
    (rest : List Char) : Headed (d.commented comment ++ ['\n']) rest d.isInterface := by
  have hcommented : d.commented comment ++ ['\n'] =
      d.opening ++ (d.body ++ ' ' :: '/' :: '/' :: comment ++ '\n' :: []) := by simp [commented]
  have hnil : Clear isSpaceOrTab typeWords [] := by simp [Clear, rawLines]
  rw [hcommented]
  exact headed_opening h.name (by simp [hl, hc]) hnil endsLine_nil rest

/-- The walk over a declaration and the comment behind its body. -/
theorem over_commented (h : d.Writable) (hc : '\n' ∉ comment) :
    Walk.Over { isInterface := d.isInterface } (d.commented comment)
      ⟨d.isInterface, .lineComment, d.isInterface.toNat, true, (d.commented comment).reverse⟩ := by
  obtain ⟨place, hp, hbody⟩ := exists_over_body h.name h.body
  have hspace := Walk.over_idle_char (c := ' ')
    (w := ⟨d.isInterface, place, d.isInterface.toNat, true, (d.opening ++ d.body).reverse⟩) hp (by decide)
  have hover := hbody.trans (hspace.trans (Walk.over_comment rfl hc))
  rw [commented, List.reverse_append]
  simpa using hover

/-- What is behind an alias with a comment: the end of its line, unless it reaches over it. -/
theorem rest_commented (h : d.Writable) (hi : d.isInterface = false) (hc : '\n' ∉ comment)
    (rest : List Char) :
    Walk.rest { isInterface := d.isInterface } (d.commented comment ++ '\n' :: rest) =
      if Walk.reachesOver (d.commented comment).reverse rest then
        Walk.rest ⟨false, .code, 0, true, (d.commented comment ++ ['\n']).reverse⟩ rest
      else '\n' :: rest := by
  rw [(over_commented h hc).rest_eq, hi, Walk.rest_feed rfl rfl rfl rfl, List.reverse_append]
  rfl

theorem endsOpen_commented : EndsOpen (d.commented comment) ↔ EndsOpen comment := by
  rw [commented, List.append_cons]
  exact endsOpen_append_comment _ comment

/-- Behind an alias of one line with a comment, whole lines of code that do not go on with it are left as
they are exactly if the comment does not end like an unfinished type. Otherwise a part of them is lost. -/
theorem stripTypes_commented (h : d.Writable) (hi : d.isInterface = false) (hl : '\n' ∉ d.body)
    (hc : '\n' ∉ comment) (hr : Clear isSpaceOrTab typeWords rest) (he : EndsLine rest) (hne : rest ≠ [])
    (ha : StartsApart rest) :
    (¬EndsOpen comment → stripTypes (d.commented comment ++ '\n' :: rest) = rest) ∧
      (EndsOpen comment → ∃ lost, lost ≠ [] ∧
        lost ++ stripTypes (d.commented comment ++ '\n' :: rest) = rest) := by
  have hreaches : Walk.reachesOver (d.commented comment).reverse rest = true ↔ EndsOpen comment := by
    rw [reachesOver_iff, endsOpen_commented, ha.reachesOver_nil]
    simp
  have hstrip : stripTypes (d.commented comment ++ '\n' :: rest) =
      afterDeclaration d.isInterface (d.commented comment ++ '\n' :: rest) := by
    rw [List.append_cons]
    exact (headed_commented h hl hc rest).stripTypes_eq (typeHeads_of_clear hr he)
  rw [hstrip, afterDeclaration, rest_commented h hi hc]
  -- The walk stops at the end of the line, or it takes at least one character behind it.
  constructor
  · intro ho
    rw [if_neg fun h => ho (hreaches.1 h)]
    rfl
  · intro ho
    rw [if_pos (hreaches.2 ho)]
    obtain ⟨c, more, rfl⟩ := List.exists_cons_of_ne_nil hne
    have hover : ∀ after, Walk.reachesOver (d.commented comment ++ ['\n']).reverse after = true :=
      fun _ => reachesOver_iff.2 (.inl (endsOpen_append_feed.2 (endsOpen_commented.2 ho)))
    have hrest : Walk.rest ⟨false, .code, 0, true, (d.commented comment ++ ['\n']).reverse⟩
        (c :: more) <:+ more := Walk.rest_suffix_of_reachesOver hover
    obtain ⟨front, hfront⟩ :=
      (skipChar_suffix '\n' _).trans ((List.dropWhile_suffix _).trans hrest)
    exact ⟨c :: front, List.cons_ne_nil c front, congrArg (c :: ·) hfront⟩

/-- An alias of one line. -/
def nameList : TypeDeclaration :=
  ⟨false, false, "Names".toList, "Map<string, 'a'>[]".toList⟩

theorem stripTypes_commented_closed :
    let comment := " all names (a, b)".toList
    let rest := "\nconst x = 1;\n".toList
    nameList.commented comment ++ '\n' :: rest =
        "type Names = Map<string, 'a'>[] // all names (a, b)\n\nconst x = 1;\n".toList ∧
      ¬EndsOpen comment ∧ stripTypes (nameList.commented comment ++ '\n' :: rest) = rest := by
  intro comment rest
  have hwritable : nameList.Writable := ⟨by decide, by decide, by decide⟩
  have hends : ¬EndsOpen comment := by decide
  have hapart : StartsApart rest := ⟨by decide, by decide⟩
  exact ⟨by decide, hends, (stripTypes_commented hwritable rfl (by decide) (by decide) (by decide)
    (by decide) (by decide) hapart).1 hends⟩

/-- A comment that ends with a comma takes the statement behind the alias along. -/
theorem stripTypes_loses_statement :
    let comment := " all names,".toList
    let rest := "const x = 1;\n".toList
    nameList.commented comment ++ '\n' :: rest =
        "type Names = Map<string, 'a'>[] // all names,\nconst x = 1;\n".toList ∧
      nameList.Writable ∧ Clear isSpaceOrTab typeWords rest ∧ EndsLine rest ∧ StartsApart rest ∧
      stripTypes (nameList.commented comment ++ '\n' :: rest) = [] := by
  intro comment rest
  exact ⟨by decide, ⟨by decide, by decide, by decide⟩, by decide, by decide, ⟨by decide, by decide⟩,
    by decide +kernel⟩

end TypeDeclaration

end LivePreview.Code
