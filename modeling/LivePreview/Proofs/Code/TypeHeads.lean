import LivePreview.Code.TypeDeclaration
import LivePreview.Proofs.Code.Exports
import LivePreview.Proofs.Code.Preamble
/-!
# LivePreview.Proofs.Code.TypeHeads

**Where type declarations begin.** The heads of a text are found line by line: whole lines that begin
with none of the words of a head move the heads behind them (`typeHeads_append`), and a declaration
without such a line inside has one head, in front of those behind it (`Headed.heads_eq`). So what is
removed from a text is what is removed from its parts.
-/

namespace LivePreview.Code

open Text

variable {a text rest front : List Char} {hit : Hit Bool} {atStart : Bool}

/-- The words that the head of a type declaration may begin with. -/
def typeWords : List String := ["export", "declare", "type", "interface"]

theorem areHeads_typeWords : AreHeads typeWords := by
  intro w hw
  simp only [typeWords, List.mem_cons, List.not_mem_nil, or_false] at hw
  rcases hw with rfl | rfl | rfl | rfl
  · exact ⟨⟨'e', "xport".toList, by decide, by decide⟩, by decide⟩
  · exact ⟨⟨'d', "eclare".toList, by decide, by decide⟩, by decide⟩
  · exact ⟨⟨'t', "ype".toList, by decide, by decide⟩, by decide⟩
  · exact ⟨⟨'i', "nterface".toList, by decide, by decide⟩, by decide⟩

theorem waitsFor_typeHead : WaitsFor typeWords typeHead? := by
  intro text h
  have hgap : ∀ w ∈ typeWords, wordGap? w (skipSpaces text) = none := by
    intro w hw
    rw [wordGap?, word?_eq_none_of_startsWith (h w hw)]
    rfl
  have hexport : skipWordGap "export" (skipSpaces text) = skipSpaces text := by
    rw [skipWordGap, hgap "export" (by decide), Option.getD_none]
  have hdeclare : skipWordGap "declare" (skipSpaces text) = skipSpaces text := by
    rw [skipWordGap, hgap "declare" (by decide), Option.getD_none]
  simp only [typeHead?, hexport, hdeclare, hgap "type" (by decide), hgap "interface" (by decide)]
  rfl

/-! ### A head takes something -/

theorem length_of_wordGap? {w : String} (h : wordGap? w text = some rest) :
    rest.length < text.length := by
  obtain ⟨behind, hw, hg⟩ := Option.bind_eq_some_iff.1 h
  have hbehind := (word?_suffix hw).length_le
  cases behind with
  | nil => cases hg
  | cons c behind =>
    rw [gap?] at hg
    split at hg
    · cases hg
      have := (trimStart_suffix behind).length_le
      rw [List.length_cons] at hbehind
      omega
    · cases hg

theorem interfaceHead?_suffix (h : interfaceHead? text = some rest) : rest <:+ text := by
  simp only [interfaceHead?, Option.bind_eq_bind, Option.bind_eq_some_iff] at h
  obtain ⟨⟨name, behind⟩, hident, h⟩ := h
  have hbehind := takeIdent?_suffix hident
  split at h
  · next after hafter =>
    rw [Option.ite_none_right_eq_some, Option.some.injEq] at h
    obtain ⟨-, rfl⟩ := h
    have hsuffix : '\x7b' :: after <:+ behind := hafter ▸ List.dropWhile_suffix _
    exact (List.suffix_cons _ after).trans (hsuffix.trans hbehind)
  · cases h

/-- A head is followed by a shorter text. -/
theorem typeHead?_rest (h : typeHead? text = some hit) :
    hit.rest <:+ text ∧ hit.rest.length < text.length := by
  have hlead : skipWordGap "declare" (skipWordGap "export" (skipSpaces text)) <:+ text :=
    (skipWordGap_suffix _ _).trans ((skipWordGap_suffix _ _).trans (skipSpaces_suffix text))
  have hstep : ∀ {w : String} {behind : List Char},
      wordGap? w (skipWordGap "declare" (skipWordGap "export" (skipSpaces text))) = some behind →
      ∀ more, more <:+ behind → more <:+ text ∧ more.length < text.length := by
    intro w behind hword more hmore
    have hshort := length_of_wordGap? hword
    exact ⟨hmore.trans ((wordGap?_suffix hword).trans hlead),
      Nat.lt_of_le_of_lt hmore.length_le (Nat.lt_of_lt_of_le hshort hlead.length_le)⟩
  rw [typeHead?] at h
  dsimp only at h
  split at h
  · next behind hword =>
    simp only [Option.bind_eq_bind, Option.bind_eq_some_iff] at h
    obtain ⟨⟨name, more⟩, hident, h⟩ := h
    split at h
    · next c after hafter =>
      split at h
      · cases h
        have hsuffix : c :: after <:+ more := hafter ▸ trimStart_suffix more
        exact hstep hword _ ((List.suffix_cons c after).trans
          (hsuffix.trans (takeIdent?_suffix hident)))
      · cases h
    · cases h
  · simp only [Option.bind_eq_bind, Option.bind_eq_some_iff] at h
    obtain ⟨behind, hword, after, hhead, h⟩ := h
    cases h
    exact hstep hword _ (interfaceHead?_suffix hhead)

/-! ### Finding heads -/

/-- Whether a position is the start of a line does not depend on what stands further in front. -/
theorem startsLine_append (front : List Char) (h : rest.length < text.length) :
    startsLine (front ++ text) rest = startsLine text rest := by
  have hne : text.take (text.length - rest.length) ≠ [] := by
    intro hnil
    rw [List.take_eq_nil_iff] at hnil
    rcases hnil with hnil | rfl
    · omega
    · exact absurd h (Nat.not_lt_zero _)
  have htake : (front ++ text).take ((front ++ text).length - rest.length) =
      front ++ text.take (text.length - rest.length) := by
    rw [List.length_append, Nat.add_sub_assoc (Nat.le_of_lt h), List.take_length_add_append]
  rw [startsLine, startsLine, htake, List.getLast?_append_of_ne_nil _ hne]

/-- The heads, each with `n` more characters in front. -/
def moved (n : Nat) (heads : List (Nat × Bool)) : List (Nat × Bool) :=
  heads.map fun (start, isInterface) => (start + n, isInterface)

theorem typeHeads_go_add (n offset fuel : Nat) (atStart : Bool) (text : List Char) :
    typeHeads.go (offset + n) fuel atStart text = moved n (typeHeads.go offset fuel atStart text) := by
  induction fuel generalizing offset atStart text with
  | zero => rfl
  | succ fuel ih =>
    rw [typeHeads.go, typeHeads.go]
    cases firstHit? typeHead? atStart text with
    | none => rfl
    | some found =>
      obtain ⟨before, hit⟩ := found
      simp only [moved, List.map_cons, Nat.add_right_comm offset n, ih]

/-- A search finds a head somewhere in the text. -/
theorem length_of_firstHit? {before : List Char}
    (h : firstHit? typeHead? atStart text = some (before, hit)) : hit.rest.length < text.length := by
  obtain ⟨line, rfl, hline, -⟩ := firstHit?_eq_some h
  have := (typeHead?_rest hline).2
  rw [List.length_append]
  omega

/-- There are at most as many heads as characters. -/
theorem typeHeads_go_fuel {offset fuel fuel' : Nat} (h : text.length ≤ fuel) (h' : text.length ≤ fuel') :
    typeHeads.go offset fuel atStart text = typeHeads.go offset fuel' atStart text := by
  -- Behind a head the text is shorter, so that neither runs out in front of its end.
  induction fuel generalizing offset fuel' atStart text with
  | zero =>
    rw [List.eq_nil_of_length_eq_zero (Nat.le_zero.1 h)]
    cases fuel' <;> rfl
  | succ fuel ih =>
    cases fuel' with
    | zero =>
      rw [List.eq_nil_of_length_eq_zero (Nat.le_zero.1 h')]
      rfl
    | succ fuel' =>
      rw [typeHeads.go, typeHeads.go]
      cases hf : firstHit? typeHead? atStart text with
      | none => rfl
      | some found =>
        have hless := length_of_firstHit? hf
        exact congrArg _ (ih (by omega) (by omega))

/-- The search for heads passes over a line that begins with none. -/
theorem typeHeads_go_line (ha : '\n' ∉ a)
    (h : atStart = true → typeHead? (a ++ '\n' :: rest) = none) (offset fuel : Nat) :
    typeHeads.go offset fuel atStart (a ++ '\n' :: rest) =
      typeHeads.go (offset + (a.length + 1)) fuel true rest := by
  cases fuel with
  | zero => rfl
  | succ fuel =>
    rw [typeHeads.go, typeHeads.go, firstHit?_line ha h]
    cases hf : firstHit? typeHead? true rest with
    | none => rfl
    | some found =>
      obtain ⟨before, hit⟩ := found
      -- It is the same head, with one more line in front of it.
      have hless := length_of_firstHit? hf
      have hstarts := startsLine_append (a ++ ['\n']) hless
      rw [List.append_assoc, List.singleton_append] at hstarts
      have htaken : offset + ((a ++ '\n' :: rest).length - hit.rest.length) =
          offset + (a.length + 1) + (rest.length - hit.rest.length) := by
        rw [List.length_append, List.length_cons]
        omega
      have hfront : offset + (a ++ '\n' :: before).length = offset + (a.length + 1) + before.length := by
        rw [List.length_append, List.length_cons]
        omega
      simp only [Option.map_some, hstarts, htaken, hfront]

/-- The search for heads passes over whole lines that begin with none of their words. -/
theorem typeHeads_go_append (hc : Clear isSpaceOrTab typeWords front) (he : EndsLine front)
    (offset fuel : Nat) (text : List Char) :
    typeHeads.go offset fuel true (front ++ text) =
      typeHeads.go (offset + front.length) fuel true text := by
  induction front, he using EndsLine.induction generalizing offset with
  | nil => rfl
  | line a more ha _ ih =>
    obtain ⟨hline, hmore⟩ := (clear_append_feed ha).1 hc
    rw [List.append_assoc, List.cons_append,
      typeHeads_go_line ha fun _ => waitsFor_typeHead.line areHeads_typeWords hline _, ih hmore,
      List.length_append, List.length_cons, Nat.add_assoc, Nat.add_assoc]
    congr 1
    omega

/-- Lines in front that begin with none of their words move the heads of a text. -/
theorem typeHeads_append (hc : Clear isSpaceOrTab typeWords front) (he : EndsLine front)
    (text : List Char) : typeHeads (front ++ text) = moved front.length (typeHeads text) := by
  rw [typeHeads, typeHeads_go_append hc he, typeHeads, ← typeHeads_go_add]
  refine typeHeads_go_fuel ?_ ?_
  · rw [List.length_append]
    omega
  · omega

/-- A declaration that begins the text, as the search for heads sees it: its head ends within a line,
and no line behind that one begins with a word of a head. -/
structure Headed (declaration rest : List Char) (isInterface : Bool) : Prop where
  exists_head : ∃ hit a more, typeHead? (declaration ++ rest) = some hit ∧ hit.result = isInterface ∧
    startsLine (declaration ++ rest) hit.rest = false ∧ hit.rest = a ++ '\n' :: (more ++ rest) ∧
    '\n' ∉ a ∧ Clear isSpaceOrTab typeWords more ∧ EndsLine more

/-- A declaration has one head, and the heads behind it are those of the rest. -/
theorem Headed.heads_eq {declaration : List Char} {isInterface : Bool}
    (h : Headed declaration rest isInterface) :
    typeHeads (declaration ++ rest) =
      (0, isInterface) :: moved declaration.length (typeHeads rest) := by
  obtain ⟨hit, a, more, hhead, rfl, hstarts, hrest, ha, hmore, hends⟩ := h.exists_head
  have hless := (typeHead?_rest hhead).2
  have hfirst : firstHit? typeHead? true (declaration ++ rest) = some ([], hit) := by
    cases ht : declaration ++ rest with
    | nil =>
      rw [ht] at hless
      exact absurd hless (Nat.not_lt_zero _)
    | cons c text =>
      rw [ht] at hhead
      rw [firstHit?, if_pos rfl, hhead]
  have hlength : (declaration ++ rest).length - hit.rest.length + (a.length + 1) + more.length =
      0 + declaration.length := by
    have hr := congrArg List.length hrest
    simp only [List.length_append, List.length_cons] at hr hless ⊢
    omega
  rw [typeHeads, typeHeads.go, hfirst]
  simp only [hstarts, List.length_nil, Nat.zero_add]
  -- What follows the head are the rest of its line, lines without a head, and the rest of the text.
  rw [hrest, typeHeads_go_line ha (fun hf => absurd hf Bool.false_ne_true),
    typeHeads_go_append hmore hends, ← hrest, hlength, typeHeads_go_add, typeHeads]
  refine congrArg (fun heads => (0, hit.result) :: moved declaration.length heads)
    (typeHeads_go_fuel ?_ (Nat.le_succ _))
  rw [List.length_append]
  omega

/-! ### Removing declarations -/

theorem stripTypes_go_moved (n cursor : Nat) (text : List Char) (heads : List (Nat × Bool)) :
    stripTypes.go (cursor + n) text (moved n heads) = stripTypes.go cursor text heads := by
  induction heads generalizing cursor text with
  | nil => rfl
  | cons head heads ih =>
    obtain ⟨start, isInterface⟩ := head
    -- The cursor and the heads only count against each other.
    have hless : start + n < cursor + n ↔ start < cursor := by omega
    have hrec := fun k rest => ih (start + k) rest
    simp only [Nat.add_right_comm start _ n] at hrec
    simp only [moved, List.map_cons] at ih hrec ⊢
    simp only [stripTypes.go, hless, Nat.add_sub_add_right, ih, hrec]

/-- What stands in front of the first head is kept. -/
theorem stripTypes_go_append (front text : List Char) (heads : List (Nat × Bool)) :
    stripTypes.go 0 (front ++ text) (moved front.length heads) =
      front ++ stripTypes.go 0 text heads := by
  cases heads with
  | nil => rfl
  | cons head heads =>
    obtain ⟨start, isInterface⟩ := head
    have hdrop : (front ++ text).drop (start + front.length) = text.drop start := by
      rw [Nat.add_comm, List.drop_length_add_append]
    have htake : (front ++ text).take (start + front.length) = front ++ text.take start := by
      rw [Nat.add_comm, List.take_length_add_append]
    have hmoved := fun k rest => stripTypes_go_moved front.length (start + k) rest heads
    simp only [Nat.add_right_comm start _ front.length] at hmoved
    simp only [moved, List.map_cons] at hmoved ⊢
    simp only [stripTypes.go, Nat.not_lt_zero, if_false, Nat.sub_zero, hmoved, hdrop, htake,
      List.append_assoc]

/-- Lines in front that begin with none of the words of a head are kept. -/
theorem stripTypes_append (hc : Clear isSpaceOrTab typeWords front) (he : EndsLine front)
    (text : List Char) : stripTypes (front ++ text) = front ++ stripTypes text := by
  rw [stripTypes, typeHeads_append hc he, stripTypes_go_append, stripTypes]

/-- A text of such lines is kept. -/
theorem typeHeads_of_clear (hc : Clear isSpaceOrTab typeWords text) (he : EndsLine text) :
    typeHeads text = [] := by
  have h := typeHeads_append hc he []
  rw [List.append_nil] at h
  exact h

/-- Of a declaration in front of a text that declares nothing, what is behind its end is kept. -/
theorem Headed.stripTypes_eq {declaration : List Char} {isInterface : Bool}
    (h : Headed declaration rest isInterface) (hr : typeHeads rest = []) :
    stripTypes (declaration ++ rest) = afterDeclaration isInterface (declaration ++ rest) := by
  rw [stripTypes, h.heads_eq, hr]
  rfl

/-- A declaration goes that ends where the rest begins. -/
theorem Headed.stripTypes_rest {declaration : List Char} {isInterface : Bool}
    (h : Headed declaration rest isInterface)
    (ha : afterDeclaration isInterface (declaration ++ rest) = rest) :
    stripTypes (declaration ++ rest) = stripTypes rest := by
  have hlength : 0 + ((declaration ++ rest).length - rest.length) = 0 + declaration.length := by
    rw [List.length_append, Nat.add_sub_cancel]
  rw [stripTypes, h.heads_eq]
  simp only [stripTypes.go, Nat.not_lt_zero, if_false, Nat.sub_zero, List.drop_zero, List.take_zero, ha,
    hlength, stripTypes_go_moved, List.nil_append]
  rfl

end LivePreview.Code
