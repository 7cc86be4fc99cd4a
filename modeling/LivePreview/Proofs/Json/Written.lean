import LivePreview.Proofs.Json.Numeral
/-!
# LivePreview.Proofs.Json.Written

**What is written is read.** The text of a value is read whole, whatever follows, and never as a fault
(`readValue_chars`). Texts come back character by character, as no escape that is written leaves half of
a pair behind; what becomes of a number depends on its text alone (`Number.textTree`). A reading of the
text of a value is therefore a reading of what is read of it (`Value.textTree`).

If all numbers are **exact**, that is whole and within 64 bits, what is read is the value's own tree
(`Value.tree`).
-/

namespace LivePreview.Json

open Text (isDigit)

/-! ### Texts -/

section Texts

variable {s : TextState}

theorem hex4?_escapeChar :
    ∀ n < 32, hex4? '0' '0' (hexDigit (n / 16)) (hexDigit (n % 16)) = some n := by
  decide

theorem TextState.push_of_settled (hs : s.high = none) (c : Char) :
    s.push c = { s with back := c :: s.back } := by
  simp [push, settle, hs]

theorem TextState.pushUnit_of_settled (hs : s.high = none) {n : Nat} (hn : n < 32) :
    s.pushUnit n = { s with back := Char.ofNat n :: s.back } := by
  unfold pushUnit
  rw [hs]
  dsimp only
  rw [if_neg (by simp; omega), if_neg (by simp; omega)]

/-- A character is written with a letter behind a backslash, as a hexadecimal escape or as it is. -/
theorem escapeChar_cases (c : Char) :
    (∃ e, e ≠ 'u' ∧ unescape? e = some c ∧ escapeChar c = ['\\', e]) ∨
      (c.toNat < 32 ∧ escapeChar c =
        ['\\', 'u', '0', '0', hexDigit (c.toNat / 16), hexDigit (c.toNat % 16)]) ∨
      (c ≠ '"' ∧ c ≠ '\\' ∧ ¬c.toNat < 32 ∧ escapeChar c = [c]) := by
  unfold escapeChar
  split_ifs with hquote hbackslash hfeed hreturn htab hback hform hcontrol
  · exact .inl ⟨'"', by decide, by rw [hquote]; decide, rfl⟩
  · exact .inl ⟨'\\', by decide, by rw [hbackslash]; decide, rfl⟩
  · exact .inl ⟨'n', by decide, by rw [hfeed]; decide, rfl⟩
  · exact .inl ⟨'r', by decide, by rw [hreturn]; decide, rfl⟩
  · exact .inl ⟨'t', by decide, by rw [htab]; decide, rfl⟩
  · exact .inl ⟨'b', by decide, by rw [hback]; decide, rfl⟩
  · exact .inl ⟨'f', by decide, by rw [hform]; decide, rfl⟩
  · exact .inr (.inl ⟨hcontrol, rfl⟩)
  · exact .inr (.inr ⟨hquote, hbackslash, hcontrol, rfl⟩)

/-- A character that no escape is written with stands only for itself, and is none of control. -/
theorem eq_of_mem_escapeChar {c d : Char} (hplain : unescape? d = none) (hu : d ≠ 'u')
    (hdigit : ∀ n < 16, hexDigit n ≠ d) (h : d ∈ escapeChar c) : d = c ∧ ¬c.toNat < 32 := by
  have hslash : d ≠ '\\' := by
    rintro rfl
    cases hplain
  rcases escapeChar_cases c with ⟨e, -, he, hc⟩ | ⟨hcontrol, hc⟩ | ⟨-, -, hcontrol, hc⟩
  · rw [hc, List.mem_cons, List.mem_singleton] at h
    obtain rfl := h.resolve_left hslash
    rw [hplain] at he
    cases he
  · have hhigh := hdigit (c.toNat / 16) (by omega)
    have hlow := hdigit (c.toNat % 16) (by omega)
    have hzero : d ≠ '0' := (hdigit 0 (by omega)).symm
    simp [hc, hslash, hu, hzero, hhigh.symm, hlow.symm] at h
  · rw [hc] at h
    exact ⟨List.mem_singleton.1 h, hcontrol⟩

/-- A character that was written is read. -/
theorem readText_escapeChar (hs : s.high = none) (c : Char) (rest : List Char) :
    readText s (escapeChar c ++ rest) = readText { s with back := c :: s.back } rest := by
  have hpush := TextState.push_of_settled hs c
  rcases escapeChar_cases c with ⟨e, hu, he, h⟩ | ⟨hcontrol, h⟩ | ⟨hquote, hbackslash, hcontrol, h⟩
  · simp [h, readText.eq_def s ('\\' :: _), hu, he, hpush]
  · have hunit := TextState.pushUnit_of_settled hs hcontrol
    rw [Char.ofNat_toNat] at hunit
    simp [h, readText.eq_def s ('\\' :: _), hex4?_escapeChar _ hcontrol, hunit]
  · simp [h, readText.eq_def s (c :: _), hquote, hbackslash, hcontrol, hpush]

/-- A text that was written is read, with its closing quote. -/
theorem readText_escaped (hs : s.high = none) (text rest : List Char) :
    readText s (text.flatMap escapeChar ++ '"' :: rest) =
      (TextState.finish { s with back := text.reverse ++ s.back }, some rest) := by
  induction text generalizing s with
  | nil => simp [readText.eq_def s ('"' :: _)]
  | cons c text ih =>
    rw [List.flatMap_cons, List.append_assoc, readText_escapeChar hs,
      ih (s := { s with back := c :: s.back }) hs]
    simp

theorem literalChars_append (text rest : List Char) :
    literalChars text ++ rest = '"' :: (text.flatMap escapeChar ++ '"' :: rest) := by
  simp [literalChars]

theorem readText_literal (text : String) (rest : List Char) :
    readText {} (text.toList.flatMap escapeChar ++ '"' :: rest) =
      (.string (.ok text), some rest) := by
  rw [readText_escaped rfl]
  simp [TextState.finish, TextState.settle]

end Texts

/-! ### Numbers -/

/-- A digit is neither space nor a letter or sign that a value begins with. -/
theorem ne_of_isDigit {c : Char} (hc : isDigit c = true) {d : Char} (hd : isDigit d = false) :
    c ≠ d := by
  rintro rfl
  exact absurd hc (by simp [hd])

theorem isSpace_of_isDigit {c : Char} (hc : isDigit c = true) : isSpace c = false := by
  have hne : ∀ d, isDigit d = false → c ≠ d := fun d => ne_of_isDigit hc
  simp [isSpace, hne ' ' (by decide), hne '\n' (by decide), hne '\t' (by decide),
    hne '\r' (by decide)]

theorem skipSpace_cons {c : Char} (hc : isSpace c = false) (rest : List Char) :
    skipSpace (c :: rest) = c :: rest := by
  simp [skipSpace, hc]

theorem readValue_digit {c : Char} (hc : isDigit c = true) (fuel : Nat) (rest : List Char) :
    readValue (fuel + 1) (c :: rest) = readNumber false (c :: rest) := by
  have hne : ∀ d, isDigit d = false → c ≠ d := fun d => ne_of_isDigit hc
  rw [readValue, skipSpace_cons (isSpace_of_isDigit hc)]
  simp [hne 'n' (by decide), hne 't' (by decide), hne 'f' (by decide), hne '-' (by decide), hc]

/-- What is read of the text of a number. -/
def Number.textTree (n : Number) : Tree :=
  (read n.text.toList).1

theorem Number.exists_tree (n : Number) : ∃ tree, (tree = .null ∨ ∃ value, tree = .number value) ∧
    ∀ fuel rest, Ends rest → readValue (fuel + 1) (n.text.toList ++ rest) = (tree, some rest) := by
  rcases n.exists_numeral with htext | ⟨negative, numeral, hproper, htext⟩
  · rw [htext]
    exact ⟨.null, .inl rfl, fun fuel rest _ => rfl⟩
  · obtain ⟨value, hvalue⟩ := readNumber_numeral negative hproper
    refine ⟨.number value, .inr ⟨value, rfl⟩, fun fuel rest hrest => ?_⟩
    rw [htext, ← hvalue rest hrest]
    cases negative with
    | true => rfl
    | false =>
      obtain ⟨c, more, hfirst, hc⟩ := hproper.exists_cons
      rw [if_neg Bool.false_ne_true, List.nil_append, hfirst, List.cons_append, readValue_digit hc]

/-- What is read of the text of a number is the same whatever follows that does not belong to it. -/
theorem Number.textTree_spec (n : Number) :
    (n.textTree = .null ∨ ∃ value, n.textTree = .number value) ∧
      ∀ fuel rest, Ends rest →
        readValue (fuel + 1) (n.text.toList ++ rest) = (n.textTree, some rest) := by
  obtain ⟨tree, hcases, hread⟩ := n.exists_tree
  have hsame : n.textTree = tree := by
    have hwhole := hread (2 * n.text.toList.length + 1) [] ends_nil
    rw [List.append_nil] at hwhole
    exact congrArg Prod.fst hwhole
  rw [hsame]
  exact ⟨hcases, hread⟩

/-- The text of a number begins with its first token, which ends no array. -/
theorem Number.exists_text_eq (n : Number) :
    ∃ c rest, n.text.toList = c :: rest ∧ isSpace c = false ∧ c ≠ ']' := by
  rcases n.exists_numeral with htext | ⟨negative, numeral, hproper, htext⟩
  · rw [htext]
    exact ⟨_, _, rfl, by decide, by decide⟩
  · rw [htext]
    cases negative with
    | true => exact ⟨_, _, rfl, by decide, by decide⟩
    | false =>
      obtain ⟨c, more, hfirst, hc⟩ := hproper.exists_cons
      exact ⟨c, more, hfirst, isSpace_of_isDigit hc, ne_of_isDigit hc (by decide)⟩

/-- May the number be written and read again? -/
def Number.Exact : Number → Prop
  | .integer value => -(2 ^ 63) ≤ value ∧ value < 2 ^ 64
  | .float _ => False

/-- An exact number that was written is read. -/
theorem readValue_exact {n : Number} (hn : n.Exact) (fuel : Nat) {rest : List Char}
    (hrest : Ends rest) :
    readValue (fuel + 1) (n.text.toList ++ rest) = (.number (.ok n), some rest) := by
  cases n with
  | float bits => exact hn.elim
  | integer value =>
    obtain ⟨hleast, hgreatest⟩ := hn
    cases value with
    | ofNat n =>
      have hread := readNumber_toDigits false (n := n) (by simp at hgreatest ⊢; omega) hrest
      rw [Number.text_ofNat]
      cases hdigits : Nat.toDigits 10 n with
      | nil => exact absurd hdigits Nat.toDigits_ne_nil
      | cons c digits =>
        have hc : isDigit c = true := isDigit_of_mem_toDigits (hdigits ▸ List.mem_cons_self)
        rw [hdigits] at hread
        rw [List.cons_append, readValue_digit hc, ← List.cons_append, hread]
        simp [whole]
    | negSucc n =>
      have hsize : n + 1 ≤ 2 ^ 63 := by omega
      have hread := readNumber_toDigits true (n := n + 1) (by simp; omega) hrest
      rw [Number.text_negSucc, List.cons_append, readValue, skipSpace_cons (by decide)]
      simp only [Char.reduceEq, if_false, if_true, hread]
      have hwhole : whole true (n + 1) = .ok (.integer (.negSucc n)) := by
        rw [whole, if_pos rfl, if_neg (by simp; omega)]
        rfl
      rw [hwhole]

theorem Number.textTree_of_exact {n : Number} (hn : n.Exact) : n.textTree = .number (.ok n) := by
  have hread := readValue_exact hn 0 ends_nil
  rw [n.textTree_spec.2 0 [] ends_nil] at hread
  exact congrArg Prod.fst hread

/-! ### Values -/

mutual
/-- The tree of a value. -/
def Value.tree : Value → Tree
  | .null => .null
  | .bool value => .bool value
  | .number value => .number (.ok value)
  | .string text => .string (.ok text)
  | .array items => .array (itemTrees items)
  | .object members => .object (memberTrees members)

/-- The trees of the items of an array. -/
def itemTrees : List Value → List Tree
  | [] => []
  | item :: more => item.tree :: itemTrees more

/-- The trees of the members of an object. -/
def memberTrees : List (String × Value) → List (Tree × Tree)
  | [] => []
  | (key, value) :: more => (.string (.ok key), value.tree) :: memberTrees more
end

mutual
/-- What is read of the text of a value: its tree, with what is read of the numbers in it. -/
def Value.textTree : Value → Tree
  | .null => .null
  | .bool value => .bool value
  | .number value => value.textTree
  | .string text => .string (.ok text)
  | .array items => .array (itemTextTrees items)
  | .object members => .object (memberTextTrees members)

/-- What is read of the texts of items. -/
def itemTextTrees : List Value → List Tree
  | [] => []
  | item :: more => item.textTree :: itemTextTrees more

/-- What is read of the texts of members. -/
def memberTextTrees : List (String × Value) → List (Tree × Tree)
  | [] => []
  | (key, value) :: more => (.string (.ok key), value.textTree) :: memberTextTrees more
end

mutual
/-- Are all numbers of a value exact? -/
def Value.Exact : Value → Prop
  | .number value => value.Exact
  | .array items => ItemsExact items
  | .object members => MembersExact members
  | _ => True

/-- Are all numbers of the items exact? -/
def ItemsExact : List Value → Prop
  | [] => True
  | item :: more => item.Exact ∧ ItemsExact more

/-- Are all numbers of the members exact? -/
def MembersExact : List (String × Value) → Prop
  | [] => True
  | (_, value) :: more => value.Exact ∧ MembersExact more
end

instance (n : Number) : Decidable n.Exact :=
  match n with
  | .integer value => inferInstanceAs (Decidable (-(2 ^ 63) ≤ value ∧ value < 2 ^ 64))
  | .float _ => inferInstanceAs (Decidable False)

mutual
instance Value.decidableExact : (v : Value) → Decidable v.Exact
  | .null | .bool _ | .string _ => inferInstanceAs (Decidable True)
  | .number n => inferInstanceAs (Decidable n.Exact)
  | .array items => decidableItemsExact items
  | .object members => decidableMembersExact members

instance decidableItemsExact : (items : List Value) → Decidable (ItemsExact items)
  | [] => inferInstanceAs (Decidable True)
  | v :: more => @instDecidableAnd _ _ (Value.decidableExact v) (decidableItemsExact more)

instance decidableMembersExact : (members : List (String × Value)) → Decidable (MembersExact members)
  | [] => inferInstanceAs (Decidable True)
  | (_, v) :: more => @instDecidableAnd _ _ (Value.decidableExact v) (decidableMembersExact more)
end

/-- The text of a value begins with its first token, which ends no array. -/
theorem exists_chars_eq (v : Value) :
    ∃ c rest, v.chars = c :: rest ∧ isSpace c = false ∧ c ≠ ']' := by
  cases v with
  | null => exact ⟨_, _, rfl, by decide, by decide⟩
  | bool value => cases value <;> exact ⟨_, _, rfl, by decide, by decide⟩
  | string text => exact ⟨_, _, rfl, by decide, by decide⟩
  | array items => exact ⟨_, _, by rw [Value.chars]; rfl, by decide, by decide⟩
  | object members => exact ⟨_, _, by rw [Value.chars]; rfl, by decide, by decide⟩
  | number n => exact Number.exists_text_eq n

theorem itemChars_cons (v next : Value) (more : List Value) :
    itemChars (v :: next :: more) = v.chars ++ ',' :: itemChars (next :: more) := by
  rw [itemChars]
  exact nofun

theorem memberChars_cons (key : String) (v : Value) (next : String × Value)
    (more : List (String × Value)) :
    memberChars ((key, v) :: next :: more) =
      literalChars key.toList ++ ':' :: (v.chars ++ ',' :: memberChars (next :: more)) := by
  rw [memberChars, List.append_assoc, List.cons_append]
  exact nofun

theorem exists_items_eq (v : Value) (more : List Value) :
    ∃ c rest, itemChars (v :: more) = c :: rest ∧ isSpace c = false ∧ c ≠ ']' := by
  obtain ⟨c, rest, hchars, hspace, hclose⟩ := exists_chars_eq v
  cases more with
  | nil => exact ⟨c, rest, by rw [itemChars, hchars], hspace, hclose⟩
  | cons next more =>
    exact ⟨c, _, by rw [itemChars_cons, hchars, List.cons_append], hspace, hclose⟩

theorem exists_members_eq (member : String × Value) (more : List (String × Value)) :
    ∃ rest, memberChars (member :: more) = '"' :: rest := by
  cases more with
  | nil => exact ⟨_, by rw [memberChars, literalChars_append]⟩
  | cons next more => exact ⟨_, by rw [memberChars_cons, literalChars_append]⟩

/-! ### Items and members -/

section Steps

variable {fuel : Nat} {first : Bool} {c : Char} {key : String} {v : Value} {tail rest : List Char}
  {items : List Tree} {members : List (Tree × Tree)}

theorem readItems_close : readItems (fuel + 1) first (']' :: rest) = ([], some rest) := by
  rw [readItems, skipSpace_cons (by decide)]
  rfl

/-- Behind a comma items go on as they begin. -/
theorem readItems_comma (hspace : isSpace c = false) (hclose : c ≠ ']') :
    readItems (fuel + 1) false (',' :: c :: rest) = readItems (fuel + 1) true (c :: rest) := by
  rw [readItems, readItems, skipSpace_cons (by decide), skipSpace_cons hspace]
  simp [skipSpace_cons hspace, hclose]

/-- An item is read, then those behind it. -/
theorem readItems_step (hvalue : readValue fuel (v.chars ++ tail) = (v.textTree, some tail))
    (hmore : readItems fuel false tail = (items, some rest)) :
    readItems (fuel + 1) true (v.chars ++ tail) = (v.textTree :: items, some rest) := by
  obtain ⟨c, chars, hchars, hspace, hclose⟩ := exists_chars_eq v
  rw [hchars, List.cons_append] at hvalue ⊢
  rw [readItems, skipSpace_cons hspace]
  simp [hclose, hvalue, hmore]

theorem readMembers_close : readMembers (fuel + 1) first ('\x7d' :: rest) = ([], some rest) := by
  rw [readMembers, skipSpace_cons (by decide)]
  rfl

/-- Behind a comma members go on as they begin. -/
theorem readMembers_comma :
    readMembers (fuel + 1) false (',' :: '"' :: rest) = readMembers (fuel + 1) true ('"' :: rest) := by
  rw [readMembers, readMembers, skipSpace_cons (by decide), skipSpace_cons (by decide)]
  simp [skipSpace_cons (c := '"') (by decide)]

/-- A member is read, then those behind it. -/
theorem readMembers_step (hvalue : readValue fuel (v.chars ++ tail) = (v.textTree, some tail))
    (hmore : readMembers fuel false tail = (members, some rest)) :
    readMembers (fuel + 1) true (literalChars key.toList ++ ':' :: (v.chars ++ tail)) =
      ((.string (.ok key), v.textTree) :: members, some rest) := by
  have hkey := readText_literal key (':' :: (v.chars ++ tail))
  rw [literalChars_append, readMembers, skipSpace_cons (by decide)]
  simp [hkey, skipSpace_cons (c := ':') (by decide), hvalue, hmore]

end Steps

theorem ends_mark {c : Char} (hc : c = ',' ∨ c = ']' ∨ c = '\x7d') (rest : List Char) :
    Ends (c :: rest) := by
  rcases hc with rfl | rfl | rfl <;> exact ends_cons.2 (by decide)

mutual
/-- The text of a value is read as its tree, whatever follows that does not belong to it. -/
theorem readValue_chars (v : Value) (fuel : Nat) (hfuel : 2 * v.chars.length ≤ fuel)
    {rest : List Char} (hrest : Ends rest) :
    readValue fuel (v.chars ++ rest) = (v.textTree, some rest) := by
  obtain ⟨c, chars, hchars, -, -⟩ := exists_chars_eq v
  have hpositive : 0 < v.chars.length := by simp [hchars]
  obtain ⟨fuel, rfl⟩ : ∃ f, fuel = f + 1 := ⟨fuel - 1, by omega⟩
  match v with
  | .null => rfl
  | .bool true => rfl
  | .bool false => rfl
  | .number n => exact n.textTree_spec.2 fuel rest hrest
  | .string text =>
    rw [Value.chars, literalChars_append, readValue, skipSpace_cons (by decide)]
    exact readText_literal text rest
  | .array items =>
    have hitems := readItems_chars items fuel
      (by simp only [Value.chars, List.length_cons, List.length_append] at hfuel; omega) rest
    rw [Value.chars, List.cons_append, List.cons_append, List.append_assoc, readValue,
      skipSpace_cons (by decide)]
    exact congrArg (fun taken : Step (List Tree) => (Tree.array taken.1, taken.2)) hitems
  | .object members =>
    have hmembers := readMembers_chars members fuel
      (by simp only [Value.chars, List.length_cons, List.length_append] at hfuel; omega) rest
    rw [Value.chars, List.cons_append, List.cons_append, List.append_assoc, readValue,
      skipSpace_cons (by decide)]
    exact congrArg (fun taken : Step (List (Tree × Tree)) => (Tree.object taken.1, taken.2)) hmembers

/-- The texts of items are read as their trees. -/
theorem readItems_chars (items : List Value) (fuel : Nat)
    (hfuel : 2 * (itemChars items).length + 2 ≤ fuel) (rest : List Char) :
    readItems fuel true (itemChars items ++ ']' :: rest) = (itemTextTrees items, some rest) := by
  obtain ⟨fuel, rfl⟩ : ∃ f, fuel = f + 2 := ⟨fuel - 2, by omega⟩
  match items with
  | [] => exact readItems_close
  | [v] =>
    rw [itemChars] at hfuel ⊢
    have hvalue := readValue_chars v (fuel + 1) (by omega)
      (ends_mark (.inr (.inl rfl)) rest)
    exact readItems_step hvalue readItems_close
  | v :: next :: more =>
    simp only [itemChars_cons, List.length_append, List.length_cons] at hfuel
    rw [itemChars_cons, List.append_assoc, List.cons_append]
    have hmore := readItems_chars (next :: more) (fuel + 1) (by omega) rest
    have hvalue := readValue_chars v (fuel + 1) (by omega)
      (ends_mark (.inl rfl) (itemChars (next :: more) ++ ']' :: rest))
    obtain ⟨c, chars, hchars, hspace, hclose⟩ := exists_items_eq next more
    refine readItems_step hvalue ?_
    rw [hchars, List.cons_append, readItems_comma hspace hclose, ← List.cons_append, ← hchars]
    exact hmore

/-- The texts of members are read as their trees. -/
theorem readMembers_chars (members : List (String × Value)) (fuel : Nat)
    (hfuel : 2 * (memberChars members).length + 2 ≤ fuel) (rest : List Char) :
    readMembers fuel true (memberChars members ++ '\x7d' :: rest) =
      (memberTextTrees members, some rest) := by
  obtain ⟨fuel, rfl⟩ : ∃ f, fuel = f + 2 := ⟨fuel - 2, by omega⟩
  match members with
  | [] => exact readMembers_close
  | [(key, v)] =>
    simp only [memberChars, List.length_append, List.length_cons] at hfuel
    rw [memberChars, List.append_assoc, List.cons_append]
    have hvalue := readValue_chars v (fuel + 1) (by omega)
      (ends_mark (.inr (.inr rfl)) rest)
    exact readMembers_step hvalue readMembers_close
  | (key, v) :: next :: more =>
    simp only [memberChars_cons, List.length_append, List.length_cons] at hfuel
    rw [memberChars_cons, List.append_assoc, List.cons_append, List.append_assoc, List.cons_append]
    have hmore := readMembers_chars (next :: more) (fuel + 1) (by omega) rest
    have hvalue := readValue_chars v (fuel + 1) (by omega)
      (ends_mark (.inl rfl) (memberChars (next :: more) ++ '\x7d' :: rest))
    obtain ⟨chars, hchars⟩ := exists_members_eq next more
    refine readMembers_step hvalue ?_
    rw [hchars, List.cons_append, readMembers_comma, ← List.cons_append, ← hchars]
    exact hmore
end

/-! ### Whole texts -/

/-- The text of a value is read to its end. -/
theorem read_value_text (v : Value) : read v.chars = (v.textTree, some []) := by
  have hread := readValue_chars v (2 * v.chars.length + 2) (by omega) ends_nil
  rwa [List.append_nil] at hread

/-- A reading of the text of a value is one of what is read of it. -/
theorem parse_value_text {α : Type} (v : Value) (reading : Reading α) :
    parse reading v.text = reading v.textTree := by
  rw [parse, Value.text, String.toList_ofList, read_value_text]
  cases hreading : reading v.textTree <;> simp [hreading, bind, Except.bind, skipSpace]
  rfl

/-! ### Passing over -/

mutual
/-- Whatever was written can be passed over. -/
theorem skip_textTree (v : Value) : skip v.textTree = .ok () := by
  match v with
  | .null | .bool _ | .string _ => rfl
  | .number n =>
    rcases n.textTree_spec.1 with h | ⟨value, h⟩
    all_goals
      rw [Value.textTree, h]
      rfl
  | .array items => exact skipItems_textTrees items
  | .object members => exact skipMembers_textTrees members

theorem skipItems_textTrees (items : List Value) : skipItems (itemTextTrees items) = .ok () := by
  match items with
  | [] => rfl
  | v :: more =>
    rw [itemTextTrees, skipItems, skip_textTree v]
    exact skipItems_textTrees more

theorem skipMembers_textTrees (members : List (String × Value)) :
    skipMembers (memberTextTrees members) = .ok () := by
  match members with
  | [] => rfl
  | (key, v) :: more =>
    rw [memberTextTrees, skipMembers, skip_textTree v]
    exact skipMembers_textTrees more
end

/-! ### Exact values -/

mutual
/-- Of an exact value the tree is read. -/
theorem textTree_of_exact (v : Value) (hv : v.Exact) : v.textTree = v.tree := by
  match v with
  | .null | .bool _ | .string _ => rfl
  | .number n => exact Number.textTree_of_exact hv
  | .array items => exact congrArg Tree.array (itemTextTrees_of_exact items hv)
  | .object members => exact congrArg Tree.object (memberTextTrees_of_exact members hv)

theorem itemTextTrees_of_exact (items : List Value) (hitems : ItemsExact items) :
    itemTextTrees items = itemTrees items := by
  match items with
  | [] => rfl
  | v :: more =>
    rw [itemTextTrees, itemTrees, textTree_of_exact v hitems.1, itemTextTrees_of_exact more hitems.2]

theorem memberTextTrees_of_exact (members : List (String × Value)) (hmembers : MembersExact members) :
    memberTextTrees members = memberTrees members := by
  match members with
  | [] => rfl
  | (key, v) :: more =>
    rw [memberTextTrees, memberTrees, textTree_of_exact v hmembers.1,
      memberTextTrees_of_exact more hmembers.2]
end

/-- A text that was written is read to its end. -/
theorem read_chars {v : Value} (hv : v.Exact) : read v.chars = (v.tree, some []) := by
  rw [read_value_text, textTree_of_exact v hv]

/-- A reading of the text of a value is one of its tree. -/
theorem parse_written {α : Type} {v : Value} (hv : v.Exact) (reading : Reading α) :
    parse reading v.text = reading v.tree := by
  rw [parse_value_text, textTree_of_exact v hv]

end LivePreview.Json
