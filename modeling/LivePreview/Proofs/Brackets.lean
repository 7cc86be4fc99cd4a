import LivePreview.Code.Reading
import LivePreview.Proofs.Text.Occurrence
import LivePreview.Tips
/-!
# LivePreview.Proofs.Brackets

**The bracket check tells whether brackets nest.** A source is read as pieces: characters of code,
literals and comments (`Reads`), and there is one way to read it (`exists_reads`, `Reads.unique`). The
check finds no fault with a source exactly if the brackets of its code are properly nested
(`unbalanced_eq_false_iff`), as long as block comments hold nothing that means something in code: the
check does not know them and takes their text for code (`unbalanced_counts_comment`).

The check is a stack machine. What it does over pieces is what it does over their brackets
(`Reads.go_eq`), and a word that empties its stack is nested (`closesAll_nil_iff`).
-/

namespace LivePreview.Tips

open Text
open Code.Reading (isQuote)

/-! ### Nested words -/

/-- The brackets that open and close each other. -/
def pairs : List (Char × Char) :=
  [('(', ')'), ('[', ']'), ('\x7b', '\x7d')]

/-- Is `c` a bracket? -/
def isBracket (c : Char) : Bool :=
  pairs.any fun pair => c == pair.1 || c == pair.2

/-- The words of brackets in which each bracket is closed by its own, in the right order. -/
inductive Nested : List Char → Prop
  | nil : Nested []
  | wrap {opening closing : Char} {inner rest : List Char} : (opening, closing) ∈ pairs →
      Nested inner → Nested rest → Nested (opening :: (inner ++ closing :: rest))

/-! ### Reading a source -/

/-- What follows an opening quote is the body of the literal, which takes a character with each of its
backslashes, and the text behind the closing quote. A literal that is not closed reaches to the end. -/
inductive Literal (quote : Char) : List Char → List Char → List Char → Prop
  | close (rest : List Char) : Literal quote (quote :: rest) [] rest
  | char {c : Char} {text body rest : List Char} : c ≠ quote → c ≠ '\\' →
      Literal quote text body rest → Literal quote (c :: text) (c :: body) rest
  | escape (c : Char) {text body rest : List Char} : Literal quote text body rest →
      Literal quote ('\\' :: c :: text) ('\\' :: c :: body) rest
  | unclosed : Literal quote [] [] []
  | unclosedEscape : Literal quote ['\\'] ['\\'] []

/-- What follows the mark that opens a block comment: the comment, and the text behind the mark that closes
it. A comment that is not closed reaches to the end. -/
def blockEnd (text : List Char) : List Char × List Char :=
  (cutAt? ['*', '/'] text).getD (text, [])

/-- A part of a source. -/
inductive Piece
  /-- A character outside literals and comments. -/
  | code (c : Char)
  /-- A string or template, without its quotes. -/
  | literal (quote : Char) (body : List Char)
  /-- A comment that ends with the line. -/
  | lineComment (body : List Char)
  /-- A comment that ends with `*/`. -/
  | blockComment (body : List Char)
  deriving DecidableEq

/-- Does the text begin with a mark that opens a comment? -/
def beginsComment (text : List Char) : Bool :=
  startsWith ['/', '/'] text || startsWith ['/', '*'] text

/-- How a source is read. -/
inductive Reads : List Char → List Piece → Prop
  | nil : Reads [] []
  | code {c : Char} {rest : List Char} {pieces : List Piece} : isQuote c = false →
      beginsComment (c :: rest) = false → Reads rest pieces → Reads (c :: rest) (.code c :: pieces)
  | literal {quote : Char} {text body rest : List Char} {pieces : List Piece} : isQuote quote = true →
      Literal quote text body rest → Reads rest pieces →
      Reads (quote :: text) (.literal quote body :: pieces)
  | lineComment {text : List Char} {pieces : List Piece} : Reads (text.dropWhile (· != '\n')) pieces →
      Reads ('/' :: '/' :: text) (.lineComment (text.takeWhile (· != '\n')) :: pieces)
  | blockComment {text : List Char} {pieces : List Piece} : Reads (blockEnd text).2 pieces →
      Reads ('/' :: '*' :: text) (.blockComment (blockEnd text).1 :: pieces)

/-- The brackets of the code, in order. -/
def brackets (pieces : List Piece) : List Char :=
  pieces.filterMap fun
    | .code c => if isBracket c then some c else none
    | _ => none

/-- Does the piece begin with a slash? -/
def Piece.beginsSlash : Piece → Bool
  | code c => c == '/'
  | literal _ _ => false
  | lineComment _ | blockComment _ => true

/-- The text means nothing in code: it holds no bracket and no quote, and opens no comment of a line. -/
structure Idle (text : List Char) : Prop where
  plain : ∀ c ∈ text, isBracket c = false ∧ isQuote c = false
  apart : ¬['/', '/'] <:+: text

/-- The block comments mean nothing in code, and no slash stands behind them. -/
def Harmless : List Piece → Prop
  | [] => True
  | .blockComment body :: rest =>
    Idle body ∧ (∀ piece ∈ rest.head?, piece.beginsSlash = false) ∧ Harmless rest
  | _ :: rest => Harmless rest

/-! ### The stack -/

/-- Does the word close the brackets that are open, the last of which comes first, and its own? -/
def closesAll : List Char → List Char → Bool
  | stack, [] => stack.isEmpty
  | stack, c :: word =>
    match opening? c with
    | none => closesAll (c :: stack) word
    | some o =>
      match stack with
      | top :: more => decide (top = o) && closesAll more word
      | [] => false

theorem opening?_eq_some_iff {c o : Char} : opening? c = some o ↔ (o, c) ∈ pairs := by
  unfold opening? pairs
  split_ifs <;> simp_all [eq_comm]

/-- A bracket either closes or opens. -/
theorem isBracket_iff {c : Char} :
    isBracket c = true ↔ (∃ o, (o, c) ∈ pairs) ∨ ∃ closing, (c, closing) ∈ pairs := by
  simp only [isBracket, List.any_eq_true, Bool.or_eq_true, beq_iff_eq]
  constructor
  · rintro ⟨⟨o, d⟩, hpair, rfl | rfl⟩
    · exact .inr ⟨d, hpair⟩
    · exact .inl ⟨o, hpair⟩
  · rintro (⟨o, hpair⟩ | ⟨d, hpair⟩)
    · exact ⟨(o, c), hpair, .inr rfl⟩
    · exact ⟨(c, d), hpair, .inl rfl⟩

/-- What opens does not close. -/
theorem opening?_of_mem_pairs {o c : Char} (h : (o, c) ∈ pairs) : opening? o = none := by
  simp only [pairs, List.mem_cons, Prod.mk.injEq, List.not_mem_nil, or_false] at h
  rcases h with ⟨rfl, -⟩ | ⟨rfl, -⟩ | ⟨rfl, -⟩ <;> rfl

section Stack

variable {stack word inner : List Char} {o c : Char}

theorem closesAll_open (h : (o, c) ∈ pairs) :
    closesAll stack (o :: word) = closesAll (o :: stack) word := by
  simp only [closesAll, opening?_of_mem_pairs h]

theorem closesAll_close (h : (o, c) ∈ pairs) :
    closesAll (o :: stack) (c :: word) = closesAll stack word := by
  simp only [closesAll, opening?_eq_some_iff.2 h, decide_true, Bool.true_and]

/-- A nested word leaves the stack as it is. -/
theorem Nested.closesAll_append (h : Nested inner) (stack word : List Char) :
    closesAll stack (inner ++ word) = closesAll stack word := by
  induction h generalizing stack word with
  | nil => rfl
  | wrap hpair _ _ ihInner ihRest =>
    rw [List.cons_append, List.append_assoc, List.cons_append, closesAll_open hpair, ihInner,
      closesAll_close hpair, ihRest]

theorem Nested.append (h : Nested inner) (hw : Nested word) : Nested (inner ++ word) := by
  induction h with
  | nil => exact hw
  | wrap hpair hin _ _ ih =>
    rw [List.cons_append, List.append_assoc, List.cons_append]
    exact .wrap hpair hin ih

/-- The word closes the open brackets one after the other, with nested words in between. -/
inductive Closing : List Char → List Char → Prop
  | done {word : List Char} : Nested word → Closing [] word
  | close {opening closing : Char} {inner stack word : List Char} : (opening, closing) ∈ pairs →
      Nested inner → Closing stack word → Closing (opening :: stack) (inner ++ closing :: word)

theorem Closing.nested_append (h : Closing stack word) (hn : Nested inner) :
    Closing stack (inner ++ word) := by
  cases h with
  | done hw => exact .done (hn.append hw)
  | close hpair hin hw =>
    rw [← List.append_assoc]
    exact .close hpair (hn.append hin) hw

/-- What the stack machine accepts closes the brackets that are open. -/
theorem closing_of_closesAll (hw : ∀ c ∈ word, isBracket c = true) (h : closesAll stack word = true) :
    Closing stack word := by
  induction word generalizing stack with
  | nil =>
    rw [closesAll, List.isEmpty_iff] at h
    rw [h]
    exact .done .nil
  | cons c word ih =>
    have ih := fun stack => @ih stack fun d hd => hw d (List.mem_cons_of_mem c hd)
    rcases isBracket_iff.1 (hw c List.mem_cons_self) with ⟨o, hpair⟩ | ⟨closing, hpair⟩
    · -- A closing bracket: its own is on top of the stack.
      cases stack with
      | nil => simp [closesAll, opening?_eq_some_iff.2 hpair] at h
      | cons top more =>
        simp only [closesAll, opening?_eq_some_iff.2 hpair, Bool.and_eq_true, decide_eq_true_eq] at h
        rw [h.1]
        exact .close hpair .nil (ih more h.2)
    · -- An opening bracket: what closes it makes a nested word of what is in between.
      rw [closesAll_open hpair] at h
      cases ih _ h with
      | close hclose hin hrest =>
        have hnested := Nested.wrap hclose hin .nil
        have hall := hrest.nested_append hnested
        simpa using hall

/-- **The stack machine accepts the nested words.** -/
theorem closesAll_nil_iff (hw : ∀ c ∈ word, isBracket c = true) :
    closesAll [] word = true ↔ Nested word := by
  constructor
  · intro h
    cases closing_of_closesAll hw h with
    | done hn => exact hn
  · intro hn
    have h := hn.closesAll_append [] []
    rw [List.append_nil] at h
    exact h

end Stack

/-! ### The check over pieces -/

section Check

variable {text rest body : List Char} {pieces : List Piece} {stack word : List Char} {c quote : Char}

/-- A character of code that is no bracket is passed over. -/
theorem go_plain (hq : isQuote c = false) (hb : isBracket c = false)
    (hs : c = '/' → rest.head? ≠ some '/') :
    unbalanced.go .code stack (c :: rest) = unbalanced.go .code stack rest := by
  simp only [isQuote, Bool.or_eq_false_iff, beq_eq_false_iff_ne] at hq
  simp only [isBracket, pairs, List.any_cons, List.any_nil, Bool.or_false, Bool.or_eq_false_iff,
    beq_eq_false_iff_ne] at hb
  have hcomment : (c = '/' && rest.head? == some '/') = false := by simpa using hs
  simp [unbalanced.go, hq, hb, hcomment, opening?]

/-- The check counts a bracket as the stack machine does. -/
theorem go_bracket (hb : isBracket c = true)
    (ih : ∀ stack, unbalanced.go .code stack rest = !closesAll stack word) :
    unbalanced.go .code stack (c :: rest) = !closesAll stack (c :: word) := by
  rcases isBracket_iff.1 hb with ⟨o, hpair⟩ | ⟨closing, hpair⟩
  · have ho := opening?_eq_some_iff.2 hpair
    simp only [pairs, List.mem_cons, Prod.mk.injEq, List.not_mem_nil, or_false] at hpair
    rcases hpair with ⟨rfl, rfl⟩ | ⟨rfl, rfl⟩ | ⟨rfl, rfl⟩ <;>
    · cases stack with
      | nil => simp [unbalanced.go, closesAll, ho]
      | cons top more => simp [unbalanced.go, closesAll, ho, ih]
  · rw [closesAll_open hpair, ← ih]
    simp only [pairs, List.mem_cons, Prod.mk.injEq, List.not_mem_nil, or_false] at hpair
    rcases hpair with ⟨rfl, -⟩ | ⟨rfl, -⟩ | ⟨rfl, -⟩ <;> simp [unbalanced.go]

/-- A quote opens a literal. -/
theorem go_quote (hq : isQuote quote = true) :
    unbalanced.go .code stack (quote :: text) = unbalanced.go (.quoted quote) stack text := by
  simp only [isQuote, Bool.or_eq_true, beq_iff_eq] at hq
  rcases hq with (rfl | rfl) | rfl <;> simp [unbalanced.go]

theorem ne_backslash_of_isQuote (hq : isQuote quote = true) : quote ≠ '\\' := by
  rintro rfl
  exact absurd hq (by decide)

/-- A literal is passed over. -/
theorem go_literal (hq : isQuote quote = true) (h : Literal quote text body rest) :
    unbalanced.go (.quoted quote) stack text = unbalanced.go .code stack rest := by
  induction h with
  | close rest => rw [unbalanced.go, if_neg (ne_backslash_of_isQuote hq), if_pos rfl]
  | char hc hb _ ih => rw [unbalanced.go, if_neg hb, if_neg hc, ih]
  | escape c _ ih => rw [unbalanced.go, if_pos rfl, unbalanced.go, ih]
  | unclosed => rw [unbalanced.go, unbalanced.go]
  | unclosedEscape => rfl

/-- A comment of a line is passed over. -/
theorem go_lineComment (text : List Char) :
    unbalanced.go .lineComment stack text = unbalanced.go .code stack (text.dropWhile (· != '\n')) := by
  induction text with
  | nil => simp [unbalanced.go]
  | cons c text ih =>
    by_cases hc : c = '\n'
    · rw [hc]
      simp [unbalanced.go, opening?]
    · simp [unbalanced.go, hc, ih]

/-- Text without meaning is passed over, unless its last slash and the next character open a comment. -/
theorem go_idle (h : Idle text) (hs : text.getLast? = some '/' → rest.head? ≠ some '/') :
    unbalanced.go .code stack (text ++ rest) = unbalanced.go .code stack rest := by
  induction text with
  | nil => rfl
  | cons c text ih =>
    obtain ⟨hplain, hapart⟩ := h
    have hc := hplain c List.mem_cons_self
    have hrest : Idle text :=
      ⟨fun d hd => hplain d (List.mem_cons_of_mem c hd),
        fun hi => hapart (hi.trans (List.suffix_cons c text).isInfix)⟩
    have hslash : c = '/' → (text ++ rest).head? ≠ some '/' := by
      rintro rfl
      cases text with
      | nil => exact hs rfl
      | cons d text =>
        rintro hd
        rw [List.cons_append, List.head?_cons, Option.some.injEq] at hd
        rw [hd] at hapart
        exact hapart ⟨[], text, rfl⟩
    rw [List.cons_append, go_plain hc.2 hc.1 hslash]
    cases text with
    | nil => rfl
    | cons d text =>
      rw [List.getLast?_cons_cons] at hs
      exact ih hrest hs

theorem idle_slash : Idle ['/'] where
  plain := List.forall_mem_singleton.2 (by decide)
  apart := by decide

/-- A star between texts without meaning adds none. -/
theorem Idle.append_star {a b : List Char} (ha : Idle a) (hb : Idle b) : Idle (a ++ '*' :: b) := by
  constructor
  · intro c hc
    rcases List.mem_append.1 hc with hc | hc
    · exact ha.plain c hc
    · rcases List.mem_cons.1 hc with rfl | hc
      · decide
      · exact hb.plain c hc
  · rw [infix_append_cons_iff (by decide) (List.cons_ne_nil _ _)]
    exact not_or.2 ⟨ha.apart, hb.apart⟩

/-- What begins with no piece that begins with a slash does not begin with one. -/
theorem Reads.head?_ne (h : Reads rest pieces) (hp : ∀ piece ∈ pieces.head?, piece.beginsSlash = false) :
    rest.head? ≠ some '/' := by
  cases h with
  | nil => exact fun h => absurd h (by decide)
  | code _ _ _ => simpa [Piece.beginsSlash] using hp
  | literal hq _ _ =>
    intro hc
    rw [List.head?_cons, Option.some.injEq] at hc
    rw [hc] at hq
    exact absurd hq (by decide)
  | lineComment _ | blockComment _ => simp [Piece.beginsSlash] at hp

/-- A block comment without meaning is passed over. -/
theorem go_blockComment (h : Idle (blockEnd text).1) (hs : (blockEnd text).2.head? ≠ some '/') :
    unbalanced.go .code stack ('/' :: '*' :: text) = unbalanced.go .code stack (blockEnd text).2 := by
  unfold blockEnd at h hs ⊢
  cases hcut : cutAt? ['*', '/'] text with
  | none =>
    rw [hcut] at h
    have hend : unbalanced.go .code stack (['/'] ++ '*' :: text ++ []) = unbalanced.go .code stack [] :=
      go_idle (idle_slash.append_star h) fun _ => by simp
    rw [List.append_nil] at hend
    exact hend
  | some cut =>
    obtain ⟨body, rest⟩ := cut
    simp only [hcut, Option.getD_some] at h hs ⊢
    have hidle := (idle_slash.append_star h).append_star idle_slash
    have htext : '/' :: '*' :: text = ['/'] ++ '*' :: body ++ '*' :: ['/'] ++ rest := by
      simp [cutAt?_append hcut]
    rw [htext, go_idle hidle fun _ => hs]

/-- The check sees of a source what the stack machine sees of its brackets. -/
theorem Reads.go_eq (h : Reads text pieces) (hh : Harmless pieces) (stack : List Char) :
    unbalanced.go .code stack text = !closesAll stack (brackets pieces) := by
  induction h generalizing stack with
  | nil => rw [unbalanced.go, brackets, List.filterMap_nil, closesAll]
  | @code c rest pieces hq hc _ ih =>
    have ih := ih hh
    by_cases hb : isBracket c = true
    · have hword : brackets (.code c :: pieces) = c :: brackets pieces := by simp [brackets, hb]
      rw [hword, go_bracket hb ih]
    · have hword : brackets (.code c :: pieces) = brackets pieces := by simp [brackets, hb]
      have hslash : c = '/' → rest.head? ≠ some '/' := by
        rintro rfl hd
        obtain ⟨more, rfl⟩ := List.head?_eq_some_iff.1 hd
        exact Bool.false_ne_true hc.symm
      rw [hword, go_plain hq (Bool.eq_false_iff.2 hb) hslash, ih]
  | literal hq hl _ ih =>
    rw [go_quote hq, go_literal hq hl]
    exact ih hh stack
  | @lineComment text _ _ ih =>
    have hopen : unbalanced.go .code stack ('/' :: '/' :: text) =
        unbalanced.go .lineComment stack ('/' :: text) := by simp [unbalanced.go]
    rw [hopen, go_lineComment]
    exact ih hh stack
  | @blockComment text pieces hr ih =>
    obtain ⟨hidle, hnext, hh⟩ := hh
    rw [go_blockComment hidle (hr.head?_ne hnext)]
    exact ih hh stack

end Check

/-! ### One reading -/

section Reading

variable {text body body' rest rest' : List Char} {pieces pieces' : List Piece} {quote : Char}

/-- Behind a quote there is one literal. -/
theorem exists_literal (quote : Char) : ∀ text : List Char, ∃ body rest, Literal quote text body rest
  | [] => ⟨[], [], .unclosed⟩
  | [c] => by
    by_cases hc : c = quote
    · exact ⟨[], [], hc ▸ .close []⟩
    · by_cases hb : c = '\\'
      · rw [hb]
        exact ⟨['\\'], [], .unclosedEscape⟩
      · exact ⟨[c], [], .char hc hb .unclosed⟩
  | c :: d :: text => by
    by_cases hc : c = quote
    · exact ⟨[], d :: text, hc ▸ .close (d :: text)⟩
    · by_cases hb : c = '\\'
      · obtain ⟨body, rest, h⟩ := exists_literal quote text
        exact ⟨'\\' :: d :: body, rest, hb ▸ .escape d h⟩
      · obtain ⟨body, rest, h⟩ := exists_literal quote (d :: text)
        exact ⟨c :: body, rest, .char hc hb h⟩

theorem Literal.unique (hq : quote ≠ '\\') (h : Literal quote text body rest)
    (h' : Literal quote text body' rest') : body = body' ∧ rest = rest' := by
  induction h generalizing body' with
  | close => cases h' <;> first | exact ⟨rfl, rfl⟩ | contradiction
  | char hc hb _ ih =>
    cases h' with
    | close => contradiction
    | char _ _ h' => exact ⟨congrArg _ (ih h').1, (ih h').2⟩
    | escape | unclosedEscape => contradiction
  | escape c _ ih =>
    cases h' with
    | close => contradiction
    | char _ hb _ => contradiction
    | escape _ h' => exact ⟨congrArg (fun body => '\\' :: c :: body) (ih h').1, (ih h').2⟩
  | unclosed => cases h'; exact ⟨rfl, rfl⟩
  | unclosedEscape => cases h' <;> first | exact ⟨rfl, rfl⟩ | contradiction

theorem Literal.length_le (h : Literal quote text body rest) : rest.length ≤ text.length := by
  induction h with
  | close | unclosed | unclosedEscape => simp
  | char _ _ _ ih | escape _ _ ih =>
    simp only [List.length_cons]
    omega

theorem length_blockEnd_le (text : List Char) : (blockEnd text).2.length ≤ text.length := by
  unfold blockEnd
  cases hcut : cutAt? ['*', '/'] text with
  | none => simp
  | some cut =>
    have hl := congrArg List.length (cutAt?_append hcut)
    simp only [List.length_append] at hl
    show cut.2.length ≤ _
    omega

/-- Every source can be read. -/
theorem exists_reads (text : List Char) : ∃ pieces, Reads text pieces := by
  induction hn : text.length using Nat.strong_induction_on generalizing text with
  | _ n ih =>
    have ih := fun rest (hl : rest.length < n) => ih rest.length hl rest rfl
    cases text with
    | nil => exact ⟨[], .nil⟩
    | cons c text =>
      rw [List.length_cons] at hn
      by_cases hq : isQuote c = true
      · obtain ⟨body, rest, hl⟩ := exists_literal c text
        obtain ⟨pieces, hp⟩ := ih rest (by have := hl.length_le; omega)
        exact ⟨_, .literal hq hl hp⟩
      · cases hc : beginsComment (c :: text) with
        | false =>
          obtain ⟨pieces, hp⟩ := ih text (by omega)
          exact ⟨_, .code (Bool.eq_false_iff.2 hq) hc hp⟩
        | true =>
          rw [beginsComment, Bool.or_eq_true, startsWith_iff, startsWith_iff] at hc
          rcases hc with ⟨more, (hmore : '/' :: '/' :: more = c :: text)⟩ |
            ⟨more, (hmore : '/' :: '*' :: more = c :: text)⟩
          · obtain ⟨rfl, rfl⟩ := List.cons.inj hmore
            have hl := (List.dropWhile_suffix (· != '\n') (l := more)).length_le
            obtain ⟨pieces, hp⟩ := ih (more.dropWhile (· != '\n')) (by
              rw [List.length_cons] at hn
              omega)
            exact ⟨_, .lineComment hp⟩
          · obtain ⟨rfl, rfl⟩ := List.cons.inj hmore
            have hl := length_blockEnd_le more
            obtain ⟨pieces, hp⟩ := ih (blockEnd more).2 (by
              rw [List.length_cons] at hn
              omega)
            exact ⟨_, .blockComment hp⟩

/-- A source can be read in one way only. -/
theorem Reads.unique (h : Reads text pieces) (h' : Reads text pieces') : pieces' = pieces := by
  have hslash : isQuote '/' = false := by decide
  induction h generalizing pieces' with
  | nil =>
    cases h'
    rfl
  | code hq hc _ ih =>
    cases h' with
    | code _ _ h' => rw [ih h']
    | literal hq' _ _ => exact absurd hq' (by rw [hq]; exact Bool.false_ne_true)
    | lineComment _ | blockComment _ => exact (Bool.false_ne_true hc.symm).elim
  | literal hq hl _ ih =>
    cases h' with
    | code hq' _ _ => exact absurd hq (by rw [hq']; exact Bool.false_ne_true)
    | literal _ hl' h' =>
      obtain ⟨rfl, rfl⟩ := hl.unique (ne_backslash_of_isQuote hq) hl'
      rw [ih h']
    | lineComment _ | blockComment _ => exact absurd hq (by rw [hslash]; exact Bool.false_ne_true)
  | lineComment _ ih =>
    cases h' with
    | code _ hc _ => exact (Bool.false_ne_true hc.symm).elim
    | literal hq' _ _ => exact absurd hq' (by rw [hslash]; exact Bool.false_ne_true)
    | lineComment h' => rw [ih h']
  | blockComment _ ih =>
    cases h' with
    | code _ hc _ => exact (Bool.false_ne_true hc.symm).elim
    | literal hq' _ _ => exact absurd hq' (by rw [hslash]; exact Bool.false_ne_true)
    | blockComment h' => rw [ih h']

end Reading

theorem isBracket_of_mem_brackets {pieces : List Piece} {c : Char} (hc : c ∈ brackets pieces) :
    isBracket c = true := by
  obtain ⟨piece, -, hp⟩ := List.mem_filterMap.1 hc
  cases piece with
  | code d =>
    dsimp only at hp
    split at hp
    · next hd => exact Option.some.inj hp ▸ hd
    · cases hp
  | literal | lineComment | blockComment => cases hp

/-! ### The result -/

/-- **The bracket check.** A source can be read in one way, and the check finds no fault with it exactly if
the brackets of its code are properly nested; block comments must not hold what means something in code. -/
theorem unbalanced_eq_false_iff (source : String) :
    ∃ pieces, Reads source.toList pieces ∧ (∀ other, Reads source.toList other → other = pieces) ∧
      (Harmless pieces → (unbalanced source = false ↔ Nested (brackets pieces))) := by
  obtain ⟨pieces, hp⟩ := exists_reads source.toList
  refine ⟨pieces, hp, fun other ho => hp.unique ho, fun hh => ?_⟩
  rw [unbalanced, hp.go_eq hh, Bool.not_eq_false']
  exact closesAll_nil_iff fun c hc => isBracket_of_mem_brackets hc

/-- A bracket in a literal does not count, also behind a quote that is escaped. -/
theorem unbalanced_eq_false_iff_quoted :
    ∃ pieces, Reads "('\\'[' /* a */)".toList pieces ∧ Harmless pieces ∧ Nested (brackets pieces) ∧
      unbalanced "('\\'[' /* a */)" = false := by
  obtain ⟨pieces, hp, hunique, hiff⟩ := unbalanced_eq_false_iff "('\\'[' /* a */)"
  have hreads : Reads "('\\'[' /* a */)".toList
      [.code '(', .literal '\'' ['\\', '\'', '['], .code ' ', .blockComment [' ', 'a', ' '], .code ')'] := by
    refine .code rfl rfl (.literal rfl (.escape _ (.char ?_ ?_ (.close _))) ?_)
    · decide
    · decide
    · exact .code rfl rfl (.blockComment (.code rfl rfl .nil))
  obtain rfl := hunique _ hreads
  have hword : Nested ('(' :: ([] ++ ')' :: [])) := .wrap (by decide) .nil .nil
  have hnested : Nested (brackets [.code '(', .literal '\'' ['\\', '\'', '['], .code ' ',
      .blockComment [' ', 'a', ' '], .code ')']) := hword
  have hharmless : Harmless [.code '(', .literal '\'' ['\\', '\'', '['], .code ' ',
      .blockComment [' ', 'a', ' '], .code ')'] := by
    refine ⟨⟨by simp [isBracket, pairs, isQuote], by decide⟩, ?_, trivial⟩
    simp [Piece.beginsSlash]
  exact ⟨_, hp, hharmless, hnested, (hiff hharmless).2 hnested⟩

/-- A bracket in a block comment counts, though none stands in the code. -/
theorem unbalanced_counts_comment :
    Reads "/* ( */".toList [.blockComment [' ', '(', ' ']] ∧
      Nested (brackets [.blockComment [' ', '(', ' ']]) ∧ unbalanced "/* ( */" = true :=
  ⟨.blockComment .nil, .nil, rfl⟩

end LivePreview.Tips
