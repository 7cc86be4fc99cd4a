import LivePreview.Proofs.Script.Grammar
import LivePreview.Script.ImportDeclaration
/-!
# LivePreview.Proofs.Script.ImportDeclaration

**An import declaration takes up what it says**: it begins with the word `import` where its reader was
put, and ends behind a character that is no blank (`importDeclaration?_takesUp`). All that is read on the
way there goes forward (`Reader.Forward`).
-/

namespace LivePreview.Script

open Text (byteSize isBlank)
open Cursor (Advances Closes)

variable {α : Type} {c next : Cursor}

/-- Does the reader only go forward? -/
def Reader.Forward (read : Reader α) : Prop :=
  ∀ c found next, read c = some (found, next) → Advances c next

theorem forward_orElse {first second : Reader α} (hfirst : first.Forward) (hsecond : second.Forward) :
    Reader.Forward fun c => first c <|> second c := by
  intro c found next h
  rcases (Option.orElse_eq_some _ _ _).1 h with h | ⟨-, h⟩
  · exact hfirst c found next h
  · exact hsecond c found next h

/-! ### Items in braces -/

theorem forward_exportedName : Reader.Forward exportedName? :=
  forward_orElse (fun _ _ _ => Cursor.advances_name) fun _ _ _ h => (Cursor.closes_string h).advances

theorem forward_plainItem (typeOnly : Bool) : (plainItem? typeOnly).Forward := by
  refine forward_orElse (fun c found next h => ?_) fun c found next h => ?_
  · obtain ⟨⟨exported, first⟩, hexported, h⟩ := Option.bind_eq_some_iff.1 h
    obtain ⟨second, has, h⟩ := Option.bind_eq_some_iff.1 h
    obtain ⟨⟨name, last⟩, hname, h⟩ := Option.bind_eq_some_iff.1 h
    obtain rfl := (Prod.mk.inj (Option.some.inj h)).2
    exact ((forward_exportedName _ _ _ hexported).trans (Cursor.advances_word has)).trans
      (Cursor.advances_identifier hname)
  · obtain ⟨⟨name, last⟩, hname, h⟩ := Option.bind_eq_some_iff.1 h
    obtain rfl := (Prod.mk.inj (Option.some.inj h)).2
    exact Cursor.advances_identifier hname

theorem forward_importItem (typesAnyway : Bool) : (importItem? typesAnyway).Forward := by
  refine forward_orElse (fun c found next h => ?_) fun c found next h => ?_
  · exact forward_plainItem _ _ _ _ (Option.filter_eq_some_iff.1 h).1
  · obtain ⟨-, -, h⟩ := Option.bind_eq_some_iff.1 h
    obtain ⟨between, hword, h⟩ := Option.bind_eq_some_iff.1 h
    exact (Cursor.advances_word hword).trans
      (forward_plainItem _ _ _ _ (Option.filter_eq_some_iff.1 h).1)

theorem forward_importItems (typesAnyway : Bool) (limit : Nat) :
    (importItems? typesAnyway limit).Forward := by
  induction limit with
  | zero => exact fun _ _ _ h => nomatch h
  | succ limit ih =>
    intro c found next h
    rw [importItems?] at h
    split at h
    · next hclose =>
      obtain rfl := (Prod.mk.inj (Option.some.inj h)).2
      exact Cursor.advances_mark hclose
    · obtain ⟨⟨item, between⟩, hitem, h⟩ := Option.bind_eq_some_iff.1 h
      have hbetween := forward_importItem _ _ _ _ hitem
      dsimp only at h
      split at h
      · next hcomma =>
        obtain ⟨⟨more, last⟩, hmore, h⟩ := Option.bind_eq_some_iff.1 h
        obtain rfl := (Prod.mk.inj (Option.some.inj h)).2
        exact (hbetween.trans (Cursor.advances_mark hcomma)).trans (ih _ _ _ hmore)
      · obtain ⟨last, hclose, h⟩ := Option.bind_eq_some_iff.1 h
        obtain rfl := (Prod.mk.inj (Option.some.inj h)).2
        exact hbetween.trans (Cursor.advances_mark hclose)

/-! ### Clauses -/

theorem forward_everything : Reader.Forward everything? := by
  intro c found next h
  obtain ⟨first, hmark, h⟩ := Option.bind_eq_some_iff.1 h
  obtain ⟨second, has, h⟩ := Option.bind_eq_some_iff.1 h
  obtain ⟨⟨name, last⟩, hname, h⟩ := Option.bind_eq_some_iff.1 h
  obtain rfl := (Prod.mk.inj (Option.some.inj h)).2
  exact ((Cursor.advances_mark hmark).trans (Cursor.advances_word has)).trans
    (Cursor.advances_identifier hname)

theorem forward_bracedItems (typesAnyway : Bool) : (bracedItems? typesAnyway).Forward := by
  intro c found next h
  obtain ⟨first, hopen, h⟩ := Option.bind_eq_some_iff.1 h
  exact (Cursor.advances_mark hopen).trans (forward_importItems _ _ _ _ _ h)

theorem forward_defaultClause (typesAnyway : Bool) : (defaultClause? typesAnyway).Forward := by
  intro c found next h
  obtain ⟨⟨name, first⟩, hname, h⟩ := Option.bind_eq_some_iff.1 h
  have hfirst := Cursor.advances_identifier hname
  dsimp only at h
  split at h
  · next hcomma =>
    obtain ⟨⟨more, last⟩, hmore, h⟩ := Option.bind_eq_some_iff.1 h
    obtain rfl := (Prod.mk.inj (Option.some.inj h)).2
    exact (hfirst.trans (Cursor.advances_mark hcomma)).trans
      (forward_orElse forward_everything (forward_bracedItems _) _ _ _ hmore)
  · obtain rfl := (Prod.mk.inj (Option.some.inj h)).2
    exact hfirst

theorem forward_anyClause (typesAnyway : Bool) : (anyClause? typesAnyway).Forward :=
  forward_orElse (forward_defaultClause _) (forward_orElse forward_everything (forward_bracedItems _))

theorem forward_singleClause : Reader.Forward singleClause? := by
  intro c found next h
  obtain ⟨⟨name, last⟩, hname, h⟩ := Option.bind_eq_some_iff.1 h
  obtain rfl := (Prod.mk.inj (Option.some.inj h)).2
  exact Cursor.advances_identifier hname

/-- A clause with its module ends with a string. -/
theorem closes_clauseFrom {clause : Reader (List ImportSpecifier)}
    {found : List ImportSpecifier × String} (hclause : clause.Forward)
    (h : clauseFrom? clause c = some (found, next)) : Closes c next := by
  obtain ⟨⟨specifiers, first⟩, hspecifiers, h⟩ := Option.bind_eq_some_iff.1 h
  obtain ⟨second, hfrom, h⟩ := Option.bind_eq_some_iff.1 h
  obtain ⟨⟨module, last⟩, hmodule, h⟩ := Option.bind_eq_some_iff.1 h
  obtain rfl := (Prod.mk.inj (Option.some.inj h)).2
  exact ((hclause _ _ _ hspecifiers).trans (Cursor.advances_word hfrom)).closes
    (Cursor.closes_string hmodule)

theorem closes_clauseWithKind {found : Bool × List ImportSpecifier × String}
    (h : clauseWithKind? c = some (found, next)) : Closes c next := by
  have hafter : ∀ {word : String} {typeOnly : Bool} {clause : Reader (List ImportSpecifier)},
      clause.Forward →
      ((c.word? word).bind fun first => (clauseFrom? clause first).bind fun inner =>
        some ((typeOnly, inner.1), inner.2)) = some (found, next) → Closes c next := by
    intro word typeOnly clause hclause h
    obtain ⟨first, hword, h⟩ := Option.bind_eq_some_iff.1 h
    obtain ⟨⟨inner, last⟩, hinner, h⟩ := Option.bind_eq_some_iff.1 h
    obtain rfl := (Prod.mk.inj (Option.some.inj h)).2
    exact (Cursor.advances_word hword).closes (closes_clauseFrom hclause hinner)
  rcases (Option.orElse_eq_some _ _ _).1 h with h | ⟨-, h⟩
  · exact hafter (forward_anyClause true) h
  · rcases (Option.orElse_eq_some _ _ _).1 h with h | ⟨-, h⟩
    · exact hafter forward_singleClause h
    · rcases (Option.orElse_eq_some _ _ _).1 h with h | ⟨-, h⟩
      · exact hafter forward_everything h
      · obtain ⟨⟨inner, last⟩, hinner, h⟩ := Option.bind_eq_some_iff.1 h
        obtain rfl := (Prod.mk.inj (Option.some.inj h)).2
        exact closes_clauseFrom (forward_anyClause false) hinner

/-! ### Declarations -/

/-- Attributes stay away, or they end with a brace. -/
theorem skipAttributes?_cases (h : skipAttributes? c = some next) : next = c ∨ Closes c next := by
  rcases Grammar.read_opt_cases h with rfl | ⟨limit, hread⟩
  · exact .inl rfl
  · have hrules : ∀ _ : Rule, (.alt [] : Form).Forward := fun _ => trivial
    have hparts : Grammar.AllForward (ρ := Rule) [.alt ["with", .seq [.sameLine, "assert"]], "\x7b",
        .listOf (.seq [.alt [.anyName, .string], ":", .string])] := by
      simp
    obtain ⟨between, limit, hbetween, hlast⟩ :=
      Grammar.exists_of_read_seq "\x7d" hrules hparts hread
    exact .inr (hbetween.closes (Grammar.closes_of_read_mark rfl rfl (by decide) hlast))

/-- What follows the word of a declaration closes. -/
theorem closes_importDeclaration {inner : Cursor} {d : ImportDeclaration}
    (hinner : c.word? "import" = some inner) (h : importDeclaration? c = some (d, next)) :
    d.start = c.start ∧ d.stop = next.stop ∧ Closes inner next := by
  obtain ⟨first, hfirst, h⟩ := Option.bind_eq_some_iff.1 h
  obtain rfl := Option.some.inj (hinner.symm.trans hfirst)
  obtain ⟨⟨found, named⟩, hnamed, h⟩ := Option.bind_eq_some_iff.1 h
  obtain ⟨behind, hbehind, h⟩ := Option.bind_eq_some_iff.1 h
  obtain ⟨last, hlast, h⟩ := Option.bind_eq_some_iff.1 h
  obtain ⟨rfl, rfl⟩ := Prod.mk.inj (Option.some.inj h)
  refine ⟨rfl, rfl, ?_⟩
  -- Attributes and the semicolon may both stay away; the last that is there closes.
  have hcloses : Closes inner named := by
    rcases (Option.orElse_eq_some _ _ _).1 hnamed with hnamed | ⟨-, hnamed⟩
    · obtain ⟨⟨module, after⟩, hmodule, hsame⟩ := Option.map_eq_some_iff.1 hnamed
      exact (Prod.mk.inj hsame).2 ▸ Cursor.closes_string hmodule
    · obtain ⟨⟨clause, after⟩, hclause, hsame⟩ := Option.map_eq_some_iff.1 hnamed
      exact (Prod.mk.inj hsame).2 ▸ closes_clauseWithKind hclause
  have hclosesBehind : Closes inner behind := by
    rcases skipAttributes?_cases hbehind with rfl | hattributes
    · exact hcloses
    · exact hcloses.advances.closes hattributes
  rcases Cursor.statementEnd?_cases hlast with rfl | hend
  · exact hclosesBehind
  · exact hclosesBehind.advances.closes hend

/-- The declaration takes up a text that begins at a byte: a text with its word in front and no blank at
its end. -/
structure ImportDeclaration.TakesUp (d : ImportDeclaration) (offset : Nat) (text : List Char) : Prop where
  start : d.start = offset
  stop : d.stop = offset + byteSize text
  word : "import".toList <+: text
  closed : ∃ last, text.getLast? = some last ∧ isBlank last = false

/-- A declaration takes up the text between its cursors. -/
theorem importDeclaration?_takesUp {d : ImportDeclaration} (h : importDeclaration? c = some (d, next)) :
    ∃ text gap, c.rest = text ++ (gap ++ next.rest) ∧ d.TakesUp c.start text ∧
      next.start = d.stop + byteSize gap := by
  obtain ⟨inner, hinner, -⟩ := Option.bind_eq_some_iff.1 h
  obtain ⟨hstart, hstop, hcloses⟩ := closes_importDeclaration hinner h
  obtain ⟨taken, htaken, rfl⟩ := Option.map_eq_some_iff.1 hinner
  obtain ⟨hword, hrest⟩ := word?_eq_append htaken
  -- Between the word and what closes only spaces and comments are skipped.
  obtain ⟨body, gap, hbody, hend, hnext, last, hlast, hblank⟩ :=
    (Cursor.advances_skip (c.behind taken)).closes hcloses
  refine ⟨taken.1 ++ body, gap, ?_, ⟨hstart, ?_, ?_, last, ?_, hblank⟩, ?_⟩
  · rw [List.append_assoc, ← hbody]
    exact hrest.symm
  · rw [hstop, hend, Text.byteSize_append, ← Nat.add_assoc]
    rfl
  · rw [← hword]
    exact List.prefix_append _ _
  · rw [List.getLast?_append, hlast]
    rfl
  · rw [hnext, hstop]

end LivePreview.Script
