import LivePreview.Import.Scan
import LivePreview.Proofs.Import.Rendering
/-!
# LivePreview.Proofs.Import.WrittenText

**The characters of a written statement.** In front of the module name nothing is a quote, a slash or a
semicolon, so every reader passes over it in plain code; and nothing in the module name ends the quotes
around it, so every reader is in plain code again behind them.
-/

namespace LivePreview

open Text
open Code (Reading)

/-! ### Plain characters -/

/-- May `c` stand in a statement before the module name, at any place? -/
def isPlain (c : Char) : Bool :=
  !Reading.isQuote c && c != '/' && c != ';'

/-- May `c` stand in a line of a statement before the module name? No blank does but the space. -/
def isTame (c : Char) : Bool :=
  (c == ' ' || !isBlank c) && isPlain c

def Plain (text : List Char) : Prop :=
  ∀ c ∈ text, isPlain c = true

def Tame (text : List Char) : Prop :=
  ∀ c ∈ text, isTame c = true

instance (text : List Char) : Decidable (Plain text) :=
  List.decidableBAll (fun c => isPlain c = true) text

instance (text : List Char) : Decidable (Tame text) :=
  List.decidableBAll (fun c => isTame c = true) text

section Plain

variable {a b text : List Char}

theorem Plain.append (ha : Plain a) (hb : Plain b) : Plain (a ++ b) := by
  intro c hc
  rcases List.mem_append.1 hc with hc | hc
  · exact ha c hc
  · exact hb c hc

theorem Tame.append (ha : Tame a) (hb : Tame b) : Tame (a ++ b) := by
  intro c hc
  rcases List.mem_append.1 hc with hc | hc
  · exact ha c hc
  · exact hb c hc

theorem Tame.plain (h : Tame text) : Plain text := by
  intro c hc
  have ht := h c hc
  rw [isTame, Bool.and_eq_true] at ht
  exact ht.2

theorem plain_lineEnd (layout : Layout) : Plain layout.lineEnd := by
  unfold Layout.lineEnd
  split
  · decide
  · decide

theorem isTame_of_isIdentPart {c : Char} (h : isIdentPart c = true) : isTame c = true := by
  -- None of the characters that are shut out can stand in an identifier.
  have hne : ∀ d, isIdentPart d = false → c ≠ d := by
    rintro d hd rfl
    rw [h] at hd
    exact absurd hd (by decide)
  have h₁ := hne '"' (by decide)
  have h₂ := hne '\'' (by decide)
  have h₃ := hne '\x60' (by decide)
  have h₄ := hne '/' (by decide)
  have h₅ := hne ';' (by decide)
  simp [isTame, isPlain, Reading.isQuote, isBlank_of_isIdentPart h, h₁, h₂, h₃, h₄, h₅]

theorem tame_of_isIdent {name : List Char} (h : isIdent name = true) : Tame name :=
  fun _ hc => isTame_of_isIdentPart (isIdentPart_of_mem h hc)

theorem IsName.tame {name : String} (h : IsName name) : Tame name.toList :=
  tame_of_isIdent h.isIdent

theorem tame_written {it : NamedImport} (he : IsName it.exported) (hl : IsName it.localName) :
    Tame it.written := by
  unfold NamedImport.written
  split
  · exact hl.tame
  · exact he.tame.append (Tame.append (by decide) hl.tame)

/-- What stands in a list comes from its gaps, its items or the commas. -/
theorem mem_writtenItems {gap : List Char} {trailing : Bool} {list : List NamedImport} {c : Char}
    (h : c ∈ writtenItems gap trailing list) :
    c ∈ gap ∨ c = ',' ∨ ∃ it ∈ list, c ∈ it.written := by
  induction list with
  | nil => exact absurd h List.not_mem_nil
  | cons it rest ih =>
    cases rest with
    | nil =>
      rcases List.mem_append.1 h with h | h
      · exact .inl h
      · rcases List.mem_append.1 h with h | h
        · exact .inr (.inr ⟨it, List.mem_cons_self, h⟩)
        · split at h
          · exact .inr (.inl (List.mem_singleton.1 h))
          · exact absurd h List.not_mem_nil
    | cons next rest =>
      rcases List.mem_append.1 h with h | h
      · exact .inl h
      · rcases List.mem_append.1 h with h | h
        · exact .inr (.inr ⟨it, List.mem_cons_self, h⟩)
        · rcases List.mem_cons.1 h with h | h
          · exact .inr (.inl h)
          · rcases ih h with h | h | ⟨i, hi, h⟩
            · exact .inl h
            · exact .inr (.inl h)
            · exact .inr (.inr ⟨i, List.mem_cons_of_mem _ hi, h⟩)

theorem tame_writtenItems {gap : List Char} {trailing : Bool} {list : List NamedImport}
    (hg : Tame gap) (hl : ∀ it ∈ list, Tame it.written) : Tame (writtenItems gap trailing list) := by
  intro c hc
  rcases mem_writtenItems hc with hc | rfl | ⟨it, hi, hc⟩
  · exact hg c hc
  · decide
  · exact hl it hi c hc

theorem plain_writtenItems {gap : List Char} {trailing : Bool} {list : List NamedImport}
    (hg : Plain gap) (hl : ∀ it ∈ list, Tame it.written) : Plain (writtenItems gap trailing list) := by
  intro c hc
  rcases mem_writtenItems hc with hc | rfl | ⟨it, hi, hc⟩
  · exact hg c hc
  · decide
  · exact (hl it hi).plain c hc

end Plain

namespace ImportRecord.Writable

variable {r : ImportRecord}

theorem tame_items (h : r.Writable) : ∀ it ∈ r.named, Tame it.written := by
  intro it hi
  obtain ⟨he, hl⟩ := h.isName_items it hi
  exact tame_written he hl

theorem tame_front (h : r.Writable) : Tame r.front := by
  have himport : Tame "import ".toList := by decide
  have hmark : Tame r.typeMark := by
    unfold ImportRecord.typeMark
    split
    · decide
    · decide
  have hfrom : Tame " from ".toList := by decide
  refine himport.append (hmark.append ?_)
  cases h.shaped with
  | sideEffect => exact fun _ hc => absurd hc List.not_mem_nil
  | allExports _ _ name =>
    have hn : IsName name := h.names name List.mem_cons_self
    exact Tame.append (by decide) (hn.tame.append hfrom)
  | named => exact (by decide : Tame ['\x7b'])
  | default _ _ name =>
    have hn : IsName name := h.names name List.mem_cons_self
    exact hn.tame.append hfrom
  | defaultNamed _ _ name =>
    have hn : IsName name := h.names name List.mem_cons_self
    exact hn.tame.append (by decide)

end ImportRecord.Writable

/-! ### The reader in a statement -/

section Reader

variable {a m rest : List Char} {q c : Char}

theorem step_plain (h : isPlain c = true) : Reading.step true .code c = .code := by
  simp only [isPlain, Bool.and_eq_true, Bool.not_eq_true', bne_iff_ne] at h
  simp [Reading.step, Reading.afterCode, h.1.1, h.1.2]

theorem foldl_step_plain (h : Plain a) : a.foldl (Reading.step true) .code = .code := by
  induction a with
  | nil => rfl
  | cons c a ih =>
    rw [List.foldl_cons, step_plain (h c List.mem_cons_self)]
    exact ih fun d hd => h d (List.mem_cons_of_mem c hd)

/-- No plain text ends a statement. -/
theorem cutTerminator?_plain (h : Plain a) (rest : List Char) :
    ImportScan.cutTerminator? .code (a ++ rest) =
      (ImportScan.cutTerminator? .code rest).map fun (upTo, after) => (a ++ upTo, after) := by
  induction a with
  | nil => simp
  | cons c a ih =>
    have hc := h c List.mem_cons_self
    have hs : c ≠ ';' := by
      rintro rfl
      exact absurd hc (by decide)
    rw [List.cons_append, ImportScan.cutTerminator?, step_plain hc,
      ih fun d hd => h d (List.mem_cons_of_mem c hd)]
    simp [hs, Option.map_map, Function.comp_def]

/-- Can the text stand between two quotes of this kind? -/
structure Quotable (q : Char) (text : List Char) : Prop where
  quote : q = '"' ∨ q = '\''
  inside : ∀ c ∈ text, c ≠ q ∧ c ≠ '\\' ∧ c ≠ '\n'

theorem Quotable.tail (h : Quotable q (c :: m)) : Quotable q m :=
  ⟨h.quote, fun d hd => h.inside d (List.mem_cons_of_mem c hd)⟩

theorem Quotable.isQuote (h : Quotable q m) : Reading.isQuote q = true := by
  rcases h.quote with rfl | rfl
  · decide
  · decide

theorem Quotable.ne_backslash (h : Quotable q m) : q ≠ '\\' := by
  rcases h.quote with rfl | rfl
  · decide
  · decide

/-- Nothing inside quotes ends a statement. -/
theorem cutTerminator?_quotable (h : Quotable q m) (rest : List Char) :
    ImportScan.cutTerminator? (.quoted q) (m ++ q :: rest) =
      (ImportScan.cutTerminator? .code rest).map fun (upTo, after) => (m ++ q :: upTo, after) := by
  induction m with
  | nil =>
    rw [List.nil_append, ImportScan.cutTerminator?]
    simp [Reading.isCode, Reading.step, h.ne_backslash]
  | cons c m ih =>
    obtain ⟨hq, hb, hn⟩ := h.inside c List.mem_cons_self
    rw [List.cons_append, ImportScan.cutTerminator?]
    simp only [Reading.isCode, Reading.step, hb, hq, hn, decide_false, Bool.and_false, Bool.or_self,
      Bool.false_and, Bool.false_eq_true, if_false]
    rw [ih h.tail]
    simp [Option.map_map, Function.comp_def]

theorem withoutComments_quotable (h : Quotable q m) (rest : List Char) :
    ImportStatement.withoutComments.go (.quoted q) (m ++ q :: rest) =
      m ++ q :: ImportStatement.withoutComments.go .code rest := by
  induction m with
  | nil => simp [ImportStatement.withoutComments.go, h.ne_backslash]
  | cons c m ih =>
    obtain ⟨hq, hb, hn⟩ := h.inside c List.mem_cons_self
    simp [ImportStatement.withoutComments.go, hq, hb, ih h.tail]

theorem withoutComments_nil : ImportStatement.withoutComments.go .code [] = [] := by
  simp [ImportStatement.withoutComments.go]

/-- Plain text has no comments. -/
theorem withoutComments_plain (h : Plain a) (rest : List Char) :
    ImportStatement.withoutComments.go .code (a ++ rest) =
      a ++ ImportStatement.withoutComments.go .code rest := by
  induction a with
  | nil => rfl
  | cons c a ih =>
    have hc := h c List.mem_cons_self
    simp only [isPlain, Bool.and_eq_true, Bool.not_eq_true', bne_iff_ne] at hc
    have hslash : c ≠ '/' := hc.1.2
    rw [List.cons_append, ImportStatement.withoutComments.go]
    · rw [if_neg (by rw [hc.1.1]; exact Bool.false_ne_true)]
      rw [ih fun d hd => h d (List.mem_cons_of_mem c hd)]
      rfl
    · intro _ he
      exact absurd he hslash
    · intro _ he
      exact absurd he hslash

end Reader

namespace IsModule

variable {module : String}

theorem quotable (h : IsModule module) (layout : Layout) : Quotable layout.quote module.toList := by
  refine ⟨layout.quote_cases, fun c hc => ?_⟩
  obtain ⟨hdouble, hsingle, hback, hblank⟩ := h.plain c hc
  refine ⟨?_, hback, ?_⟩
  · rcases layout.quote_cases with he | he
    · rw [he]
      exact hdouble
    · rw [he]
      exact hsingle
  · rintro rfl
    exact absurd hblank (by decide)

theorem cutTerminator?_quoted (h : IsModule module) (layout : Layout) (rest : List Char) :
    ImportScan.cutTerminator? .code (layout.quoted module ++ rest) =
      (ImportScan.cutTerminator? .code rest).map fun (upTo, after) =>
        (layout.quoted module ++ upTo, after) := by
  have hq := h.quotable layout
  have hcode : layout.quote ≠ ';' := by
    rcases hq.quote with he | he <;> rw [he] <;> decide
  have hstep : Reading.step true .code layout.quote = .quoted layout.quote := by
    simp [Reading.step, Reading.afterCode, hq.isQuote]
  rw [Layout.quoted, List.cons_append, List.append_assoc, List.singleton_append,
    ImportScan.cutTerminator?, hstep, cutTerminator?_quotable hq]
  simp [hcode, Option.map_map, Function.comp_def]

theorem withoutComments_quoted (h : IsModule module) (layout : Layout) (rest : List Char) :
    ImportStatement.withoutComments.go .code (layout.quoted module ++ rest) =
      layout.quoted module ++ ImportStatement.withoutComments.go .code rest := by
  have hq := h.quotable layout
  have hslash : layout.quote ≠ '/' := by
    rcases hq.quote with he | he <;> rw [he] <;> decide
  rw [Layout.quoted, List.cons_append, List.append_assoc, List.singleton_append,
    ImportStatement.withoutComments.go]
  · rw [if_pos hq.isQuote, withoutComments_quotable hq]
    simp
  · intro _ he
    exact absurd he hslash
  · intro _ he
    exact absurd he hslash

end IsModule

end LivePreview
