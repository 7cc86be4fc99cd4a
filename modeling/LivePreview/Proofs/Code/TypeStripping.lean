import LivePreview.Proofs.Code.TypeBody
import LivePreview.Proofs.Code.TypeHeads
import LivePreview.Proofs.Text.Words
/-!
# LivePreview.Proofs.Code.TypeStripping

**Types are removed and nothing else is.** A source is written as lines of code and type declarations in
any order. Each declaration has one head (`TypeDeclaration.headed_written`), and the walk over its body
ends with the mark that closes it, so it goes with its last line and the rest of the source is as it was
(`TypeDeclaration.stripTypes_written`). What is left of the source are its lines of code
(`stripTypes_parts`).
-/

namespace LivePreview.Code

open Text

/-! ### Declarations as they are written -/

/-- A type declaration. -/
structure TypeDeclaration where
  exported : Bool
  /-- Is it an interface? Otherwise it is an alias. -/
  isInterface : Bool
  name : List Char
  /-- What stands in the braces of an interface or behind the equals sign of an alias. -/
  body : List Char

namespace TypeDeclaration

variable {d : TypeDeclaration} {text rest : List Char}

def keyword (d : TypeDeclaration) : String :=
  if d.isInterface then "interface" else "type"

/-- The mark that the body stands behind. -/
def mark (d : TypeDeclaration) : Char :=
  if d.isInterface then '\x7b' else '='

/-- What ends the declaration behind its body. -/
def ending (d : TypeDeclaration) : List Char :=
  if d.isInterface then " \x7d".toList else ";".toList

/-- The keywords and the name. -/
def lead (d : TypeDeclaration) : List Char :=
  (if d.exported then "export ".toList else []) ++ (d.keyword.toList ++ ' ' :: (d.name ++ [' ']))

/-- The declaration up to its body. -/
def opening (d : TypeDeclaration) : List Char :=
  d.lead ++ [d.mark, ' ']

/-- The declaration with the end of its last line. -/
def written (d : TypeDeclaration) : List Char :=
  d.opening ++ d.body ++ d.ending ++ ['\n']

/-- The name is an identifier, the body is balanced, and none of its lines behind the first begins with
a word of a head. -/
structure Writable (d : TypeDeclaration) : Prop where
  name : isIdent d.name = true
  body : balances d.isInterface none [] d.body = true
  lines : Clear isSpaceOrTab typeWords (d.body.dropWhile (· != '\n'))

/-! ### The head -/

theorem wordGap?_append (w : String) (h : ∀ c ∈ text.head?, isBlank c = false) :
    wordGap? w (w.toList ++ ' ' :: text) = some text := by
  have hspace : isBlank ' ' = true := by decide
  rw [wordGap?, word?, dropLead?_append, Option.bind_some, gap?, if_pos hspace]
  cases text with
  | nil => rfl
  | cons c text => rw [trimStart_cons (h c rfl)]

theorem skipWordGap_eq_self {w : String} (h : startsWith w.toList text = false) :
    skipWordGap w text = text := by
  rw [skipWordGap, wordGap?, word?_eq_none_of_startsWith h]
  rfl

theorem opening_append (d : TypeDeclaration) (text : List Char) :
    d.opening ++ text = (if d.exported then "export ".toList else []) ++
      (d.keyword.toList ++ ' ' :: (d.name ++ ' ' :: d.mark :: ' ' :: text)) := by
  simp only [opening, lead, List.append_assoc, List.cons_append, List.nil_append]

/-- The head of an interface without parameters that extends nothing. -/
theorem interfaceHead?_name {name : List Char} (hn : isIdent name = true) (text : List Char) :
    interfaceHead? (name ++ ' ' :: '\x7b' :: text) = some text := by
  have hspace : isIdentPart ' ' = false := by decide
  rw [interfaceHead?, takeIdent?_of_isIdent hn (forall_head_cons hspace _)]
  rfl

/-- A declaration begins with its head. -/
theorem typeHead?_opening (hn : isIdent d.name = true) (text : List Char) :
    typeHead? (d.opening ++ text) = some ⟨d.isInterface, [], ' ' :: text⟩ := by
  have hspace : isIdentPart ' ' = false := by decide
  have hname : ∀ more, ∀ c ∈ (d.name ++ more).head?, isBlank c = false := by
    intro more c hc
    rw [List.head?_append_of_ne_nil _ (ne_nil_of_isIdent hn)] at hc
    exact unbroken_of_isIdent hn c (List.mem_of_mem_head? hc)
  have hkeyword := fun more => wordGap?_append d.keyword (hname more)
  have hexport : skipWordGap "export" (skipSpaces (d.opening ++ text)) =
      d.keyword.toList ++ ' ' :: (d.name ++ ' ' :: d.mark :: ' ' :: text) := by
    rw [opening_append]
    cases d.exported with
    | false =>
      rw [if_neg Bool.false_ne_true, List.nil_append, keyword]
      split <;> rfl
    | true =>
      have hsolid : ∀ more, ∀ c ∈ (d.keyword.toList ++ more).head?, isBlank c = false := by
        intro more
        rw [keyword]
        split <;> exact forall_head_cons (by decide) _
      show skipWordGap "export" ("export".toList ++ ' ' :: (d.keyword.toList ++ _)) = _
      rw [skipWordGap, wordGap?_append "export" (hsolid _)]
      rfl
  have hdeclare : ∀ more, skipWordGap "declare" (d.keyword.toList ++ more) =
      d.keyword.toList ++ more := by
    intro more
    refine skipWordGap_eq_self ?_
    rw [keyword]
    split <;> rfl
  rw [typeHead?]
  simp only [hexport, hdeclare]
  cases hi : d.isInterface with
  | false =>
    have hkey : d.keyword = "type" := by rw [keyword, hi]; rfl
    have hmark : d.mark = '=' := by rw [mark, hi]; rfl
    simp only [hkey, hmark] at hkeyword ⊢
    rw [hkeyword]
    simp only [takeIdent?_of_isIdent hn (forall_head_cons hspace _)]
    rfl
  | true =>
    have hkey : d.keyword = "interface" := by rw [keyword, hi]; rfl
    have hmark : d.mark = '\x7b' := by rw [mark, hi]; rfl
    simp only [hkey, hmark] at hkeyword ⊢
    have htype : ∀ more, wordGap? "type" ("interface".toList ++ more) = none := fun _ => rfl
    simp only [htype, hkeyword, Option.bind_eq_bind, Option.bind_some, interfaceHead?_name hn]
    rfl

theorem startsLine_opening (d : TypeDeclaration) (text : List Char) :
    startsLine (d.opening ++ text) (' ' :: text) = false := by
  have hmark : d.mark ≠ '\n' := by
    rw [mark]
    split <;> decide
  have hkept : [d.mark] ++ ' ' :: text <:+ d.opening ++ text :=
    ⟨d.lead, by simp [opening]⟩
  exact startsLine_of_kept hkept (List.cons_ne_nil _ _) (by simpa using hmark)

/-- A declaration whose later lines begin with no word of a head has one head. -/
theorem headed_opening (hn : isIdent d.name = true) {a more : List Char} (ha : '\n' ∉ a)
    (hc : Clear isSpaceOrTab typeWords more) (he : EndsLine more) (rest : List Char) :
    Headed (d.opening ++ (a ++ '\n' :: more)) rest d.isInterface := by
  refine ⟨⟨d.isInterface, [], ' ' :: (a ++ '\n' :: more ++ rest)⟩, ' ' :: a, more, ?_, rfl, ?_, ?_,
    by simpa using ha, hc, he⟩
  · rw [List.append_assoc, typeHead?_opening hn]
  · rw [List.append_assoc, startsLine_opening]
  · simp

/-- What ends a declaration shares no character with a word of a head. -/
theorem not_mem_of_mem_ending : ∀ w ∈ typeWords, ∀ c ∈ d.ending, c ∉ w.toList := by
  have hall : typeWords.all (fun w => d.ending.all (!w.toList.contains ·)) = true := by
    rw [ending]
    split <;> decide
  simpa only [List.all_eq_true, Bool.not_eq_true', ← Bool.not_eq_true, List.contains_iff_mem] using hall

theorem headed_written (h : d.Writable) (rest : List Char) : Headed d.written rest d.isInterface := by
  have hfeed : '\n' ∉ d.ending := by
    rw [ending]
    split <;> decide
  by_cases hm : '\n' ∈ d.body
  · -- The lines of the body behind its first begin with no word of a head.
    obtain ⟨a, more, hbody, ha⟩ := List.eq_append_cons_of_mem hm
    have hlines := h.lines
    have hpos : ∀ c ∈ a, (c != '\n') = true := by
      intro c hc
      rw [bne_iff_ne]
      rintro rfl
      exact ha hc
    rw [hbody, List.dropWhile_append_of_pos hpos] at hlines
    have hmore : Clear isSpaceOrTab typeWords more := ((clear_append_feed List.not_mem_nil).1 hlines).2
    have hwritten : d.written = d.opening ++ (a ++ '\n' :: (more ++ (d.ending ++ ['\n']))) := by
      simp [written, hbody]
    rw [hwritten]
    exact headed_opening h.name ha
      (hmore.append_ending areHeads_typeWords not_mem_of_mem_ending hfeed) (by simp [EndsLine]) rest
  · -- The declaration is one line.
    have hwritten : d.written = d.opening ++ (d.body ++ d.ending ++ '\n' :: []) := by simp [written]
    have hnil : Clear isSpaceOrTab typeWords [] := by simp [Clear, rawLines]
    rw [hwritten]
    exact headed_opening h.name (by simp [hm, hfeed]) hnil endsLine_nil rest

/-! ### The end -/

/-- The walk up to the body. -/
theorem over_opening (hn : isIdent d.name = true) :
    Walk.Over { isInterface := d.isInterface } d.opening
      ⟨d.isInterface, .code, d.isInterface.toNat, true, d.opening.reverse⟩ := by
  have hlead : ∀ c ∈ d.lead, c ∉ Walk.marks := by
    have hexport : ∀ c ∈ if d.exported then "export ".toList else [], c ∉ Walk.marks := by
      split <;> exact Walk.forall_not_mem_marks (by decide)
    have hkeyword : ∀ c ∈ d.keyword.toList, c ∉ Walk.marks := by
      rw [keyword]
      split <;> exact Walk.forall_not_mem_marks (by decide)
    intro c hc
    simp only [lead, List.mem_append, List.mem_cons, List.not_mem_nil, or_false] at hc
    rcases hc with hc | hc | rfl | hc | rfl
    · exact hexport c hc
    · exact hkeyword c hc
    · decide
    · exact Walk.not_mem_marks (isIdentPart_of_mem hn hc)
    · decide
  have hmark : ∀ back, Walk.Over { isInterface := d.isInterface, back } [d.mark]
      ⟨d.isInterface, .code, d.isInterface.toNat, true, d.mark :: back⟩ := by
    intro back
    refine Walk.over_code rfl rfl fun after => ?_
    rw [mark]
    cases d.isInterface <;> rfl
  have hspace : ∀ back, Walk.Over ⟨d.isInterface, .code, d.isInterface.toNat, true, back⟩ [' ']
      ⟨d.isInterface, .code, d.isInterface.toNat, true, ' ' :: back⟩ :=
    fun back => Walk.over_idle_char rfl (by decide)
  have hopening := (Walk.over_idle (w := { isInterface := d.isInterface }) rfl hlead).trans
    ((hmark _).trans (hspace _))
  rw [opening, List.reverse_append]
  rw [List.append_nil] at hopening
  exact hopening

/-- The walk over a declaration up to the end of its body. -/
theorem exists_over_body (hn : isIdent d.name = true)
    (hb : balances d.isInterface none [] d.body = true) :
    ∃ place, Reading.isCode place = true ∧
      Walk.Over { isInterface := d.isInterface } (d.opening ++ d.body)
        ⟨d.isInterface, place, d.isInterface.toNat, true, (d.opening ++ d.body).reverse⟩ := by
  have hinside : Walk.Inside ⟨d.isInterface, .code, d.isInterface.toNat, true, d.opening.reverse⟩
      d.isInterface none [] d.body := by
    have hback : d.opening.reverse.head? ≠ some '=' := by simp [opening]
    exact ⟨rfl, rfl, (Nat.zero_add _).symm, Walk.standsAt_of_code rfl hback d.body⟩
  obtain ⟨place, hp, ho⟩ := Walk.crosses_of_balances hb hinside
  refine ⟨place, hp, ?_⟩
  rw [List.reverse_append]
  exact (over_opening hn).trans ho

/-- A declaration ends with its last line. -/
theorem afterDeclaration_written (h : d.Writable) (rest : List Char) :
    afterDeclaration d.isInterface (d.written ++ rest) = rest := by
  obtain ⟨place, hp, hbody⟩ := exists_over_body h.name h.body
  have hrest : Walk.rest { isInterface := d.isInterface } (d.written ++ rest) = '\n' :: rest := by
    have hwritten : d.written ++ rest = d.opening ++ d.body ++ (d.ending ++ '\n' :: rest) := by
      simp [written]
    rw [hwritten, hbody.rest_eq, ending]
    cases d.isInterface with
    | false => exact Walk.rest_end hp rfl
    | true => exact ((Walk.over_idle_char hp (by decide)).rest_eq _).trans (Walk.rest_end rfl rfl)
  rw [afterDeclaration, hrest]
  rfl

/-- A declaration goes with its last line. -/
theorem stripTypes_written (h : d.Writable) (rest : List Char) :
    stripTypes (d.written ++ rest) = stripTypes rest :=
  (headed_written h rest).stripTypes_rest (afterDeclaration_written h rest)

end TypeDeclaration

/-! ### Sources -/

/-- A part of a source: a line of code, or a type declaration. -/
inductive SourcePart
  | line (content : List Char)
  | declaration (d : TypeDeclaration)

namespace SourcePart

/-- The part as it is written, with its line end. -/
def written : SourcePart → List Char
  | .line content => content ++ ['\n']
  | .declaration d => d.written

/-- What is left of the part when types are removed. -/
def kept : SourcePart → List Char
  | .line content => content ++ ['\n']
  | .declaration _ => []

/-- A line is one line that begins, behind spaces, with no word of a head. -/
def Writable : SourcePart → Prop
  | .line content => '\n' ∉ content ∧ Clear isSpaceOrTab typeWords (content ++ ['\n'])
  | .declaration d => d.Writable

end SourcePart

/-- Of a source that is written as lines of code and type declarations, the lines of code are left. -/
theorem stripTypes_parts {parts : List SourcePart} (h : ∀ part ∈ parts, part.Writable) :
    stripTypes (parts.flatMap SourcePart.written) = parts.flatMap SourcePart.kept := by
  -- Along the parts: each is kept or goes in front of any text.
  induction parts with
  | nil => rfl
  | cons part parts ih =>
    have hrest := ih fun p hp => h p (List.mem_cons_of_mem part hp)
    have hpart := h part List.mem_cons_self
    rw [List.flatMap_cons, List.flatMap_cons]
    cases part with
    | line content =>
      have hends : EndsLine (content ++ ['\n']) := by simp [EndsLine]
      exact (stripTypes_append hpart.2 hends _).trans (congrArg (content ++ ['\n'] ++ ·) hrest)
    | declaration d => exact (TypeDeclaration.stripTypes_written hpart _).trans hrest

/-- Lines of code around an alias with an arrow and an interface of several lines, in which literals hold
brackets. -/
def mixedParts : List SourcePart :=
  [.line "const typed = 1;".toList,
    .declaration
      ⟨true, false, "Pick".toList, "(of: Map<\x7b a: ')' \x7d[], () => void>) => '>'".toList⟩,
    .line [],
    .declaration
      ⟨false, true, "Props".toList, "\n  on: \x7b a: \"\x7d\"; \x7d;\n\n  exact: true\n".toList⟩,
    .line "use(typed);".toList]

theorem stripTypes_parts_mixed :
    (∀ part ∈ mixedParts, part.Writable) ∧
      mixedParts.flatMap SourcePart.written =
        "const typed = 1;\n".toList ++
          "export type Pick = (of: Map<\x7b a: ')' \x7d[], () => void>) => '>';\n\n".toList ++
          "interface Props \x7b \n  on: \x7b a: \"\x7d\"; \x7d;\n\n  exact: true\n \x7d\n".toList ++
          "use(typed);\n".toList ∧
      stripTypes (mixedParts.flatMap SourcePart.written) =
        "const typed = 1;\n\nuse(typed);\n".toList := by
  have hw : ∀ part ∈ mixedParts, part.Writable := by
    refine List.forall_mem_cons.2 ⟨⟨by decide, by decide⟩, List.forall_mem_cons.2 ⟨?_,
      List.forall_mem_cons.2 ⟨⟨by decide, by decide⟩, List.forall_mem_cons.2 ⟨?_,
        List.forall_mem_cons.2 ⟨⟨by decide, by decide⟩, List.forall_mem_nil _⟩⟩⟩⟩⟩
    · exact ⟨by decide, by decide, by decide⟩
    · exact ⟨by decide, by decide, by decide⟩
  exact ⟨hw, by decide +kernel, (stripTypes_parts hw).trans (by decide +kernel)⟩

end LivePreview.Code
