import LivePreview.ModuleText
import LivePreview.Proofs.Code.ExportSyntax
import LivePreview.Proofs.Code.Preamble
import LivePreview.Script.Identifier
/-!
# LivePreview.Proofs.Code.DefaultExport

**The name of a default export.** A function or a class behind `export default` is written with any blanks
between its tokens, with a name or without. What is reported is the name that it declares
(`DefaultHead.declaredName?_written`), and nothing if it has none, unless a line ends right behind
`function` or `class`: then the keyword stands alone on its line and is taken for a name
(`stripExports_reports_keyword`). Of a class, a dollar sign at the end of the name is lost, and
`implements` is taken for a name that is missing.
-/

namespace LivePreview.Code

open Text

variable {more text : List Char}

/-- The words that can name nothing in a module. -/
def unnamable : List String :=
  "yield" :: (Script.reservedWords ++ Script.futureWords)

/-- A name that a function or a class can have, in any script. -/
structure IsOwnName (name : List Char) : Prop where
  nonempty : name ≠ []
  parts : ∀ c ∈ name, isIdentPart c = true
  free : String.ofList name ∉ unnamable

instance (name : List Char) : Decidable (IsOwnName name) :=
  decidable_of_iff (name ≠ [] ∧ name.all isIdentPart = true ∧ String.ofList name ∉ unnamable)
    ⟨fun h => ⟨h.1, List.all_eq_true.1 h.2.1, h.2.2⟩,
      fun h => ⟨h.nonempty, List.all_eq_true.2 h.parts, h.free⟩⟩

namespace IsOwnName

variable {name : List Char} (h : IsOwnName name)

include h

theorem ne {w : String} (hw : w ∈ unnamable) : name ≠ w.toList := by
  rintro rfl
  exact h.free (by rwa [String.ofList_toList])

theorem head_append (rest : List Char) : ∀ c ∈ (name ++ rest).head?, isIdentPart c = true := by
  obtain ⟨c, later, rfl⟩ := List.exists_cons_of_ne_nil h.nonempty
  exact forall_head_cons (h.parts c List.mem_cons_self) _

theorem startsSolid (rest : List Char) : StartsSolid (name ++ rest) :=
  fun c hc => isBlank_of_isIdentPart (h.head_append rest c hc)

/-- A name that is no identifier begins with none. -/
theorem head_of_not_isIdent (hn : isIdent name = false) (rest : List Char) :
    ∀ c ∈ (name ++ rest).head?, isIdentStart c = false := by
  obtain ⟨c, later, rfl⟩ := List.exists_cons_of_ne_nil h.nonempty
  have hparts : later.all isIdentPart = true :=
    List.all_eq_true.2 fun d hd => h.parts d (List.mem_cons_of_mem c hd)
  rw [isIdent, hparts, Bool.and_true] at hn
  exact forall_head_cons (p := (isIdentStart · = false)) hn _

theorem takeIdent?_eq_none (hn : isIdent name = false) (rest : List Char) :
    takeIdent? (name ++ rest) = none := by
  have hhead := h.head_of_not_isIdent hn rest
  cases hall : name ++ rest with
  | nil => rfl
  | cons c later => rw [takeIdent?, if_neg (by simp [hhead c (by rw [hall]; rfl)])]

end IsOwnName

/-! ### Functions and classes as they are written -/

/-- A function up to its parameters or type parameters. -/
structure FunctionHead where
  /-- The gap behind `async`. -/
  async : Option (List Char)
  /-- The gap behind `function`. -/
  gap : List Char
  /-- The gap behind the star of a generator. -/
  star : Option (List Char)
  /-- The name, and the gap behind it. -/
  name : Option (List Char × List Char)
  opening : Char

/-- A class up to its body, its type parameters or the word that names another class. -/
structure ClassHead where
  /-- The gap behind `class`. -/
  gap : List Char
  /-- The name, and the gap behind it. -/
  name : Option (List Char × List Char)
  next : String

/-- What stands behind `export default`. -/
inductive DefaultHead
  | function (head : FunctionHead)
  | classOf (head : ClassHead)

/-- A mark or a word with its gap, if it is there. -/
def written? (word : List Char) : Option (List Char) → List Char
  | none => []
  | some gap => word ++ gap

/-- A name with its gap, if it is there. -/
def writtenName? : Option (List Char × List Char) → List Char
  | none => []
  | some (name, gap) => name ++ gap

/-- A name that can be reported: it begins with an ASCII letter, a dollar sign or an underscore. -/
def reportable? (name : Option (List Char × List Char)) : Option (List Char) :=
  (name.map (·.1)).filter isIdent

theorem mem_reportable? {name : Option (List Char × List Char)} {chars : List Char}
    (h : reportable? name = some chars) : ∃ written ∈ name, written.1 = chars :=
  Option.map_eq_some_iff.1 (Option.filter_eq_some_iff.1 h).1

/-- Does a line end in the blanks, with nothing but spaces in front? -/
def endsLine (gap : List Char) : Bool :=
  startsWith ['\n'] (skipSpaces gap) || startsWith ['\r', '\n'] (skipSpaces gap)

namespace FunctionHead

variable {head : FunctionHead}

/-- What stands behind `function`. -/
def behind (head : FunctionHead) : List Char :=
  head.gap ++ (written? ['*'] head.star ++ (writtenName? head.name ++ [head.opening]))

def written (head : FunctionHead) : List Char :=
  written? "async".toList head.async ++ ("function".toList ++ head.behind)

/-- Blanks separate the words; behind `async` the line does not end. -/
structure Writable (head : FunctionHead) : Prop where
  async : ∀ gap ∈ head.async, gap ≠ [] ∧ allBlank gap = true ∧ '\n' ∉ gap
  gap : allBlank head.gap = true
  star : ∀ gap ∈ head.star, allBlank gap = true
  name : ∀ name ∈ head.name, IsOwnName name.1 ∧ allBlank name.2 = true
  separated : head.star = none → head.name ≠ none → head.gap ≠ []
  opening : head.opening = '(' ∨ head.opening = '<'

/-- If no name is reported, the keyword in front does not stand alone on its line. -/
def Plain (head : FunctionHead) : Prop :=
  reportable? head.name = none → head.async = none → endsLine head.gap = false

end FunctionHead

namespace ClassHead

variable {head : ClassHead}

/-- What stands behind `class`. -/
def behind (head : ClassHead) : List Char :=
  head.gap ++ (writtenName? head.name ++ head.next.toList)

def written (head : ClassHead) : List Char :=
  "class".toList ++ head.behind

/-- The gap in front of what is next. -/
def lastGap (head : ClassHead) : List Char :=
  (head.name.map (·.2)).getD head.gap

/-- Blanks separate the words. -/
structure Writable (head : ClassHead) (more : List Char) : Prop where
  gap : allBlank head.gap = true
  name : ∀ name ∈ head.name, IsOwnName name.1 ∧ allBlank name.2 = true ∧ head.gap ≠ []
  next : head.next = "\x7b" ∨ head.next = "<" ∨
    (head.next = "extends" ∨ head.next = "implements") ∧ head.lastGap ≠ [] ∧
      ∀ c ∈ more.head?, isIdentPart c = false

/-- No dollar sign ends the name. If no name is reported, the keyword does not stand alone on its line, and
no `implements` stands where the name would be. -/
def Plain (head : ClassHead) : Prop :=
  (∀ name ∈ head.name, name.1.getLast? ≠ some '$') ∧
    (reportable? head.name = none → endsLine head.gap = false) ∧
    (head.name = none → head.next ≠ "implements")

end ClassHead

/-! ### A name alone on its line -/

theorem endsLine_of_not_mem {gap : List Char} (h : '\n' ∉ gap) : endsLine gap = false := by
  have hskip : ∀ lead : List Char, '\n' ∈ lead → startsWith lead (skipSpaces gap) = false := fun lead hl =>
    Bool.eq_false_iff.2 fun hs =>
      h ((List.dropWhile_suffix _).subset ((startsWith_iff.1 hs).subset hl))
  rw [endsLine, hskip _ (by decide), hskip _ (by decide), Bool.or_self]

/-- A word with something behind it on its line is no default export of its own. -/
theorem soleName?_eq_none {word gap : List Char} {x : Char} (hw : isIdent word = true)
    (hb : allBlank gap = true) (hx : isBlank x = false) (hsemicolon : x ≠ ';')
    (hstop : ∀ c ∈ (gap ++ x :: more).head?, isIdentPart c = false) (hline : endsLine gap = false) :
    soleName? (word ++ (gap ++ x :: more)) = none := by
  have hfeed : x ≠ '\n' ∧ x ≠ '\r' := by
    constructor <;> rintro rfl <;> exact absurd hx (by decide)
  rw [soleName?, takeIdent?_of_isIdent hw hstop]
  simp only [Option.bind_eq_bind, Option.bind_some]
  rw [skipSpaces_stop (isSpaceOrTab_of_not_isBlank hx)]
  rw [endsLine, Bool.or_eq_false_iff] at hline
  cases hskip : skipSpaces gap with
  | nil => simp [hsemicolon, hfeed]
  | cons c rest =>
    have hc : isBlank c = true :=
      allBlank_iff.1 hb c ((List.dropWhile_suffix _).subset (hskip ▸ List.mem_cons_self))
    have hmark : c ≠ ';' := by
      rintro rfl
      exact absurd hc (by decide)
    rw [hskip] at hline
    have hn : c ≠ '\n' := by
      rintro rfl
      exact Bool.false_ne_true (hline.1.symm.trans rfl)
    rw [List.cons_append]
    by_cases hreturn : c = '\r'
    · -- A carriage return ends a line if a line feed is behind it.
      obtain ⟨d, later, hd, hne⟩ : ∃ d later, rest ++ x :: more = d :: later ∧ d ≠ '\n' := by
        cases rest with
        | nil => exact ⟨x, more, rfl, hfeed.1⟩
        | cons d rest =>
          refine ⟨d, rest ++ x :: more, rfl, ?_⟩
          rintro rfl
          rw [hreturn] at hline
          exact Bool.false_ne_true (hline.2.symm.trans rfl)
      simp [hreturn, hd, hne]
    · simp [hmark, hn, hreturn]

theorem head_gap_append {gap : List Char} {x : Char} (hb : allBlank gap = true)
    (h : gap = [] → isIdentPart x = false) : ∀ c ∈ (gap ++ x :: more).head?, isIdentPart c = false := by
  cases gap with
  | nil => exact forall_head_cons (p := (isIdentPart · = false)) (h rfl) more
  | cons c gap =>
    rw [allBlank_cons, Bool.and_eq_true] at hb
    refine forall_head_cons (p := (isIdentPart · = false)) (Bool.eq_false_iff.2 fun hc => ?_) _
    rw [isBlank_of_isIdentPart hc] at hb
    cases hb.1

/-! ### Functions -/

namespace FunctionHead

variable {head : FunctionHead}

theorem written_append (head : FunctionHead) (more : List Char) :
    head.written ++ more = written? "async".toList head.async ++ ("function".toList ++ (head.gap ++
      (written? ['*'] head.star ++ (writtenName? head.name ++ head.opening :: more)))) := by
  simp only [written, behind, List.append_assoc, List.singleton_append]

/-- Behind the keyword stands a blank, a star, the name's gap or the opening mark. -/
theorem skipAsync (hw : head.Writable) (more : List Char) :
    skipWordGap "async" (head.written ++ more) = "function".toList ++ (head.behind ++ more) := by
  rw [written, List.append_assoc, List.append_assoc]
  cases ha : head.async with
  | none => rfl
  | some gap =>
    obtain ⟨hne, hb, -⟩ := hw.async gap ha
    have hsolid : StartsSolid ("function".toList ++ (head.behind ++ more)) :=
      StartsSolid.of_front (by decide) (by decide) _
    rw [written?, List.append_assoc]
    exact hsolid.skipWordGap_gap hne hb

/-- The mark in front of the parameters. -/
theorem opening_facts (hw : head.Writable) :
    isBlank head.opening = false ∧ isIdentPart head.opening = false ∧ head.opening ≠ '*' ∧
      (head.opening == '(' || head.opening == '<') = true := by
  rcases hw.opening with ho | ho <;> rw [ho] <;> decide

/-- The name, or the mark in front of the parameters. -/
theorem head_name (hw : head.Writable) (more : List Char) :
    ∃ x later, writtenName? head.name ++ head.opening :: more = x :: later ∧ isBlank x = false ∧
      x ≠ '*' ∧ x ≠ ';' ∧ (head.name = none → isIdentPart x = false) := by
  obtain ⟨hblank, hident, hstar, -⟩ := opening_facts hw
  have hsemicolon : head.opening ≠ ';' := by
    rcases hw.opening with ho | ho <;> rw [ho] <;> decide
  cases hn : head.name with
  | none => exact ⟨head.opening, more, rfl, hblank, hstar, hsemicolon, fun _ => hident⟩
  | some name =>
    have hname := (hw.name name hn).1
    obtain ⟨x, later, hcons⟩ := List.exists_cons_of_ne_nil hname.nonempty
    have hpart := hname.parts x (by rw [hcons]; exact List.mem_cons_self)
    refine ⟨x, later ++ (name.2 ++ head.opening :: more), ?_, isBlank_of_isIdentPart hpart,
      ne_of_class hpart (by decide), ne_of_class hpart (by decide), fun h => nomatch h⟩
    simp only [writtenName?, hcons, List.append_assoc, List.cons_append]

/-- The star of a generator and the blanks around it are passed over. -/
theorem skipStar (hw : head.Writable) (more : List Char) :
    trimStart (skipChar '*' (trimStart (head.behind ++ more))) =
      writtenName? head.name ++ head.opening :: more := by
  obtain ⟨x, later, hcons, hblank, hstar, -⟩ := head_name hw more
  have hsolid : StartsSolid (writtenName? head.name ++ head.opening :: more) := by
    rw [hcons]
    exact forall_head_cons hblank later
  have hmark : ∀ c ∈ (writtenName? head.name ++ head.opening :: more).head?, c ≠ '*' := by
    rw [hcons]
    exact forall_head_cons (p := (· ≠ '*')) hstar later
  have hbehind : head.behind ++ more = head.gap ++ (written? ['*'] head.star ++
      (writtenName? head.name ++ head.opening :: more)) := by
    simp only [behind, List.append_assoc, List.singleton_append]
  rw [hbehind]
  cases hs : head.star with
  | none =>
    rw [written?, List.nil_append, hsolid.trimStart_gap hw.gap, skipChar_eq_self hmark,
      hsolid.trimStart_eq]
  | some gap =>
    have hstar : ∀ rest, StartsSolid ('*' :: rest) := forall_head_cons (by decide)
    rw [written?, List.append_assoc, List.singleton_append, (hstar _).trimStart_gap hw.gap, skipChar_self,
      hsolid.trimStart_gap (hw.star gap hs)]

/-- A name is read, whatever stands between the tokens. -/
theorem functionName?_written (hw : head.Writable) (more : List Char) :
    functionName? (head.written ++ more) = reportable? head.name := by
  obtain ⟨hblank, hident, -, hopening⟩ := opening_facts hw
  have hopen : StartsSolid (head.opening :: more) := forall_head_cons hblank more
  rw [functionName?, skipAsync hw, word?_append]
  simp only [Option.bind_eq_bind, Option.bind_some, skipStar hw]
  cases hn : head.name with
  | none =>
    have hstart : isIdentStart head.opening = false := by
      rcases hw.opening with ho | ho <;> rw [ho] <;> decide
    rw [writtenName?, List.nil_append, takeIdent?, if_neg (by simp [hstart])]
    rfl
  | some name =>
    obtain ⟨hname, hgap⟩ := hw.name name hn
    have hstop : ∀ c ∈ (name.2 ++ head.opening :: more).head?, isIdentPart c = false :=
      head_gap_append hgap fun _ => hident
    rw [writtenName?, List.append_assoc]
    cases hown : isIdent name.1 with
    | true =>
      have hreport : reportable? (some name) = some name.1 := by simp [reportable?, hown]
      rw [takeIdent?_of_isIdent hown hstop, hreport]
      simp only [Option.bind_some, hopen.trimStart_gap hgap, if_pos hopening]
    | false =>
      have hreport : reportable? (some name) = none := by simp [reportable?, hown]
      rw [hname.takeIdent?_eq_none hown, hreport]
      rfl

/-- A function is no class. -/
theorem className?_written (hw : head.Writable) (more : List Char) :
    className? (head.written ++ more) = none := by
  rw [className?, skipAsync hw]
  rfl

theorem declaredName?_written (hw : head.Writable) (more : List Char) :
    declaredName? (head.written ++ more) = reportable? head.name := by
  rw [declaredName?, functionName?_written hw, className?_written hw]
  cases hn : reportable? head.name with
  | none => rfl
  | some name =>
    obtain ⟨written, hm, rfl⟩ := mem_reportable? hn
    exact if_neg ((hw.name written hm).1.ne (w := "extends") (by decide))

/-- Without a name that is reported, a plain function is no name alone on its line. -/
theorem soleName?_written (hw : head.Writable) (hp : head.Plain) (hn : reportable? head.name = none)
    (more : List Char) : soleName? (head.written ++ more) = none := by
  obtain ⟨x, later, hcons, hblank, -, hsemicolon, hident⟩ := head_name hw more
  rw [written_append, hcons]
  cases ha : head.async with
  | some gap =>
    obtain ⟨hne, hb, hfeed⟩ := hw.async gap ha
    have hfunction : "function".toList = 'f' :: "unction".toList := by decide
    rw [written?, List.append_assoc, hfunction, List.cons_append]
    exact soleName?_eq_none (by decide) hb (by decide) (by decide) (head_gap_append hb fun h => absurd h hne)
      (endsLine_of_not_mem hfeed)
  | none =>
    have hline := hp hn ha
    rw [written?, List.nil_append]
    cases hs : head.star with
    | none =>
      have hstop : head.gap = [] → isIdentPart x = false := fun hgap =>
        hident (Classical.byContradiction fun hname => hw.separated hs hname hgap)
      exact soleName?_eq_none (by decide) hw.gap hblank hsemicolon (head_gap_append hw.gap hstop) hline
    | some gap =>
      rw [written?, List.append_assoc, List.singleton_append]
      exact soleName?_eq_none (by decide) hw.gap (by decide) (by decide)
        (head_gap_append hw.gap fun _ => by decide) hline

end FunctionHead

/-! ### Classes -/

namespace ClassHead

variable {head : ClassHead}

theorem written_append (head : ClassHead) (more : List Char) :
    head.written ++ more = "class".toList ++ (head.gap ++
      (writtenName? head.name ++ (head.next.toList ++ more))) := by
  show "class".toList ++ (head.gap ++ (writtenName? head.name ++ head.next.toList)) ++ more = _
  simp only [List.append_assoc]

/-- A class is no function. -/
theorem functionName?_written (head : ClassHead) (more : List Char) :
    functionName? (head.written ++ more) = none := by
  rw [written_append]
  rfl

/-- What is next begins with a mark, or with a letter behind a gap. -/
theorem next_eq_cons (hw : head.Writable more) :
    ∃ x lead, head.next.toList = x :: lead ∧ isBlank x = false ∧ x ≠ ';' ∧
      (head.lastGap = [] → isIdentPart x = false) := by
  rcases hw.next with hn | hn | ⟨hn | hn, hgap, -⟩
  · exact ⟨'\x7b', [], by rw [hn]; decide, by decide, by decide, fun _ => by decide⟩
  · exact ⟨'<', [], by rw [hn]; decide, by decide, by decide, fun _ => by decide⟩
  · exact ⟨'e', "xtends".toList, by rw [hn]; decide, by decide, by decide, fun h => absurd h hgap⟩
  · exact ⟨'i', "mplements".toList, by rw [hn]; decide, by decide, by decide, fun h => absurd h hgap⟩

/-- What is read behind the word is the name, without the dollar signs at its end. -/
theorem className?_eq {text behind : List Char} (h : wordGap? "class" (skipWordGap "async" text) = some behind) :
    className? text =
      ((takeIdent? behind).map fun read => dropEndWhile (· == '$') read.1).filter fun name => !name.isEmpty := by
  rw [className?, h]
  show (takeIdent? behind).bind _ = _
  cases takeIdent? behind with
  | none => rfl
  | some read =>
    show (guard (!(dropEndWhile (· == '$') read.1).isEmpty) : Option Unit).bind _ = _
    rw [Option.map_some]
    cases dropEndWhile (· == '$') read.1 <;> rfl

/-- No word stands in front of `class`. -/
theorem skipAsync (head : ClassHead) (more : List Char) :
    skipWordGap "async" (head.written ++ more) = head.written ++ more := by
  rw [written_append]
  rfl

/-- The name of a class is read up to a gap or a mark. -/
theorem className?_of_name (hw : head.Writable more) (hp : head.Plain) {name : List Char × List Char}
    (hn : head.name = some name) : className? (head.written ++ more) = reportable? head.name := by
  obtain ⟨hname, hgap, hne⟩ := hw.name name hn
  obtain ⟨x, lead, hnext, -, -, hident⟩ := next_eq_cons hw
  have hlast : head.lastGap = name.2 := by rw [lastGap, hn]; rfl
  have hstop : ∀ c ∈ (name.2 ++ x :: (lead ++ more)).head?, isIdentPart c = false :=
    head_gap_append hgap fun h => hident (hlast.trans h)
  have hword : wordGap? "class" (skipWordGap "async" (head.written ++ more)) =
      some (name.1 ++ (name.2 ++ x :: (lead ++ more))) := by
    rw [skipAsync, written_append, hn, hnext, writtenName?, List.append_assoc, List.cons_append]
    exact (hname.startsSolid _).wordGap?_gap hne hw.gap
  rw [className?_eq hword, hn]
  cases hown : isIdent name.1 with
  | false =>
    have hreport : reportable? (some name) = none := by simp [reportable?, hown]
    rw [hname.takeIdent?_eq_none hown, hreport]
    rfl
  | true =>
    have hreport : reportable? (some name) = some name.1 := by simp [reportable?, hown]
    have hdollar : dropEndWhile (· == '$') name.1 = name.1 := by
      refine (dropEndWhile_of_last fun c hc => ?_).1
      refine beq_eq_false_iff_ne.2 ?_
      rintro rfl
      exact hp.1 name hn hc
    have hempty : name.1.isEmpty = false := List.isEmpty_eq_false_iff.2 hname.nonempty
    rw [takeIdent?_of_isIdent hown hstop, hreport, Option.map_some, hdollar, Option.filter_some, hempty]
    rfl

/-- Where a class has no name, at most the word `extends` is taken for one. -/
theorem className?_of_none (hw : head.Writable more) (hp : head.Plain) (hn : head.name = none) :
    ∀ name ∈ className? (head.written ++ more), name = "extends".toList := by
  obtain ⟨x, lead, hnext, hblank, -, -⟩ := next_eq_cons hw
  have hsolid : StartsSolid (head.next.toList ++ more) := by
    rw [hnext]
    exact forall_head_cons hblank _
  by_cases hgap : head.gap = []
  · -- Without a gap, the word is not even a keyword.
    rw [className?, skipAsync, written_append, hn, writtenName?, List.nil_append, hgap, List.nil_append, wordGap?,
      word?_append, Option.bind_some, hsolid.gap?_eq_none]
    exact fun _ hname => absurd hname (Option.not_mem_none _)
  have hword : wordGap? "class" (skipWordGap "async" (head.written ++ more)) = some (head.next.toList ++ more) := by
    rw [skipAsync, written_append, hn, writtenName?, List.nil_append]
    exact hsolid.wordGap?_gap hgap hw.gap
  rw [className?_eq hword]
  rcases hw.next with hx | hx | ⟨hx | hx, -, hstop⟩
  · rw [hx]
    exact fun _ hname => absurd hname (Option.not_mem_none _)
  · rw [hx]
    exact fun _ hname => absurd hname (Option.not_mem_none _)
  · have hextends : takeIdent? ("extends".toList ++ more) = some ("extends".toList, more) :=
      takeIdent?_of_isIdent (by decide) hstop
    rw [hx, hextends]
    exact fun name hname => (Option.some.inj hname).symm
  · exact absurd hx (hp.2.2 hn)

theorem declaredName?_written (hw : head.Writable more) (hp : head.Plain) :
    declaredName? (head.written ++ more) = reportable? head.name := by
  rw [declaredName?, functionName?_written]
  cases hn : head.name with
  | none =>
    have hall := className?_of_none hw hp hn
    cases hc : className? (head.written ++ more) with
    | none => rfl
    | some name => exact if_pos (hall name hc)
  | some name =>
    rw [className?_of_name hw hp hn, hn]
    cases hreport : reportable? (some name) with
    | none => rfl
    | some chars =>
      obtain ⟨written, hm, rfl⟩ := mem_reportable? hreport
      exact if_neg ((hw.name written (hn.trans hm)).1.ne (w := "extends") (by decide))

/-- Without a name that is reported, a plain class is no name alone on its line. -/
theorem soleName?_written (hw : head.Writable more) (hp : head.Plain) (hn : reportable? head.name = none) :
    soleName? (head.written ++ more) = none := by
  have hline := hp.2.1 hn
  rw [written_append]
  cases hcase : head.name with
  | none =>
    obtain ⟨x, lead, hnext, hblank, hsemicolon, hident⟩ := next_eq_cons hw
    have hlast : head.lastGap = head.gap := by rw [lastGap, hcase]; rfl
    rw [writtenName?, List.nil_append, hnext, List.cons_append]
    exact soleName?_eq_none (by decide) hw.gap hblank hsemicolon
      (head_gap_append hw.gap fun h => hident (hlast.trans h)) hline
  | some name =>
    obtain ⟨hname, -, hne⟩ := hw.name name hcase
    obtain ⟨x, later, hcons⟩ := List.exists_cons_of_ne_nil hname.nonempty
    have hpart := hname.parts x (by rw [hcons]; exact List.mem_cons_self)
    rw [writtenName?, hcons, List.append_assoc, List.cons_append]
    exact soleName?_eq_none (by decide) hw.gap (isBlank_of_isIdentPart hpart) (ne_of_class hpart (by decide))
      (head_gap_append hw.gap fun h => absurd h hne) hline

end ClassHead

/-! ### The default export -/

namespace DefaultHead

def written : DefaultHead → List Char
  | function head => head.written
  | classOf head => head.written

/-- The name that is declared, if it can be reported. -/
def name? : DefaultHead → Option (List Char)
  | function head => reportable? head.name
  | classOf head => reportable? head.name

def Writable (more : List Char) : DefaultHead → Prop
  | function head => head.Writable
  | classOf head => head.Writable more

/-- No keyword is taken for a name. -/
def Plain : DefaultHead → Prop
  | function head => head.Plain
  | classOf head => head.Plain

variable {head : DefaultHead}

theorem isOwnName (hw : head.Writable more) : ∀ name ∈ head.name?, IsOwnName name := by
  intro name hn
  cases head with
  | function head =>
    obtain ⟨written, hm, rfl⟩ := mem_reportable? hn
    exact (FunctionHead.Writable.name hw written hm).1
  | classOf head =>
    obtain ⟨written, hm, rfl⟩ := mem_reportable? hn
    exact (ClassHead.Writable.name hw written hm).1

theorem declaredName?_written (hw : head.Writable more) (hp : head.Plain) :
    declaredName? (head.written ++ more) = head.name? := by
  cases head with
  | function head => exact FunctionHead.declaredName?_written hw more
  | classOf head => exact ClassHead.declaredName?_written hw hp

theorem soleName?_written (hw : head.Writable more) (hp : head.Plain) (hn : head.name? = none) :
    soleName? (head.written ++ more) = none := by
  cases head with
  | function head => exact FunctionHead.soleName?_written hw hp hn more
  | classOf head => exact ClassHead.soleName?_written hw hp hn

/-- A word is in front. -/
theorem startsSolid_written (head : DefaultHead) (rest : List Char) : StartsSolid (head.written ++ rest) := by
  cases head with
  | function head =>
    have hfront : ∀ later, StartsSolid ("function".toList ++ later) :=
      StartsSolid.of_front (by decide) (by decide)
    rw [written, FunctionHead.written_append]
    cases head.async with
    | none => exact hfront _
    | some gap =>
      rw [written?, List.append_assoc]
      exact StartsSolid.of_front (by decide) (by decide) _
  | classOf head =>
    rw [written, ClassHead.written_append]
    exact StartsSolid.of_front (by decide) (by decide) _

end DefaultHead

/-! ### Sources -/

/-- Does the line begin with a default export? -/
def opensDefault (line : List Char) : Bool :=
  match exportGap? line with
  | some behind => (wordGap? "default" behind).isSome
  | none => false

theorem defaultKeyword?_of_not_opensDefault {line : List Char} (h : opensDefault line = false) :
    defaultKeyword? line = none := by
  rw [defaultKeyword?]
  unfold opensDefault at h
  split at h
  · next behind hgap =>
    have hnone := Option.not_isSome_iff_eq_none.1 (Bool.eq_false_iff.1 h)
    simp only [hgap, Option.bind_eq_bind, Option.bind_some, hnone, Option.bind_none]
  · next hgap =>
    rw [hgap]
    rfl

/-- A default export and the code in front of it. -/
structure DefaultExport where
  before : List Char
  indent : List Char
  /-- The gap behind `export`. -/
  afterExport : List Char
  /-- The gap behind `default`. -/
  afterDefault : List Char
  head : DefaultHead

namespace DefaultExport

variable {d : DefaultExport}

/-- The statement up to the parameters or the body. -/
def statement (d : DefaultExport) : List Char :=
  "export".toList ++ (d.afterExport ++ ("default".toList ++ (d.afterDefault ++ d.head.written)))

def written (d : DefaultExport) : List Char :=
  d.before ++ (d.indent ++ d.statement)

/-- The statement is the first default export that begins a line, and blanks separate its words. -/
structure Writable (d : DefaultExport) (more : List Char) : Prop where
  line : EndsLine d.before
  first : AtLines (opensDefault · = false) true d.before (d.indent ++ d.statement ++ more)
  indent : ∀ c ∈ d.indent, isSpaceOrTab c = true
  afterExport : d.afterExport ≠ [] ∧ allBlank d.afterExport = true
  afterDefault : d.afterDefault ≠ [] ∧ allBlank d.afterDefault = true
  head : d.head.Writable more

theorem statement_eq (d : DefaultExport) :
    d.statement =
      "export".toList ++ (d.afterExport ++ ("default".toList ++ (d.afterDefault ++ d.head.written))) := by
  -- The equation lemma would be found by evaluating the words.
  delta statement
  rfl

theorem statement_append (d : DefaultExport) (rest : List Char) :
    d.statement ++ rest =
      "export".toList ++ (d.afterExport ++ ("default".toList ++ (d.afterDefault ++ (d.head.written ++ rest)))) := by
  rw [statement_eq]
  simp only [List.append_assoc]

theorem exportGap?_statement (hw : d.Writable more) (rest : List Char) :
    exportGap? (d.indent ++ d.statement ++ rest) =
      some ("default".toList ++ (d.afterDefault ++ (d.head.written ++ rest))) := by
  have hword : StartsSolid ("export".toList ++ (d.afterExport ++ ("default".toList ++
      (d.afterDefault ++ (d.head.written ++ rest))))) := StartsSolid.of_front (by decide) (by decide) _
  have hskip := skipSpaces_append hw.indent fun c hc => isSpaceOrTab_of_not_isBlank (hword c hc)
  have hsolid : StartsSolid ("default".toList ++ (d.afterDefault ++ (d.head.written ++ rest))) :=
    StartsSolid.of_front (by decide) (by decide) _
  rw [List.append_assoc, statement_append, exportGap?, hskip]
  exact hsolid.wordGap?_gap hw.afterExport.1 hw.afterExport.2

theorem head_statement (d : DefaultExport) (rest : List Char) :
    ∀ c ∈ (d.statement ++ rest).head?, isSpaceOrTab c = false :=
  forall_head_cons (by decide) _

/-- The first default export of the source. -/
theorem cutDefault?_written (hw : d.Writable more) :
    cutDefault? (d.written ++ more) = some (d.before, d.indent, d.head.written ++ more) := by
  have hdefault : wordGap? "default" ("default".toList ++ (d.afterDefault ++ (d.head.written ++ more))) =
      some (d.head.written ++ more) :=
    (d.head.startsSolid_written more).wordGap?_gap hw.afterDefault.1 hw.afterDefault.2
  have hgap := exportGap?_statement hw more
  have hlines : AtLines (defaultKeyword? · = none) true d.before (d.indent ++ d.statement ++ more) :=
    hw.first.imp fun line hline => defaultKeyword?_of_not_opensDefault hline
  have hindent : (d.indent ++ d.statement ++ more).takeWhile isSpaceOrTab = d.indent := by
    rw [List.append_assoc]
    exact takeWhile_append_of_stop hw.indent (head_statement d more)
  have hdrop : (d.before ++ (d.indent ++ d.statement ++ more)).drop d.before.length =
      d.indent ++ d.statement ++ more := List.drop_left
  have hwritten : d.written ++ more = d.before ++ (d.indent ++ d.statement ++ more) := by
    simp only [written, List.append_assoc]
  rw [cutDefault?_eq, hwritten, hlines.firstHit?_append, startsBehind_of_endsLine hw.line]
  obtain ⟨c, later, hcons⟩ : ∃ c later, d.indent ++ d.statement ++ more = c :: later :=
    List.exists_cons_of_ne_nil (by rw [List.append_assoc, statement_append]; simp)
  rw [hcons] at hgap hindent hdrop ⊢
  simp only [firstHit?, defaultKeyword?, if_true, hgap, hdefault, Option.bind_eq_bind, Option.bind_some,
    Option.pure_def, Option.map_some, List.append_nil, hdrop, hindent]

/-! ### What is reported -/

section Reported

variable {d : DefaultExport} (hw : d.Writable more) (hp : d.head.Plain)
  (h : (stripExportLists text).1 = d.written ++ more)

include hw hp h

/-- The default export is known by the name that it declares, or by the one that is supplied. -/
theorem default_written (defaultLocal : String) :
    (stripExports defaultLocal text).defaultDeclared = d.head.name?.map String.ofList ∧
      (stripExports defaultLocal text).defaultBinding =
        some ((d.head.name?.map String.ofList).getD defaultLocal) := by
  have hname := DefaultHead.declaredName?_written hw.head hp
  have hdefault : ∀ carried : Option String,
      (stripDefault defaultLocal { code := (stripExportLists text).1, defaultBinding := carried }).defaultDeclared =
          d.head.name?.map String.ofList ∧
        (stripDefault defaultLocal { code := (stripExportLists text).1, defaultBinding := carried }).defaultBinding =
          some ((d.head.name?.map String.ofList).getD defaultLocal) := by
    intro carried
    rw [stripDefault, h]
    dsimp only
    rw [cutDefault?_written hw]
    dsimp only
    rw [hname]
    cases hn : d.head.name? with
    | none =>
      dsimp only
      rw [DefaultHead.soleName?_written hw.head hp hn]
      exact ⟨rfl, rfl⟩
    | some name => exact ⟨rfl, rfl⟩
  exact hdefault _

/-- **The default export yields no reserved word.** When the export lists are gone, let the first default
export be a function or a class. What is reported is the name that it declares, or nothing; and if no other
export has a reserved word for its local name, then every name that the dispatcher tries is one that a value
can have. -/
theorem defaultDeclared_written :
    (stripExports ModuleText.defaultLocal text).defaultDeclared = d.head.name?.map String.ofList ∧
      (∀ name ∈ (stripExports ModuleText.defaultLocal text).defaultDeclared, name ∉ unnamable) ∧
      ((∀ e ∈ (stripExports ModuleText.defaultLocal text).exports, e.localName ∉ unnamable) →
        ∀ name ∈ (ModuleText.candidatesOf (stripExports ModuleText.defaultLocal text)).filter
          fun name => isIdent name.toList, IsOwnName name.toList) := by
  obtain ⟨hdeclared, hbinding⟩ := default_written hw hp h ModuleText.defaultLocal
  have hfree : ∀ name ∈ d.head.name?.map String.ofList, name ∉ unnamable := by
    intro name hn
    obtain ⟨chars, hc, rfl⟩ := Option.map_eq_some_iff.1 hn
    exact (DefaultHead.isOwnName hw.head chars hc).free
  refine ⟨hdeclared, by rwa [hdeclared], fun hexports name hname => ?_⟩
  obtain ⟨hcandidate, hident⟩ := List.mem_filter.1 hname
  refine ⟨ne_nil_of_isIdent hident, fun c hc => isIdentPart_of_mem hident hc, ?_⟩
  rw [String.ofList_toList]
  rw [ModuleText.candidatesOf, List.mem_eraseDups] at hcandidate
  simp only [List.mem_append, or_assoc] at hcandidate
  rcases hcandidate with hn | hn | hn | hn
  · rw [hdeclared] at hn
    exact hfree name (Option.mem_toList.1 hn)
  · rw [hbinding, Option.toList_some, List.mem_singleton] at hn
    rw [hn]
    cases hcase : d.head.name?.map String.ofList with
    | none => decide
    | some declared => exact hfree declared hcase
  · obtain ⟨e, he, rfl⟩ := List.mem_map.1 hn
    exact hexports e he
  · have hfallback : ∀ name ∈ ModuleText.fallbackNames, name ∉ unnamable := by decide
    exact hfallback name hn

end Reported

/-- A generator over several lines. -/
def pagesExport : DefaultExport where
  before := "const size = 2;\n".toList
  indent := []
  afterExport := "\n  ".toList
  afterDefault := [' ']
  head := .function ⟨some [' '], ['\n'], some ['\n'], some ("Pages".toList, ['\n']), '('⟩

theorem defaultDeclared_written_pages :
    let text := "export \x7b size \x7d;\n".toList ++ (pagesExport.written ++ ") \x7b\x7d\n".toList)
    text = ("export \x7b size \x7d;\nconst size = 2;\n" ++
        "export\n  default async function\n*\nPages\n() \x7b\x7d\n").toList ∧
      pagesExport.Writable ") \x7b\x7d\n".toList ∧ pagesExport.head.Plain ∧
      (stripExports ModuleText.defaultLocal text).defaultDeclared = some "Pages" ∧
      ∀ name ∈ (ModuleText.candidatesOf (stripExports ModuleText.defaultLocal text)).filter
        fun name => isIdent name.toList, IsOwnName name.toList := by
  intro text
  have hwritable : pagesExport.Writable ") \x7b\x7d\n".toList :=
    ⟨by decide, by decide, List.all_eq_true.1 rfl, by decide, by decide,
      ⟨by decide, by decide, by decide, by decide, by decide, by decide⟩⟩
  have hplain : pagesExport.head.Plain := fun _ h => nomatch h
  have hlists : (stripExportLists text).1 = pagesExport.written ++ ") \x7b\x7d\n".toList := by decide +kernel
  have hexports : ∀ e ∈ (stripExports ModuleText.defaultLocal text).exports, e.localName ∉ unnamable := by
    decide +kernel
  obtain ⟨hdeclared, -, hcandidates⟩ := defaultDeclared_written hwritable hplain hlists
  exact ⟨by decide, hwritable, hplain, hdeclared, hcandidates hexports⟩

/-! ### A keyword alone on its line -/

/-- An anonymous function whose parameters are on the next line. -/
def brokenExport : DefaultExport where
  before := []
  indent := []
  afterExport := [' ']
  afterDefault := [' ']
  head := .function ⟨none, ['\n'], none, none, '('⟩

/-- The keyword is reported as the function's name, and tried by the dispatcher. -/
theorem stripExports_reports_keyword :
    let more := ") \x7b return null; \x7d\n".toList
    let m := stripExports ModuleText.defaultLocal (brokenExport.written ++ more)
    brokenExport.written ++ more = "export default function\n() \x7b return null; \x7d\n".toList ∧
      brokenExport.Writable more ∧ brokenExport.head.name? = none ∧
      m.defaultDeclared = some "function" ∧ "function" ∈ unnamable ∧
      "function" ∈ ModuleText.candidatesOf m := by
  intro more m
  exact ⟨by decide, ⟨by decide, by decide, List.all_eq_true.1 rfl, by decide, by decide,
    ⟨by decide, by decide, by decide, by decide, by decide, by decide⟩⟩, rfl, by decide +kernel,
    by decide +kernel, by decide +kernel⟩

end DefaultExport

end LivePreview.Code
