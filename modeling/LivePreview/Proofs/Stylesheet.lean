import Mathlib.Data.List.Chain
import LivePreview.Proofs.Dictionary
import LivePreview.Proofs.FirstOccurrence
import LivePreview.Proofs.Text.Occurrence
import LivePreview.Proofs.Text.Words
import LivePreview.Stylesheet
/-!
# LivePreview.Proofs.Stylesheet

**The classes of a stylesheet are those of its selectors.** A stylesheet is written from rules, at-rules
around further items, and statements (`Item`), and comments are put into it anywhere (`Commented`). Taking
the comments out gives it back (`substitute_comment`), taking out what stands in addresses leaves a text
whose braces and semicolons are those of its items (`Item.substitute_text`), and the classes of that text
are the classes of its selectors (`Item.ruleClasses_text`). The names that a stylesheet binds are therefore
these classes, in the order in which they come up first, and its look-up object maps each of them to itself
(`classNames_written`).
-/

namespace LivePreview.Stylesheet

open Text

/-! ### Stylesheets as they are written -/

/-- A part of a text outside selectors. -/
inductive Piece
  | char (c : Char)
  /-- What stands between the parentheses of `url(…)`. -/
  | address (content : List Char)

/-- The text of a part; addresses can be left empty. -/
def Piece.text (emptied : Bool) : Piece → List Char
  | char c => [c]
  | address content => "url(".toList ++ ((if emptied then [] else content) ++ [')'])

def runText (emptied : Bool) (run : List Piece) : List Char :=
  run.flatMap (Piece.text emptied)

/-- Outside addresses, none of these characters stands there. -/
def Piece.Avoids (stops : List Char) : Piece → Prop
  | char c => c ∉ stops
  | address _ => True

instance (stops : List Char) : (piece : Piece) → Decidable (piece.Avoids stops)
  | .char c => inferInstanceAs (Decidable (c ∉ stops))
  | .address _ => inferInstanceAs (Decidable True)

/-- Every `url(` of the text is that of an address, and the next parenthesis closes it. -/
def ClosedAddresses : List Piece → Prop
  | [] => True
  | .char c :: run => ¬"url(".toList <+: c :: runText false run ∧ ClosedAddresses run
  | .address content :: run => ')' ∉ content ∧ ClosedAddresses run

instance ClosedAddresses.decidable : (run : List Piece) → Decidable (ClosedAddresses run)
  | [] => inferInstanceAs (Decidable True)
  | .char c :: run =>
    have := decidable run
    inferInstanceAs (Decidable (¬"url(".toList <+: c :: runText false run ∧ ClosedAddresses run))
  | .address content :: run =>
    have := decidable run
    inferInstanceAs (Decidable (')' ∉ content ∧ ClosedAddresses run))

/-- A text that opens no comment, in which these characters stand in addresses only. -/
structure ProperRun (stops : List Char) (run : List Piece) : Prop where
  avoids : ∀ piece ∈ run, piece.Avoids stops
  addresses : ClosedAddresses run
  uncommented : ¬['/', '*'] <:+: runText false run

/-- A part of a selector. -/
inductive SelectorPart
  /-- A class, which is written behind a dot. -/
  | cls (name : String)
  /-- The name of an element, or a name within a pseudo-class. -/
  | word (letters : List Char)
  /-- A blank, a combinator, a comma, or the colon or parenthesis of a pseudo-class. -/
  | mark (c : Char)

/-- The text of a part of a selector. -/
def SelectorPart.text : SelectorPart → List Char
  | cls name => '.' :: name.toList
  | word letters => letters
  | mark c => [c]

def selectorText (selector : List SelectorPart) : List Char :=
  selector.flatMap SelectorPart.text

/-- The class that the part names. -/
def SelectorPart.class? : SelectorPart → Option String
  | cls name => some name
  | _ => none

/-- A class name: a letter or an underscore, maybe behind a hyphen, and letters, digits, underscores and
hyphens behind it. -/
structure IsClassName (name : List Char) : Prop where
  exists_parts : ∃ hyphen start rest, name = hyphen ++ start :: rest ∧
    (hyphen = [] ∨ hyphen = ['-']) ∧ isClassStart start = true ∧ ∀ c ∈ rest, isClassPart c = true

/-- May `c` stand in the name of an element? -/
def isNamePart (c : Char) : Bool :=
  isClassPart c || 128 ≤ c.toNat

/-- May `c` stand between the names of a selector? -/
def isMark (c : Char) : Bool :=
  isAsciiBlank c || ":(),>+~*".toList.contains c

def SelectorPart.Proper : SelectorPart → Prop
  | cls name => IsClassName name.toList
  | word letters => ∀ c ∈ letters, isNamePart c = true
  | mark c => isMark c = true

def SelectorPart.isClass : SelectorPart → Bool
  | cls _ => true
  | _ => false

def SelectorPart.isWord : SelectorPart → Bool
  | word _ => true
  | _ => false

/-- A selector in which no class runs into a name and which has no address. -/
structure ProperSelector (selector : List SelectorPart) : Prop where
  parts : ∀ part ∈ selector, part.Proper
  apart : selector.IsChain fun part next => part.isClass = true → next.isWord = false
  plain : ¬"url(".toList <:+: selectorText selector

/-- An item of a stylesheet. What stands in front of an at sign or of the brace behind the last item
is blank. -/
inductive Item
  | rule (selector : List SelectorPart) (declarations : List Piece)
  | block (lead : List Char) (prelude : List Piece) (items : List Item) (trail : List Char)
  | statement (lead : List Char) (body : List Piece)

mutual
/-- The text of an item; addresses can be left empty. -/
def Item.text (emptied : Bool) : Item → List Char
  | .rule selector declarations =>
    selectorText selector ++ '\x7b' :: (runText emptied declarations ++ ['\x7d'])
  | .block lead prelude items trail =>
    lead ++ '@' :: (runText emptied prelude ++ '\x7b' :: (itemsText emptied items ++ (trail ++ ['\x7d'])))
  | .statement lead body => lead ++ '@' :: (runText emptied body ++ [';'])

def itemsText (emptied : Bool) : List Item → List Char
  | [] => []
  | item :: items => item.text emptied ++ itemsText emptied items
end

mutual
/-- The classes of the selectors of an item. -/
def Item.classes : Item → List String
  | .rule selector _ => selector.filterMap SelectorPart.class?
  | .block _ _ items _ => itemsClasses items
  | .statement _ _ => []

def itemsClasses : List Item → List String
  | [] => []
  | item :: items => item.classes ++ itemsClasses items
end

mutual
def Item.Proper : Item → Prop
  | .rule selector declarations =>
    ProperSelector selector ∧ ProperRun ['\x7b', '\x7d'] declarations
  | .block lead prelude items trail =>
    allBlank lead = true ∧ ProperRun ['\x7b', '\x7d', ';'] prelude ∧ ItemsProper items ∧
      allBlank trail = true
  | .statement lead body => allBlank lead = true ∧ ProperRun ['\x7b', '\x7d', ';'] body

def ItemsProper : List Item → Prop
  | [] => True
  | item :: items => item.Proper ∧ ItemsProper items
end

/-- The second text is the first one with comments put in, each of which is closed by its first mark. -/
inductive Commented : List Char → List Char → Prop
  | nil : Commented [] []
  | char (c : Char) {bare written : List Char} : Commented bare written →
      Commented (c :: bare) (c :: written)
  | comment {body bare written : List Char} : ¬['*', '/'] <:+: body ++ ['*'] →
      Commented bare written → Commented bare ('/' :: '*' :: (body ++ '*' :: '/' :: written))

/-! ### Finding -/

/-- The first occurrence is where nothing begins earlier. -/
theorem cutAt?_of_first {sub a rest : List Char} (hsub : sub ≠ []) (h : ¬sub <:+: a ++ sub.dropLast) :
    cutAt? sub (a ++ (sub ++ rest)) = some (a, rest) := by
  induction a with
  | nil =>
    obtain ⟨c, tail, rfl⟩ := List.exists_cons_of_ne_nil hsub
    rw [List.nil_append, List.cons_append, cutAt?, ← List.cons_append, dropLead?_append]
  | cons c a ih =>
    have hnone : dropLead? sub (c :: (a ++ (sub ++ rest))) = none := by
      rw [← Option.not_isSome_iff_eq_none]
      intro hsome
      -- Whatever begins here ends in front of the last character of `sub`.
      have hprefix := startsWith_iff.1 hsome
      have hshort : c :: a ++ sub.dropLast <+: c :: (a ++ (sub ++ rest)) := by
        rw [List.cons_append, List.cons_prefix_cons]
        exact ⟨rfl, (List.prefix_append_right_inj a).2
          ((List.dropLast_prefix sub).trans (List.prefix_append sub rest))⟩
      have hlength : sub.length ≤ (c :: a ++ sub.dropLast).length := by
        simp only [List.length_append, List.length_cons, List.length_dropLast]
        omega
      exact h (List.prefix_of_prefix_length_le hprefix hshort hlength).isInfix
    have hrest : ¬sub <:+: a ++ sub.dropLast := fun hi => h (hi.trans (List.suffix_cons c _).isInfix)
    rw [List.cons_append, cutAt?, hnone, ih hrest]
    rfl

section Substitute

variable {reader : List Char → Option (List Char × List Char)} {c : Char} {text new after rest : List Char}

/-- What the reader does not recognise is kept. -/
theorem substitute_keep (h : reader (c :: rest) = none) :
    substitute reader (c :: rest) = c :: substitute reader rest := by
  rw [substitute, h]

/-- What the reader recognises is replaced. -/
theorem substitute_replace (h : reader text = some (new, after)) (hl : after.length < text.length) :
    substitute reader text = new ++ substitute reader after := by
  cases text with
  | nil => exact absurd hl (Nat.not_lt_zero _)
  | cons c rest =>
    rw [substitute, h]
    exact if_pos hl

end Substitute

/-! ### Comments -/

section Comments

variable {bare written body rest : List Char}

theorem comment?_eq_none {text : List Char} (h : ¬['/', '*'] <+: text) : comment? text = none := by
  have hnone : dropLead? ['/', '*'] text = none := by
    rw [← Option.not_isSome_iff_eq_none]
    exact fun hsome => h (startsWith_iff.1 hsome)
  rw [comment?, hnone]
  rfl

theorem comment?_eq_some (h : ¬['*', '/'] <:+: body ++ ['*']) :
    comment? ('/' :: '*' :: (body ++ '*' :: '/' :: rest)) = some ([], rest) := by
  have hcut : cutAt? ['*', '/'] (body ++ '*' :: '/' :: rest) = some (body, rest) :=
    cutAt?_of_first (List.cons_ne_nil _ _) h
  show (cutAt? ['*', '/'] (body ++ '*' :: '/' :: rest)).bind (fun cut => some ([], cut.2)) = _
  rw [hcut]
  rfl

/-- A comment begins with a slash, so the star behind a slash is one of the text itself. -/
theorem Commented.head?_eq (h : Commented bare written) (hs : written.head? = some '*') :
    bare.head? = some '*' := by
  cases h with
  | nil => exact hs
  | char c _ => exact hs
  | comment _ _ => exact absurd (Option.some.inj hs) (by decide)

/-- **Taking the comments out** gives the text back that they were put into. -/
theorem substitute_comment (h : Commented bare written) (hn : ¬['/', '*'] <:+: bare) :
    substitute comment? written = bare := by
  induction h with
  | nil => rw [substitute]
  | @char c bare written hw ih =>
    have hnone : ¬['/', '*'] <+: c :: written := by
      rw [List.cons_prefix_cons]
      rintro ⟨rfl, tail, htail⟩
      obtain ⟨more, rfl⟩ := List.head?_eq_some_iff.1 (hw.head?_eq (htail ▸ rfl))
      exact hn ⟨[], more, rfl⟩
    rw [substitute_keep (comment?_eq_none hnone),
      ih fun hi => hn (hi.trans (List.suffix_cons c bare).isInfix)]
  | @comment body bare written hbody _ ih =>
    rw [substitute_replace (comment?_eq_some hbody) (by simp; omega), ih hn, List.nil_append]

end Comments

/-! ### Addresses -/

section Addresses

variable {a content rest : List Char} {run : List Piece}

/-- What follows cannot continue a mark that opens an address. -/
def Stops (rest : List Char) : Prop :=
  ∀ c ∈ rest.head?, c ∉ "url(".toList

theorem address?_eq_none {text : List Char} (h : ¬"url(".toList <+: text) : address? text = none := by
  have hnone : dropLead? "url(".toList text = none := by
    rw [← Option.not_isSome_iff_eq_none]
    exact fun hsome => h (startsWith_iff.1 hsome)
  rw [address?, hnone]
  rfl

theorem address?_eq_some (h : ')' ∉ content) :
    address? ("url(".toList ++ (content ++ ')' :: rest)) = some ("url()".toList, rest) := by
  have hcut : cutAt? [')'] (content ++ ')' :: rest) = some (content, rest) := by
    refine cutAt?_of_first (List.cons_ne_nil _ _) fun hi => h ?_
    have hm := hi.subset List.mem_cons_self
    rwa [List.dropLast_singleton, List.append_nil] at hm
  rw [address?, dropLead?_append]
  show (cutAt? [')'] (content ++ ')' :: rest)).bind (fun cut => some ("url()".toList, cut.2)) = _
  rw [hcut]
  rfl

theorem Stops.prefix_iff (h : Stops rest) (a : List Char) :
    "url(".toList <+: a ++ rest ↔ "url(".toList <+: a := by
  cases rest with
  | nil => rw [List.append_nil]
  | cons c rest => exact prefix_append_cons_iff (h c rfl)

theorem substitute_address_stop {c : Char} (h : c ∉ "url(".toList) (rest : List Char) :
    substitute address? (c :: rest) = c :: substitute address? rest := by
  refine substitute_keep (address?_eq_none ?_)
  rintro ⟨tail, htail⟩
  exact h ((List.cons.inj htail).1 ▸ List.mem_cons_self)

/-- A text without address is kept. -/
theorem substitute_address_plain (ha : ¬"url(".toList <:+: a) (hr : Stops rest) :
    substitute address? (a ++ rest) = a ++ substitute address? rest := by
  induction a with
  | nil => rfl
  | cons c a ih =>
    have hnone : ¬"url(".toList <+: c :: (a ++ rest) := fun hp =>
      ha ((hr.prefix_iff (c :: a)).1 hp).isInfix
    rw [List.cons_append, substitute_keep (address?_eq_none hnone),
      ih fun hi => ha (hi.trans (List.suffix_cons c a).isInfix)]
    rfl

/-- The addresses of a text are left empty, and all else is kept. -/
theorem substitute_address_run (h : ClosedAddresses run) (hr : Stops rest) :
    substitute address? (runText false run ++ rest) = runText true run ++ substitute address? rest := by
  induction run with
  | nil => rfl
  | cons piece run ih =>
    cases piece with
    | char c =>
      obtain ⟨hnone, h⟩ := h
      have hnone : ¬"url(".toList <+: c :: (runText false run ++ rest) := fun hp =>
        hnone ((hr.prefix_iff (c :: runText false run)).1 hp)
      have hkeep := substitute_keep (address?_eq_none hnone)
      rw [ih h] at hkeep
      exact hkeep
    | address content =>
      obtain ⟨hcontent, h⟩ := h
      have htext : runText false (.address content :: run) ++ rest =
          "url(".toList ++ (content ++ ')' :: (runText false run ++ rest)) := by
        simp [runText, Piece.text]
      rw [htext, substitute_replace (address?_eq_some hcontent) (by simp; omega), ih h]
      simp [runText, Piece.text]

end Addresses

/-! ### Selectors -/

section Selectors

variable {name : List Char} {a b rest : List Char} {selector : List SelectorPart}

theorem isClassPart_of_isClassStart {c : Char} (h : isClassStart c = true) : isClassPart c = true := by
  simp only [isClassStart, isClassPart, isAsciiAlnum, Bool.or_eq_true] at h ⊢
  rcases h with h | h
  · exact .inl (.inl (.inl h))
  · exact .inl (.inr h)

theorem IsClassName.forall_part (h : IsClassName name) : ∀ c ∈ name, isClassPart c = true := by
  obtain ⟨hyphen, start, tail, rfl, hhyphen, hstart, htail⟩ := h.exists_parts
  intro c hc
  rcases List.mem_append.1 hc with hc | hc
  · rcases hhyphen with rfl | rfl
    · exact absurd hc List.not_mem_nil
    · rw [List.mem_singleton.1 hc]
      decide
  · rcases List.mem_cons.1 hc with rfl | hc
    · exact isClassPart_of_isClassStart hstart
    · exact htail c hc

theorem className?_start {c : Char} (h : isClassStart c = true) (rest : List Char) :
    className? (c :: rest) = some (c :: rest.takeWhile isClassPart) := by
  have hne : c ≠ '-' := by
    rintro rfl
    exact absurd h (by decide)
  cases rest with
  | nil => simp [className?, h]
  | cons d rest => simp [className?, h, hne]

theorem className?_eq_none {c : Char} (h : isClassStart c = false) (hne : c ≠ '-') (rest : List Char) :
    className? (c :: rest) = none := by
  cases rest with
  | nil => simp [className?, h]
  | cons d rest => simp [className?, h, hne]

/-- A class name is taken up to the first character that cannot stand in it. -/
theorem className?_append (h : IsClassName name) (hr : ∀ c ∈ rest.head?, isClassPart c = false) :
    className? (name ++ rest) = some name := by
  obtain ⟨hyphen, start, tail, rfl, hhyphen, hstart, htail⟩ := h.exists_parts
  have htake : (tail ++ rest).takeWhile isClassPart = tail := takeWhile_append_of_stop htail hr
  rcases hhyphen with rfl | rfl
  · rw [List.nil_append, List.cons_append, className?_start hstart, htake]
  · rw [List.append_assoc, List.singleton_append, List.cons_append, className?, if_pos hstart, htake]
    rfl

/-- Without a dot there is no class. -/
theorem selectorClasses_append (h : '.' ∉ a) (b : List Char) :
    selectorClasses (a ++ b) = selectorClasses b := by
  induction a with
  | nil => rfl
  | cons c a ih =>
    rw [List.mem_cons, not_or] at h
    rw [List.cons_append, selectorClasses, if_neg (Ne.symm h.1), ih h.2]

theorem isClassPart_of_isBlank {c : Char} (h : isBlank c = true) : isClassPart c = false := by
  obtain ⟨r, hr, hlow, hhigh⟩ := Ranges.exists_of_has h
  rw [Bool.eq_false_iff]
  intro hc
  simp only [isClassPart, isAsciiAlnum, isAsciiLetter, isDigit, Bool.or_eq_true, Bool.and_eq_true,
    decide_eq_true_eq, beq_iff_eq, ← Char.toNat_inj] at hc
  have hvalues : '_'.toNat = 95 ∧ '-'.toNat = 45 := by decide
  simp only [blankRanges, List.mem_cons, List.not_mem_nil, or_false] at hr
  rcases hr with rfl | rfl | rfl | rfl | rfl | rfl | rfl | rfl | rfl | rfl <;> omega

section Blanks

variable {blanks : List Char} (hb : allBlank blanks = true)

include hb

theorem takeWhile_append_blanks (text : List Char) :
    (text ++ blanks).takeWhile isClassPart = text.takeWhile isClassPart := by
  induction text with
  | nil =>
    cases blanks with
    | nil => rfl
    | cons c blanks =>
      exact List.takeWhile_cons_of_neg (Bool.eq_false_iff.1
        (isClassPart_of_isBlank (allBlank_iff.1 hb c List.mem_cons_self)))
  | cons c text ih =>
    rw [List.cons_append, List.takeWhile_cons, List.takeWhile_cons, ih]

/-- Blanks behind a text do not count for the class name at its start. -/
theorem className?_append_blanks (text : List Char) :
    className? (text ++ blanks) = className? text := by
  have hnone : className? blanks = none ∧ className? ('-' :: blanks) = none := by
    cases blanks with
    | nil => exact ⟨rfl, rfl⟩
    | cons c blanks =>
      have hpart := isClassPart_of_isBlank (allBlank_iff.1 hb c List.mem_cons_self)
      have hstart : isClassStart c = false := Bool.eq_false_iff.2 fun h => by
        rw [isClassPart_of_isClassStart h] at hpart
        cases hpart
      have hne : c ≠ '-' := by
        rintro rfl
        cases hpart
      refine ⟨className?_eq_none hstart hne blanks, ?_⟩
      rw [className?, hstart]
      rfl
  cases text with
  | nil => exact hnone.1
  | cons c text =>
    rw [List.cons_append]
    by_cases hstart : isClassStart c = true
    · rw [className?_start hstart, className?_start hstart, takeWhile_append_blanks hb]
    · by_cases hc : c = '-'
      · rw [hc]
        cases text with
        | nil => exact hnone.2
        | cons d text => rw [List.cons_append, className?, className?, takeWhile_append_blanks hb]
      · rw [className?_eq_none (Bool.eq_false_iff.2 hstart) hc,
          className?_eq_none (Bool.eq_false_iff.2 hstart) hc]

/-- So do they not for all the classes. -/
theorem selectorClasses_append_blanks (text : List Char) :
    selectorClasses (text ++ blanks) = selectorClasses text := by
  induction text with
  | nil =>
    have hdot : '.' ∉ blanks := fun hc => absurd (allBlank_iff.1 hb _ hc) (by decide)
    have hblanks := selectorClasses_append hdot []
    rw [List.append_nil] at hblanks
    exact hblanks
  | cons c text ih =>
    rw [List.cons_append, selectorClasses, selectorClasses, ih, className?_append_blanks hb]

end Blanks

/-- Blanks around a selector do not count. -/
theorem selectorClasses_trim (text : List Char) : selectorClasses (trim text) = selectorClasses text := by
  have hlead : '.' ∉ text.takeWhile isBlank := fun hc => absurd (List.mem_takeWhile_imp hc) (by decide)
  obtain ⟨blanks, hb, hend⟩ := exists_trimEnd_append (trimStart text)
  rw [trim, ← selectorClasses_append_blanks hb, hend, ← selectorClasses_append hlead,
    takeWhile_append_trimStart]

/-- No mark can stand in a name of a class, and none is a dot. -/
theorem isClassPart_of_isMark {c : Char} (h : isMark c = true) : isClassPart c = false ∧ c ≠ '.' := by
  have hmarks : (":(),>+~*".toList ++ [' ', '\t', '\n', '\x0c', '\r']).all
      (fun c => !isClassPart c && c != '.') = true := by decide
  have hmem : c ∈ ":(),>+~*".toList ++ [' ', '\t', '\n', '\x0c', '\r'] := by
    simp only [isMark, isAsciiBlank, Bool.or_eq_true, beq_iff_eq] at h
    rw [List.mem_append]
    rcases h with h | h
    · exact .inr (by simpa [or_assoc] using h)
    · exact .inl (List.contains_iff_mem.1 h)
  simpa using List.all_eq_true.1 hmarks c hmem

theorem ProperSelector.tail {part : SelectorPart} (h : ProperSelector (part :: selector)) :
    ProperSelector selector where
  parts := fun p hp => h.parts p (List.mem_cons_of_mem part hp)
  apart := h.apart.tail
  plain := fun hi => h.plain (hi.trans (List.suffix_append _ _).isInfix)

/-- What follows a class cannot stand in its name. -/
theorem ProperSelector.head_text {name : String} (h : ProperSelector (.cls name :: selector)) :
    ∀ c ∈ (selectorText selector).head?, isClassPart c = false := by
  cases selector with
  | nil => exact fun c hc => absurd hc (by simp [selectorText])
  | cons next selector =>
    have hnext := (List.isChain_cons_cons.1 h.apart).1 rfl
    cases next with
    | cls _ => exact forall_head_cons (by decide) _
    | word _ => cases hnext
    | mark d => exact forall_head_cons (isClassPart_of_isMark (h.tail.parts _ List.mem_cons_self)).1 _

/-- **The classes of a selector** are those that its parts name. -/
theorem selectorClasses_text (h : ProperSelector selector) :
    (selectorClasses (selectorText selector)).map String.ofList =
      selector.filterMap SelectorPart.class? := by
  induction selector with
  | nil => rfl
  | cons part selector ih =>
    have ih := ih h.tail
    have hpart := h.parts part List.mem_cons_self
    have htext : selectorText (part :: selector) = part.text ++ selectorText selector := rfl
    rw [htext]
    cases part with
    | cls name =>
      have hdot : '.' ∉ name.toList := fun hc => absurd (hpart.forall_part _ hc) (by decide)
      rw [SelectorPart.text, List.cons_append, selectorClasses, if_pos rfl,
        className?_append hpart h.head_text, selectorClasses_append hdot, Option.toList_some,
        List.singleton_append, List.map_cons, ih, String.ofList_toList]
      rfl
    | word letters =>
      have hdot : '.' ∉ letters := fun hc => absurd (hpart _ hc) (by decide)
      rw [SelectorPart.text, selectorClasses_append hdot, ih]
      rfl
    | mark c =>
      have hdot : '.' ∉ [c] := fun hc =>
        (isClassPart_of_isMark hpart).2 (List.mem_singleton.1 hc).symm
      rw [SelectorPart.text, selectorClasses_append hdot, ih]
      rfl

/-- A selector has no character that ends one. -/
theorem ProperSelector.not_mem (h : ProperSelector selector) {c : Char}
    (hc : c ∈ ['\x7b', '\x7d', ';', '@', '/']) : c ∉ selectorText selector := by
  have hnone : isClassPart c = false ∧ isNamePart c = false ∧ isMark c = false ∧ c ≠ '.' := by
    have hall : ['\x7b', '\x7d', ';', '@', '/'].all (fun c =>
        !isClassPart c && !isNamePart c && !isMark c && c != '.') = true := by decide
    simpa [and_assoc] using List.all_eq_true.1 hall c hc
  intro hm
  obtain ⟨part, hp, hm⟩ := List.mem_flatMap.1 hm
  have hpart := h.parts part hp
  cases part with
  | cls name =>
    rcases List.mem_cons.1 hm with rfl | hm
    · exact hnone.2.2.2 rfl
    · exact Bool.eq_false_iff.1 hnone.1 (hpart.forall_part c hm)
  | word letters => exact Bool.eq_false_iff.1 hnone.2.1 (hpart c hm)
  | mark d =>
    rw [List.mem_singleton.1 hm] at hnone
    exact Bool.eq_false_iff.1 hnone.2.2.1 hpart

end Selectors

/-! ### Braces and semicolons -/

section Braces

variable {a back : List Char} {c : Char}

/-- What holds no brace and no semicolon is read up to the next one. -/
theorem ruleClasses_append (h : ∀ c ∈ ['\x7b', '\x7d', ';'], c ∉ a) (back rest : List Char) :
    ruleClasses back (a ++ rest) = ruleClasses (a.reverse ++ back) rest := by
  induction a generalizing back with
  | nil => rfl
  | cons c a ih =>
    have hc : ∀ d ∈ ['\x7b', '\x7d', ';'], c ≠ d ∧ d ∉ a := fun d hd =>
      ⟨fun he => h d hd (he ▸ List.mem_cons_self), fun hm => h d hd (List.mem_cons_of_mem c hm)⟩
    have hopen := (hc '\x7b' (by decide)).1
    have hclose := (hc '\x7d' (by decide)).1
    have hend := (hc ';' (by decide)).1
    rw [List.cons_append, ruleClasses, if_neg hopen, if_neg (by simp [hclose, hend]),
      ih fun d hd => (hc d hd).2, List.reverse_cons, List.append_assoc, List.singleton_append]

/-- What stands in front of a closing brace or a semicolon is dropped, if it opens no block. -/
theorem ruleClasses_drop (h : '\x7b' ∉ a) (hc : c = '\x7d' ∨ c = ';') (back rest : List Char) :
    ruleClasses back (a ++ c :: rest) = ruleClasses [] rest := by
  induction a generalizing back with
  | nil =>
    have hopen : c ≠ '\x7b' := by
      rintro rfl
      exact absurd hc (by decide)
    rw [List.nil_append, ruleClasses, if_neg hopen, if_pos (by simpa using hc)]
  | cons d a ih =>
    rw [List.mem_cons, not_or] at h
    rw [List.cons_append, ruleClasses, if_neg (Ne.symm h.1), ih h.2, ih h.2, ite_self]

/-- Where no block is opened, there are no classes. -/
theorem ruleClasses_eq_nil (h : '\x7b' ∉ a) (back : List Char) : ruleClasses back a = [] := by
  induction a generalizing back with
  | nil => rfl
  | cons d a ih =>
    rw [List.mem_cons, not_or] at h
    rw [ruleClasses, if_neg (Ne.symm h.1), ih h.2, ih h.2, ite_self]

theorem mem_of_mem_trim {text : List Char} (h : c ∈ trim text) : c ∈ text := by
  obtain ⟨blanks, -, hend⟩ := exists_trimEnd_append (trimStart text)
  have hm : c ∈ trimStart text := hend ▸ List.mem_append_left blanks h
  exact (List.dropWhile_suffix isBlank).subset hm

/-- The prelude of an at-rule has no classes. -/
theorem ruleClasses_prelude {lead prelude : List Char} (hl : allBlank lead = true)
    (hp : ∀ c ∈ ['\x7b', '\x7d', ';'], c ∉ prelude) (rest : List Char) :
    ruleClasses [] (lead ++ '@' :: (prelude ++ '\x7b' :: rest)) = ruleClasses [] rest := by
  have hnone : ∀ c ∈ ['\x7b', '\x7d', ';'], c ∉ lead ++ '@' :: prelude := by
    intro c hc hm
    rcases List.mem_append.1 hm with hm | hm
    · have hblank : ['\x7b', '\x7d', ';'].all (!isBlank ·) = true := by decide
      have hc := List.all_eq_true.1 hblank c hc
      rw [allBlank_iff.1 hl c hm] at hc
      cases hc
    · rcases List.mem_cons.1 hm with rfl | hm
      · exact absurd hc (by decide)
      · exact hp c hc hm
  have hat : isBlank '@' = false := by decide
  obtain ⟨tail, htail⟩ := trim_cons hat prelude
  have htext : lead ++ '@' :: (prelude ++ '\x7b' :: rest) =
      (lead ++ '@' :: prelude) ++ '\x7b' :: rest := by simp
  rw [htext, ruleClasses_append hnone, List.append_nil, ruleClasses, if_pos rfl, List.reverse_reverse,
    trim_append_left hl, htail]
  rfl

/-- The classes of a selector in front of its block. -/
theorem ruleClasses_selector {selector : List SelectorPart} (h : ProperSelector selector)
    (rest : List Char) :
    ruleClasses [] (selectorText selector ++ '\x7b' :: rest) =
      selectorClasses (selectorText selector) ++ ruleClasses [] rest := by
  have hnone : ∀ c ∈ ['\x7b', '\x7d', ';'], c ∉ selectorText selector := fun c hc =>
    h.not_mem (by simp only [List.mem_cons, List.not_mem_nil, or_false] at hc ⊢; tauto)
  have hat : startsWith ['@'] (trim (selectorText selector)) = false := by
    rw [Bool.eq_false_iff]
    intro hs
    have hm := (startsWith_iff.1 hs).subset List.mem_cons_self
    exact h.not_mem (c := '@') (by decide) (mem_of_mem_trim hm)
  rw [ruleClasses_append hnone, List.append_nil, ruleClasses, if_pos rfl, List.reverse_reverse]
  dsimp only
  rw [hat, if_neg Bool.false_ne_true, selectorClasses_trim]

/-- What stands in addresses only is gone when they are empty. -/
theorem ProperRun.not_mem {stops : List Char} {run : List Piece} (h : ProperRun stops run)
    (hc : c ∈ stops) (hurl : c ∉ "url()".toList) : c ∉ runText true run := by
  intro hm
  obtain ⟨piece, hp, hm⟩ := List.mem_flatMap.1 hm
  cases piece with
  | char d =>
    rw [List.mem_singleton.1 hm] at hc
    exact h.avoids _ hp hc
  | address content => exact hurl hm

end Braces

/-! ### Items -/

section Items

variable {c : Char} {rest : List Char}

theorem stops_cons (h : c ∉ "url(".toList) (rest : List Char) : Stops (c :: rest) :=
  forall_head_cons h rest

/-- Blanks hold no address and open no comment. -/
theorem not_infix_of_allBlank {blanks m : List Char} (hb : allBlank blanks = true) (hc : c ∈ m)
    (hm : isBlank c = false) : ¬m <:+: blanks := by
  intro hi
  rw [allBlank_iff.1 hb c (hi.subset hc)] at hm
  cases hm

theorem not_mem_address (h : c ∈ ['\x7b', '\x7d', ';']) : c ∉ "url()".toList := by
  have hall : ['\x7b', '\x7d', ';'].all (!"url()".toList.contains ·) = true := by decide
  simpa using List.all_eq_true.1 hall c h

/-- No comment is opened across a character of its own. -/
theorem opensNone_append {a : List Char} (hc : c ∉ ['/', '*']) (ha : ¬['/', '*'] <:+: a)
    (hr : ¬['/', '*'] <:+: rest) : ¬['/', '*'] <:+: a ++ c :: rest := by
  rw [infix_append_cons_iff hc (List.cons_ne_nil _ _)]
  exact not_or.2 ⟨ha, hr⟩

mutual
/-- **The addresses of an item** are left empty, and all else is kept. -/
theorem Item.substitute_text (item : Item) (h : item.Proper) (rest : List Char) :
    substitute address? (item.text false ++ rest) = item.text true ++ substitute address? rest := by
  match item, h with
  | .rule selector declarations, ⟨hs, hd⟩ =>
    simp only [Item.text, List.append_assoc, List.cons_append, List.nil_append]
    rw [substitute_address_plain hs.plain (stops_cons (by decide) _),
      substitute_address_stop (by decide),
      substitute_address_run hd.addresses (stops_cons (by decide) _),
      substitute_address_stop (by decide)]
  | .block lead prelude items trail, ⟨hl, hp, hi, ht⟩ =>
    have hplain : ∀ {blanks : List Char}, allBlank blanks = true → ¬"url(".toList <:+: blanks :=
      fun hb => not_infix_of_allBlank (c := 'u') hb (by decide) (by decide)
    simp only [Item.text, List.append_assoc, List.cons_append, List.nil_append]
    rw [substitute_address_plain (hplain hl) (stops_cons (by decide) _),
      substitute_address_stop (by decide),
      substitute_address_run hp.addresses (stops_cons (by decide) _),
      substitute_address_stop (by decide), substitute_itemsText items hi,
      substitute_address_plain (hplain ht) (stops_cons (by decide) _),
      substitute_address_stop (by decide)]
  | .statement lead body, ⟨hl, hb⟩ =>
    have hplain : ¬"url(".toList <:+: lead :=
      not_infix_of_allBlank (c := 'u') hl (by decide) (by decide)
    simp only [Item.text, List.append_assoc, List.cons_append, List.nil_append]
    rw [substitute_address_plain hplain (stops_cons (by decide) _),
      substitute_address_stop (by decide),
      substitute_address_run hb.addresses (stops_cons (by decide) _),
      substitute_address_stop (by decide)]

theorem substitute_itemsText (items : List Item) (h : ItemsProper items) (rest : List Char) :
    substitute address? (itemsText false items ++ rest) =
      itemsText true items ++ substitute address? rest := by
  match items, h with
  | [], _ => rfl
  | item :: items, ⟨hitem, hitems⟩ =>
    rw [itemsText, itemsText, List.append_assoc, item.substitute_text hitem,
      substitute_itemsText items hitems, List.append_assoc]
end

mutual
/-- **The classes of an item** whose addresses are empty are those of its selectors, whatever follows. -/
theorem Item.ruleClasses_text (item : Item) (h : item.Proper) (rest : List Char) :
    (ruleClasses [] (item.text true ++ rest)).map String.ofList =
      item.classes ++ (ruleClasses [] rest).map String.ofList := by
  match item, h with
  | .rule selector declarations, ⟨hs, hd⟩ =>
    have hopen : '\x7b' ∉ runText true declarations := hd.not_mem (by decide) (by decide)
    simp only [Item.text, List.append_assoc, List.cons_append, List.nil_append]
    rw [ruleClasses_selector hs, ruleClasses_drop hopen (.inl rfl), List.map_append,
      selectorClasses_text hs]
    rfl
  | .block lead prelude items trail, ⟨hl, hp, hi, ht⟩ =>
    have hprelude : ∀ c ∈ ['\x7b', '\x7d', ';'], c ∉ runText true prelude := fun c hc =>
      hp.not_mem hc (not_mem_address hc)
    have htrail : '\x7b' ∉ trail := fun hm => absurd (allBlank_iff.1 ht _ hm) (by decide)
    simp only [Item.text, List.append_assoc, List.cons_append, List.nil_append]
    rw [ruleClasses_prelude hl hprelude, ruleClasses_itemsText items hi,
      ruleClasses_drop htrail (.inl rfl)]
    rfl
  | .statement lead body, ⟨hl, hb⟩ =>
    have hopen : '\x7b' ∉ lead ++ '@' :: runText true body := by
      rw [List.mem_append, List.mem_cons, not_or, not_or]
      exact ⟨fun hm => absurd (allBlank_iff.1 hl _ hm) (by decide), by decide,
        hb.not_mem (by decide) (by decide)⟩
    have htext : (Item.statement lead body).text true ++ rest =
        (lead ++ '@' :: runText true body) ++ ';' :: rest := by simp [Item.text]
    rw [htext, ruleClasses_drop hopen (.inr rfl)]
    rfl

theorem ruleClasses_itemsText (items : List Item) (h : ItemsProper items) (rest : List Char) :
    (ruleClasses [] (itemsText true items ++ rest)).map String.ofList =
      itemsClasses items ++ (ruleClasses [] rest).map String.ofList := by
  match items, h with
  | [], _ => rfl
  | item :: items, ⟨hitem, hitems⟩ =>
    rw [itemsText, List.append_assoc, item.ruleClasses_text hitem, ruleClasses_itemsText items hitems,
      itemsClasses, List.append_assoc]
end

mutual
/-- An item opens no comment, also not together with what follows. -/
theorem Item.uncommented (item : Item) (h : item.Proper) {rest : List Char} (hr : ¬['/', '*'] <:+: rest) :
    ¬['/', '*'] <:+: item.text false ++ rest := by
  match item, h with
  | .rule selector declarations, ⟨hs, hd⟩ =>
    have hselector : ¬['/', '*'] <:+: selectorText selector := fun hi =>
      hs.not_mem (c := '/') (by decide) (hi.subset List.mem_cons_self)
    simp only [Item.text, List.append_assoc, List.cons_append, List.nil_append]
    exact opensNone_append (by decide) hselector (opensNone_append (by decide) hd.uncommented hr)
  | .block lead prelude items trail, ⟨hl, hp, hi, ht⟩ =>
    have hplain : ∀ {blanks : List Char}, allBlank blanks = true → ¬['/', '*'] <:+: blanks :=
      fun hb => not_infix_of_allBlank (c := '/') hb (by decide) (by decide)
    simp only [Item.text, List.append_assoc, List.cons_append, List.nil_append]
    exact opensNone_append (by decide) (hplain hl) (opensNone_append (by decide) hp.uncommented
      (itemsText_uncommented items hi (opensNone_append (by decide) (hplain ht) hr)))
  | .statement lead body, ⟨hl, hb⟩ =>
    have hplain : ¬['/', '*'] <:+: lead :=
      not_infix_of_allBlank (c := '/') hl (by decide) (by decide)
    simp only [Item.text, List.append_assoc, List.cons_append, List.nil_append]
    exact opensNone_append (by decide) hplain (opensNone_append (by decide) hb.uncommented hr)

theorem itemsText_uncommented (items : List Item) (h : ItemsProper items) {rest : List Char}
    (hr : ¬['/', '*'] <:+: rest) : ¬['/', '*'] <:+: itemsText false items ++ rest := by
  match items, h with
  | [], _ => exact hr
  | item :: items, ⟨hitem, hitems⟩ =>
    rw [itemsText, List.append_assoc]
    exact item.uncommented hitem (itemsText_uncommented items hitems hr)
end

end Items

/-! ### The names of a stylesheet -/

/-- The look-up object has each class name once, in ascending order, and maps it to itself. -/
theorem exists_lookup_eq (css : String) :
    ∃ keys : List String, keys.Perm (classNames css) ∧ keys.Pairwise (· < ·) ∧
      lookup css = .object (keys.map fun name => (name, .string name)) := by
  let d := Dictionary.ofList ((classNames css).map fun name => (name, name))
  have hascending : d.keys.Pairwise (· < ·) := List.pairwise_map.2 d.ascending
  have hmem : ∀ name, name ∈ d.keys ↔ name ∈ classNames css := fun name => by
    rw [Dictionary.mem_keys_ofList, List.map_map, List.map_congr_left fun _ _ => rfl]
    exact List.map_id' _ ▸ Iff.rfl
  have hself : ∀ entry ∈ d.entries, entry.2 = entry.1 := fun entry he => by
    obtain ⟨name, -, rfl⟩ := List.mem_map.1 (Dictionary.mem_ofList he)
    rfl
  refine ⟨d.keys, ?_, hascending, ?_⟩
  · refine (List.perm_ext_iff_of_nodup ?_ (nodup_eraseDups _)).2 hmem
    exact hascending.imp fun {a b} (hlt : a < b) (he : a = b) => String.lt_irrefl b (he ▸ hlt)
  · rw [lookup, Dictionary.keys, List.map_map]
    exact congrArg Json.Value.object (List.map_congr_left fun entry he =>
      congrArg (fun name => (entry.1, Json.Value.string name)) (hself entry he))

/-- **The classes of a stylesheet.** Comments may stand anywhere, at-rules may be nested to any depth, and
the last declaration of a block need not be finished: the names are the classes of the selectors, each once,
in the order in which they come up first, and the look-up object maps each of them to itself. -/
theorem classNames_written {items : List Item} {trail : List Char} {css : String}
    (hitems : ItemsProper items) (htrail : allBlank trail = true)
    (hcss : Commented (itemsText false items ++ trail) css.toList) :
    (classNames css).Nodup ∧
      (∀ name, name ∈ classNames css ↔ name ∈ itemsClasses items) ∧
      ((classNames css).Pairwise fun a b => (itemsClasses items).idxOf a < (itemsClasses items).idxOf b) ∧
      ∃ keys : List String, keys.Perm (classNames css) ∧ keys.Pairwise (· < ·) ∧
        lookup css = .object (keys.map fun name => (name, .string name)) := by
  have hblank : ∀ {m : List Char} {c : Char}, c ∈ m → isBlank c = false → ¬m <:+: trail :=
    fun hc hm => not_infix_of_allBlank htrail hc hm
  have hclean : clean css.toList = itemsText true items ++ trail := by
    have htail : substitute address? trail = trail := by
      have hstops : Stops [] := fun c hc => absurd hc (by simp)
      have hplain := substitute_address_plain (hblank (c := 'u') (by decide) (by decide)) hstops
      rwa [List.append_nil, show substitute address? [] = [] by rw [substitute], List.append_nil]
        at hplain
    rw [clean, substitute_comment hcss (itemsText_uncommented items hitems
      (hblank (c := '/') (by decide) (by decide))), substitute_itemsText items hitems, htail]
  have hclasses : classNames css = (itemsClasses items).eraseDups := by
    have hopen : '\x7b' ∉ trail := fun hm => absurd (allBlank_iff.1 htrail _ hm) (by decide)
    rw [classNames, hclean, ruleClasses_itemsText items hitems, ruleClasses_eq_nil hopen, List.map_nil,
      List.append_nil]
  refine ⟨nodup_eraseDups _, fun name => ?_, ?_, exists_lookup_eq css⟩
  · rw [hclasses, List.mem_eraseDups]
  · rw [hclasses]
    exact pairwise_idxOf_eraseDups _

theorem Commented.refl : (text : List Char) → Commented text text
  | [] => .nil
  | c :: text => .char c (Commented.refl text)

theorem Commented.append_left {bare written : List Char} (h : Commented bare written) :
    (front : List Char) → Commented (front ++ bare) (front ++ written)
  | [] => h
  | c :: front => .char c (h.append_left front)

/-- A rule within an at-rule, whose last declaration is unfinished and has an address with a brace and a
dot, and behind a comment a rule that repeats a class. -/
theorem classNames_written_nested :
    let media : Item := .block [] ("media (a) ".toList.map .char)
      [.rule [.cls "card", .mark ',', .mark ' ', .word "p".toList, .cls "on-2", .mark ':',
          .word "hover".toList, .mark ' ']
        (" width: .5em; background: ".toList.map .char ++ [.address "a\x7d.b;c".toList]),
        .statement [' '] ("import x.css".toList.map .char)] [' ']
    let rule : Item := .rule [.mark ' ', .cls "card", .mark ' ', .mark '>', .cls "_x"]
      ("top: 1.5px;".toList.map .char)
    let css := "@media (a) \x7b.card, p.on-2:hover \x7b width: .5em; background: url(a\x7d.b;c)\x7d " ++
      "@import x.css; \x7d/* .note */ .card >._x\x7btop: 1.5px;\x7d"
    ItemsProper [media, rule] ∧ Commented (itemsText false [media, rule]) css.toList ∧
      (∀ name, name ∈ classNames css ↔ name ∈ itemsClasses [media, rule]) ∧
      itemsClasses [media, rule] = ["card", "on-2", "card", "_x"] := by
  intro media rule css
  have hname : ∀ {start : Char} {rest : List Char}, isClassStart start = true →
      rest.all isClassPart = true → IsClassName (start :: rest) :=
    fun hstart hrest => ⟨⟨[], _, _, rfl, .inl rfl, hstart, List.all_eq_true.1 hrest⟩⟩
  have hcard : IsClassName "card".toList := hname (by decide) (by decide)
  have hon : IsClassName "on-2".toList := hname (by decide) (by decide)
  have hx : IsClassName "_x".toList := hname (by decide) (by decide)
  have hitems : ItemsProper [media, rule] := by
    refine ⟨⟨rfl, ⟨by decide, by decide, by decide⟩,
      ⟨⟨⟨?_, by decide, by decide⟩, by decide, by decide, by decide⟩, ⟨rfl, by decide, by decide, by decide⟩,
        trivial⟩, rfl⟩,
      ⟨⟨?_, by decide, by decide⟩, by decide, by decide, by decide⟩, trivial⟩
    · simp only [List.forall_mem_cons, SelectorPart.Proper]
      exact ⟨hcard, by decide, by decide, List.all_eq_true.1 (by decide), hon, by decide,
        List.all_eq_true.1 (by decide), by decide, List.forall_mem_nil _⟩
    · simp only [List.forall_mem_cons, SelectorPart.Proper]
      exact ⟨by decide, hcard, by decide, by decide, hx, List.forall_mem_nil _⟩
  have hcss : Commented (itemsText false [media, rule] ++ []) css.toList := by
    have hbare : itemsText false [media, rule] ++ [] = media.text false ++ rule.text false := by
      rw [itemsText, itemsText, itemsText, List.append_nil, List.append_nil]
    have hwritten : css.toList =
        media.text false ++ '/' :: '*' :: (" .note ".toList ++ '*' :: '/' :: rule.text false) := by
      decide +kernel
    rw [hbare, hwritten]
    exact (Commented.comment (by decide) (.refl _)).append_left _
  exact ⟨hitems, List.append_nil (itemsText false [media, rule]) ▸ hcss,
    (classNames_written hitems rfl hcss).2.1, by decide⟩

end LivePreview.Stylesheet
