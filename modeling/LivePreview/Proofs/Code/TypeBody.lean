import LivePreview.Code.TypeDeclaration
/-!
# LivePreview.Proofs.Code.TypeBody

**Over the body of a type declaration.** A body is balanced if its literals are closed and each bracket
is closed by its own (`balances`); comments are left out. A walk that stands in a body and comes to a
balanced text is behind it as deep in brackets as it was in front of it (`Walk.crosses_of_balances`): what
carries the induction is that the walk counts as many brackets as are waited for (`Walk.Inside`).
-/

namespace LivePreview.Code

open Text

variable {w : Walk} {c q : Char} {closers closers' : List Char} {literal : Option Char}
  {isInterface : Bool} {text body : List Char}

/-! ### Balanced texts -/

/-- The bracket that closes an opening one. -/
def closer? : Char → Option Char
  | '(' => some ')'
  | '[' => some ']'
  | '\x7b' => some '\x7d'
  | '<' => some '>'
  | _ => none

/-- The closing brackets that are waited for behind a character outside literals, the innermost first.
Outside of brackets the body of an interface may hold semicolons and line ends, an alias may not. -/
def awaited? (isInterface : Bool) (closers : List Char) (c : Char) : Option (List Char) :=
  match closer? c with
  | some closer => some (closer :: closers)
  | none =>
    if Walk.closes c then if closers.head? = some c then some closers.tail else none
    else if (c = ';' ∨ c = '\n') ∧ closers = [] ∧ isInterface = false then none
    else some closers

/-- Is a text balanced, in the literal that this quote opened or outside of literals, where `closers`
are waited for? The `>` of an arrow closes nothing, and a backslash in a literal takes the next
character with it. -/
def balances (isInterface : Bool) : Option Char → List Char → List Char → Bool
  | none, closers, [] => closers.isEmpty
  | none, closers, '=' :: '>' :: text => balances isInterface none closers text
  | none, closers, c :: text =>
    if Reading.isQuote c then balances isInterface (some c) closers text
    -- A comment begins.
    else if c = '/' ∧ (text.head? = some '/' ∨ text.head? = some '*') then false
    else match awaited? isInterface closers c with
      | some closers => balances isInterface none closers text
      | none => false
  | some _, _, [] => false
  | some q, closers, '\\' :: _ :: text => balances isInterface (some q) closers text
  | some q, closers, c :: text =>
    balances isInterface (if c = q then none else some q) closers text

theorem opens_eq (c : Char) : Walk.opens c = (closer? c).isSome := by
  unfold closer?
  split <;> simp_all [Walk.opens]

/-- A character opens a bracket, closes the innermost one, or leaves the brackets as they are. -/
theorem awaited?_cases (h : awaited? isInterface closers c = some closers') :
    (Walk.opens c = true ∧ ∃ closer, closers' = closer :: closers) ∨
      (Walk.opens c = false ∧ Walk.closes c = true ∧ closers = c :: closers') ∨
      (Walk.opens c = false ∧ Walk.closes c = false ∧ closers' = closers ∧
        (c = ';' ∨ c = '\n' → closers = [] → isInterface = true)) := by
  unfold awaited? at h
  rw [opens_eq]
  split at h
  · next closer hc =>
    rw [hc]
    exact .inl ⟨rfl, closer, (Option.some.inj h).symm⟩
  · next hc =>
    rw [hc]
    split at h
    · next hcloses =>
      split at h
      · next hhead =>
        obtain ⟨tail, rfl⟩ := List.head?_eq_some_iff.1 hhead
        cases h
        exact .inr (.inl ⟨rfl, hcloses, rfl⟩)
      · cases h
    · next hcloses =>
      split at h
      · cases h
      · next hinner =>
        cases h
        refine .inr (.inr ⟨rfl, Bool.eq_false_iff.2 hcloses, rfl, fun hc hnil => ?_⟩)
        cases isInterface with
        | true => rfl
        | false => exact absurd ⟨hc, hnil, rfl⟩ hinner

/-! ### One character -/

namespace Walk

/-- The walk reads this text, whatever follows, and goes on as the other walk. -/
structure Over (w : Walk) (read : List Char) (w' : Walk) : Prop where
  back_eq : w'.back = read.reverse ++ w.back
  rest_eq : ∀ after, w.rest (read ++ after) = w'.rest after

theorem Over.refl (w : Walk) : w.Over [] w :=
  ⟨rfl, fun _ => rfl⟩

theorem Over.trans {w' w'' : Walk} {a b : List Char} (h : w.Over a w') (h' : w'.Over b w'') :
    w.Over (a ++ b) w'' := by
  constructor
  · rw [h'.back_eq, h.back_eq, List.reverse_append, List.append_assoc]
  · intro after
    rw [List.append_assoc, h.rest_eq, h'.rest_eq]

/-- In plain code, a walk goes on unless the declaration ends. -/
theorem over_code {w' : Walk} (hp : w.place.isCode = true) (hb : w'.back = c :: w.back)
    (ho : ∀ after, w.overCode c after = .inl w') : w.Over [c] w' := by
  refine ⟨hb, fun after => ?_⟩
  rw [List.singleton_append, rest, hp, Bool.true_or, if_pos rfl, ho]

/-- In a literal, a walk goes on. -/
theorem over_literal (hp : w.place = .quoted q ∨ w.place = .escaped q) : w.Over [c] (w.move c) := by
  refine ⟨rfl, fun after => ?_⟩
  rcases hp with hp | hp <;> simp [rest, hp, Reading.isCode]

/-- Behind a character that is no second half of a comment mark. -/
theorem step_code {place : Reading} (hp : place.isCode = true)
    (hs : place = .slash → c ≠ '/' ∧ c ≠ '*') : place.step false c = Reading.afterCode c := by
  cases place with
  | code => rfl
  | slash =>
    obtain ⟨hslash, hstar⟩ := hs rfl
    simp [Reading.step, hslash, hstar]
  | quoted | escaped | lineComment | blockComment | blockStar => exact absurd hp Bool.false_ne_true

/-- In a body, the walk over a character that a balanced text goes on with counts the brackets that are
waited for behind it. -/
theorem overCode_awaited (hd : w.depth = closers.length + w.isInterface.toNat) (hb : w.inBody = true)
    (harrow : c = '>' → w.back.head? ≠ some '=')
    (ha : awaited? w.isInterface closers c = some closers') (after : List Char) :
    w.overCode c after = .inl { w.move c with depth := closers'.length + w.isInterface.toNat } := by
  have hfirst : (c == '>' && w.back.head? == some '=') = false := by
    simpa [Bool.and_eq_false_iff] using fun h => harrow h
  rw [overCode, hfirst, if_neg Bool.false_ne_true]
  rcases awaited?_cases ha with ⟨ho, closer, rfl⟩ | ⟨ho, hc, rfl⟩ | ⟨ho, hc, rfl, hends⟩
  · rw [if_pos ho, hd, hb, Bool.true_or, List.length_cons, Nat.add_right_comm]
    simp [move, hb]
  · -- The bracket that closes is not that of an interface's body.
    have hdepth : w.depth - 1 = closers'.length + w.isInterface.toNat := by
      rw [hd, List.length_cons]
      omega
    have hopen : (closers'.length + w.isInterface.toNat == 0 && w.isInterface) = false := by
      cases w.isInterface <;> simp
    simp [ho, hc, hdepth, hopen]
  · -- A semicolon or a line end stands inside a bracket.
    have hinner : c = ';' ∨ c = '\n' → (w.depth == 0) = false := by
      intro hc
      rw [beq_eq_false_iff_ne, hd]
      cases hi : w.isInterface with
      | true => simp
      | false => simpa [hi] using hends hc
    have hsemicolon : (c == ';' && w.depth == 0) = false := by
      simpa [Bool.and_eq_false_iff] using fun h => hinner (.inl h)
    have hfeed : (c == '\n' && w.depth == 0) = false := by
      simpa [Bool.and_eq_false_iff] using fun h => hinner (.inr h)
    simp only [ho, hc, hsemicolon, hfeed, Bool.false_and, Bool.false_eq_true, if_false]
    split <;> simp [move, hb, hd]

/-- Where a declaration ends, the walk ends. -/
theorem rest_end (hp : w.place.isCode = true) (ho : w.overCode c text = .inr true) :
    w.rest (c :: text) = text := by
  rw [rest, hp, Bool.true_or, if_pos rfl, ho]
  rfl

/-- The characters that mean something to a walk over plain code. -/
def marks : List Char :=
  ['"', '\'', '\x60', '/', '*', '(', ')', '[', ']', '\x7b', '\x7d', '<', '>', '=', ';', '\n']

theorem not_mem_marks (h : isIdentPart c = true) : c ∉ marks := by
  have hall : marks.all (!isIdentPart ·) = true := by decide
  intro hc
  have hc := List.all_eq_true.1 hall c hc
  rw [h] at hc
  cases hc

theorem forall_not_mem_marks {read : List Char} (h : read.all (!marks.contains ·) = true) :
    ∀ c ∈ read, c ∉ marks := by
  simpa using h

theorem over_idle_char (hp : w.place.isCode = true) (h : c ∉ marks) :
    w.Over [c] { w with place := .code, back := c :: w.back } := by
  simp only [marks, List.mem_cons, List.not_mem_nil, or_false, not_or] at h
  have hplace : w.place.step false c = .code := by
    rw [step_code hp fun _ => by simp [h]]
    simp [Reading.afterCode, Reading.isQuote, h]
  refine over_code hp rfl fun after => ?_
  simp [overCode, opens, closes, move, hplace, h]

/-- The walk over plain code that means nothing to it. -/
theorem over_idle {read : List Char} (hp : w.place = .code) (h : ∀ c ∈ read, c ∉ marks) :
    w.Over read { w with back := read.reverse ++ w.back } := by
  induction read generalizing w with
  | nil => exact Over.refl w
  | cons c read ih =>
    have hfirst := over_idle_char (w := w) (by rw [hp]; rfl) (h c List.mem_cons_self)
    have hrest := ih (w := { w with place := .code, back := c :: w.back }) rfl fun d hd =>
      h d (List.mem_cons_of_mem c hd)
    have hread := hfirst.trans hrest
    simpa [hp] using hread

/-! ### Inside a body -/

/-- The walk stands in the literal that this quote opened; or outside of literals, and the text behind
does not begin with the second half of a mark whose first half was walked over. -/
def StandsAt (w : Walk) (text : List Char) : Option Char → Prop
  | some q => w.place = .quoted q ∧ Reading.isQuote q = true
  | none => w.place.isCode = true ∧ (w.place = .slash → ∀ c ∈ text.head?, c ≠ '/' ∧ c ≠ '*') ∧
      (w.back.head? = some '=' → ∀ c ∈ text.head?, c ≠ '>')

/-- Behind code that is no first half of a mark, any text may follow. -/
theorem standsAt_of_code (hp : w.place = .code) (hb : w.back.head? ≠ some '=') (text : List Char) :
    w.StandsAt text none := by
  refine ⟨by rw [hp]; rfl, fun hs => ?_, fun he => absurd he hb⟩
  rw [hp] at hs
  cases hs

theorem awaited?_quote (hq : Reading.isQuote c = true) :
    awaited? isInterface closers c = some closers := by
  simp only [Reading.isQuote, Bool.or_eq_true, beq_iff_eq] at hq
  rcases hq with (rfl | rfl) | rfl <;> simp [awaited?, closer?, closes]

/-- The walk stands inside a body, in front of a text that is balanced where these brackets are waited
for. -/
structure Inside (w : Walk) (isInterface : Bool) (literal : Option Char) (closers text : List Char) :
    Prop where
  isInterface_eq : w.isInterface = isInterface
  inBody : w.inBody = true
  depth_eq : w.depth = closers.length + isInterface.toNat
  stands : w.StandsAt text literal

namespace Inside

theorem place_step (h : w.Inside isInterface none closers (c :: text)) :
    w.place.step false c = Reading.afterCode c :=
  step_code h.stands.1 fun hs => h.stands.2.1 hs c rfl

/-- The walk reads a character of plain code. -/
theorem over_char (h : w.Inside isInterface none closers (c :: text))
    (hc : awaited? isInterface closers c = some closers') :
    w.Over [c] { w.move c with depth := closers'.length + isInterface.toNat } := by
  obtain ⟨rfl, hb, hd, hs⟩ := h
  exact over_code hs.1 rfl (overCode_awaited hd hb (fun hc he => hs.2.2 he c rfl hc) hc)

/-- Over a character that opens no literal and begins no mark. -/
theorem code (h : w.Inside isInterface none closers (c :: text))
    (hc : awaited? isInterface closers c = some closers') (hq : ¬Reading.isQuote c = true)
    (hs : c = '/' → ∀ d ∈ text.head?, d ≠ '/' ∧ d ≠ '*') (ha : c = '=' → ∀ d ∈ text.head?, d ≠ '>') :
    ∃ w', w.Over [c] w' ∧ w'.Inside isInterface none closers' text := by
  have hplace : w.place.step false c = if c = '/' then .slash else .code := by
    rw [h.place_step, Reading.afterCode, if_neg hq]
  refine ⟨_, h.over_char hc, h.isInterface_eq, h.inBody, rfl, ?_, fun hp => hs ?_,
    fun he => ha (Option.some.inj he)⟩
  · simp only [move, hplace]
    split <;> rfl
  · simp only [move, hplace] at hp
    by_cases hc : c = '/'
    · exact hc
    · rw [if_neg hc] at hp
      cases hp

/-- Over a quote that opens a literal. -/
theorem quote (h : w.Inside isInterface none closers (c :: text)) (hq : Reading.isQuote c = true) :
    ∃ w', w.Over [c] w' ∧ w'.Inside isInterface (some c) closers text := by
  refine ⟨_, h.over_char (awaited?_quote hq), h.isInterface_eq, h.inBody, rfl, ?_, hq⟩
  simp only [move, h.place_step, Reading.afterCode, if_pos hq]

/-- Over the arrow of a function type. -/
theorem arrow (h : w.Inside isInterface none closers ('=' :: '>' :: text)) :
    ∃ w', w.Over ['=', '>'] w' ∧ w'.Inside isInterface none closers text := by
  have hawaited : awaited? isInterface closers '=' = some closers := by
    simp [awaited?, closer?, closes]
  have hplace : w.place.step false '=' = .code := h.place_step
  have hsecond : Over { w.move '=' with depth := closers.length + isInterface.toNat } ['>']
      ({ w.move '=' with depth := closers.length + isInterface.toNat }.move '>') := by
    refine over_code ?_ rfl fun _ => rfl
    rw [move, hplace]
    rfl
  have hcode : (({ w.move '=' with depth := closers.length + isInterface.toNat } : Walk).move '>').place =
      .code := by
    simp only [move, hplace]
    rfl
  have hback : ∀ back : List Char, ('>' :: back).head? ≠ some '=' := by simp
  exact ⟨_, (h.over_char hawaited).trans hsecond, h.isInterface_eq, h.inBody, rfl,
    standsAt_of_code hcode (hback _) text⟩

/-- Over a backslash in a literal and what it takes with it. -/
theorem escape {d : Char} (h : w.Inside isInterface (some q) closers ('\\' :: d :: text)) :
    ∃ w', w.Over ['\\', d] w' ∧ w'.Inside isInterface (some q) closers text := by
  obtain ⟨hi, hb, hd, hp, hq⟩ := h
  have hescaped : (w.move '\\').place = .escaped q := by
    rw [move, hp]
    rfl
  refine ⟨_, (over_literal (.inl hp)).trans (over_literal (.inr hescaped)), hi, hb, hd, ?_, hq⟩
  rw [move, hescaped]
  rfl

/-- Over another character of a literal. -/
theorem inLiteral (h : w.Inside isInterface (some q) closers (c :: text)) (hc : c ≠ '\\') :
    ∃ w', w.Over [c] w' ∧
      w'.Inside isInterface (if c = q then none else some q) closers text := by
  obtain ⟨hi, hb, hd, hp, hq⟩ := h
  have hplace : (w.move c).place = if c = q then .code else .quoted q := by
    simp [move, hp, Reading.step, hc]
  refine ⟨_, over_literal (.inl hp), hi, hb, hd, ?_⟩
  split
  · next he =>
    -- The quote closes the literal.
    have hback : (w.move c).back.head? ≠ some '=' := by
      intro hb
      rw [← he, Option.some.inj hb] at hq
      exact absurd hq (by decide)
    rw [if_pos he] at hplace
    exact standsAt_of_code hplace hback text
  · next he => exact ⟨by rw [hplace, if_neg he], hq⟩

end Inside

/-- The walk reads the body and is then in plain code, with no bracket open but the one around the
body of an interface. -/
def Crosses (w : Walk) (isInterface : Bool) (body : List Char) : Prop :=
  ∃ place, Reading.isCode place = true ∧
    w.Over body ⟨isInterface, place, isInterface.toNat, true, body.reverse ++ w.back⟩

theorem Crosses.of_over {w' : Walk} {a b : List Char} (h : w'.Crosses isInterface b)
    (ho : w.Over a w') : w.Crosses isInterface (a ++ b) := by
  obtain ⟨place, hp, hb⟩ := h
  refine ⟨place, hp, ?_⟩
  rw [List.reverse_append, List.append_assoc, ← ho.back_eq]
  exact ho.trans hb

/-- Inside a body, a balanced text is walked over as a whole. -/
theorem crosses_of_balances (h : balances isInterface literal closers body = true)
    (hw : w.Inside isInterface literal closers body) : w.Crosses isInterface body := by
  fun_induction balances isInterface literal closers body generalizing w with
  | case1 closers =>
    obtain ⟨rfl, hb, hd, hs⟩ := hw
    rw [List.isEmpty_iff.1 h, List.length_nil, Nat.zero_add] at hd
    refine ⟨w.place, hs.1, ?_⟩
    rw [← hd, ← hb]
    exact Over.refl w
  | case2 closers body ih =>
    obtain ⟨w', hover, hw'⟩ := hw.arrow
    exact (ih h hw').of_over hover
  | case3 closers c body harrow hq ih =>
    obtain ⟨w', hover, hw'⟩ := hw.quote hq
    exact (ih h hw').of_over hover
  -- Where a comment begins or no bracket is waited for, the text is not balanced.
  | case4 => cases h
  | case6 => cases h
  | case7 => cases h
  | case5 closers c body harrow hq hcomment closers' hc ih =>
    have hs : c = '/' → ∀ d ∈ body.head?, d ≠ '/' ∧ d ≠ '*' := by
      intro he d hd
      constructor
      · rintro rfl
        exact hcomment ⟨he, .inl hd⟩
      · rintro rfl
        exact hcomment ⟨he, .inr hd⟩
    have ha : c = '=' → ∀ d ∈ body.head?, d ≠ '>' := by
      rintro he d hd rfl
      obtain ⟨more, hmore⟩ := List.head?_eq_some_iff.1 hd
      exact harrow more he hmore
    obtain ⟨w', hover, hw'⟩ := hw.code hc hq hs ha
    exact (ih h hw').of_over hover
  | case8 q closers d body ih =>
    obtain ⟨w', hover, hw'⟩ := hw.escape
    exact (ih h hw').of_over hover
  | case9 q closers c body hescape ih =>
    have hc : c ≠ '\\' := by
      -- A backslash at the end of the text leaves its literal open.
      rintro rfl
      cases body with
      | nil =>
        have hq : '\\' ≠ q := by
          rintro rfl
          exact absurd hw.stands.2 (by decide)
        rw [if_neg hq] at h
        cases h
      | cons d body => exact hescape d body rfl rfl
    obtain ⟨w', hover, hw'⟩ := hw.inLiteral hc
    exact (ih h hw').of_over hover

end Walk

end LivePreview.Code
