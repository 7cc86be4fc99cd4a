import Mathlib.Tactic.FinCases
import LivePreview.Proofs.InertLiteral
import LivePreview.Proofs.Json.Written
import LivePreview.Script.Literal
/-!
# LivePreview.Proofs.InertLiteral.Reading

**An inert literal is read as its text.** The body of a literal *spells* a text: characters that stand
for themselves, and escapes (`Spells`). A replacement keeps what is spelled, because what it looks for
begins in no escape and what it puts in spells the same (`Spells.replaceAll`). So the four replacements
that make a literal inert may follow each other in any order, whatever the text is.

A body that spells a text and has no end of a line in it is read as the text, by the rules for escapes
alone (`readLiteral`) and by the reader for whole scripts.
-/

namespace LivePreview

open Text

/-! ### Reading -/

/-- Does the character end a line of a script? -/
def endsScriptLine (c : Char) : Bool :=
  c == '\n' || c == '\r' || c == '\u2028' || c == '\u2029'

/-- Reads a literal behind its opening quote: the text, and what stands behind the closing quote. A
character behind a backslash stands for itself, unless it names another one. -/
def readLiteralBody : List Char → Option (List Char × List Char)
  | [] => none
  | c :: rest =>
    if c = '"' then some ([], rest)
    else if c = '\\' then
      match rest with
      | [] => none
      | e :: more =>
        if e = 'u' then
          match more with
          | h₁ :: h₂ :: h₃ :: h₄ :: after =>
            match Json.hex4? h₁ h₂ h₃ h₄ with
            | some n =>
              if n.isValidChar then
                (readLiteralBody after).map fun (text, behind) => (Char.ofNat n :: text, behind)
              else none
            | none => none
          | _ => none
        else
          (readLiteralBody more).map fun (text, behind) =>
            ((Json.unescape? e).getD e :: text, behind)
    else if endsScriptLine c then none
    else (readLiteralBody rest).map fun (text, behind) => (c :: text, behind)

/-- Reads a literal in double quotes: the text, and what stands behind. -/
def readLiteral : List Char → Option (List Char × List Char)
  | '"' :: rest => readLiteralBody rest
  | _ => none

/-! ### Spelling -/

/-- The characters of an escape: plain ASCII, and none that a mark begins with. -/
def Clean (e : List Char) : Prop :=
  ∀ d ∈ e, 32 ≤ d.toNat ∧ d.toNat < 128 ∧ d ≠ '<'

instance (e : List Char) : Decidable (Clean e) :=
  List.decidableBAll _ _

/-- Is this read as the character, when it stands behind a backslash? The marks that are replaced do not
begin in it. -/
structure Escape (e : List Char) (c : Char) : Prop where
  clean : Clean e
  reads : ∀ rest, readLiteralBody ('\\' :: (e ++ rest)) =
    (readLiteralBody rest).map fun (text, behind) => (c :: text, behind)
  scripted : ∀ rest, Script.escape? (e ++ rest) = some ([c], e, rest)

/-- The body of a literal, and the text that it stands for. -/
inductive Spells : List Char → List Char → Prop
  | nil : Spells [] []
  | plain {c : Char} {body text : List Char} (hquote : c ≠ '"') (hbackslash : c ≠ '\\')
      (hcontrol : 32 ≤ c.toNat) (h : Spells body text) : Spells (c :: body) (c :: text)
  | escape {e : List Char} {c : Char} {body text : List Char} (he : Escape e c)
      (h : Spells body text) : Spells ('\\' :: (e ++ body)) (c :: text)

variable {c : Char} {sub new body text : List Char}

/-- A letter names another character or stands for itself. -/
theorem escape_letter {e : Char} (he : e ∈ "\"\\/!bfnrt".toList) :
    Escape [e] ((Json.unescape? e).getD e) := by
  have hclean : Clean [e] ∧ e ≠ 'u' := by fin_cases he <;> decide
  have hscripted (rest : List Char) :
      Script.escape? (e :: rest) = some ([(Json.unescape? e).getD e], [e], rest) := by
    fin_cases he <;> rfl
  refine ⟨hclean.1, fun rest => ?_, hscripted⟩
  simp [readLiteralBody.eq_def ('\\' :: _), hclean.2]

/-- Four digits behind the letter `u` are read as their code. -/
theorem escape_code {h₁ h₂ h₃ h₄ : Char} {n : Nat}
    (hclean : Clean [h₁, h₂, h₃, h₄]) (hbrace : h₁ ≠ '\x7b')
    (hn : n < 0xD800) (hcode : Json.hex4? h₁ h₂ h₃ h₄ = some n)
    (hscript : Script.hexNumber? [h₁, h₂, h₃, h₄] = some n) :
    Escape ['u', h₁, h₂, h₃, h₄] (Char.ofNat n) := by
  refine ⟨List.forall_mem_cons.2 ⟨by decide, hclean⟩, fun rest => ?_, fun rest => ?_⟩
  · simp [readLiteralBody.eq_def ('\\' :: _), hcode, show n.isValidChar from .inl hn]
  · have hpoint : Script.codePoint? (h₁ :: h₂ :: h₃ :: h₄ :: rest) =
        some (n, [h₁, h₂, h₃, h₄], rest) := by
      unfold Script.codePoint?
      split
      · next heq => exact absurd (List.cons.inj heq).1 hbrace
      · simp [hscript]
    have htext : Script.codePointText n = [Char.ofNat n] := by
      simp [Script.codePointText]
      omega
    have hpair : ¬(0xD800 ≤ n ∧ n ≤ 0xDBFF) := by omega
    show Script.escape? ('u' :: h₁ :: h₂ :: h₃ :: h₄ :: rest) = _
    unfold Script.escape?
    simp [hpoint, htext, hpair]

/-! ### What a literal spells -/

/-- Every character of a text is spelled in its literal. -/
theorem Spells.escapeChar (c : Char) (h : Spells body text) :
    Spells (Json.escapeChar c ++ body) (c :: text) := by
  have hdigits : ∀ n < 32,
      Clean ['0', '0', Json.hexDigit (n / 16), Json.hexDigit (n % 16)] ∧
      Script.hexNumber? ['0', '0', Json.hexDigit (n / 16), Json.hexDigit (n % 16)] = some n := by
    decide
  rcases Json.escapeChar_cases c with ⟨e, -, he, hc⟩ | ⟨hcontrol, hc⟩ | ⟨hq, hb, hcontrol, hc⟩
  · rw [hc]
    have hletter : e ∈ "\"\\/!bfnrt".toList := by
      unfold Json.unescape? at he
      split_ifs at he with h₁ h₂ h₃ h₄ h₅ h₆
      · rcases h₁ with rfl | rfl | rfl <;> decide
      all_goals (subst_vars; decide)
    have hescape := escape_letter hletter
    rw [he, Option.getD_some] at hescape
    exact .escape hescape h
  · rw [hc]
    obtain ⟨hclean, hscript⟩ := hdigits _ hcontrol
    have hescape := escape_code hclean (by decide) (by omega) (Json.hex4?_escapeChar _ hcontrol) hscript
    rw [Char.ofNat_toNat] at hescape
    exact .escape hescape h
  · rw [hc]
    exact .plain hq hb (Nat.not_lt.1 hcontrol) h

theorem spells_flatMap (text : List Char) : Spells (text.flatMap Json.escapeChar) text := by
  induction text with
  | nil => exact .nil
  | cons c text ih => exact ih.escapeChar c

/-! ### Replacements -/

/-- Where a text without backslashes is spelled, it stands itself. -/
theorem Spells.split {after : List Char} (hsub : '\\' ∉ sub) (h : Spells (sub ++ after) text) :
    ∃ later, text = sub ++ later ∧ Spells after later := by
  induction sub generalizing text with
  | nil => exact ⟨text, rfl, h⟩
  | cons d sub ih =>
    rw [List.mem_cons, not_or] at hsub
    generalize hbody : d :: sub ++ after = body at h
    cases h with
    | nil => exact absurd hbody (List.cons_ne_nil d _)
    | plain _ _ _ h =>
      obtain ⟨rfl, rfl⟩ := List.cons.inj hbody
      obtain ⟨later, rfl, hlater⟩ := ih hsub.2 h
      exact ⟨later, rfl, hlater⟩
    | escape _ _ => exact absurd (List.cons.inj hbody).1.symm hsub.1

/-- **A replacement keeps what is spelled**, if what it looks for begins in no escape, and what it puts
in spells the same. -/
theorem Spells.replaceAll {x : Char} {p : List Char} (hx : x = '<' ∨ 128 ≤ x.toNat)
    (hsub : '\\' ∉ x :: p)
    (hnew : ∀ {body text}, Spells body text → Spells (new ++ body) (x :: p ++ text))
    (h : Spells body text) : Spells (replaceAll (x :: p) new body) text := by
  -- A hit takes several characters at once, so the induction is on the length.
  induction hl : text.length using Nat.strongRecOn generalizing body text with
  | _ n ih =>
    cases h with
    | nil => exact .nil
    | @plain c body text hquote hbackslash hcontrol h =>
      rw [List.length_cons] at hl
      by_cases hp : x :: p <+: c :: body
      · obtain ⟨after, hafter⟩ := hp
        have hspelled : Spells (x :: p ++ after) (c :: text) := by
          rw [hafter]
          exact .plain hquote hbackslash hcontrol h
        obtain ⟨later, hlater, hspells⟩ := hspelled.split hsub
        have hlength := congrArg List.length hlater
        simp only [List.length_cons, List.length_append] at hlength
        rw [← hafter, hlater, replaceAll_append (List.cons_ne_nil x p)]
        exact hnew (ih later.length (by omega) hspells rfl)
      · rw [replaceAll_cons hp]
        exact .plain hquote hbackslash hcontrol (ih text.length (by omega) h rfl)
    | @escape e c body text he h =>
      rw [List.length_cons] at hl
      have hclear : x ∉ '\\' :: e := by
        intro hm
        rcases List.mem_cons.1 hm with rfl | hm
        · exact hsub List.mem_cons_self
        · obtain ⟨-, hascii, hmark⟩ := he.clean x hm
          rcases hx with rfl | hx
          · exact hmark rfl
          · exact absurd hascii (Nat.not_lt.2 hx)
      rw [← List.cons_append, replaceAll_append_of_not_mem hclear]
      exact .escape he (ih text.length (by omega) h rfl)

/-! ### Inert literals -/

/-- The characters of marks stand for themselves. -/
theorem Spells.mark (hc : c ∈ "<!-/".toList) (h : Spells body text) :
    Spells (c :: body) (c :: text) := by
  have hplain : c ≠ '"' ∧ c ≠ '\\' ∧ 32 ≤ c.toNat := by fin_cases hc <;> decide
  obtain ⟨hquote, hbackslash, hcontrol⟩ := hplain
  exact .plain hquote hbackslash hcontrol h

/-- The separators of lines are spelled by their codes. -/
theorem Spells.separator {d : Char} (hd : d ∈ ['8', '9']) (h : Spells body text) :
    Spells ('\\' :: 'u' :: '2' :: '0' :: '2' :: d :: body)
      (Char.ofNat (0x2020 + (d.toNat - 48)) :: text) := by
  have hdigits : Clean ['2', '0', '2', d] ∧ 0x2020 + (d.toNat - 48) < 0xD800 ∧
      Json.hex4? '2' '0' '2' d = some (0x2020 + (d.toNat - 48)) ∧
      Script.hexNumber? ['2', '0', '2', d] = some (0x2020 + (d.toNat - 48)) := by
    fin_cases hd <;> decide
  obtain ⟨hclean, hlt, hcode, hscript⟩ := hdigits
  exact .escape (escape_code hclean (by decide) hlt hcode hscript) h

/-- An inert literal spells its text between its quotes. -/
theorem spells_inertBody (text : List Char) : Spells (inertBody text) text := by
  have hslash {body text : List Char} (h : Spells body text) :
      Spells ("<\\/".toList ++ body) ("</".toList ++ text) := by
    have hescaped : Spells ('\\' :: '/' :: body) ('/' :: text) :=
      .escape (escape_letter (e := '/') (by decide)) h
    exact hescaped.mark (by decide)
  have hbang {body text : List Char} (h : Spells body text) :
      Spells ("<\\!--".toList ++ body) ("<!--".toList ++ text) := by
    have hdashes : Spells ('-' :: '-' :: body) ('-' :: '-' :: text) :=
      (h.mark (by decide)).mark (by decide)
    have hescaped : Spells ('\\' :: '!' :: '-' :: '-' :: body) ('!' :: '-' :: '-' :: text) :=
      .escape (escape_letter (e := '!') (by decide)) hdashes
    exact hescaped.mark (by decide)
  have hline {body text : List Char} (h : Spells body text) :
      Spells ("\\u2028".toList ++ body) (['\u2028'] ++ text) := h.separator (d := '8') (by decide)
  have hparagraph {body text : List Char} (h : Spells body text) :
      Spells ("\\u2029".toList ++ body) (['\u2029'] ++ text) := h.separator (d := '9') (by decide)
  have huntagged := (spells_flatMap text).replaceAll (p := ['/']) (.inl rfl) (by decide) hslash
  have huncommented := huntagged.replaceAll (p := "!--".toList) (.inl rfl) (by decide) hbang
  have hunbroken := huncommented.replaceAll (p := []) (.inr (by decide)) (by decide) hline
  exact hunbroken.replaceAll (.inr (by decide)) (by decide) hparagraph

/-- The separators of lines are replaced. -/
theorem not_mem_inertBody (text : List Char) :
    '\u2028' ∉ inertBody text ∧ '\u2029' ∉ inertBody text := by
  constructor
  · exact not_mem_replaceAll_of_not_mem (by decide) (by decide) (by decide)
      (not_mem_replaceAll (by decide) (by decide) _)
  · exact not_mem_replaceAll (by decide) (by decide) _

/-! ### Reading what is spelled -/

theorem Spells.le_toNat (h : Spells body text) : ∀ d ∈ body, 32 ≤ d.toNat := by
  induction h with
  | nil => simp
  | plain _ _ hcontrol _ ih => exact List.forall_mem_cons.2 ⟨hcontrol, ih⟩
  | escape he _ ih =>
    refine List.forall_mem_cons.2 ⟨by decide, fun d hd => ?_⟩
    rcases List.mem_append.1 hd with hd | hd
    · exact (he.clean d hd).1
    · exact ih d hd

/-- A body without separators of lines is read to the closing quote. -/
theorem Spells.readLiteralBody_eq (h : Spells body text) (hls : '\u2028' ∉ body) (hps : '\u2029' ∉ body)
    (rest : List Char) : readLiteralBody (body ++ '"' :: rest) = some (text, rest) := by
  induction h with
  | nil => simp [readLiteralBody.eq_def ('"' :: _)]
  | @plain c body text hquote hbackslash hcontrol _ ih =>
    simp only [List.mem_cons, not_or] at hls hps
    have hfeed : c ≠ '\n' ∧ c ≠ '\r' := by
      constructor <;> rintro rfl <;> exact absurd hcontrol (by decide)
    have hline : endsScriptLine c = false := by
      simp [endsScriptLine, hfeed, Ne.symm hls.1, Ne.symm hps.1]
    rw [List.cons_append, readLiteralBody.eq_def]
    simp [hquote, hbackslash, hline, ih hls.2 hps.2]
  | @escape e c body text he _ ih =>
    simp only [List.mem_cons, List.mem_append, not_or] at hls hps
    rw [List.cons_append, List.append_assoc, he.reads, ih hls.2.2 hps.2.2]
    rfl

/-- The reader of whole scripts takes the body up to the closing quote. -/
theorem Spells.stringBody?_eq (h : Spells body text) (rest : List Char) :
    ∀ bound : List Char, body.length < bound.length →
      Script.stringBody? '"' bound (body ++ '"' :: rest) = some (text, body ++ ['"'], rest) := by
  induction h with
  | nil =>
    intro bound hb
    obtain ⟨d, bound, rfl⟩ := List.exists_cons_of_length_pos (Nat.zero_lt_of_lt hb)
    simp [Script.stringBody?]
  | @plain c body text hquote hbackslash hcontrol _ ih =>
    intro bound hb
    obtain ⟨d, bound, rfl⟩ := List.exists_cons_of_length_pos (Nat.zero_lt_of_lt hb)
    have hfeed : c ≠ '\n' ∧ c ≠ '\r' := by
      constructor <;> rintro rfl <;> exact absurd hcontrol (by decide)
    have hline : Script.endsStringLine c = false := by simp [Script.endsStringLine, hfeed]
    have hbody := ih bound (by simpa using hb)
    simp [Script.stringBody?, hquote, hbackslash, hline, hbody]
  | @escape e c body text he _ ih =>
    intro bound hb
    obtain ⟨d, bound, rfl⟩ := List.exists_cons_of_length_pos (Nat.zero_lt_of_lt hb)
    have hbody := ih bound (by simp at hb; omega)
    simp [Script.stringBody?, Script.endsStringLine, he.scripted, hbody]

/-- **An inert literal is inert and lossless.** It holds neither a mark nor a separator of lines nor a
control character, and read as a literal, in front of any text, it ends at its last quote and gives its
text. A reader of scripts takes the same. -/
theorem read_inertLiteral (t : String) :
    let literal := (inertLiteral t).toList
    ¬ "</".toList <:+: literal ∧ ¬ "<!--".toList <:+: literal ∧
      '\u2028' ∉ literal ∧ '\u2029' ∉ literal ∧ (∀ c ∈ literal, 0x20 ≤ c.toNat) ∧
      ∀ rest, readLiteral (literal ++ rest) = some (t.toList, rest) ∧
        Script.string? (literal ++ rest) = some (t, literal, rest) := by
  intro literal
  have hliteral : literal = '"' :: inertBody t.toList ++ ['"'] :=
    String.toList_ofList.trans (inertChars_eq t.toList)
  have hspells := spells_inertBody t.toList
  obtain ⟨hls, hps⟩ := not_mem_inertBody t.toList
  have hmarkless : Markless literal := (sealed_inertLiteral t).markless
  refine ⟨hmarkless _ (by decide), hmarkless _ (by decide), ?_, ?_, ?_, fun rest => ⟨?_, ?_⟩⟩
  · simp [hliteral, hls]
  · simp [hliteral, hps]
  · rw [hliteral]
    intro c hc
    simp only [List.cons_append, List.mem_cons, List.mem_append, List.not_mem_nil, or_false] at hc
    rcases hc with rfl | hc | rfl
    · decide
    · exact hspells.le_toNat c hc
    · decide
  · rw [hliteral, List.append_assoc]
    exact hspells.readLiteralBody_eq hls hps rest
  · have hread := hspells.stringBody?_eq rest (inertBody t.toList ++ '"' :: rest) (by simp)
    rw [hliteral, List.append_assoc]
    simp [Script.string?, hread]

end LivePreview
