import LivePreview.Proofs.Text.Words
import LivePreview.Proofs.Url.Percent
import LivePreview.Url.Form
/-!
# LivePreview.Proofs.Url.Form

**What is written into a query is read back.** A name or a value is written in characters that join
nothing (`isComponentChar`), so the pieces are found again; and each byte is read back from its
spelling. So pairs that are added to a query come behind those that it has (`queryPairs_appendPairs`).
-/

namespace LivePreview.Url

open Text

variable {query text : List Char} {pair : List Char × List Char}

/-! ### Names and values -/

/-- May `c` stand in a name or a value as it is written? -/
def isComponentChar (c : Char) : Bool :=
  isAsciiAlnum c || "*-._+%".toList.contains c

theorem isComponentChar_of_mem_writeByte {b : Nat} (hb : b < 256) {c : Char} (h : c ∈ writeByte b) :
    isComponentChar c = true := by
  have hall : ∀ b < 256, (writeByte b).all isComponentChar = true := by decide +kernel
  exact List.all_eq_true.1 (hall b hb) c h

theorem isComponentChar_of_mem_writeComponent {c : Char} (h : c ∈ writeComponent text) :
    isComponentChar c = true := by
  obtain ⟨b, hb, hc⟩ := List.mem_flatMap.1 h
  exact isComponentChar_of_mem_writeByte (lt_of_mem_encode hb) hc

/-- A space for a plus sign. -/
def spaceOfPlus (c : Char) : Char :=
  if c = '+' then ' ' else c

/-- A byte is read back from its spelling. -/
theorem percentDecode_writeByte {b : Nat} (hb : b < 256) (rest : List Char) :
    percentDecode ((writeByte b).map spaceOfPlus ++ rest) = b :: percentDecode rest := by
  -- It stands for itself, or is written behind a percent sign.
  have hspelled : ∀ b < 256, (writeByte b).map spaceOfPlus = percentByte b ∨
      (writeByte b).map spaceOfPlus = [Char.ofNat b] ∧ Char.ofNat b ≠ '%' ∧
        Text.encodeChar (Char.ofNat b) = [b] := by
    decide +kernel
  rcases hspelled b hb with h | ⟨h, hne, hbytes⟩
  · rw [h, percentDecode_percentByte hb]
  · rw [h, List.cons_append, List.nil_append, percentDecode_cons hne, hbytes]
    rfl

theorem readComponent_writeComponent (text : List Char) :
    readComponent (writeComponent text) = text := by
  have hbytes : ∀ bytes : List Nat, (∀ b ∈ bytes, b < 256) →
      percentDecode ((bytes.flatMap writeByte).map spaceOfPlus) = bytes := by
    intro bytes hb
    induction bytes with
    | nil =>
      rw [List.flatMap_nil, List.map_nil, percentDecode]
    | cons b bytes ih =>
      rw [List.flatMap_cons, List.map_append, percentDecode_writeByte (hb b List.mem_cons_self),
        ih fun c hc => hb c (List.mem_cons_of_mem b hc)]
  show decodeLossy (percentDecode ((writeComponent text).map spaceOfPlus)) = text
  rw [writeComponent, hbytes _ fun b => lt_of_mem_encode, decodeLossy_encode]

/-! ### Pairs -/

/-- The piece of a pair is read as that pair. -/
theorem queryPairs_writePair (pair : List Char × List Char) : queryPairs (writePair pair) = [pair] := by
  have hmark : ∀ {text : List Char} {mark : Char}, isComponentChar mark = false →
      mark ∉ writeComponent text :=
    not_mem_of_forall_class fun _ => isComponentChar_of_mem_writeComponent
  have hjoin : '&' ∉ writePair pair := by
    rw [writePair, List.mem_append, List.mem_cons, not_or, not_or]
    exact ⟨hmark (by decide), by decide, hmark (by decide)⟩
  have hne : (writePair pair).isEmpty = false := by
    rw [writePair, List.isEmpty_eq_false_iff]
    exact List.append_ne_nil_of_right_ne_nil _ (List.cons_ne_nil _ _)
  have hall : ∀ c ∈ writeComponent pair.1, (c != '=') = true := bne_of_not_mem (hmark (by decide))
  have hstop : ∀ c ∈ ('=' :: writeComponent pair.2).head?, (c != '=') = false := by simp
  have hname : (writePair pair).takeWhile (· != '=') = writeComponent pair.1 :=
    takeWhile_append_of_stop hall hstop
  have hvalue : (writePair pair).dropWhile (· != '=') = '=' :: writeComponent pair.2 :=
    dropWhile_append_of_stop hall hstop
  rw [queryPairs, splitAtChar_of_not_mem hjoin]
  simp only [List.filter_cons, hne, Bool.not_false, if_true, List.filter_nil, List.map_cons, List.map_nil,
    hname, hvalue, List.drop_one, List.tail_cons, readComponent_writeComponent]

/-- An ampersand comes between pairs. -/
theorem queryPairs_append (query other : List Char) :
    queryPairs (query ++ '&' :: other) = queryPairs query ++ queryPairs other := by
  rw [queryPairs, splitAtChar_append_cons, List.filter_append, List.map_append]
  rfl

/-- **Pairs that are added to a query are read back** behind those that it has. -/
theorem queryPairs_appendPairs (query : List Char) (pairs : List (List Char × List Char)) :
    queryPairs (appendPairs query pairs) = queryPairs query ++ pairs := by
  induction pairs generalizing query with
  | nil => exact (List.append_nil _).symm
  | cons pair pairs ih =>
    rw [appendPairs, List.foldl_cons]
    refine (ih _).trans ?_
    cases query with
    | nil =>
      rw [List.isEmpty_nil, if_pos rfl, queryPairs_writePair]
      rfl
    | cons c query =>
      rw [List.isEmpty_cons, if_neg Bool.false_ne_true, queryPairs_append, queryPairs_writePair,
        List.append_assoc]
      rfl

/-! ### Characters of a query -/

theorem isVisible_of_isComponentChar {c : Char} (h : isComponentChar c = true) :
    isVisible c = true := by
  rw [isComponentChar, Bool.or_eq_true, List.contains_iff_mem] at h
  rcases h with h | h
  · exact isVisible_of_isAsciiAlnum h
  · have hmarks : "*-._+%".toList.all isVisible = true := by decide
    exact List.all_eq_true.1 hmarks c h

/-- Pairs are written in characters that no query encodes. -/
theorem isEncoded_writePair {set : EncodeSet} (hset : set ⊆ specialQuerySet)
    (pair : List Char × List Char) : IsEncoded set (writePair pair) := by
  have hcomponent : ∀ text, IsEncoded set (writeComponent text) := by
    intro text c hc
    have hc := isComponentChar_of_mem_writeComponent hc
    have hnot : c ∉ specialQuerySet := not_mem_of_class hc (by decide)
    exact ⟨isVisible_of_isComponentChar hc, fun hm => hnot (hset hm)⟩
  have hequals : '=' ∉ specialQuerySet := by decide
  exact (hcomponent _).append (.cons ⟨by decide, fun hm => hequals (hset hm)⟩ (hcomponent _))

theorem isEncoded_appendPairs {set : EncodeSet} (hset : set ⊆ specialQuerySet)
    (hquery : IsEncoded set query) (pairs : List (List Char × List Char)) :
    IsEncoded set (appendPairs query pairs) := by
  induction pairs generalizing query with
  | nil => exact hquery
  | cons pair pairs ih =>
    have hpair := isEncoded_writePair hset pair
    have hjoin : '&' ∉ specialQuerySet := by decide
    rw [appendPairs, List.foldl_cons]
    refine ih ?_
    split
    · exact hpair
    · exact hquery.append (.cons ⟨by decide, fun hm => hjoin (hset hm)⟩ hpair)

end LivePreview.Url
