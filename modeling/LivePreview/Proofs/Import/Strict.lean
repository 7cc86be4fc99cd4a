import LivePreview.Import.Strict
import LivePreview.Proofs.Import.Cuts
import LivePreview.Proofs.Script.Module
import Mathlib.Data.List.Flatten
import Mathlib.Data.List.Forall2
/-!
# LivePreview.Proofs.Import.Strict

**The strict scan cuts out declarations, and sweeps what is left.** In a module that parses, each
declaration has a record, in order, whose range is the declaration with the blanks beside it; the ranges
do not meet, and what stands outside of them is left. But the sweep of the line scan goes over what is
left, and a line of a template or of a comment may look like an import: the source without its
declarations comes out exactly if no line of it does.
-/

namespace LivePreview.ImportScan

open Text
open Script (ImportDeclaration Placed)

variable {source front early before behind rest own text : List Char} {offset : Nat}
  {d : ImportDeclaration} {ds : List ImportDeclaration}

/-! ### The blanks beside a declaration -/

/-- The last line of a text, if it is blank. -/
def lineLead (front : List Char) : List Char :=
  let lead := front.rtakeWhile (· != '\n')
  if allBlank lead then lead else []

/-- The first line of a text with its end, if it is blank. -/
def lineTail (behind : List Char) : List Char :=
  let tail := behind.takeWhile (· != '\n')
  if allBlank tail then tail ++ (behind.dropWhile (· != '\n')).take 1 else []

theorem lineLead_suffix (front : List Char) : lineLead front <:+ front := by
  unfold lineLead
  dsimp only
  split
  · exact List.rtakeWhile_suffix _ _
  · exact List.nil_suffix

theorem mem_lineLead {c : Char} (h : c ∈ lineLead front) : isBlank c = true ∧ c ≠ '\n' := by
  unfold lineLead at h
  dsimp only at h
  split at h
  · next hblank => exact ⟨allBlank_iff.1 hblank c h, by simpa using List.mem_rtakeWhile_imp h⟩
  · exact nomatch h

/-- A tail is empty, a blank line with its end, or all that is left. -/
theorem lineTail_cases (behind : List Char) :
    lineTail behind = [] ∨
      (∃ blanks rest, behind = blanks ++ '\n' :: rest ∧ lineTail behind = blanks ++ ['\n'] ∧
        allBlank blanks = true) ∨
      (lineTail behind = behind ∧ allBlank behind = true) := by
  unfold lineTail
  dsimp only
  split
  · next hblank =>
    right
    cases hrest : behind.dropWhile (· != '\n') with
    | nil =>
      have hall : behind.takeWhile (· != '\n') = behind :=
        List.takeWhile_eq_self_iff.2 (List.dropWhile_eq_nil_iff.1 hrest)
      rw [hall] at hblank ⊢
      exact .inr ⟨List.append_nil _, hblank⟩
    | cons c rest =>
      obtain ⟨hc, hbehind⟩ := Script.eq_of_dropWhile hrest
      obtain rfl : c = '\n' := by simpa using hc
      exact .inl ⟨_, rest, hbehind, rfl, hblank⟩
  · exact .inl rfl

theorem lineTail_prefix (behind : List Char) : lineTail behind <+: behind := by
  rcases lineTail_cases behind with h | ⟨blanks, rest, hbehind, h, -⟩ | ⟨h, -⟩
  · exact h ▸ List.nil_prefix
  · exact ⟨rest, by rw [h, hbehind, List.append_assoc]; rfl⟩
  · exact ⟨[], by rw [List.append_nil, h]⟩

theorem allBlank_lineTail (behind : List Char) : allBlank (lineTail behind) = true := by
  rcases lineTail_cases behind with h | ⟨blanks, rest, -, h, hblank⟩ | ⟨h, hblank⟩
  · rw [h]
    rfl
  · rw [h, allBlank_append, hblank]
    rfl
  · rw [h, hblank]

theorem byteSize_reverse (text : List Char) : byteSize text.reverse = byteSize text := by
  induction text with
  | nil => rfl
  | cons c text ih =>
    rw [List.reverse_cons, byteSize_append, ih, byteSize_cons, byteSize_cons, byteSize_nil]
    omega

theorem byteSize_lineLead (front : List Char) :
    byteSize (lineLead front) =
      let lead := front.reverse.takeWhile (· != '\n')
      if allBlank lead then byteSize lead else 0 := by
  have hblank (lead : List Char) : allBlank lead.reverse = allBlank lead := List.all_reverse
  unfold lineLead
  dsimp only
  rw [List.rtakeWhile, hblank]
  split
  · exact byteSize_reverse _
  · rfl

theorem byteSize_lineTail (behind : List Char) :
    byteSize (lineTail behind) =
      let tail := behind.takeWhile (· != '\n')
      if allBlank tail then byteSize tail + (if tail.length < behind.length then 1 else 0) else 0 := by
  have hlength : (behind.takeWhile (· != '\n')).length + (behind.dropWhile (· != '\n')).length =
      behind.length := by
    rw [← List.length_append, List.takeWhile_append_dropWhile]
  have hfeed : charBytes '\n' = 1 := by decide
  unfold lineTail
  dsimp only
  split
  · rw [byteSize_append]
    congr 1
    cases hrest : behind.dropWhile (· != '\n') with
    | nil =>
      rw [hrest, List.length_nil] at hlength
      rw [if_neg (by omega)]
      rfl
    | cons c rest =>
      rw [hrest, List.length_cons] at hlength
      obtain rfl : c = '\n' := by simpa using (Script.eq_of_dropWhile hrest).1
      rw [if_pos (by omega)]
      exact hfeed
  · rfl

/-- The range of a declaration is widened by the blanks beside it. -/
theorem widen_eq (hd : d.TakesUp (byteSize front) own) (hfront : early ++ lineLead front = front) :
    widen (front ++ (own ++ behind)) d =
      ⟨byteSize early, byteSize (front ++ (own ++ lineTail behind))⟩ := by
  have htake : takeBytes d.start (front ++ (own ++ behind)) = front := by
    rw [hd.start, takeBytes_append]
  have hdrop : dropBytes d.stop (front ++ (own ++ behind)) = behind := by
    rw [hd.stop, ← byteSize_append, ← List.append_assoc, dropBytes_append]
  have hlead := congrArg byteSize hfront
  rw [byteSize_append, byteSize_lineLead] at hlead
  have htail := byteSize_lineTail behind
  unfold widen
  dsimp only at hlead htail ⊢
  rw [htake, hdrop, SourceSpan.mk.injEq, byteSize_append, byteSize_append, htail, hd.stop, hd.start]
  constructor
  · split
    · next h =>
      rw [if_pos h] at hlead
      omega
    · next h =>
      rw [if_neg h] at hlead
      omega
  · split <;> omega

/-! ### Ranges -/

/-- Does a text end where a line does, or with no blank? -/
def Bounded (text : List Char) : Prop :=
  ∀ c ∈ text.getLast?, c = '\n' ∨ isBlank c = false

/-- Blanks in front of a declaration do not reach back over such an end. -/
theorem lineLead_suffix_of_bounded (h : Bounded front) (before : List Char) :
    lineLead (front ++ before) <:+ before := by
  rcases List.suffix_or_suffix_of_suffix (lineLead_suffix (front ++ before))
    (List.suffix_append front before) with hlead | ⟨reach, hlead⟩
  · exact hlead
  · -- The lead would hold the last character in front, which ends a line or is no blank.
    have hreach : reach <:+ front := by
      have hsuffix := lineLead_suffix (front ++ before)
      rwa [← hlead, List.suffix_append_self_iff] at hsuffix
    cases hlast : reach.getLast? with
    | none =>
      rw [List.getLast?_eq_none_iff.1 hlast, List.nil_append] at hlead
      exact ⟨[], hlead.symm⟩
    | some c =>
      have hfront : front.getLast? = some c :=
        List.singleton_suffix_iff_getLast?_eq_some.1
          ((List.singleton_suffix_iff_getLast?_eq_some.2 hlast).trans hreach)
      have hmem : c ∈ lineLead (front ++ before) :=
        hlead ▸ List.mem_append_left _ (List.mem_of_getLast? hlast)
      obtain ⟨hblank, hfeed⟩ := mem_lineLead hmem
      rcases h c hfront with rfl | hc
      · exact absurd rfl hfeed
      · rw [hblank] at hc
        exact nomatch hc

/-- Behind a declaration and its tail the text is bounded, unless nothing is left of it. -/
theorem bounded_append_lineTail (hd : d.TakesUp offset own) (front : List Char)
    (hrest : lineTail behind ++ rest = behind) :
    Bounded (front ++ (own ++ lineTail behind)) ∨ rest = [] := by
  rcases lineTail_cases behind with htail | ⟨blanks, after, -, htail, -⟩ | ⟨htail, -⟩
  · left
    obtain ⟨last, hlast, hblank⟩ := hd.closed
    intro c hc
    rw [htail, List.append_nil, List.getLast?_append, hlast] at hc
    exact .inr (Option.some.inj hc ▸ hblank)
  · left
    intro c hc
    rw [htail, ← List.append_assoc, ← List.append_assoc, List.getLast?_concat] at hc
    exact .inl (Option.some.inj hc).symm
  · right
    rw [htail] at hrest
    exact List.append_right_eq_self.1 hrest

/-- The ranges of the declarations split the source. -/
theorem exists_sections (hsource : front ++ text = source) (hfront : Bounded front ∨ text = [])
    (h : Placed (byteSize front) text ds) :
    ∃ kept, Sections (byteSize front) text (ds.map (widen source)) kept := by
  -- From the end of one range to the next: what is passed is bounded there, so that no range reaches
  -- back into the one before it.
  induction ds generalizing front text with
  | nil => exact ⟨text, .rest _ _⟩
  | cons d more ih =>
    cases h with
    | @declaration _ before own behind _ _ hd hmore =>
      have hown : own ≠ [] := by
        rintro rfl
        obtain ⟨last, hlast, -⟩ := hd.closed
        exact nomatch hlast
      have hbounded : Bounded front := hfront.resolve_right (by simp [hown])
      obtain ⟨early, hearly⟩ := lineLead_suffix_of_bounded hbounded before
      obtain ⟨rest, hrest⟩ := lineTail_prefix behind
      rw [← byteSize_append] at hd
      have hsplit : front ++ before ++ (own ++ lineTail behind) ++ rest = source := by
        rw [← hsource]
        simp only [List.append_assoc, hrest]
      have hspan : widen source d =
          ⟨byteSize (front ++ early), byteSize (front ++ before ++ (own ++ lineTail behind))⟩ := by
        rw [← hsource, ← List.append_assoc]
        exact widen_eq hd (by rw [List.append_assoc, hearly])
      -- The next declaration stands behind the tail of this one.
      have hafter : Placed (byteSize (front ++ before ++ (own ++ lineTail behind))) rest more := by
        have hdrop := Placed.drop (allBlank_lineTail behind) (hrest.symm ▸ hmore)
        rw [hd.stop] at hdrop
        simpa only [byteSize_append, Nat.add_assoc] using hdrop
      obtain ⟨kept, hkept⟩ := ih hsplit (bounded_append_lineTail hd (front ++ before) hrest) hafter
      refine ⟨early ++ kept, ?_⟩
      have htext : before ++ (own ++ behind) =
          early ++ ((lineLead (front ++ before) ++ (own ++ lineTail behind)) ++ rest) := by
        conv_lhs => rw [← hearly, ← hrest]
        simp only [List.append_assoc]
      rw [htext]
      refine .range ?_ (hspan ▸ hkept)
      have hbefore : byteSize before = byteSize early + byteSize (lineLead (front ++ before)) := by
        rw [← byteSize_append, hearly]
      simp only [hspan, byteSize_append, hbefore, Nat.add_assoc]

/-! ### The sweep -/

theorem ne_nil_of_mem_rawLines {line : List Char} (h : line ∈ rawLines text) : line ≠ [] := by
  induction text using piecewise_induction with
  | last a ha =>
    cases a with
    | nil => exact nomatch h
    | cons c a =>
      rw [rawLines_of_not_mem ha (List.cons_ne_nil c a), List.mem_singleton] at h
      exact h ▸ List.cons_ne_nil c a
  | feed a rest ha ih =>
    rw [rawLines_append_feed ha] at h
    rcases List.mem_cons.1 h with rfl | h
    · exact List.append_ne_nil_of_right_ne_nil a (List.cons_ne_nil _ _)
    · exact ih h

/-- Whatever is left out of pieces that are not empty is missed. -/
theorem all_of_flatten_filter {p : List Char → Bool} {pieces : List (List Char)}
    (hne : ∀ piece ∈ pieces, piece ≠ [])
    (h : (pieces.filter p).flatten.length = pieces.flatten.length) :
    ∀ piece ∈ pieces, p piece = true := by
  induction pieces with
  | nil => exact fun _ hmem => nomatch hmem
  | cons piece more ih =>
    rw [List.forall_mem_cons] at hne ⊢
    cases hp : p piece with
    | true =>
      rw [List.filter_cons_of_pos hp, List.flatten_cons, List.flatten_cons, List.length_append,
        List.length_append] at h
      exact ⟨rfl, ih hne.2 (by omega)⟩
    | false =>
      -- The piece takes up room, and the others cannot make up for it.
      have hless := (List.filter_sublist (p := p) (l := more)).flatten.length_le
      have hpos := List.length_pos_iff.2 hne.1
      rw [List.filter_cons_of_neg (by simp [hp]), List.flatten_cons, List.length_append] at h
      omega

/-- A text that the sweep leaves as it is has no opening line. -/
theorem unopened_of_sweep_eq (h : sweep text = text) : Unopened text := by
  intro line hline
  have hlength : ((rawLines text).filter fun line => !opensImport (trim line)).flatten.length =
      (rawLines text).flatten.length := by
    rw [flatten_rawLines]
    exact congrArg List.length h
  have hkept := all_of_flatten_filter (fun _ => ne_nil_of_mem_rawLines) hlength line hline
  simpa using hkept

/-! ### The scan -/

/-- The record tells of the declaration: its range is the text that the declaration takes up, with the
rest of the line on either side if that is blank. -/
structure Describes (source : List Char) (d : ImportDeclaration) (record : ImportRecord) : Prop where
  module : record.module = d.module
  typeOnly : record.typeOnly = d.typeOnly
  span : ∃ early lead own tail rest, source = early ++ (lead ++ (own ++ (tail ++ rest))) ∧
    d.TakesUp (byteSize (early ++ lead)) own ∧
    lead = lineLead (early ++ lead) ∧ tail = lineTail (tail ++ rest) ∧
    record.span = ⟨byteSize early, byteSize (early ++ (lead ++ (own ++ tail)))⟩

/-- The scan takes the declarations out of the source, and sweeps what is left. -/
structure Excises (source : List Char) (ds : List ImportDeclaration) (scan : ImportScan) : Prop where
  /-- There is a record for each declaration, in order. -/
  records : List.Forall₂ (Describes source) ds scan.records
  dropped : scan.dropped = []
  ascending : (scan.records.map (·.span)).Pairwise fun s t => s.stop ≤ t.start
  stripped : scan.stripped.toList = sweep (outside (scan.records.map (·.span)) 0 source)
  /-- All that stands outside of the ranges is kept exactly if no line of it opens an import. -/
  keeps : scan.stripped.toList = outside (scan.records.map (·.span)) 0 source ↔
    Unopened (outside (scan.records.map (·.span)) 0 source)

theorem recordOf_span (source : List Char) (d : ImportDeclaration) :
    (recordOf source d).span = widen source d := by
  unfold recordOf
  dsimp only
  split <;> rfl

theorem describes_recordOf (h : Placed 0 source ds) (hd : d ∈ ds) :
    Describes source d (recordOf source d) := by
  obtain ⟨front, own, behind, rfl, htakes⟩ := h.covers d hd
  rw [Nat.zero_add] at htakes
  obtain ⟨early, hearly⟩ := lineLead_suffix front
  obtain ⟨rest, hrest⟩ := lineTail_prefix behind
  refine ⟨?_, ?_, early, lineLead front, own, lineTail behind, rest, ?_, ?_, ?_, ?_, ?_⟩
  · unfold recordOf
    dsimp only
    split <;> rfl
  · unfold recordOf
    dsimp only
    split <;> rfl
  · rw [← List.append_assoc early, hearly, hrest]
  · rw [hearly]
    exact htakes
  · rw [hearly]
  · rw [hrest]
  · rw [recordOf_span, widen_eq htakes hearly, ← List.append_assoc early, hearly]

/-- A scan by declarations that stand in the source takes them out. -/
theorem ofDeclarations_excises {source : String} (h : Placed 0 source.toList ds) :
    Excises source.toList ds (ofDeclarations source ds) := by
  have hspans : (ofDeclarations source ds).records.map (·.span) = ds.map (widen source.toList) := by
    show (ds.map (recordOf source.toList)).map (·.span) = _
    rw [List.map_map]
    exact List.map_congr_left fun d _ => recordOf_span source.toList d
  have hbounded : Bounded [] := fun _ hc => nomatch hc
  obtain ⟨kept, hkept⟩ := exists_sections (List.nil_append source.toList) (.inl hbounded) h
  have hstripped : (ofDeclarations source ds).stripped.toList =
      sweep (outside (ds.map (widen source.toList)) 0 source.toList) := by
    have hremoved : removeSpans source.toList ((ofDeclarations source ds).records.map (·.span)) = kept := by
      rw [hspans]
      exact hkept.removeSpans_eq
    have hkeeps : outside (ds.map (widen source.toList)) 0 source.toList = kept := hkept.outside_eq
    rw [hkeeps, ← hremoved]
    exact String.toList_ofList
  constructor
  · exact List.forall₂_map_right_iff.2 (List.forall₂_same.2 fun d hd => describes_recordOf h hd)
  · rfl
  · rw [hspans]
    exact hkept.ascending
  · rw [hspans, hstripped]
  · rw [hspans, hstripped]
    exact ⟨unopened_of_sweep_eq, sweep_eq_of_unopened⟩

/-- Does the parser report where declarations stand: in order, and each from its word `import` to its last
character, which is no blank? -/
def ReportsPlaces (parse : ModuleParser) : Prop :=
  ∀ (text : List Char) (ds : List ImportDeclaration), parse text = some ds → Placed 0 text ds

/-- **The strict scan.** With any parser that reports where declarations stand, the strict scan takes the
declarations out of a module that parses, each with the blanks beside it, and of what is left the lines
that look like an import; without such a line all of it is kept. -/
theorem ofSourceBy_strict_excises {parse : ModuleParser} (hparse : ReportsPlaces parse) {source : String}
    {ds : List ImportDeclaration} (h : parse source.toList = some ds) :
    Excises source.toList ds (ofSourceBy parse .strict source) := by
  rw [ofSourceBy, h]
  exact ofDeclarations_excises (hparse source.toList ds h)

theorem reportsPlaces_importDeclarations : ReportsPlaces Script.importDeclarations? :=
  fun _ _ h => Script.placed_importDeclarations h

/-- A module with a template of which one line looks like an import. -/
def templateSource : String := "import a from 'a';\nconst t = `\nimport x\n`;\n"

/-- The only declaration of the module. -/
def templateImport : ImportDeclaration := ⟨0, 18, "a", false, some [.default "a"]⟩

theorem ofSourceBy_strict_excises_template :
    ReportsPlaces Script.importDeclarations? ∧
      Script.importDeclarations? templateSource.toList = some [templateImport] ∧
      Excises templateSource.toList [templateImport]
        (ofSourceBy Script.importDeclarations? .strict templateSource) :=
  have hparses : Script.importDeclarations? templateSource.toList = some [templateImport] := by
    decide +kernel
  ⟨reportsPlaces_importDeclarations, hparses,
    ofSourceBy_strict_excises reportsPlaces_importDeclarations hparses⟩

/-- The line of the template stands outside of the only range that is cut out, and is lost. -/
theorem ofSource_strict_loses_template :
    Script.importDeclarations? templateSource.toList = some [templateImport] ∧
      (ofSource .strict templateSource).records.map (·.span) = [⟨0, 19⟩] ∧
      outside [⟨0, 19⟩] 0 templateSource.toList = "const t = `\nimport x\n`;\n".toList ∧
      (ofSource .strict templateSource).stripped = "const t = `\n`;\n" := by
  decide +kernel

end LivePreview.ImportScan
