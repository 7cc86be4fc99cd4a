import Mathlib.Data.Option.Basic
import LivePreview.Import.Statement
/-!
# LivePreview.Proofs.Import.Shape

**Where a record comes from.** A record of a statement is the record of one of the five shapes, with or
without the marker for types; what all shapes have in common is proved of each of them.
-/

namespace LivePreview.ImportStatement

open Text

variable {span : SourceSpan} {marked : Bool} {text : List Char} {record : ImportRecord}

/-- A statement with a record has one of the five shapes. -/
theorem shape?_cases (h : shape? span text = some record) :
    sideEffect? span text = some record ∨
      ∃ marked, allExports? span marked text = some record ∨ named? span marked text = some record ∨
        defaultNamed? span marked text = some record ∨ default? span marked text = some record := by
  simp only [shape?, Option.orElse_eq_orElse, Option.orElse_eq_or, Option.or_eq_some_iff] at h
  rcases h with h | ⟨-, h | ⟨-, h | ⟨-, h | ⟨-, h | ⟨-, h | ⟨-, h | ⟨-, h | ⟨-, h⟩⟩⟩⟩⟩⟩⟩⟩
  · exact .inl h
  · exact .inr ⟨true, .inl h⟩
  · exact .inr ⟨false, .inl h⟩
  · exact .inr ⟨true, .inr (.inl h)⟩
  · exact .inr ⟨false, .inr (.inl h)⟩
  · exact .inr ⟨true, .inr (.inr (.inl h))⟩
  · exact .inr ⟨false, .inr (.inr (.inl h))⟩
  · exact .inr ⟨true, .inr (.inr (.inr h))⟩
  · exact .inr ⟨false, .inr (.inr (.inr h))⟩

/-! ### The range of a record -/

theorem sideEffect?_span (h : sideEffect? span text = some record) : record.span = span := by
  simp only [sideEffect?, Option.bind_eq_bind, Option.bind_eq_some_iff, Option.pure_def,
    Option.some.injEq] at h
  obtain ⟨_, _, _, _, rfl⟩ := h
  rfl

theorem allExports?_span (h : allExports? span marked text = some record) : record.span = span := by
  simp only [allExports?, Option.bind_eq_bind, Option.bind_eq_some_iff, Option.pure_def,
    Option.some.injEq] at h
  obtain ⟨_, _, _, _, _, _, _, _, ⟨_, _⟩, _, _, _, _, _, rfl⟩ := h
  rfl

theorem named?_span (h : named? span marked text = some record) : record.span = span := by
  cases marked <;>
    · simp only [named?, Option.bind_eq_bind, Option.bind_eq_some_iff, Option.pure_def,
        Option.some.injEq, if_true, Bool.false_eq_true, if_false] at h
      obtain ⟨_, _, _, _, ⟨_, _⟩, _, _, _, rfl⟩ := h
      rfl

theorem defaultNamed?_span (h : defaultNamed? span marked text = some record) :
    record.span = span := by
  simp only [defaultNamed?, Option.bind_eq_bind, Option.bind_eq_some_iff, Option.pure_def,
    Option.some.injEq] at h
  obtain ⟨_, _, ⟨_, _⟩, _, _, _, ⟨_, _⟩, _, _, _, rfl⟩ := h
  rfl

theorem default?_span (h : default? span marked text = some record) : record.span = span := by
  simp only [default?, Option.bind_eq_bind, Option.bind_eq_some_iff, Option.pure_def,
    Option.some.injEq] at h
  obtain ⟨_, _, ⟨_, _⟩, _, _, _, _, _, rfl⟩ := h
  rfl

/-- A record has the range that its statement was found at. -/
theorem parse?_span (h : parse? span text = some record) : record.span = span := by
  rcases shape?_cases h with h | ⟨marked, h | h | h | h⟩
  · exact sideEffect?_span h
  · exact allExports?_span h
  · exact named?_span h
  · exact defaultNamed?_span h
  · exact default?_span h

/-- A statement that stands elsewhere has the same record but for its range. -/
theorem parse?_map_span (span span' : SourceSpan) (statement : List Char) :
    parse? span' statement = (parse? span statement).map fun r => { r with span := span' } := by
  unfold parse?
  generalize normalize statement = text
  have hside : sideEffect? span' text =
      (sideEffect? span text).map fun r => { r with span := span' } := by
    simp [sideEffect?, Option.map_bind]
  have hall : ∀ marked, allExports? span' marked text =
      (allExports? span marked text).map fun r => { r with span := span' } := by
    intro marked
    simp [allExports?, Option.map_bind]
  have hnamed : ∀ marked, named? span' marked text =
      (named? span marked text).map fun r => { r with span := span' } := by
    intro marked
    cases marked <;> simp [named?, Option.map_bind]
  have hboth : ∀ marked, defaultNamed? span' marked text =
      (defaultNamed? span marked text).map fun r => { r with span := span' } := by
    intro marked
    simp [defaultNamed?, Option.map_bind]
  have hdefault : ∀ marked, default? span' marked text =
      (default? span marked text).map fun r => { r with span := span' } := by
    intro marked
    simp [default?, Option.map_bind]
  simp only [shape?, hside, hall, hnamed, hboth, hdefault, Option.orElse_eq_orElse,
    Option.orElse_eq_or, Option.map_or]

end LivePreview.ImportStatement
