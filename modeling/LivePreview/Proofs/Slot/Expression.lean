import LivePreview.Proofs.Slot.Reading
/-!
# LivePreview.Proofs.Slot.Expression

**The reads of an expression and of its text.** An expression lists the slots that it reads
(`Expr.slots`), and of them those that it reads without an object at hand (`Expr.bare`). Both are lists
over the syntax; what is sent to the page is a text. So the text is read back: from left to right it
reads the slots of the expression, each as often as the expression lists it (`Expr.reads_text`).

The induction is on the expression, in front of any text that does not go on with a name: the parts of
an expression stand in front of each other.
-/

namespace LivePreview

namespace Expr

/-! ### Reads that need their slot -/

/-- Is the expression a slot and nothing else? -/
def isSlot : Expr → Bool
  | slot _ => true
  | _ => false

/-- The slots that an expression reads without an object at hand in their place: neither as the first
of two values of which the second is an object without properties, nor as an object to merge. -/
def bare : Expr → List String
  | slot name => [name]
  | member object _ => object.bare
  | group inner => inner.bare
  | or first emptyObject => if first.isSlot then [] else first.bare
  | or first second | coalesce first second => first.bare ++ second.bare
  | merge first second =>
    (if first.isSlot then [] else first.bare) ++ if second.isSlot then [] else second.bare
  | _ => []

variable {first second object : Expr}

theorem chars_member_of_isIdent {name : String} (h : Text.isIdent name.toList = true) :
    (member object name).render.toList = object.render.toList ++ '.' :: name.toList := by
  have hrender : (member object name).render = object.render ++ "." ++ name := if_pos h
  rw [hrender, String.toList_append, String.toList_append, List.append_assoc]
  rfl

theorem chars_member {name : String} (h : ¬ Text.isIdent name.toList = true) :
    (member object name).render.toList =
      object.render.toList ++ ("[".toList ++ (Json.literalChars name.toList ++ "]".toList)) := by
  have hrender : (member object name).render = object.render ++ "[" ++ Json.literal name ++ "]" := if_neg h
  have hliteral : (Json.literal name).toList = Json.literalChars name.toList := String.toList_ofList
  rw [hrender, String.toList_append, String.toList_append, String.toList_append, hliteral,
    List.append_assoc, List.append_assoc]

/-- The text in front of another one reads the slots of an expression, and without an object at hand
only those of which the expression says so. -/
def ReadsIn (e : Expr) (text rest : List Char) : Prop :=
  ∃ own, Slot.reads (text ++ rest) = own ++ Slot.reads rest ∧ own.map (·.slot) = e.slots ∧
    ∀ r ∈ own, r.guarded = false → r.slot ∈ e.bare

variable {e : Expr} {rest : List Char}

/-- The first of two values is read in front of what stands between them, and then the second. -/
theorem ReadsIn.append (between : String) {text : List Char}
    (hplain : between.toList.any Slot.isMark = false)
    (hfirst : first.ReadsIn first.render.toList (between.toList ++ (second.render.toList ++ rest)))
    (hsecond : second.ReadsIn second.render.toList rest)
    (htext : text = first.render.toList ++ (between.toList ++ second.render.toList))
    (hslots : e.slots = first.slots ++ second.slots) (hbare : e.bare = first.bare ++ second.bare) :
    e.ReadsIn text rest := by
  obtain ⟨own, hown, hnames, hguards⟩ := hfirst
  obtain ⟨own', hown', hnames', hguards'⟩ := hsecond
  refine ⟨own ++ own', ?_, ?_, fun r hr hopen => ?_⟩
  · rw [htext, List.append_assoc, List.append_assoc, hown, Slot.reads_plain between hplain, hown',
      List.append_assoc]
  · rw [List.map_append, hnames, hnames', hslots]
  · rw [hbare]
    rcases List.mem_append.1 hr with hr | hr
    · exact List.mem_append_left _ (hguards r hr hopen)
    · exact List.mem_append_right _ (hguards' r hr hopen)

/-- A property is read behind its object, whichever way its name is written. -/
theorem ReadsIn.member {object : Expr} (name : String)
    (h : ∀ rest : List Char, (∀ c ∈ rest.head?, Text.isIdentPart c = false) →
      object.ReadsIn object.render.toList rest)
    (hrest : ∀ c ∈ rest.head?, Text.isIdentPart c = false) :
    (object.member name).ReadsIn (object.member name).render.toList rest := by
  by_cases hname : Text.isIdent name.toList = true
  · obtain ⟨own, hown, hparts⟩ := h ('.' :: (name.toList ++ rest)) (Text.forall_head_cons (by decide) _)
    refine ⟨own, ?_, hparts⟩
    rw [Slot.reads_point hname hrest] at hown
    rw [chars_member_of_isIdent hname, List.append_assoc, List.cons_append, hown]
  · obtain ⟨own, hown, hparts⟩ := h ("[".toList ++ (Json.literalChars name.toList ++ ("]".toList ++ rest)))
      (Text.forall_head_cons (by decide) _)
    refine ⟨own, ?_, hparts⟩
    rw [Slot.reads_plain "[" (by decide), Slot.reads_literal, Slot.reads_plain "]" (by decide)] at hown
    rw [chars_member hname]
    simp only [List.append_assoc]
    exact hown

end Expr

end LivePreview
