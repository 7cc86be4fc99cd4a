import LivePreview.Bootstrap
import LivePreview.Loader
import LivePreview.Proofs.Slot
import LivePreview.Proofs.Text.Occurrence
/-!
# LivePreview.Proofs.Slot.Environment

**Slots are names of their own in the environment.** A slot is spelled in ASCII letters, digits and
underscores, so it is an identifier, and it stands between quotes as it is. It begins with `__dep_`,
which keeps it apart from the slots of stand-ins and from what the bootstrap itself puts into the
environment (`environmentNames`).
-/

namespace LivePreview.Slot

open Text

/-- May `c` stand in a slot? -/
def isSlotChar (c : Char) : Bool :=
  isAsciiAlnum c || c == '_'

/-- What the bootstrap puts into the environment by a name of its own: the framework, and what
bindings need that stand for nothing or for a stylesheet. -/
def environmentNames : List String := ["React", "ReactDOM", "__noop", "__injectStyle"]

variable {specifier name : String} {text : List Char} {c : Char}

/-! ### The characters of a slot -/

theorem isSlotChar_of_mem_spellByte {b : Nat} (hb : b < 256) (h : c ∈ spellByte b) :
    isSlotChar c = true := by
  have hspelled : ∀ b < 256, (spellByte b).all isSlotChar = true := by decide +kernel
  exact List.all_eq_true.1 (hspelled b hb) c h

theorem lead_prefix_ofSpecifier (specifier : String) :
    "__dep_".toList <+: (ofSpecifier specifier).toList := by
  rw [ofSpecifier, String.toList_append]
  exact List.prefix_append _ _

theorem isSlotChar_of_mem_ofSpecifier (h : c ∈ (ofSpecifier specifier).toList) :
    isSlotChar c = true := by
  rw [ofSpecifier, String.toList_append, List.mem_append] at h
  rcases h with h | h
  · have hlead : "__dep_".toList.all isSlotChar = true := by decide
    exact List.all_eq_true.1 hlead c h
  · rw [String.toList_ofList] at h
    obtain ⟨b, hb, hc⟩ := List.mem_flatMap.1 h
    exact isSlotChar_of_mem_spellByte (lt_of_mem_encode hb) hc

/-- A name that begins otherwise is no slot. -/
theorem ofSpecifier_ne (h : ¬ "__dep_".toList <+: name.toList) : ofSpecifier specifier ≠ name :=
  fun he => h (he ▸ lead_prefix_ofSpecifier specifier)

/-! ### What slots may stand for -/

theorem isIdentPart_of_isSlotChar (h : isSlotChar c = true) : isIdentPart c = true := by
  have hascii : c.toNat < 128 := by
    by_contra hlarge
    have hne : c ≠ '_' := fun he => hlarge (by rw [he]; decide)
    simp only [isSlotChar, isAsciiAlnum, isAsciiLetter, isDigit, Bool.or_eq_true, Bool.and_eq_true,
      decide_eq_true_eq, beq_iff_eq, hne, or_false] at h
    omega
  rw [isIdentPart, isWord, if_pos hascii, Bool.or_eq_true]
  exact .inl h

/-- A text of such characters that begins with an underscore is an identifier. -/
theorem isIdent_of_isSlotChar (h : ∀ c ∈ text, isSlotChar c = true) :
    isIdent ('_' :: text) = true := by
  rw [isIdent, Bool.and_eq_true, List.all_eq_true]
  exact ⟨rfl, fun c hc => isIdentPart_of_isSlotChar (h c hc)⟩

theorem isIdent_ofSpecifier (specifier : String) : isIdent (ofSpecifier specifier).toList = true := by
  have hchars : ∀ c ∈ (ofSpecifier specifier).toList, isSlotChar c = true :=
    fun c => isSlotChar_of_mem_ofSpecifier
  obtain ⟨spelled, hspelled⟩ := lead_prefix_ofSpecifier specifier
  rw [← hspelled] at hchars ⊢
  exact isIdent_of_isSlotChar fun c hc => hchars c (List.mem_cons_of_mem _ hc)

/-- A character that is no slot character stands in no slot. -/
theorem not_mem_ofSpecifier (hc : isSlotChar c = false) (specifier : String) :
    c ∉ (ofSpecifier specifier).toList :=
  fun h => Bool.false_ne_true (hc.symm.trans (isSlotChar_of_mem_ofSpecifier h))

theorem escapeChar_of_isSlotChar (h : isSlotChar c = true) : Json.escapeChar c = [c] := by
  have hne : ∀ d, isSlotChar d = false → c ≠ d := by
    rintro d hd rfl
    exact Bool.false_ne_true (hd.symm.trans h)
  have hcontrol : ¬ c.toNat < 32 := by
    intro hlow
    have hunderscore : c ≠ '_' := fun he => absurd hlow (by rw [he]; decide)
    simp only [isSlotChar, isAsciiAlnum, isAsciiLetter, isDigit, Bool.or_eq_true, Bool.and_eq_true,
      decide_eq_true_eq, beq_iff_eq, hunderscore, or_false] at h
    omega
  rw [Json.escapeChar, if_neg (hne _ (by decide)), if_neg (hne _ (by decide)),
    if_neg (hne _ (by decide)), if_neg (hne _ (by decide)), if_neg (hne _ (by decide)),
    if_neg (hne _ (by decide)), if_neg (hne _ (by decide)), if_neg hcontrol]

/-- In a literal, nothing has to be escaped. -/
theorem literal_of_isSlotChar (h : ∀ c ∈ name.toList, isSlotChar c = true) :
    Json.literal name = "\"" ++ name ++ "\"" := by
  have hplain : name.toList.flatMap Json.escapeChar = name.toList := by
    rw [List.flatMap_congr fun c hc => escapeChar_of_isSlotChar (h c hc), List.flatMap_singleton']
  rw [← String.toList_inj, Json.literal, String.toList_ofList, Json.literalChars, hplain]
  simp

/-! ### The environment -/

/-- The bootstrap gives these names their values. -/
theorem infix_bootstrap (h : name ∈ environmentNames) (runtime : Runtime) (config : Config)
    (language : Language) (generation : UInt64) :
    ("__env." ++ name ++ " = ").toList <:+:
      (bootstrap runtime config language generation).toList := by
  have hline : ∀ line rest, ("    " ++ ("__env." ++ name ++ " = ") ++ rest = line) →
      line.toList <:+: (bootstrap runtime config language generation).toList →
      ("__env." ++ name ++ " = ").toList <:+:
        (bootstrap runtime config language generation).toList := by
    rintro line rest rfl hi
    refine List.IsInfix.trans ?_ hi
    generalize "__env." ++ name ++ " = " = assigned
    rw [String.toList_append, String.toList_append]
    exact List.infix_append _ _ _
  simp only [environmentNames, List.mem_cons, List.not_mem_nil, or_false] at h
  rcases h with rfl | rfl | rfl | rfl
  · exact hline "    __env.React = React;" "React;" rfl (infix_joinLines_of_mem (by simp))
  · exact hline "    __env.ReactDOM = ReactDOM;" "ReactDOM;" rfl (infix_joinLines_of_mem (by simp))
  · exact hline "    __env.__noop = () => null;" "() => null;" rfl (infix_joinLines_of_mem (by simp))
  · exact hline "    __env.__injectStyle = (css, id) => \x7b" "(css, id) => \x7b" rfl
      (infix_joinLines_of_mem (by simp))

/-- **Each specifier has a slot of its own.** Different specifiers have different slots. A slot is
`__dep_` with ASCII letters, digits and underscores behind it; so it is an identifier, and between
quotes it is written as it is. No slot is that of a stand-in, or a name to which the bootstrap gives
a value itself. -/
theorem ofSpecifier_separates :
    Function.Injective ofSpecifier ∧ ∀ specifier,
      let slot := ofSpecifier specifier
      (∃ spelled, slot.toList = "__dep_".toList ++ spelled ∧ spelled.all isSlotChar = true) ∧
      isIdent slot.toList = true ∧
      Loader.slotText slot = "__env[" ++ Json.literal slot ++ "]" ∧
      (∀ base, slot ≠ StandIn.animationSlot base) ∧
      (∀ helper, slot ≠ StandIn.helperSlot helper) ∧
      ∀ name ∈ environmentNames, slot ≠ name ∧
        ∀ runtime config language generation, ("__env." ++ name ++ " = ").toList <:+:
          (bootstrap runtime config language generation).toList := by
  refine ⟨fun a b h => eq_of_ofSpecifier_eq h, fun specifier => ?_⟩
  have hchars : ∀ c ∈ (ofSpecifier specifier).toList, isSlotChar c = true :=
    fun c => isSlotChar_of_mem_ofSpecifier
  obtain ⟨spelled, hspelled⟩ := lead_prefix_ofSpecifier specifier
  refine ⟨⟨spelled, hspelled.symm, ?_⟩, isIdent_ofSpecifier specifier, ?_, fun base => ?_,
    fun helper => ?_, fun name hname => ?_⟩
  · exact List.all_eq_true.2 fun c hc => hchars c (hspelled ▸ List.mem_append_right _ hc)
  · rw [literal_of_isSlotChar hchars, Loader.slotText, ← String.toList_inj]
    simp
  · refine ofSpecifier_ne ?_
    unfold StandIn.animationSlot
    split <;> decide
  · exact ofSpecifier_ne (by cases helper <;> decide)
  · have hnames : ∀ name ∈ environmentNames, ¬ "__dep_".toList <+: name.toList := by decide
    exact ⟨ofSpecifier_ne (hnames name hname), infix_bootstrap hname⟩

/-- Two packages that look alike, and a name that is hard to spell. -/
theorem ofSpecifier_separates_lookalikes :
    ofSpecifier "@a/b-c" ≠ ofSpecifier "@a-b/c" ∧ "React" ∈ environmentNames ∧
      ofSpecifier "a_\"é" = "__dep_a_5f_22_c3_a9" ∧
      Loader.slotText (ofSpecifier "a_\"é") =
        "__env[" ++ Json.literal (ofSpecifier "a_\"é") ++ "]" ∧
      ofSpecifier "a_\"é" ≠ "React" := by
  obtain ⟨hinjective, hslots⟩ := ofSpecifier_separates
  obtain ⟨-, -, hquoted, -, -, hnames⟩ := hslots "a_\"é"
  exact ⟨hinjective.ne (by decide), by decide, by decide +kernel, hquoted,
    (hnames "React" (by decide)).1⟩

end LivePreview.Slot
