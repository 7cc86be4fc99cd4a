import LivePreview.Proofs.Script.ImportDeclaration
import LivePreview.Script.Module
/-!
# LivePreview.Proofs.Script.Module

**Where the import declarations of a module stand**: one after the other between the statements, each
with a text of its own that begins with the word `import` and ends with no blank (`Placed`). What stands
between them is passed over by the grammar, of which every rule goes forward.
-/

namespace LivePreview.Script

open Text (byteSize allBlank)
open Cursor (Advances)

/-! ### Forms go forward -/

namespace Form

open Grammar

variable {part value nested leaf tag : Form} {isAsync isGenerator : Bool}

@[simp] theorem forward_bracketed : (bracketed part).Forward ↔ part.Forward := by
  simp [bracketed]

@[simp] theorem forward_inFunction : (inFunction isAsync isGenerator part).Forward ↔ part.Forward := by
  simp [inFunction]

@[simp] theorem forward_inside : inside.Forward := by
  simp [inside]

@[simp] theorem forward_item : item.Forward := by
  simp [item]

@[simp] theorem forward_privateName : privateName.Forward := by
  simp [privateName]

@[simp] theorem forward_memberName : memberName.Forward := by
  simp [memberName]

@[simp] theorem forward_dottedName : dottedName.Forward := by
  simp [dottedName]

@[simp] theorem forward_typeMark : typeMark.Forward := by
  simp [typeMark]

@[simp] theorem forward_resultMark : resultMark.Forward := by
  simp [resultMark]

@[simp] theorem forward_signature : signature.Forward := by
  simp [signature]

@[simp] theorem forward_typeReference : typeReference.Forward := by
  simp [typeReference]

@[simp] theorem forward_functionBody : (functionBody isAsync isGenerator).Forward := by
  simp [functionBody]

@[simp] theorem forward_functionTail : (functionTail isAsync isGenerator).Forward := by
  simp [functionTail]

@[simp] theorem forward_declaredTail : (declaredTail isAsync isGenerator).Forward := by
  simp [declaredTail]

@[simp] theorem forward_decorator : decorator.Forward := by
  simp [decorator]

@[simp] theorem forward_templateOf : (templateOf value).Forward ↔ value.Forward := by
  simp [templateOf]

@[simp] theorem forward_gapped : (gapped part).Forward ↔ part.Forward := by
  simp [gapped]

@[simp] theorem forward_arrayOf : (arrayOf part).Forward ↔ part.Forward := by
  simp [arrayOf]

@[simp] theorem forward_patternOf (hnested : nested.Forward) (hleaf : leaf.Forward) :
    (patternOf nested leaf).Forward := by
  simp [patternOf, hnested, hleaf]

@[simp] theorem forward_binding : binding.Forward := by
  simp [binding]

@[simp] theorem forward_asTarget : asTarget.Forward :=
  forward_set fun _ => ⟨rfl, rfl⟩

@[simp] theorem forward_asOther : asOther.Forward :=
  forward_set fun _ => ⟨rfl, rfl⟩

@[simp] theorem forward_isTarget : isTarget.Forward :=
  forward_test _

@[simp] theorem forward_target : target.Forward := by
  simp [target]

@[simp] theorem forward_arrowBody : (arrowBody isAsync).Forward := by
  simp [arrowBody]

@[simp] theorem forward_arguments : arguments.Forward := by
  simp [arguments]

@[simp] theorem forward_memberAfterPoint : memberAfterPoint.Forward := by
  simp [memberAfterPoint]

@[simp] theorem forward_callSuffix (htag : tag.Forward) : (callSuffix tag).Forward := by
  simp [callSuffix, typeArgumentsEnd, htag]

@[simp] theorem forward_optionalSuffix : optionalSuffix.Forward := by
  simp [optionalSuffix]

@[simp] theorem forward_variableList : variableList.Forward := by
  simp [variableList, letWord, usingWord, initial]

@[simp] theorem forward_functionDeclaration (hpart : part.Forward) :
    (functionDeclaration part).Forward := by
  simp [functionDeclaration, hpart]

@[simp] theorem forward_classDeclaration (hpart : part.Forward) : (classDeclaration part).Forward := by
  simp [classDeclaration, hpart]

@[simp] theorem forward_declaration : declaration.Forward := by
  simp [declaration, typeAlias, interfaceDeclaration, enumDeclaration, namespaceDeclaration,
    ambientDeclaration]

@[simp] theorem forward_importEquals : importEquals.Forward := by
  simp [importEquals]

@[simp] theorem forward_exportDeclaration : exportDeclaration.Forward := by
  simp [exportDeclaration, defaultExport, interfaceDeclaration, exportList, exportedName, ownName,
    source, moduleAttributes]

@[simp] theorem forward_branch : branch.Forward := by
  simp [branch]

@[simp] theorem forward_controlStatement : controlStatement.Forward := by
  simp [controlStatement, condition, loopHead, switchBody, letWord, usingWord]

@[simp] theorem forward_statementForm : (statementForm part).Forward ↔ part.Forward := by
  simp [statementForm, expressionStatement]

/-- Opening an element takes its name. -/
@[simp] theorem forward_openElement : openElement.Forward := by
  intro c next hread
  obtain ⟨taken, htaken, rfl⟩ := Option.map_eq_some_iff.1 hread
  exact Cursor.advances_next (markupName?_eq_append htaken)

/-- Closing an element takes its name. -/
@[simp] theorem forward_closeElement : closeElement.Forward := by
  intro c next hread
  obtain ⟨taken, htaken, hread⟩ := Option.bind_eq_some_iff.1 hread
  have hnext := Cursor.advances_next (markupName?_eq_append htaken)
  split at hread
  · split at hread
    · obtain rfl := Option.some.inj hread
      exact hnext
    · exact nomatch hread
  · exact nomatch hread

@[simp] theorem forward_closeEmptyElement : closeEmptyElement.Forward := by
  simp [closeEmptyElement]

@[simp] theorem forward_markupChildren : markupChildren.Forward := by
  simp [markupChildren]

end Form

/-- Import declarations go forward. -/
theorem forward_importDeclaration : Reader.Forward importDeclaration? := by
  intro c d next h
  obtain ⟨inner, hinner, -⟩ := Option.bind_eq_some_iff.1 h
  exact (Cursor.advances_word hinner).trans (closes_importDeclaration hinner h).2.2.advances

open Form in
/-- Every rule goes forward. -/
theorem Rule.forward_form (rule : Rule) : rule.form.Forward := by
  cases rule with
  | typeExpr => simp [form, typeForm, functionType, constructorType]
  | plainType => simp [form, plainTypeForm, functionType, constructorType]
  | unionType => simp [form, unionForm, intersection]
  | typeOperator => simp [form, typeOperatorForm]
  | primaryType => simp [form, primaryTypeForm, tupleItem, mappedType, importedType]
  | resultType => simp [form, resultForm]
  | typeArguments => simp [form, typeArgumentsForm]
  | typeParameters => simp [form, typeParametersForm]
  | objectType => simp [form, objectTypeForm, typeMember]
  | bindingPattern => simp [form, bindingPatternForm]
  | assignmentPattern => simp [form, assignmentPatternForm]
  | parameters => simp [form, parametersForm]
  | expression => simp [form, expressionForm]
  | assignment => simp [form, assignmentForm, conditional, logical, binary, arrow, arrowTail]
  | unary => simp [form, unaryForm]
  | calls => simp [form, callsForm, importExpression]
  | primary => simp [form, primaryForm, arrayLiteral, functionExpression, classExpression]
  | newExpression => simp [form, newForm]
  | objectLiteral => simp [form, objectForm, property]
  | template => simp [form]
  | classTail => simp [form, classForm, memberModifier, classMember]
  | markup => simp [form, markupForm, markupAttribute]
  | statement =>
    simp only [form, forward_statementForm]
    intro c next hread
    obtain ⟨⟨d, found⟩, hfound, rfl⟩ := Option.map_eq_some_iff.1 hread
    exact forward_importDeclaration c d found hfound
  | block => simp [form, blockForm]

/-- What a statement takes stands in front of the cursor behind it. -/
theorem advances_statement {steps : Nat} {c next : Cursor} (h : statement? steps c = some next) :
    Advances c next :=
  Grammar.advances_of_read Rule.forward_form (Grammar.forward_rule _) h

/-! ### Where declarations stand -/

/-- From byte `offset` on, the text holds the declarations in order, and each takes up its own part of
it. -/
inductive Placed : Nat → List Char → List ImportDeclaration → Prop
  | rest (offset : Nat) (text : List Char) : Placed offset text []
  | declaration {offset : Nat} {before text behind : List Char} {d : ImportDeclaration}
      {more : List ImportDeclaration} :
      d.TakesUp (offset + byteSize before) text → Placed d.stop behind more →
      Placed offset (before ++ (text ++ behind)) (d :: more)

variable {offset : Nat} {text : List Char} {ds : List ImportDeclaration}

/-- A declaration may stand right at the start. -/
theorem Placed.first {own behind : List Char} {d : ImportDeclaration} {more : List ImportDeclaration}
    (hd : d.TakesUp offset own) (hmore : Placed d.stop behind more) :
    Placed offset (own ++ behind) (d :: more) := by
  have h : Placed offset ([] ++ (own ++ behind)) (d :: more) := .declaration hd hmore
  exact h

/-- What stands in front moves the declarations on. -/
theorem Placed.behind (front : List Char) (h : Placed (offset + byteSize front) text ds) :
    Placed offset (front ++ text) ds := by
  cases h with
  | rest => exact .rest _ _
  | @declaration _ before text behind d more hd hmore =>
    rw [← List.append_assoc]
    refine .declaration ?_ hmore
    rw [Text.byteSize_append, ← Nat.add_assoc]
    exact hd

/-- Blanks in front belong to no declaration. -/
theorem Placed.drop {blanks rest : List Char} (hblanks : allBlank blanks = true)
    (h : Placed offset (blanks ++ rest) ds) : Placed (offset + byteSize blanks) rest ds := by
  generalize htext : blanks ++ rest = text at h
  cases h with
  | rest => exact .rest _ _
  | @declaration _ before own behind d more hd hmore =>
    rcases List.append_eq_append_iff.1 htext with ⟨between, rfl, rfl⟩ | ⟨inner, hinner, hown⟩
    · refine .declaration ?_ hmore
      rw [Text.byteSize_append, ← Nat.add_assoc] at hd
      exact hd
    · cases inner with
      | nil =>
        rw [List.append_nil] at hinner
        rw [List.nil_append] at hown
        rw [← hown, hinner]
        exact .first hd hmore
      | cons c inner =>
        -- The word would begin within the blanks.
        obtain ⟨last, hlast⟩ := hd.word
        rw [← hlast] at hown
        have hc : c = 'i' := (List.cons.inj hown).1.symm
        have hblank := Text.allBlank_iff.1 hblanks c (by simp [hinner])
        exact absurd (hc ▸ hblank) (by decide)

/-- Each declaration takes up a part of the text. -/
theorem Placed.covers (h : Placed offset text ds) :
    ∀ d ∈ ds, ∃ before own behind, text = before ++ (own ++ behind) ∧
      d.TakesUp (offset + byteSize before) own := by
  induction h with
  | rest => simp
  | @declaration offset before own behind d more hd hmore ih =>
    intro e he
    rcases List.mem_cons.1 he with rfl | he
    · exact ⟨before, own, behind, rfl, hd⟩
    · obtain ⟨first, text, last, rfl, htakes⟩ := ih e he
      refine ⟨before ++ (own ++ first), text, last, by simp only [List.append_assoc], ?_⟩
      rw [hd.stop] at htakes
      simpa only [Text.byteSize_append, Nat.add_assoc] using htakes

/-- Behind a cursor that goes forward the declarations of the further one stand. -/
theorem Placed.of_advances {c next : Cursor} (hnext : Advances c next)
    (h : Placed next.start next.rest ds) : Placed c.start c.rest ds := by
  obtain ⟨taken, hrest, hstart⟩ := hnext
  rw [hrest]
  exact .behind taken (hstart ▸ h)

/-- The declarations of a module stand behind the cursor. -/
theorem placed_moduleImports {steps limit : Nat} {c : Cursor}
    (h : moduleImports? steps limit c = some ds) : Placed c.start c.rest ds := by
  -- A declaration stands where the cursor is; any other statement only moves the cursor on.
  induction limit generalizing c ds with
  | zero => exact nomatch h
  | succ limit ih =>
    rw [moduleImports?] at h
    split at h
    · exact Option.some.inj h ▸ .rest _ _
    · split at h
      · next d next hd =>
        obtain ⟨more, hmore, rfl⟩ := Option.map_eq_some_iff.1 h
        obtain ⟨text, gap, hrest, htakes, hnext⟩ := importDeclaration?_takesUp hd
        have hbehind : Placed d.stop (gap ++ next.rest) more := .behind gap (hnext ▸ ih hmore)
        rw [hrest]
        exact .first htakes hbehind
      · obtain ⟨next, hnext, h⟩ := Option.bind_eq_some_iff.1 h
        exact .of_advances (advances_statement hnext) (ih h)

/-- The declarations of a source stand in it. -/
theorem placed_importDeclarations {source : List Char} (h : importDeclarations? source = some ds) :
    Placed 0 source ds :=
  .of_advances (Cursor.advances_ofScript source) (placed_moduleImports h)

end LivePreview.Script
