import Mathlib.Data.List.Perm.Basic
import LivePreview.Loader
import LivePreview.Proofs.Code.ExportStatement
/-!
# LivePreview.Proofs.Loader.ShimExports

**What an inlined module body returns.** The exports of a body that is written in one-line statements
become the fields of one object, each name once and bound to its local name, and no line of the code
begins with `export` (`Inlined.render_ofBody_source`). Missing are the names behind the first one of a
declaration of variables, and an item that renames a name `type`.
-/

namespace LivePreview.Loader

open Text Code
open Code.ExportStatement

variable {statements : List (ExportStatement × List Char)}

/-- The text of fields, each bound to a local name. -/
def fieldsText (fields : List ExportName) : String :=
  ", ".intercalate (fields.map fun e => e.exported ++ ": " ++ e.localName)

/-! ### The default export among the fields -/

/-- Where names differ, a search finds all there is. -/
theorem find?_toList_of_nodup {exports : List ExportName} (name : String)
    (hd : (exports.map (·.exported)).Nodup) :
    (exports.find? (·.exported == name)).toList = exports.filter (·.exported == name) := by
  induction exports with
  | nil => rfl
  | cons e exports ih =>
    rw [List.map_cons, List.nodup_cons] at hd
    rw [List.find?_cons, List.filter_cons]
    cases he : e.exported == name with
    | false => exact ih hd.2
    | true =>
      have hrest : exports.filter (·.exported == name) = [] := by
        refine List.filter_eq_nil_iff.2 fun other ho hname => hd.1 ?_
        rw [eq_of_beq he, ← eq_of_beq hname]
        exact List.mem_map_of_mem ho
      rw [if_pos rfl, hrest]
      rfl

/-- No declaration introduces the name `default`. -/
theorem exported_ne_default (hw : ∀ s ∈ statements, s.1.Writable) :
    ∀ e ∈ statements.flatMap (·.1.declared), (e.exported == "default") = false := by
  have hname : ∀ name, IsBindingName name → (String.ofList name == "default") = false := by
    intro name hn
    refine beq_eq_false_iff_ne.2 fun he => hn.free ?_
    rw [he]
    decide
  intro e he
  obtain ⟨s, hs, he⟩ := List.mem_flatMap.1 he
  have hwritable := hw s hs
  cases hcase : s.1 with
  | function name =>
    rw [hcase] at he hwritable
    obtain rfl := List.mem_singleton.1 he
    exact hname name hwritable
  | classOf name =>
    rw [hcase] at he hwritable
    obtain rfl := List.mem_singleton.1 he
    exact hname name hwritable
  | bindings keyword first more =>
    rw [hcase] at he hwritable
    obtain rfl := List.mem_singleton.1 he
    exact hname first.1 (hwritable.2 first List.mem_cons_self).1
  | names items =>
    rw [hcase] at he
    exact absurd he List.not_mem_nil

/-- What is recorded of statements and what is not are their exports. -/
theorem perm_exports_statements (statements : List (ExportStatement × List Char)) :
    (statements.flatMap (·.1.listed) ++ statements.flatMap (·.1.declared) ++
      statements.flatMap (·.1.lost)).Perm (statements.flatMap (·.1.exports)) := by
  have hrecorded := List.flatMap_append_perm statements (·.1.listed) (·.1.declared)
  have hall := List.flatMap_append_perm statements (fun s => s.1.listed ++ s.1.declared) (·.1.lost)
  exact ((hrecorded.append_right _).trans hall).trans
    (List.Perm.flatMap_left statements fun s _ => perm_exports s.1)

/-! ### The statement -/

/-- **An inlined module body returns the exports that are recorded**, each under its name. -/
theorem Inlined.render_ofBody_source (h : AreEnded statements) (hw : ∀ s ∈ statements, s.1.Writable)
    (hd : ((statements.flatMap (·.1.exports)).map (·.exported)).Nodup) (slot : String) :
    ∃ fields, (Inlined.ofBody slot (String.ofList (source statements))).render =
        slotText slot ++ " = (function () \x7b\n" ++ String.ofList (trimEnd (bareSource statements)) ++
          "\nreturn \x7b " ++ fieldsText fields ++ " \x7d;\n\x7d)();" ∧
      (fields ++ statements.flatMap (·.1.lost)).Perm (statements.flatMap (·.1.exports)) ∧
      Clear isSpaceOrTab exportWords (trimEnd (bareSource statements)) := by
  let listed := statements.flatMap (·.1.listed)
  let declared := statements.flatMap (·.1.declared)
  have hperm := perm_exports_statements statements
  have hlisted : (listed.map (·.exported)).Nodup := by
    have hall := ((hperm.map (·.exported)).nodup_iff).2 hd
    rw [List.append_assoc, List.map_append] at hall
    exact (List.nodup_append.1 hall).1
  -- A list may export something as `default`, which comes first.
  let default := listed.find? (·.exported == "default")
  have hfields : (default.toList ++ (listed ++ declared).filter (·.exported != "default")).Perm
      (listed ++ declared) := by
    have hnone : declared.filter (·.exported == "default") = [] :=
      List.filter_eq_nil_iff.2 fun e he => by
        rw [exported_ne_default hw e he]
        exact Bool.false_ne_true
    have hdefault : default.toList = (listed ++ declared).filter (·.exported == "default") := by
      rw [find?_toList_of_nodup "default" hlisted, List.filter_append, hnone, List.append_nil]
    rw [hdefault]
    exact List.filter_append_perm _ _
  have hbound : (default.map (·.localName)).toList.map (fun name => ("default", name)) =
      default.toList.map fun e => (e.exported, e.localName) := by
    cases hfound : default with
    | none => rfl
    | some e =>
      have he : (e.exported == "default") = true :=
        List.find?_some (p := fun e : ExportName => e.exported == "default") hfound
      rw [Option.map_some, Option.toList_some, Option.toList_some, List.map_singleton, List.map_singleton,
        eq_of_beq he]
  refine ⟨_, ?_, (hfields.append_right _).trans hperm, clear_trimEnd_bareSource h hw⟩
  have hbody : Inlined.ofBody slot (String.ofList (source statements)) =
      .moduleBody slot (String.ofList (trimEnd (bareSource statements)))
        ((default.toList ++ (listed ++ declared).filter (·.exported != "default")).map fun e =>
          (e.exported, e.localName)) := by
    rw [Inlined.ofBody, String.toList_ofList, stripExports_source h hw, List.map_append, ← hbound]
  rw [hbody, Inlined.render, fieldsText, List.map_map]
  rfl

/-- Statements of every form, with a default export among the items of a list. -/
def panelStatements : List (ExportStatement × List Char) :=
  [(.function "open".toList, ['\n']),
   (.classOf "Panel".toList, ['\r', '\n']),
   (.bindings "let" ("width".toList, "12".toList) [], ['\n']),
   (.names [⟨"Panel".toList, some "default".toList⟩, ⟨"shut".toList, none⟩], [])]

/-- Here every export is a field. -/
theorem render_ofBody_source_panel :
    source panelStatements =
        ("export function open() \x7b\x7d\nexport class Panel \x7b\x7d\r\nexport let width = 12;\n" ++
          "export \x7b Panel as default, shut \x7d;").toList ∧
      AreEnded panelStatements ∧ (∀ s ∈ panelStatements, s.1.Writable) ∧
      ((panelStatements.flatMap (·.1.exports)).map (·.exported)).Nodup ∧
      ∃ fields, (Inlined.ofBody "__dep_panel" (String.ofList (source panelStatements))).render =
          slotText "__dep_panel" ++ " = (function () \x7b\n" ++
            String.ofList (trimEnd (bareSource panelStatements)) ++
            "\nreturn \x7b " ++ fieldsText fields ++ " \x7d;\n\x7d)();" ∧
        fields.Perm (panelStatements.flatMap (·.1.exports)) ∧
        Clear isSpaceOrTab exportWords (trimEnd (bareSource panelStatements)) := by
  have hended : AreEnded panelStatements :=
    ⟨.inl rfl, .inr (.inl rfl), .inl rfl, .inr (.inr ⟨rfl, rfl⟩), trivial⟩
  have hwritable : ∀ s ∈ panelStatements, s.1.Writable := by decide
  have hdistinct : ((panelStatements.flatMap (·.1.exports)).map (·.exported)).Nodup := by decide
  obtain ⟨fields, hrender, hfields, hclear⟩ :=
    Inlined.render_ofBody_source hended hwritable hdistinct "__dep_panel"
  have hlost : panelStatements.flatMap (·.1.lost) = [] := by decide
  rw [hlost, List.append_nil] at hfields
  exact ⟨by decide, hended, hwritable, hdistinct, fields, hrender, hfields, hclear⟩

/-! ### Where a declaration has several names -/

/-- A declaration of two variables. -/
def sizeStatements : List (ExportStatement × List Char) :=
  [(.bindings "const" ("a".toList, "1".toList) [("b".toList, "2".toList)], ['\n'])]

/-- The second name is exported, and it is no field. -/
theorem ofBody_loses_second_name :
    source sizeStatements = "export const a = 1, b = 2;\n".toList ∧ AreEnded sizeStatements ∧
      (∀ s ∈ sizeStatements, s.1.Writable) ∧
      ((sizeStatements.flatMap (·.1.exports)).map (·.exported)).Nodup ∧
      ⟨"b", "b"⟩ ∈ sizeStatements.flatMap (·.1.exports) ∧
      Inlined.ofBody "__dep_kit" (String.ofList (source sizeStatements)) =
        .moduleBody "__dep_kit" "const a = 1, b = 2;" [("a", "a")] := by
  exact ⟨by decide, ⟨.inl rfl, trivial⟩, by decide, by decide, by decide, by decide +kernel⟩

end LivePreview.Loader
