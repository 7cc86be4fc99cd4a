import LivePreview.Proofs.Dictionary
import LivePreview.Proofs.Json.Record
import LivePreview.Proofs.Json.Written
/-!
# LivePreview.Proofs.Json.Kept

**Values of any type** are kept as they are. What is kept of a tree lists the members of objects in the
order of their keys and is no deeper than the limit (`kept_value`); and the tree of such a value is kept
as the value (`value_tree`). A higher limit keeps the same.
-/

namespace LivePreview.Json

mutual
/-- Do the keys of all objects in a value ascend? -/
def Value.Ordered : Value → Prop
  | .array items => ItemsOrdered items
  | .object members => members.Pairwise (·.1 < ·.1) ∧ MembersOrdered members
  | _ => True

/-- Are all items ordered? -/
def ItemsOrdered : List Value → Prop
  | [] => True
  | item :: more => item.Ordered ∧ ItemsOrdered more

/-- Are the values of all members ordered? -/
def MembersOrdered : List (String × Value) → Prop
  | [] => True
  | (_, value) :: more => value.Ordered ∧ MembersOrdered more
end

mutual
/-- How deep arrays and objects are nested in a value. -/
def Value.depth : Value → Nat
  | .array items => itemsDepth items + 1
  | .object members => membersDepth members + 1
  | _ => 0

/-- The depth of the deepest item. -/
def itemsDepth : List Value → Nat
  | [] => 0
  | item :: more => max item.depth (itemsDepth more)

/-- The depth of the deepest member. -/
def membersDepth : List (String × Value) → Nat
  | [] => 0
  | (_, value) :: more => max value.depth (membersDepth more)
end

section Members

variable {members : List (String × Value)}

theorem membersOrdered_iff : MembersOrdered members ↔ ∀ member ∈ members, member.2.Ordered := by
  induction members with
  | nil => simp [MembersOrdered]
  | cons member members ih => simp [MembersOrdered, ih]

theorem membersDepth_lt_iff {limit : Nat} (hlimit : 0 < limit) :
    membersDepth members < limit ↔ ∀ member ∈ members, member.2.depth < limit := by
  induction members with
  | nil => simp [membersDepth, hlimit]
  | cons member members ih => rw [membersDepth, List.forall_mem_cons, ← ih, Nat.max_lt]

end Members

/-! ### Keeping what was written -/

mutual
/-- The tree of a value is kept as the value. -/
theorem value_tree (v : Value) (hv : v.Ordered) (limit : Nat) (hlimit : v.depth < limit) :
    value limit v.tree = .ok v := by
  match v with
  | .null | .bool _ | .number _ | .string _ => rfl
  | .array items =>
    rw [Value.depth] at hlimit
    have hitems := valueItems_trees items hv (limit - 1) (by omega)
    rw [Value.tree, value, if_neg (by omega), hitems]
    rfl
  | .object members =>
    rw [Value.depth] at hlimit
    have hmembers := valueMembers_trees members hv.2 (limit - 1) (by omega)
    rw [Value.tree, value, if_neg (by omega), hmembers]
    exact congrArg (fun entries => Except.ok (Value.object entries)) (Dictionary.entries_ofList hv.1)

theorem valueItems_trees (items : List Value) (hitems : ItemsOrdered items) (limit : Nat)
    (hlimit : itemsDepth items < limit) : valueItems limit (itemTrees items) = .ok items := by
  match items with
  | [] => rfl
  | v :: more =>
    rw [itemsDepth] at hlimit
    rw [itemTrees, valueItems, value_tree v hitems.1 limit (by omega),
      valueItems_trees more hitems.2 limit (by omega)]
    rfl

theorem valueMembers_trees (members : List (String × Value)) (hmembers : MembersOrdered members)
    (limit : Nat) (hlimit : membersDepth members < limit) :
    valueMembers limit (memberTrees members) = .ok members := by
  match members with
  | [] => rfl
  | (name, v) :: more =>
    rw [membersDepth] at hlimit
    rw [memberTrees, valueMembers, value_tree v hmembers.1 limit (by omega),
      valueMembers_trees more hmembers.2 limit (by omega)]
    rfl
end

/-! ### What is kept -/

mutual
/-- What is kept is ordered and within the limit. -/
theorem kept_value (tree : Tree) {limit : Nat} (hlimit : 0 < limit) {v : Value}
    (h : value limit tree = .ok v) : v.Ordered ∧ v.depth < limit := by
  match tree with
  | .null | .bool _ | .number (.ok _) | .string (.ok _) =>
    obtain rfl := Except.ok.inj h
    exact ⟨trivial, hlimit⟩
  | .number (.error _) | .string (.error _) | .fault _ _ => exact nomatch h
  | .array items =>
    rw [value] at h
    split at h
    · exact nomatch h
    · obtain ⟨kept, hitems, hv⟩ := bind_eq_ok_iff.1 h
      obtain rfl := Except.ok.inj hv
      obtain ⟨hordered, hdepth⟩ := kept_valueItems items (by omega) hitems
      exact ⟨hordered, by rw [Value.depth]; omega⟩
  | .object members =>
    rw [value] at h
    split at h
    · exact nomatch h
    · obtain ⟨kept, hmembers, hv⟩ := bind_eq_ok_iff.1 h
      obtain rfl := Except.ok.inj hv
      have hkept := kept_valueMembers members (by omega) hmembers
      refine ⟨⟨(Dictionary.ofList kept).ascending, membersOrdered_iff.2 fun member hm => ?_⟩, ?_⟩
      · exact (hkept member (Dictionary.mem_ofList hm)).1
      · have hdepth : membersDepth (Dictionary.ofList kept).entries < limit - 1 :=
          (membersDepth_lt_iff (by omega)).2 fun member hm =>
            (hkept member (Dictionary.mem_ofList hm)).2
        rw [Value.depth]
        omega

theorem kept_valueItems (items : List Tree) {limit : Nat} (hlimit : 0 < limit) {kept : List Value}
    (h : valueItems limit items = .ok kept) : ItemsOrdered kept ∧ itemsDepth kept < limit := by
  match items with
  | [] =>
    obtain rfl := Except.ok.inj h
    exact ⟨trivial, hlimit⟩
  | item :: more =>
    obtain ⟨v, hvalue, h⟩ := bind_eq_ok_iff.1 h
    obtain ⟨others, hmore, h⟩ := bind_eq_ok_iff.1 h
    obtain rfl := Except.ok.inj h
    obtain ⟨hv, hdepth⟩ := kept_value item hlimit hvalue
    obtain ⟨hothers, hdepths⟩ := kept_valueItems more hlimit hmore
    exact ⟨⟨hv, hothers⟩, by rw [itemsDepth]; omega⟩

theorem kept_valueMembers (members : List (Tree × Tree)) {limit : Nat} (hlimit : 0 < limit)
    {kept : List (String × Value)} (h : valueMembers limit members = .ok kept) :
    ∀ member ∈ kept, member.2.Ordered ∧ member.2.depth < limit := by
  match members with
  | [] =>
    obtain rfl := Except.ok.inj h
    exact fun _ hm => absurd hm List.not_mem_nil
  | (name, content) :: more =>
    obtain ⟨field, -, h⟩ := bind_eq_ok_iff.1 h
    obtain ⟨v, hvalue, h⟩ := bind_eq_ok_iff.1 h
    obtain ⟨others, hmore, h⟩ := bind_eq_ok_iff.1 h
    obtain rfl := Except.ok.inj h
    intro member hm
    rcases List.mem_cons.1 hm with rfl | hm
    · exact kept_value content hlimit hvalue
    · exact kept_valueMembers more hlimit hmore member hm
end

mutual
/-- A higher limit keeps the same. -/
theorem value_mono (tree : Tree) {limit higher : Nat} (hle : limit ≤ higher) {v : Value}
    (h : value limit tree = .ok v) : value higher tree = .ok v := by
  match tree with
  | .null | .bool _ | .number (.ok _) | .string (.ok _) => exact h
  | .number (.error _) | .string (.error _) | .fault _ _ => exact nomatch h
  | .array items =>
    rw [value] at h
    split at h
    · exact nomatch h
    · obtain ⟨kept, hitems, hv⟩ := bind_eq_ok_iff.1 h
      rw [value, if_neg (by omega), valueItems_mono items (by omega) hitems]
      exact hv
  | .object members =>
    rw [value] at h
    split at h
    · exact nomatch h
    · obtain ⟨kept, hmembers, hv⟩ := bind_eq_ok_iff.1 h
      rw [value, if_neg (by omega), valueMembers_mono members (by omega) hmembers]
      exact hv

theorem valueItems_mono (items : List Tree) {limit higher : Nat} (hle : limit ≤ higher)
    {kept : List Value} (h : valueItems limit items = .ok kept) :
    valueItems higher items = .ok kept := by
  match items with
  | [] => exact h
  | item :: more =>
    obtain ⟨v, hvalue, h⟩ := bind_eq_ok_iff.1 h
    obtain ⟨others, hmore, h⟩ := bind_eq_ok_iff.1 h
    rw [valueItems, value_mono item hle hvalue, valueItems_mono more hle hmore]
    exact h

theorem valueMembers_mono (members : List (Tree × Tree)) {limit higher : Nat} (hle : limit ≤ higher)
    {kept : List (String × Value)} (h : valueMembers limit members = .ok kept) :
    valueMembers higher members = .ok kept := by
  match members with
  | [] => exact h
  | (name, content) :: more =>
    obtain ⟨field, hname, h⟩ := bind_eq_ok_iff.1 h
    obtain ⟨v, hvalue, h⟩ := bind_eq_ok_iff.1 h
    obtain ⟨others, hmore, h⟩ := bind_eq_ok_iff.1 h
    rw [valueMembers, hname, value_mono content hle hvalue, valueMembers_mono more hle hmore]
    exact h
end

/-- Items that are kept one by one are kept together. -/
theorem mapM_value (limit : Nat) (items : List Tree) :
    items.mapM (value limit) = valueItems limit items := by
  induction items with
  | nil => rfl
  | cons item items ih => rw [List.mapM_cons, ih, valueItems]

end LivePreview.Json
