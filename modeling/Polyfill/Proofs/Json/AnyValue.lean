import Polyfill.Json.AnyValue
import Polyfill.Proofs.Json.Restoring

/-!
# Objects with values of any kind

Where values of any kind may stand, an object is read with its members in ascending order of the keys. So
an object whose keys ascend is read as it was written, if its values are.
-/

namespace Polyfill.Json

namespace Value

/-- A value that is read again as it was written, as the value of a member, and that holds no doubles. -/
structure Returns (value : Value) : Prop where
  exact : value.IsExact
  reads : value.node.value (depthLimit - 1) = .ok value

theorem returns_text (text : String) : (Value.text text).Returns where
  exact := trivial
  reads := by
    simp only [node, Node.value, Scalar.value, Literal.read_written]
    rfl

theorem values_itemNodes_texts (depth : Nat) (list : List String) :
    (itemNodes (list.map .text)).values depth = .ok (list.map .text) := by
  induction list with
  | nil => rfl
  | cons text rest ih =>
    simp only [List.map_cons, itemNodes, node, Items.values, Node.value, Scalar.value,
      Literal.read_written, ih]
    rfl

theorem returns_texts (list : List String) : (texts list).Returns where
  exact := areExactItems_iff.mpr (List.forall_mem_map.mpr fun _ _ => trivial)
  reads := by
    rw [texts, node, Node.value, values_itemNodes_texts]
    rfl

end Value

theorem insertMember_of_lt {α : Type} {key : String} {members : List (String × α)}
    (below : ∀ member ∈ members, member.1 < key) (value : α) :
    insertMember key value members = members ++ [(key, value)] := by
  induction members with
  | nil => rfl
  | cons member rest ih =>
    obtain ⟨less, later⟩ := List.forall_mem_cons.mp below
    rw [insertMember, if_neg (Std.not_lt.mpr (Std.le_of_lt less)), if_neg (String.ne_of_lt less).symm,
      ih later]
    rfl

/-- Members whose keys ascend are put behind the earlier ones. -/
theorem values_memberNodes {members : List (String × Value)}
    (returns : ∀ member ∈ members, member.2.Returns) {earlier : List (String × Value)}
    (ascending : (earlier ++ members).Pairwise (·.1 < ·.1)) :
    (Value.memberNodes members).values (depthLimit - 1) earlier = .ok (earlier ++ members) := by
  induction members generalizing earlier with
  | nil => simp [Value.memberNodes, Members.values]
  | cons member rest ih =>
    obtain ⟨key, value⟩ := member
    obtain ⟨here, later⟩ := List.forall_mem_cons.mp returns
    have below : ∀ member ∈ earlier, member.1 < key := fun member among =>
      (List.pairwise_append.mp ascending).2.2 member among _ List.mem_cons_self
    rw [List.append_cons] at ascending ⊢
    rw [← ih later ascending, ← insertMember_of_lt below]
    simp only [Value.memberNodes, Members.values, Literal.read_written, here.reads]
    rfl

theorem read_members_write {layout : Layout} (blank : layout.IsBlank)
    {members : List (String × Value)} (ascending : members.Pairwise (·.1 < ·.1))
    (returns : ∀ member ∈ members, member.2.Returns) :
    read Reader.members (String.ofList ((Value.object members).write layout 0)) = .ok members := by
  have exact : (Value.object members).IsExact :=
    Value.areExactMembers_iff.mpr fun member among => (returns member among).exact
  rw [read_write Reader.members blank exact, Value.node, Reader.members]
  exact values_memberNodes returns ascending

end Polyfill.Json
