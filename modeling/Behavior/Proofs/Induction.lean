import Behavior.Node.Traversal

namespace Behavior.Node

variable {η : Type} [HostTypes η] {α : Type}

@[elab_as_elim, induction_eliminator]
theorem induction {motive : Node η α → Prop} (leaf : ∀ info tip, motive (.leaf info tip))
    (composite : ∀ info rule children, (∀ child ∈ children, motive child) →
      motive (.composite info rule children))
    (decorator : ∀ info rule child, motive child → motive (.decorator info rule child))
    (node : Node η α) : motive node := by
  cases node with
  | leaf info tip => exact leaf info tip
  | composite info rule children =>
      exact composite info rule children fun child _ => induction leaf composite decorator child
  | decorator info rule child =>
      exact decorator info rule child (induction leaf composite decorator child)

theorem induction_children {motive : Node η α → Prop}
    (step : ∀ node : Node η α, (∀ child ∈ node.children, motive child) → motive node)
    (node : Node η α) : motive node := by
  induction node with
  | leaf info tip => exact step _ (by simp [children])
  | composite info rule children ih => exact step _ ih
  | decorator info rule child ih => exact step _ (by simpa [children] using ih)

theorem at?_cons_eq_some_iff {node sub : Node η α} {index : Nat} {rest : List Nat} :
    node.at? (index :: rest) = some sub ↔
      ∃ child, node.children[index]? = some child ∧ child.at? rest = some sub := by
  simp [Option.bind_eq_some_iff]

theorem mem_preorder_iff {node sub : Node η α} :
    sub ∈ node.preorder ↔ sub = node ∨ ∃ child ∈ node.children, sub ∈ child.preorder := by
  rw [preorder_eq, List.mem_cons, List.mem_flatMap]

theorem forall_mem_preorder_iff {holds : Node η α → Prop} {node : Node η α} :
    (∀ sub ∈ node.preorder, holds sub) ↔
      holds node ∧ ∀ child ∈ node.children, ∀ sub ∈ child.preorder, holds sub := by
  rw [preorder_eq, List.forall_mem_cons, List.forall_mem_flatMap]

theorem self_mem_preorder (node : Node η α) : node ∈ node.preorder :=
  mem_preorder_iff.2 (.inl rfl)

theorem mem_preorder_iff_at? {node sub : Node η α} :
    sub ∈ node.preorder ↔ ∃ address, node.at? address = some sub := by
  constructor
  · intro member
    induction node with
    | leaf info tip =>
        obtain rfl : sub = .leaf info tip := by simpa [preorder] using member
        exact ⟨[], rfl⟩
    | composite info rule children ih =>
        rcases mem_preorder_iff.1 member with rfl | ⟨child, inside, below⟩
        · exact ⟨[], rfl⟩
        · obtain ⟨index, found⟩ := List.getElem?_of_mem inside
          obtain ⟨rest, reached⟩ := ih child inside below
          exact ⟨index :: rest, at?_cons_eq_some_iff.2 ⟨child, found, reached⟩⟩
    | decorator info rule child ih =>
        rcases mem_preorder_iff.1 member with rfl | ⟨other, inside, below⟩
        · exact ⟨[], rfl⟩
        · rw [List.mem_singleton.1 inside] at below
          obtain ⟨rest, reached⟩ := ih below
          exact ⟨0 :: rest, at?_cons_eq_some_iff.2 ⟨child, rfl, reached⟩⟩
  · rintro ⟨address, reached⟩
    induction address generalizing node with
    | nil =>
        obtain rfl : node = sub := by simpa using reached
        exact self_mem_preorder node
    | cons index rest ih =>
        obtain ⟨child, found, reached⟩ := at?_cons_eq_some_iff.1 reached
        exact mem_preorder_iff.2 (.inr ⟨child, List.mem_of_getElem? found, ih reached⟩)

theorem mem_preorder_trans {node sub inner : Node η α} (outside : sub ∈ node.preorder)
    (inside : inner ∈ sub.preorder) : inner ∈ node.preorder := by
  obtain ⟨first, reached⟩ := mem_preorder_iff_at?.1 outside
  obtain ⟨second, found⟩ := mem_preorder_iff_at?.1 inside
  exact mem_preorder_iff_at?.2 ⟨first ++ second, by rw [at?_append, reached]; exact found⟩

end Behavior.Node
