import Behavior.Proofs.Relabeling

namespace Behavior

variable {η : Type} [HostTypes η] {α : Type}

abbrev Graft (η : Type) [HostTypes η] (α : Type) :=
  List Nat → Info η → Leaf α → Info η × Leaf α

def Graft.below (graft : Graft η α) (index : Nat) : Graft η α :=
  fun address => graft (index :: address)

namespace Node

mutual

def graft (graft : Graft η α) : Node η α → Node η α
  | .leaf info tip => .leaf (graft [] info tip).1 (graft [] info tip).2
  | .composite info rule children => .composite info rule (graftFrom graft 0 children)
  | .decorator info rule child => .decorator info rule (child.graft (graft.below 0))

def graftFrom (graft : Graft η α) (index : Nat) : List (Node η α) → List (Node η α)
  | [] => []
  | node :: rest => node.graft (graft.below index) :: graftFrom graft (index + 1) rest

end

theorem getElem?_graftFrom (graft : Graft η α) (first index : Nat) (nodes : List (Node η α)) :
    (graftFrom graft first nodes)[index]? =
      nodes[index]?.map (·.graft (graft.below (first + index))) := by
  induction nodes generalizing first index with
  | nil => rfl
  | cons node rest ih =>
      cases index with
      | zero => rfl
      | succ index =>
          simp only [graftFrom, List.getElem?_cons_succ, ih]
          rw [show first + 1 + index = first + (index + 1) by omega]

theorem at?_graft (node : Node η α) (graft : Graft η α) (address : List Nat) :
    (node.graft graft).at? address =
      (node.at? address).map (·.graft fun rest => graft (address ++ rest)) := by
  induction address generalizing node graft with
  | nil => rfl
  | cons index rest ih =>
      rw [at?_cons, at?_cons]
      have found : (node.graft graft).children[index]? =
          node.children[index]?.map (·.graft (graft.below index)) := by
        cases node with
        | leaf info tip => rfl
        | composite info rule children =>
            have found := getElem?_graftFrom graft 0 index children
            rwa [Nat.zero_add] at found
        | decorator info rule child => cases index <;> rfl
      rw [found]
      cases node.children[index]? with
      | none => rfl
      | some child => exact ih child (graft.below index)

theorem at?_graft_of_leaf {node : Node η α} {address : List Nat} {info : Info η} {tip : Leaf α}
    (located : node.at? address = some (.leaf info tip)) (graft : Graft η α) :
    (node.graft graft).at? address =
      some (.leaf (graft address info tip).1 (graft address info tip).2) := by
  rw [at?_graft, located]
  simp [Node.graft]

section
variable {onInfo : Info η → Info η} {onLeaf onLeaf' : Leaf α → Leaf α}

theorem graftFrom_relabelAll {graft : Graft η α} {index : Nat} {nodes : List (Node η α)}
    (same : ∀ offset (child : Node η α), nodes[offset]? = some child →
      (child.relabel onInfo onLeaf id).graft (graft.below (index + offset)) =
        child.relabel onInfo onLeaf' id) :
    graftFrom graft index (relabelAll onInfo onLeaf id nodes) =
      relabelAll onInfo onLeaf' id nodes := by
  induction nodes generalizing index with
  | nil => rfl
  | cons node rest ih =>
      have here := same 0 node rfl
      have there : graftFrom graft (index + 1) (relabelAll onInfo onLeaf id rest) =
          relabelAll onInfo onLeaf' id rest := by
        apply ih
        intro offset child found
        have later := same (offset + 1) child found
        rwa [show index + (offset + 1) = index + 1 + offset by omega] at later
      rw [relabelAll, graftFrom, relabelAll, there]
      exact congrArg (· :: _) here

theorem graft_relabel {graft : Graft η α} {node : Node η α}
    (same : ∀ address info tip, node.at? address = some (.leaf info tip) →
      graft address (onInfo info) (onLeaf tip) = (onInfo info, onLeaf' tip)) :
    (node.relabel onInfo onLeaf id).graft graft = node.relabel onInfo onLeaf' id := by
  induction node generalizing graft with
  | leaf info tip => simp only [relabel, Node.graft, same [] info tip rfl]
  | composite info rule children ih =>
      rw [relabel, Node.graft, relabel, graftFrom_relabelAll]
      intro offset child found
      refine ih child (List.mem_of_getElem? found) ?_
      intro address info tip located
      refine same _ info tip (at?_cons_eq_some_iff.2 ⟨child, ?_, located⟩)
      rwa [Nat.zero_add]
  | decorator info rule child ih =>
      rw [relabel, Node.graft, relabel, ih]
      intro address info tip located
      exact same _ info tip (at?_cons_eq_some_iff.2 ⟨child, rfl, located⟩)

theorem graft_eq_self {graft : Graft η α} {node : Node η α}
    (same : ∀ address info tip, node.at? address = some (.leaf info tip) →
      graft address info tip = (info, tip)) : node.graft graft = node := by
  have unchanged : (node.relabel id id id).graft graft = node.relabel id id id :=
    graft_relabel same
  rwa [relabel_id] at unchanged

end

end Node

end Behavior
