import Behavior.Proofs.Coherence
import Behavior.Proofs.Copies
import Behavior.Proofs.Inventory
import Behavior.Proofs.Reference

namespace Behavior

variable {η : Type} [HostTypes η] {α : Type}

namespace Node

theorem takes_iff {node : Node η α} {part : Part α} :
    node.takes part = true ↔ node.kind = .leaf part.kind ∧ node.slot = some part.slot := by
  cases node with
  | leaf info tip => simp [takes, Part.fits, kind, slot]
  | composite info rule children => simp [takes, slot]
  | decorator info rule child => simp [takes, slot]

theorem takes_relabel {β : Type} {onInfo : Info η → Info η} {onLeaf : Leaf α → Leaf β}
    {onRule : Decorator → Decorator} {part : Part α} {other : Part β}
    (kept : ∀ tip, other.fits (onLeaf tip) = part.fits tip) (node : Node η α) :
    (node.relabel onInfo onLeaf onRule).takes other = node.takes part := by
  cases node with
  | leaf info tip => exact kept tip
  | composite info rule children => rfl
  | decorator info rule child => rfl

end Node

def Node.waiting (parts : List (Part α)) (node : Node η α) : List String :=
  (node.preorder.filter fun sub => sub.isUnbound && !parts.any (sub.takes ·)).map (·.path)

theorem Tree.unboundLeaves_eq_waiting (tree : Tree η α) :
    tree.unboundLeaves = tree.root.waiting [] := by
  simp [unboundLeaves, Node.waiting]

theorem Part.isUnbound_install (part : Part α) (tip : Leaf α) :
    (part.install tip).isUnbound = (tip.isUnbound && !part.fits tip) := by
  cases fit : part.fits tip with
  | false => simp [install, fit]
  | true => cases tip <;> simp [install, fit, Leaf.rebind, Leaf.isUnbound]

theorem Node.isUnbound_install (part : Part α) (node : Node η α) :
    (node.relabel id part.install id).isUnbound = (node.isUnbound && !node.takes part) := by
  cases node with
  | leaf info tip => exact part.isUnbound_install tip
  | composite info rule children => rfl
  | decorator info rule child => rfl

theorem Node.waiting_relabel {β : Type} {onInfo : Info η → Info η} {onLeaf : Leaf α → Leaf β}
    {onRule : Decorator → Decorator} (path : ∀ info, (onInfo info).path = info.path)
    {parts : List (Part β)} {others : List (Part α)} (node : Node η α)
    (waits : ∀ sub : Node η α,
      ((sub.relabel onInfo onLeaf onRule).isUnbound &&
          !parts.any ((sub.relabel onInfo onLeaf onRule).takes ·)) =
        (sub.isUnbound && !others.any (sub.takes ·))) :
    (node.relabel onInfo onLeaf onRule).waiting parts = node.waiting others := by
  rw [waiting, preorder_relabel, List.filter_map, List.map_map, waiting]
  congr 1
  · funext sub
    simp [Node.path, path]
  · congr 1
    exact funext waits

theorem Node.waiting_install (part : Part α) (parts : List (Part α)) (node : Node η α) :
    (node.relabel id part.install id).waiting parts = node.waiting (part :: parts) := by
  refine waiting_relabel ?_ node fun sub => ?_
  · exact fun _ => rfl
  have taken (other : Part α) : (sub.relabel id part.install id).takes other = sub.takes other :=
    takes_relabel (fun tip => Part.fits_of_blank_eq (part.blank_install tip) other) sub
  simp only [isUnbound_install, taken, List.any_cons, Bool.not_or, Bool.and_assoc]

theorem Leaf.isUnbound_muted (tip : Leaf α) : tip.muted.isUnbound = tip.isUnbound := by
  cases tip <;> simp [muted, isUnbound]

theorem Leaf.slot_muted (tip : Leaf α) : tip.muted.slot = tip.slot := by
  cases tip <;> rfl

def Part.muted (part : Part α) : Part Unit where
  kind := part.kind
  slot := part.slot
  routine := ()

theorem Part.fits_muted (part : Part α) (tip : Leaf α) :
    part.muted.fits tip.muted = part.fits tip := by
  cases tip <;> rfl

namespace Node

section
variable {β : Type} {onInfo : Info η → Info η} {onLeaf : Leaf α → Leaf β}
  {onRule : Decorator → Decorator}

theorem isUnbound_relabel (kept : ∀ tip, (onLeaf tip).isUnbound = tip.isUnbound)
    (node : Node η α) : (node.relabel onInfo onLeaf onRule).isUnbound = node.isUnbound := by
  cases node with
  | leaf info tip => exact kept tip
  | composite info rule children => rfl
  | decorator info rule child => rfl

theorem slot_relabel (kept : ∀ tip, (onLeaf tip).slot = tip.slot) (node : Node η α) :
    (node.relabel onInfo onLeaf onRule).slot = node.slot := by
  cases node with
  | leaf info tip => exact kept tip
  | composite info rule children => rfl
  | decorator info rule child => rfl

end

theorem waiting_muted (parts : List (Part α)) (node : Node η α) :
    node.muted.waiting (parts.map Part.muted) = node.waiting parts := by
  rw [muted]
  refine waiting_relabel ?_ node fun sub => ?_
  · exact fun _ => rfl
  simp only [isUnbound_relabel Leaf.isUnbound_muted, List.any_map, Function.comp_def,
    takes_relabel (Part.fits_muted _)]

theorem waiting_evaluate [Host η α] (parts : List (Part α)) (node : Node η α) (board : Board η) :
    (node.evaluate board).subject.waiting parts = node.waiting parts := by
  -- Evaluations put other routines into leaves, but only where there are routines.
  rw [← waiting_muted, muted_evaluate, waiting_muted]

end Node

section
variable [Host η α]

theorem Tree.waiting_perform (parts : List (Part α)) (tree : Tree η α)
    (operation : Operation η α) :
    (tree.perform operation).root.waiting parts =
      tree.root.waiting (operation.part?.toList ++ parts) := by
  have bound (part : Part α) :
      (tree.perform part.operation).root.waiting parts = tree.root.waiting (part :: parts) := by
    rw [tree.perform_operation]
    exact Node.waiting_install part parts tree.root
  cases operation with
  | tick => exact Node.waiting_evaluate parts tree.root tree.board
  | bindAction slot routine => exact bound ⟨.action, slot, routine⟩
  | bindCondition slot test => exact bound ⟨.condition, slot, test⟩
  | edit change | evaluate board | plant board => rfl

theorem Tree.waiting_after (parts : List (Part α)) (tree : Tree η α)
    (operations : List (Operation η α)) :
    (tree.after operations).root.waiting parts =
      tree.root.waiting (bindings operations ++ parts) := by
  induction operations generalizing tree with
  | nil => rfl
  | cons operation operations ih =>
      have split : bindings (operation :: operations) =
          operation.part?.toList ++ bindings operations := by
        rw [bindings, List.filterMap_cons]
        cases operation.part? <;> rfl
      rw [split, List.append_assoc, ← waiting_perform]
      exact ih (tree.perform operation)

end

namespace Node

def Unattached (node : Node η α) : Prop :=
  ∀ sub ∈ node.preorder, sub.isUnbound = sub.slot.isSome

theorem unattached_iff {node : Node η α} :
    node.Unattached ↔ node.isUnbound = node.slot.isSome ∧
      ∀ child ∈ node.children, child.Unattached :=
  forall_mem_preorder_iff

theorem unattached_relabel {β : Type} {onInfo : Info η → Info η} {onLeaf : Leaf α → Leaf β}
    {onRule : Decorator → Decorator} (unbound : ∀ tip, (onLeaf tip).isUnbound = tip.isUnbound)
    (slot : ∀ tip, (onLeaf tip).slot = tip.slot) {node : Node η α} :
    (node.relabel onInfo onLeaf onRule).Unattached ↔ node.Unattached := by
  rw [Unattached, preorder_relabel, List.forall_mem_map]
  simp only [isUnbound_relabel unbound, slot_relabel slot]
  rfl

theorem Unattached.plant {node : Node η α} (unattached : node.Unattached) (path : String) :
    (node.plant path).subject.Unattached := by
  have unlabelled {node : Node η α} :
      (node.relabel (fun _ => {}) id id).Unattached ↔ node.Unattached :=
    unattached_relabel (fun _ => rfl) fun _ => rfl
  rw [← unlabelled, relabel_plant fun _ _ => rfl, unlabelled]
  exact unattached

theorem Unattached.evaluate [Host η α] {node : Node η α} (unattached : node.Unattached)
    (board : Board η) : (node.evaluate board).subject.Unattached := by
  have muted {node : Node η α} : node.muted.Unattached ↔ node.Unattached :=
    unattached_relabel Leaf.isUnbound_muted Leaf.slot_muted
  rw [← muted, muted_evaluate, muted]
  exact unattached

theorem Unattached.waiting_eq {node : Node η α} (unattached : node.Unattached)
    (parts : List (Part α)) :
    node.waiting parts =
      (node.preorder.filter fun sub => sub.slot.isSome && !parts.any (sub.takes ·)).map
        (·.path) := by
  rw [waiting]
  congr 1
  apply List.filter_congr
  intro sub member
  rw [unattached sub member]

theorem Fresh.unattached {node : Node η α} (fresh : node.Fresh) : node.Unattached := by
  induction fresh with
  | action | constant | condition | actionSlot | conditionSlot =>
      exact unattached_iff.2 ⟨rfl, nofun⟩
  | sequence _ ih => exact unattached_iff.2 ⟨rfl, ih⟩
  | selector _ ih => exact unattached_iff.2 ⟨rfl, ih⟩
  | parallel successes failures _ ih => exact unattached_iff.2 ⟨rfl, ih⟩
  | inverter _ ih => exact unattached_iff.2 ⟨rfl, List.forall_mem_singleton.2 ih⟩
  | repeater limit _ ih => exact unattached_iff.2 ⟨rfl, List.forall_mem_singleton.2 ih⟩
  | untilFail _ ih => exact unattached_iff.2 ⟨rfl, List.forall_mem_singleton.2 ih⟩
  | @named node name _ ih =>
      rw [unattached_iff] at ih ⊢
      rw [Node.named, isUnbound_withInfo, children_withInfo]
      have slot : (node.withInfo { node.info with name := some name }).slot = node.slot := by
        cases node <;> rfl
      rwa [slot]

end Node

end Behavior
