import Behavior.Proofs.Address

namespace Behavior

variable {η : Type} [HostTypes η] {α : Type} [Host η α]

/-- The tree after the operation. What is done to bare nodes only is not done to it. -/
def Tree.perform (tree : Tree η α) (operation : Operation η α) : Tree η α :=
  match (Stage.planted tree).perform operation with
  | some { stage := .planted later, .. } => later
  | _ => tree

def Tree.after (tree : Tree η α) (operations : List (Operation η α)) : Tree η α :=
  operations.foldl Tree.perform tree

def ticking (edits : List (Board η → Board η)) : List (Operation η α) :=
  edits.flatMap fun edit => [.edit edit, .tick]

theorem Tree.root_perform (tree : Tree η α) (operation : Operation η α) :
    (tree.perform operation).root = (tree.root.evaluate tree.board).subject ∨
      (tree.perform operation).root = tree.root ∨
      ∃ change, KeepsSlots change ∧
        (tree.perform operation).root = (tree.root.replaceLeaves change).2 := by
  unfold perform
  cases performed : (Stage.planted tree).perform operation with
  | none => exact .inr (.inl rfl)
  | some turn =>
      rcases Stage.perform_planted performed with rfl | ⟨later, rfl, kept⟩
      · exact .inl rfl
      · exact .inr kept

theorem Tree.root_after {tree : Tree η α} (operations : List (Operation η α))
    (holds : Node η α → Prop) (initially : holds tree.root)
    (evaluated : ∀ {node : Node η α} {board}, holds node → holds (node.evaluate board).subject)
    (replaced : ∀ {node : Node η α} {change}, holds node → KeepsSlots change →
      holds (node.replaceLeaves change).2) :
    holds (tree.after operations).root := by
  induction operations generalizing tree with
  | nil => exact initially
  | cons operation operations ih =>
      apply ih
      rcases tree.root_perform operation with same | same | ⟨change, keeps, same⟩
      · rw [same]
        exact evaluated initially
      · rwa [same]
      · rw [same]
        exact replaced initially keeps

theorem Tree.addressed_after (node : Node η α) (board : Board η)
    (operations : List (Operation η α)) :
    ((build node board).1.after operations).root.Addressed "root" := by
  apply root_after operations (·.Addressed "root")
  · exact Node.addressed_plant node "root"
  · exact fun addressed => (Node.addressed_evaluate _).2 addressed
  · exact fun addressed keeps => (Node.addressed_replaceLeaves keeps).2 addressed

end Behavior
