import Behavior.Node.Evaluation
import Behavior.Node.Traversal
import Behavior.Tree.Planting

namespace Behavior

structure Tree (η : Type) [HostTypes η] (α : Type) where
  root : Node η α
  board : Board η
  nodeCount : Nat
  ticks : UInt64 := 0

namespace Tree

variable {η : Type} [HostTypes η] {α : Type}

def build (root : Node η α) (board : Board η) : Tree η α × List Record :=
  let planted := root.plant "root"
  ({ root := planted.subject, board, nodeCount := planted.count },
    planted.records ++ [.built planted.count planted.unbound])

/-- Evaluates the root once. A tick that panics does not count. -/
def tick [Host η α] (tree : Tree η α) : Outcome η α (Tree η α) Status :=
  let outcome := tree.root.evaluate tree.board
  let ticks := match outcome.result with
    | .ok _ => tree.ticks + 1
    | .error _ => tree.ticks
  outcome.map (fun root => { tree with root, board := outcome.board, ticks }) id

def unboundLeaves (tree : Tree η α) : List String :=
  (tree.root.preorder.filter (·.isUnbound)).map (·.path)

end Tree

end Behavior
