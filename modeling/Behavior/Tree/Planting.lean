import Behavior.Node.Basic

namespace Behavior

structure Planted (σ : Type) where
  subject : σ
  count : Nat
  unbound : Nat
  records : List Record

namespace Planted

variable {σ τ : Type}

def map (f : σ → τ) (planted : Planted σ) : Planted τ :=
  { planted with subject := f planted.subject }

def withParent (planted : Planted σ) : Planted σ :=
  { planted with count := 1 + planted.count }

end Planted

def childPath (path : String) (index : Nat) : String :=
  path ++ "/" ++ toString index

namespace Node

variable {η : Type} [HostTypes η] {α : Type}

mutual

def plant (path : String) : Node η α → Planted (Node η α)
  | .leaf info tip =>
      let subject := .leaf { info with path } tip
      if tip.isUnbound then ⟨subject, 1, 1, [.unboundLeaf tip.kind path]⟩
      else ⟨subject, 1, 0, []⟩
  | .composite info rule children =>
      (plantFrom path 0 children).withParent.map (.composite { info with path } rule)
  | .decorator info rule child =>
      (child.plant (childPath path 0)).withParent.map (.decorator { info with path } rule)

/-- Plants the children of the node with the given path, the first of them with index `index`. -/
def plantFrom (path : String) (index : Nat) : List (Node η α) → Planted (List (Node η α))
  | [] => ⟨[], 0, 0, []⟩
  | node :: rest =>
      let first := node.plant (childPath path index)
      let others := plantFrom path (index + 1) rest
      { subject := first.subject :: others.subject
        count := first.count + others.count
        unbound := first.unbound + others.unbound
        records := first.records ++ others.records }

end

end Node

end Behavior
