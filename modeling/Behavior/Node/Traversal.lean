import Behavior.Node.Basic

namespace Behavior.Node

variable {η : Type} [HostTypes η] {α : Type}

def at? (node : Node η α) : List Nat → Option (Node η α)
  | [] => some node
  | index :: rest => node.children[index]?.bind (·.at? rest)

mutual

def size : Node η α → Nat
  | .leaf .. => 1
  | .composite _ _ children => 1 + sizes children
  | .decorator _ _ child => 1 + child.size

def sizes : List (Node η α) → Nat
  | [] => 0
  | node :: rest => node.size + sizes rest

end

mutual

def preorder : Node η α → List (Node η α)
  | .leaf info tip => [.leaf info tip]
  | .composite info rule children => .composite info rule children :: preorders children
  | .decorator info rule child => .decorator info rule child :: child.preorder

def preorders : List (Node η α) → List (Node η α)
  | [] => []
  | node :: rest => node.preorder ++ preorders rest

end

variable (node : Node η α)

theorem preorders_eq_flatMap (nodes : List (Node η α)) :
    preorders nodes = nodes.flatMap preorder := by
  induction nodes with
  | nil => rfl
  | cons node rest ih => simp [preorders, ih]

theorem preorder_eq : node.preorder = node :: node.children.flatMap preorder := by
  cases node <;> simp [preorder, children, preorders_eq_flatMap]

@[simp] theorem at?_nil : node.at? [] = some node := rfl

@[simp] theorem at?_cons (index : Nat) (rest : List Nat) :
    node.at? (index :: rest) = node.children[index]?.bind (·.at? rest) := rfl

theorem at?_append (first second : List Nat) :
    node.at? (first ++ second) = (node.at? first).bind (·.at? second) := by
  induction first generalizing node with
  | nil => rfl
  | cons index rest ih =>
      simp only [List.cons_append, at?_cons]
      cases node.children[index]? with
      | none => rfl
      | some child => exact ih child

mutual

theorem length_preorder : ∀ node : Node η α, node.preorder.length = node.size
  | .leaf .. => rfl
  | .composite _ _ children => by simp [preorder, size, length_preorders children]; omega
  | .decorator _ _ child => by simp [preorder, size, length_preorder child]; omega

theorem length_preorders : ∀ nodes : List (Node η α), (preorders nodes).length = sizes nodes
  | [] => rfl
  | node :: rest => by
      simp [preorders, sizes, length_preorder node, length_preorders rest]

end

end Behavior.Node
