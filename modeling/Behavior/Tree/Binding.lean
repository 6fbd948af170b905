import Behavior.Tree.Basic

namespace Behavior

inductive BindError where
  | unknownAction (slot : String)
  | unknownCondition (slot : String)
deriving DecidableEq

def BindError.message : BindError → String
  | unknownAction slot => "no action slot named " ++ Text.quoted slot
  | unknownCondition slot => "no condition slot named " ++ Text.quoted slot

namespace Leaf

variable {α : Type}

def bindAction? (slot : String) (routine : α) : Leaf α → Option (Leaf α)
  | action (some own) _ =>
      if own = slot then some (action (some own) (some (.routine routine))) else none
  | _ => none

def bindCondition? (slot : String) (test : α) : Leaf α → Option (Leaf α)
  | condition (some own) _ =>
      if own = slot then some (condition (some own) (some test)) else none
  | _ => none

end Leaf

namespace Node

variable {η : Type} [HostTypes η] {α : Type}

mutual

def replaceLeaves (change : Leaf α → Option (Leaf α)) : Node η α → Nat × Node η α
  | .leaf info tip =>
      match change tip with
      | some tip => (1, .leaf info tip)
      | none => (0, .leaf info tip)
  | .composite info rule children =>
      (replaceAllLeaves change children).map id (.composite info rule)
  | .decorator info rule child => (child.replaceLeaves change).map id (.decorator info rule)

def replaceAllLeaves (change : Leaf α → Option (Leaf α)) :
    List (Node η α) → Nat × List (Node η α)
  | [] => (0, [])
  | node :: rest =>
      let (count, node) := node.replaceLeaves change
      let (others, rest) := replaceAllLeaves change rest
      (count + others, node :: rest)

end

end Node

namespace Tree

variable {η : Type} [HostTypes η] {α : Type}

def bindAction (tree : Tree η α) (slot : String) (routine : α) :
    Except BindError (Nat × Tree η α) :=
  match tree.root.replaceLeaves (·.bindAction? slot routine) with
  | (0, _) => .error (.unknownAction slot)
  | (count, root) => .ok (count, { tree with root })

def bindCondition (tree : Tree η α) (slot : String) (test : α) :
    Except BindError (Nat × Tree η α) :=
  match tree.root.replaceLeaves (·.bindCondition? slot test) with
  | (0, _) => .error (.unknownCondition slot)
  | (count, root) => .ok (count, { tree with root })

end Tree

end Behavior
