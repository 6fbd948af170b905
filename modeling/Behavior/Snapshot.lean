import Behavior.Tree.Basic

namespace Behavior

structure NodeSnapshot where
  path : String
  kind : Kind
  name : Option String
  status : Option Status
  children : List NodeSnapshot

namespace NodeSnapshot

variable {η : Type} [HostTypes η] {α : Type}

mutual

def ofNode : Node η α → NodeSnapshot
  | .leaf info tip => mk info.path (.leaf tip.kind) info.name info.status []
  | .composite info rule children =>
      mk info.path rule.kind info.name info.status (ofNodes children)
  | .decorator info rule child => mk info.path rule.kind info.name info.status [ofNode child]

def ofNodes : List (Node η α) → List NodeSnapshot
  | [] => []
  | node :: rest => ofNode node :: ofNodes rest

end

mutual

def find? (path : String) : NodeSnapshot → Option NodeSnapshot
  | mk own kind name status children =>
      if own = path then some (mk own kind name status children) else findAmong? path children

def findAmong? (path : String) : List NodeSnapshot → Option NodeSnapshot
  | [] => none
  | node :: rest => (node.find? path).or (findAmong? path rest)

end

mutual

def runningPaths : NodeSnapshot → List String
  | mk path _ _ status children =>
      (if status = some .running then [path] else []) ++ runningAmong children

def runningAmong : List NodeSnapshot → List String
  | [] => []
  | node :: rest => node.runningPaths ++ runningAmong rest

end

mutual

def same : NodeSnapshot → NodeSnapshot → Bool
  | mk path kind name status children, mk path' kind' name' status' children' =>
      path = path' && kind = kind' && name = name' && status = status' &&
        sameAll children children'

def sameAll : List NodeSnapshot → List NodeSnapshot → Bool
  | [], [] => true
  | node :: rest, node' :: rest' => node.same node' && sameAll rest rest'
  | _, _ => false

end

instance : BEq NodeSnapshot := ⟨same⟩

mutual

theorem same_iff_eq : ∀ {a b : NodeSnapshot}, a.same b ↔ a = b
  | mk .., mk .. => by simp [same, sameAll_iff_eq, and_assoc]

theorem sameAll_iff_eq : ∀ {as bs : List NodeSnapshot}, sameAll as bs ↔ as = bs
  | [], [] => by simp [sameAll]
  | [], _ :: _ => by simp [sameAll]
  | _ :: _, [] => by simp [sameAll]
  | a :: as, b :: bs => by simp [sameAll, @same_iff_eq a b, @sameAll_iff_eq as bs]

end

mutual

def form : NodeSnapshot → Text.Form
  | mk path kind name status children =>
      .record "NodeSnapshot"
        [.field "path" (.text path), .field "kind" (.text kind.label),
          .field "name" (.optional (name.map .text)),
          .field "state" (.optional (status.map (.word ·.label))),
          .field "children" (.list (forms children))]

def forms : List NodeSnapshot → List Text.Form
  | [] => []
  | node :: rest => node.form :: forms rest

end

end NodeSnapshot

structure TreeSnapshot where
  ticks : UInt64
  root : NodeSnapshot
deriving BEq

namespace TreeSnapshot

def form (snapshot : TreeSnapshot) : Text.Form :=
  .record "TreeSnapshot"
    [.field "ticks" (.word (toString snapshot.ticks)), .field "root" snapshot.root.form]

end TreeSnapshot

def Tree.snapshot {η : Type} [HostTypes η] {α : Type} (tree : Tree η α) : TreeSnapshot :=
  ⟨tree.ticks, .ofNode tree.root⟩

end Behavior
