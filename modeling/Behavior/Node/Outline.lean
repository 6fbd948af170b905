import Behavior.Node.Basic

namespace Behavior.Node

variable {η : Type} [HostTypes η] {α : Type}

def outline (kind : Kind) (info : Info η) (children : List Text.Form) : Text.Form :=
  let name := (info.name.map fun name => Text.Form.field "name" (.text name)).toList
  .record kind.label <| name ++
    [.field "path" (.text info.path),
      .field "last_state" (.optional (info.status.map (.word ·.label))),
      .field "children" (.list children)]

mutual

def form : Node η α → Text.Form
  | .leaf info tip => outline (.leaf tip.kind) info []
  | .composite info rule children => outline rule.kind info (forms children)
  | .decorator info rule child => outline rule.kind info [child.form]

def forms : List (Node η α) → List Text.Form
  | [] => []
  | node :: rest => node.form :: forms rest

end

end Behavior.Node
