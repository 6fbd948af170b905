import Behavior.Kind
import Behavior.Status
import Behavior.Text.Quoted

namespace Behavior

inductive Level where
  | error
  | warn
  | info
  | debug
  | trace
deriving DecidableEq

namespace Level

def label : Level → String
  | error => "ERROR"
  | warn => "WARN"
  | info => "INFO"
  | debug => "DEBUG"
  | trace => "TRACE"

def rank : Level → Nat
  | error => 0
  | warn => 1
  | info => 2
  | debug => 3
  | trace => 4

/-- Whether a record of this level is kept when `limit` is the least severe level wanted, or no
level at all. -/
def passes (level : Level) (limit : Option Level) : Bool :=
  match limit with
  | some limit => level.rank ≤ limit.rank
  | none => false

end Level

inductive Record where
  | missingCallback (kind : LeafKind) (path : String)
  | unboundLeaf (kind : LeafKind) (path : String)
  | built (nodes unbound : Nat)
  | evaluated (path : String) (status : Status)
  | strayWrite (key : String)
deriving DecidableEq

namespace Record

def level : Record → Level
  | missingCallback .. => .error
  | unboundLeaf .. => .warn
  | built .. => .debug
  | evaluated .. => .trace
  | strayWrite .. => .warn

def account : Record → String
  | missingCallback .action path => "action " ++ path ++ " has no callback assigned"
  | missingCallback .condition path => "condition " ++ path ++ " has no callback assigned"
  | unboundLeaf kind path =>
      kind.label ++ " leaf " ++ path ++ " has no callback and will always fail"
  | built nodes unbound =>
      "built tree with " ++ toString nodes ++ " nodes, " ++ toString unbound ++ " unbound"
  | evaluated path status => path ++ " -> " ++ status.label
  | strayWrite key =>
      "set_local(" ++ Text.quoted key ++ ") outside a leaf callback is ignored"

def message (record : Record) : String :=
  "[npc_behavior_tree]: " ++ record.account

end Record

end Behavior
