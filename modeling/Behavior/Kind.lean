namespace Behavior

inductive LeafKind where
  | action
  | condition
deriving DecidableEq

def LeafKind.label : LeafKind → String
  | action => "Action"
  | condition => "Condition"

inductive Kind where
  | leaf (kind : LeafKind)
  | sequence
  | selector
  | parallel
  | inverter
  | repeater
  | untilFail
deriving DecidableEq

def Kind.label : Kind → String
  | leaf kind => kind.label
  | sequence => "Sequence"
  | selector => "Selector"
  | parallel => "Parallel"
  | inverter => "Inverter"
  | repeater => "Repeater"
  | untilFail => "UntilFail"

theorem Kind.label_injective {kind other : Kind} (same : kind.label = other.label) :
    kind = other := by
  rcases kind with ⟨_ | _⟩ | _ | _ | _ | _ | _ | _ <;>
    rcases other with ⟨_ | _⟩ | _ | _ | _ | _ | _ | _ <;>
    first | rfl | exact absurd same (by decide)

end Behavior
