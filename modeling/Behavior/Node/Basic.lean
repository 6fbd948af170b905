import Behavior.Board.Basic

namespace Behavior

inductive Callback (α : Type) where
  | constant (status : Status)
  | routine (routine : α)

inductive RepeatCount where
  | times (count : UInt64)
  | forever
deriving DecidableEq

namespace RepeatCount

/-- The count given by a signed number: `-1` is no limit, and any other negative number is a limit
that is met from the start. -/
def ofInt32 (n : Int32) : RepeatCount :=
  if n = -1 then forever
  else if n < 0 then times 0
  else times n.toInt64.toUInt64

def form : RepeatCount → Text.Form
  | times count => .wrapped "Times" (.word (toString count))
  | forever => .word "Forever"

end RepeatCount

/-- A leaf. The slot is the name under which a callback can be bound later; a leaf without a
callback is unbound. -/
inductive Leaf (α : Type) where
  | action (slot : Option String) (callback : Option (Callback α))
  | condition (slot : Option String) (test : Option α)

inductive Composite where
  | sequence
  | selector
  | parallel (successes failures : UInt64)
deriving DecidableEq

inductive Decorator where
  | inverter
  | repeater (limit : RepeatCount) (completed : UInt64)
  | untilFail
deriving DecidableEq

structure Info (η : Type) [HostTypes η] where
  name : Option String := none
  path : String := ""
  status : Option Status := none
  scratch : Entries η := ∅

inductive Node (η : Type) [HostTypes η] (α : Type) where
  | leaf (info : Info η) (tip : Leaf α)
  | composite (info : Info η) (rule : Composite) (children : List (Node η α))
  | decorator (info : Info η) (rule : Decorator) (child : Node η α)

namespace Leaf

variable {α : Type}

def kind : Leaf α → LeafKind
  | action .. => .action
  | condition .. => .condition

def slot : Leaf α → Option String
  | action slot _ => slot
  | condition slot _ => slot

def isUnbound : Leaf α → Bool
  | action _ callback => callback.isNone
  | condition _ test => test.isNone

end Leaf

def Composite.kind : Composite → Kind
  | sequence => .sequence
  | selector => .selector
  | parallel .. => .parallel

def Decorator.kind : Decorator → Kind
  | inverter => .inverter
  | repeater .. => .repeater
  | untilFail => .untilFail

namespace Node

variable {η : Type} [HostTypes η] {α : Type}

def action (routine : α) : Node η α :=
  .leaf {} (.action none (some (.routine routine)))

def constant (status : Status) : Node η α :=
  .leaf {} (.action none (some (.constant status)))

def condition (test : α) : Node η α :=
  .leaf {} (.condition none (some test))

def actionSlot (slot : String) : Node η α :=
  .leaf { name := some slot } (.action (some slot) none)

def conditionSlot (slot : String) : Node η α :=
  .leaf { name := some slot } (.condition (some slot) none)

def sequence (children : List (Node η α)) : Node η α :=
  .composite {} .sequence children

def selector (children : List (Node η α)) : Node η α :=
  .composite {} .selector children

def parallel (children : List (Node η α)) (successes failures : UInt64) : Node η α :=
  .composite {} (.parallel successes failures) children

def inverter (child : Node η α) : Node η α :=
  .decorator {} .inverter child

def repeater (child : Node η α) (limit : RepeatCount) : Node η α :=
  .decorator {} (.repeater limit 0) child

def forever (child : Node η α) : Node η α :=
  child.repeater .forever

def untilFail (child : Node η α) : Node η α :=
  .decorator {} .untilFail child

def info : Node η α → Info η
  | .leaf info _ => info
  | .composite info _ _ => info
  | .decorator info _ _ => info

def withInfo (info : Info η) : Node η α → Node η α
  | .leaf _ tip => .leaf info tip
  | .composite _ rule children => .composite info rule children
  | .decorator _ rule child => .decorator info rule child

def named (node : Node η α) (name : String) : Node η α :=
  node.withInfo { node.info with name := some name }

def name (node : Node η α) : Option String :=
  node.info.name

def path (node : Node η α) : String :=
  node.info.path

def status (node : Node η α) : Option Status :=
  node.info.status

def kind : Node η α → Kind
  | .leaf _ tip => .leaf tip.kind
  | .composite _ rule _ => rule.kind
  | .decorator _ rule _ => rule.kind

def children : Node η α → List (Node η α)
  | .leaf .. => []
  | .composite _ _ children => children
  | .decorator _ _ child => [child]

def isUnbound : Node η α → Bool
  | .leaf _ tip => tip.isUnbound
  | .composite .. => false
  | .decorator .. => false

def getLocal? (node : Node η α) (key : String) (type : ValueType η) :
    Except TypeMismatch (Option type.Carrier) :=
  node.info.scratch.read? key type

def getLocalD (node : Node η α) (key : String) (type : ValueType η) (default : type.Carrier) :
    Except TypeMismatch type.Carrier :=
  (node.getLocal? key type).map (·.getD default)

variable (node : Node η α) (info : Info η)

@[simp] theorem info_withInfo : (node.withInfo info).info = info := by
  cases node <;> rfl

@[simp] theorem kind_withInfo : (node.withInfo info).kind = node.kind := by
  cases node <;> rfl

@[simp] theorem children_withInfo : (node.withInfo info).children = node.children := by
  cases node <;> rfl

@[simp] theorem isUnbound_withInfo : (node.withInfo info).isUnbound = node.isUnbound := by
  cases node <;> rfl

end Node

end Behavior
