import Std.Data.String.ToNat
import Behavior.Proofs.Session

namespace Behavior

def pathFrom (path : String) (address : List Nat) : String :=
  address.foldl childPath path

@[simp] theorem pathFrom_nil (path : String) : pathFrom path [] = path := rfl

@[simp] theorem pathFrom_cons (path : String) (index : Nat) (rest : List Nat) :
    pathFrom path (index :: rest) = pathFrom (childPath path index) rest := rfl

/-- An address written out, as in `/0/2`. -/
def spelling (address : List Nat) : List Char :=
  address.flatMap fun index => '/' :: (toString index).toList

theorem toList_pathFrom (path : String) (address : List Nat) :
    (pathFrom path address).toList = path.toList ++ spelling address := by
  induction address generalizing path with
  | nil => simp [spelling]
  | cons index rest ih => simp [ih, childPath, spelling]

theorem slash_notMem_toString (n : Nat) : '/' ∉ (toString n).toList := by
  intro member
  have listed : '/' ∈ Nat.toDigits 10 n := by simpa using member
  have digit := Nat.isDigit_of_mem_toDigits (by decide) (by decide) listed
  cases digit

theorem takeWhile_spelling (index : Nat) (rest : List Nat) :
    ((toString index).toList ++ spelling rest).takeWhile (· != '/') = (toString index).toList := by
  have digits : ∀ c ∈ (toString index).toList, (c != '/') = true := by
    intro c member
    rw [bne_iff_ne]
    rintro rfl
    exact slash_notMem_toString index member
  -- What follows the digits is nothing, or it starts with a slash.
  have stop : (spelling rest).takeWhile (· != '/') = [] := by
    cases rest with
    | nil => rfl
    | cons next rest => rfl
  rw [List.takeWhile_append_of_pos digits, stop, List.append_nil]

theorem spelling_injective : Function.Injective spelling := by
  intro address
  induction address with
  | nil =>
      intro other same
      cases other with
      | nil => rfl
      | cons index rest => cases same
  | cons index rest ih =>
      intro other same
      cases other with
      | nil => cases same
      | cons index' rest' =>
          have tails : (toString index).toList ++ spelling rest =
              (toString index').toList ++ spelling rest' := (List.cons.inj same).2
          have digits := congrArg (List.takeWhile (· != '/')) tails
          rw [takeWhile_spelling, takeWhile_spelling] at digits
          obtain rfl : index = index' := Nat.repr_injective (String.toList_inj.1 digits)
          rw [ih (List.append_cancel_left tails)]

theorem pathFrom_injective (path : String) : Function.Injective (pathFrom path) := by
  intro address other same
  apply spelling_injective
  have lists := congrArg String.toList same
  rw [toList_pathFrom, toList_pathFrom] at lists
  exact List.append_cancel_left lists

theorem pathFrom_root_ne_empty (address : List Nat) : pathFrom "root" address ≠ "" := by
  intro empty
  have lists := congrArg String.toList empty
  rw [toList_pathFrom] at lists
  simp at lists

namespace Node

variable {η : Type} [HostTypes η] {α : Type}

def Addressed (path : String) (node : Node η α) : Prop :=
  ∀ address sub, node.at? address = some sub → sub.path = pathFrom path address

theorem getElem?_plantFrom (path : String) (first index : Nat) (nodes : List (Node η α)) :
    (plantFrom path first nodes).subject[index]? =
      nodes[index]?.map fun node => (node.plant (childPath path (first + index))).subject := by
  induction nodes generalizing first index with
  | nil => rfl
  | cons node rest ih =>
      cases index with
      | zero => rfl
      | succ index =>
          simp only [plantFrom, List.getElem?_cons_succ, ih]
          rw [show first + 1 + index = first + (index + 1) by omega]

theorem getElem?_children_plant (node : Node η α) (path : String) (index : Nat) :
    (node.plant path).subject.children[index]? =
      node.children[index]?.map fun child => (child.plant (childPath path index)).subject := by
  cases node with
  | leaf info tip => cases unbound : tip.isUnbound <;> simp [plant, unbound, children]
  | composite info rule nodes =>
      have found := getElem?_plantFrom path 0 index nodes
      rw [Nat.zero_add] at found
      exact found
  | decorator info rule child =>
      cases index with
      | zero => rfl
      | succ index => rfl

theorem path_plant (node : Node η α) (path : String) : (node.plant path).subject.path = path := by
  cases node with
  | leaf info tip => cases unbound : tip.isUnbound <;> simp [plant, unbound, Node.path]
  | composite info rule nodes => rfl
  | decorator info rule child => rfl

theorem addressed_plant (node : Node η α) (path : String) :
    (node.plant path).subject.Addressed path := by
  intro address sub located
  induction address generalizing node path with
  | nil =>
      obtain rfl : (node.plant path).subject = sub := by simpa using located
      exact path_plant node path
  | cons index rest ih =>
      obtain ⟨child, found, below⟩ := at?_cons_eq_some_iff.1 located
      rw [getElem?_children_plant] at found
      obtain ⟨original, -, rfl⟩ := Option.map_eq_some_iff.1 found
      exact ih original (childPath path index) below

theorem addressed_relabel {β : Type} {onInfo : Info η → Info η} {onLeaf : Leaf α → Leaf β}
    {onRule : Decorator → Decorator} (paths : ∀ info, (onInfo info).path = info.path)
    {node : Node η α} {path : String} :
    (node.relabel onInfo onLeaf onRule).Addressed path ↔ node.Addressed path := by
  have path_relabel (sub : Node η α) : (sub.relabel onInfo onLeaf onRule).path = sub.path := by
    simp [Node.path, paths]
  constructor
  · intro addressed address sub located
    rw [← addressed address _ (by rw [at?_relabel, located]; rfl), path_relabel]
  · intro addressed address sub located
    rw [at?_relabel] at located
    obtain ⟨original, found, rfl⟩ := Option.map_eq_some_iff.1 located
    rw [path_relabel, addressed address original found]

theorem addressed_shape {node : Node η α} {path : String} :
    node.shape.Addressed path ↔ node.Addressed path := by
  rw [shape, addressed_relabel]
  exact fun _ => rfl

theorem addressed_evaluate [Host η α] {node : Node η α} {path : String} (board : Board η) :
    (node.evaluate board).subject.Addressed path ↔ node.Addressed path := by
  rw [← addressed_shape, shape_evaluate, addressed_shape]

theorem addressed_replaceLeaves {node : Node η α} {path : String}
    {change : Leaf α → Option (Leaf α)} (keeps : KeepsSlots change) :
    (node.replaceLeaves change).2.Addressed path ↔ node.Addressed path := by
  rw [← addressed_shape, shape, relabel_replaceLeaves keeps, ← shape, addressed_shape]

theorem Addressed.injective {node : Node η α} {path : String} (addressed : node.Addressed path)
    {first second : List Nat} {sub other : Node η α} (one : node.at? first = some sub)
    (two : node.at? second = some other) (same : sub.path = other.path) : first = second := by
  rw [addressed first sub one, addressed second other two] at same
  exact pathFrom_injective path same

end Node

theorem Run.addressed {η : Type} [HostTypes η] {α : Type} [Host η α] {node : Node η α}
    {board : Board η} {stage : Stage η α} {events : List (Event η α)}
    (run : Run (.planted (Tree.build node board).1) stage events) :
    stage.root.Addressed "root" :=
  run.root_invariant (·.Addressed "root") (Node.addressed_plant node "root")
    (fun addressed _ => (Node.addressed_evaluate _).2 addressed)
    (fun _ => Node.addressed_plant _ "root")
    (fun addressed keeps => (Node.addressed_replaceLeaves keeps).2 addressed)

end Behavior
