import Mathlib.Data.List.Basic
import Behavior.Proofs.Induction
import Behavior.Tree.Binding

/-!
# Relabelling nodes

A relabelling changes what nodes carry and leaves the tree of children alone. Forgetting some part
of the nodes is a relabelling, and what an operation does not change is stated by it: planting
changes nothing but paths, and binding nothing but callbacks.
-/

namespace Behavior

variable {η : Type} [HostTypes η] {α β : Type}

def Leaf.blank : Leaf α → Leaf Unit
  | action slot _ => action slot none
  | condition slot _ => condition slot none

@[simp] theorem Leaf.kind_blank (tip : Leaf α) : tip.blank.kind = tip.kind := by
  cases tip <;> rfl

def Decorator.reset : Decorator → Decorator
  | inverter => inverter
  | repeater limit _ => repeater limit 0
  | untilFail => untilFail

namespace Node

section
variable (onInfo : Info η → Info η) (onLeaf : Leaf α → Leaf β) (onRule : Decorator → Decorator)

mutual

def relabel : Node η α → Node η β
  | .leaf info tip => .leaf (onInfo info) (onLeaf tip)
  | .composite info rule children => .composite (onInfo info) rule (relabelAll children)
  | .decorator info rule child => .decorator (onInfo info) (onRule rule) (relabel child)

def relabelAll : List (Node η α) → List (Node η β)
  | [] => []
  | node :: rest => relabel node :: relabelAll rest

end

theorem relabelAll_eq_map (nodes : List (Node η α)) :
    relabelAll onInfo onLeaf onRule nodes = nodes.map (relabel onInfo onLeaf onRule) := by
  induction nodes with
  | nil => rfl
  | cons node rest ih => simp [relabelAll, ih]

@[simp] theorem info_relabel (node : Node η α) :
    (node.relabel onInfo onLeaf onRule).info = onInfo node.info := by
  cases node <;> rfl

@[simp] theorem children_relabel (node : Node η α) :
    (node.relabel onInfo onLeaf onRule).children =
      node.children.map (relabel onInfo onLeaf onRule) := by
  cases node <;> simp [relabel, children, relabelAll_eq_map]

theorem at?_relabel (node : Node η α) (address : List Nat) :
    (node.relabel onInfo onLeaf onRule).at? address =
      (node.at? address).map (relabel onInfo onLeaf onRule) := by
  induction address generalizing node with
  | nil => rfl
  | cons index rest ih =>
      simp only [at?_cons, children_relabel, List.getElem?_map]
      cases node.children[index]? with
      | none => rfl
      | some child => exact ih child

theorem preorder_relabel (node : Node η α) :
    (node.relabel onInfo onLeaf onRule).preorder =
      node.preorder.map (relabel onInfo onLeaf onRule) := by
  induction node with
  | leaf info tip => rfl
  | composite info rule children ih =>
      rw [preorder_eq, preorder_eq, children_relabel, List.map_cons, List.map_flatMap,
        List.flatMap_map]
      congr 1
      exact List.flatMap_congr ih
  | decorator info rule child ih => simp [relabel, preorder, ih]

theorem exists_at?_of_relabel_eq {node other : Node η α}
    (same : other.relabel onInfo onLeaf onRule = node.relabel onInfo onLeaf onRule)
    {address : List Nat} {sub : Node η α} (located : other.at? address = some sub) :
    ∃ old, node.at? address = some old ∧ onInfo old.info = onInfo sub.info := by
  have labelled := at?_relabel onInfo onLeaf onRule node address
  rw [← same, at?_relabel, located] at labelled
  obtain ⟨old, found, alike⟩ := Option.map_eq_some_iff.1 labelled.symm
  refine ⟨old, found, ?_⟩
  rw [← info_relabel onInfo onLeaf onRule old, alike, info_relabel]

end

theorem relabel_id (node : Node η α) : node.relabel id id id = node := by
  induction node with
  | leaf info tip => rfl
  | composite info rule children ih =>
      rw [relabel, relabelAll_eq_map, List.map_congr_left ih, List.map_id'']
      · rfl
      · exact fun _ => rfl
  | decorator info rule child ih =>
      rw [relabel, ih]
      rfl

theorem relabel_relabel {γ : Type} (onInfo onInfo' : Info η → Info η) (onLeaf : Leaf α → Leaf β)
    (onLeaf' : Leaf β → Leaf γ) (onRule onRule' : Decorator → Decorator) (node : Node η α) :
    (node.relabel onInfo onLeaf onRule).relabel onInfo' onLeaf' onRule' =
      node.relabel (onInfo' ∘ onInfo) (onLeaf' ∘ onLeaf) (onRule' ∘ onRule) := by
  induction node with
  | leaf info tip => rfl
  | composite info rule children ih =>
      simp only [relabel, relabelAll_eq_map, List.map_map]
      congr 1
      exact List.map_congr_left ih
  | decorator info rule child ih =>
      simp only [relabel, ih]
      rfl

theorem replaceAllLeaves_eq_relabelAll {change : Leaf α → Option (Leaf α)}
    {nodes : List (Node η α)}
    (each : ∀ node ∈ nodes,
      (node.replaceLeaves change).2 = node.relabel id (fun tip => (change tip).getD tip) id) :
    (replaceAllLeaves change nodes).2 =
      relabelAll id (fun tip => (change tip).getD tip) id nodes := by
  induction nodes with
  | nil => rfl
  | cons node rest ih =>
      obtain ⟨here, there⟩ := List.forall_mem_cons.1 each
      simp only [replaceAllLeaves, relabelAll, here, ih there]

theorem replaceLeaves_eq_relabel (change : Leaf α → Option (Leaf α)) (node : Node η α) :
    (node.replaceLeaves change).2 = node.relabel id (fun tip => (change tip).getD tip) id := by
  induction node with
  | leaf info tip =>
      cases replaced : change tip <;> simp [replaceLeaves, relabel, replaced]
  | composite info rule children ih =>
      simp [replaceLeaves, relabel, replaceAllLeaves_eq_relabelAll ih]
  | decorator info rule child ih => simp [replaceLeaves, relabel, ih]

theorem replaceAllLeaves_of_count_eq_zero {change : Leaf α → Option (Leaf α)}
    {nodes : List (Node η α)}
    (each : ∀ node ∈ nodes, (node.replaceLeaves change).1 = 0 →
      (node.replaceLeaves change).2 = node)
    (zero : (replaceAllLeaves change nodes).1 = 0) : (replaceAllLeaves change nodes).2 = nodes := by
  induction nodes with
  | nil => rfl
  | cons node rest ih =>
      obtain ⟨here, there⟩ := List.forall_mem_cons.1 each
      have counts : (node.replaceLeaves change).1 + (replaceAllLeaves change rest).1 = 0 := zero
      simp only [replaceAllLeaves]
      rw [here (by omega), ih there (by omega)]

theorem replaceLeaves_of_count_eq_zero {change : Leaf α → Option (Leaf α)} {node : Node η α}
    (zero : (node.replaceLeaves change).1 = 0) : (node.replaceLeaves change).2 = node := by
  induction node with
  | leaf info tip =>
      cases replaced : change tip with
      | none => simp [replaceLeaves, replaced]
      | some new => simp [replaceLeaves, replaced] at zero
  | composite info rule children ih =>
      simp [replaceLeaves, replaceAllLeaves_of_count_eq_zero ih zero]
  | decorator info rule child ih => simp [replaceLeaves, ih zero]

/-! ## What operations leave alone -/

section
variable {onInfo : Info η → Info η} {onLeaf : Leaf α → Leaf β} {onRule : Decorator → Decorator}

theorem relabelAll_plantFrom {path : String} {index : Nat} {children : List (Node η α)}
    (same : ∀ child ∈ children, ∀ path,
      (child.plant path).subject.relabel onInfo onLeaf onRule =
        child.relabel onInfo onLeaf onRule) :
    relabelAll onInfo onLeaf onRule (plantFrom path index children).subject =
      relabelAll onInfo onLeaf onRule children := by
  induction children generalizing index with
  | nil => rfl
  | cons node rest ih =>
      obtain ⟨here, there⟩ := List.forall_mem_cons.1 same
      simp only [plantFrom, relabelAll, here, ih there]

theorem relabel_plant (pathless : ∀ info path, onInfo { info with path } = onInfo info)
    (node : Node η α) (path : String) :
    (node.plant path).subject.relabel onInfo onLeaf onRule =
      node.relabel onInfo onLeaf onRule := by
  induction node generalizing path with
  | leaf info tip =>
      cases unbound : tip.isUnbound <;> simp [plant, unbound, relabel, pathless]
  | composite info rule children ih =>
      simp [plant, Planted.map, Planted.withParent, relabel, pathless, relabelAll_plantFrom ih]
  | decorator info rule child ih =>
      simp [plant, Planted.map, Planted.withParent, relabel, pathless, ih]

theorem relabelAll_replaceAllLeaves {change : Leaf α → Option (Leaf α)}
    {children : List (Node η α)}
    (same : ∀ child ∈ children,
      (child.replaceLeaves change).2.relabel onInfo onLeaf onRule =
        child.relabel onInfo onLeaf onRule) :
    relabelAll onInfo onLeaf onRule (replaceAllLeaves change children).2 =
      relabelAll onInfo onLeaf onRule children := by
  induction children with
  | nil => rfl
  | cons node rest ih =>
      obtain ⟨here, there⟩ := List.forall_mem_cons.1 same
      simp only [replaceAllLeaves, relabelAll, here, ih there]

theorem relabel_replaceLeaves {change : Leaf α → Option (Leaf α)}
    (kept : ∀ tip new, change tip = some new → onLeaf new = onLeaf tip) (node : Node η α) :
    (node.replaceLeaves change).2.relabel onInfo onLeaf onRule =
      node.relabel onInfo onLeaf onRule := by
  induction node with
  | leaf info tip =>
      cases replaced : change tip with
      | none => simp [replaceLeaves, replaced]
      | some new => simp [replaceLeaves, replaced, relabel, kept tip new replaced]
  | composite info rule children ih =>
      simp [replaceLeaves, relabel, relabelAll_replaceAllLeaves ih]
  | decorator info rule child ih => simp [replaceLeaves, relabel, ih]

end

end Node

theorem Leaf.blank_bindAction? {slot : String} {routine : α} {tip new : Leaf α}
    (bound : tip.bindAction? slot routine = some new) : new.blank = tip.blank := by
  cases tip with
  | action own callback =>
      cases own with
      | none => simp [bindAction?] at bound
      | some own =>
          obtain ⟨-, rfl⟩ : own = slot ∧ action (some own) (some (.routine routine)) = new := by
            simpa [bindAction?] using bound
          rfl
  | condition own test => simp [bindAction?] at bound

theorem Leaf.blank_bindCondition? {slot : String} {test : α} {tip new : Leaf α}
    (bound : tip.bindCondition? slot test = some new) : new.blank = tip.blank := by
  cases tip with
  | action own callback => simp [bindCondition?] at bound
  | condition own callback =>
      cases own with
      | none => simp [bindCondition?] at bound
      | some own =>
          obtain ⟨-, rfl⟩ : own = slot ∧ condition (some own) (some test) = new := by
            simpa [bindCondition?] using bound
          rfl

/-! ## Parts of nodes -/

/-- What is fixed when a tree is planted: the shape, and the name and the path of every node. -/
def Node.shape : Node η α → Node η Unit :=
  relabel (fun info => { name := info.name, path := info.path }) Leaf.blank Decorator.reset

def Node.recorded : Node η α → Node η Unit :=
  relabel (fun info => { status := info.status }) Leaf.blank id

end Behavior
