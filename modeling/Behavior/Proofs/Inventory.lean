import Behavior.Proofs.Lookup

namespace Behavior

variable {η : Type} [HostTypes η] {α : Type}

/-! ## The report -/

def Node.vacancy? : Node η α → Option (LeafKind × String)
  | .leaf info tip => if tip.isUnbound then some (tip.kind, info.path) else none
  | .composite .. | .decorator .. => none

theorem Node.vacancy?_of_isUnbound {node : Node η α} (unbound : node.isUnbound = true) :
    ∃ kind, node.kind = .leaf kind ∧ node.vacancy? = some (kind, node.path) := by
  cases node with
  | leaf info tip => exact ⟨tip.kind, rfl, if_pos unbound⟩
  | composite info rule children => cases unbound
  | decorator info rule child => cases unbound

theorem Node.vacancy?_of_not_isUnbound {node : Node η α} (bound : ¬ node.isUnbound = true) :
    node.vacancy? = none := by
  cases node with
  | leaf info tip => exact if_neg bound
  | composite info rule children => rfl
  | decorator info rule child => rfl

def Tree.vacancies (tree : Tree η α) : List (LeafKind × String) :=
  tree.root.preorder.filterMap Node.vacancy?

theorem Node.map_vacancy? (nodes : List (Node η α)) :
    (nodes.filterMap vacancy?).map Prod.snd = (nodes.filter (·.isUnbound)).map path ∧
      (nodes.filterMap vacancy?).map (Kind.leaf ·.1) =
        (nodes.filter (·.isUnbound)).map kind := by
  induction nodes with
  | nil => exact ⟨rfl, rfl⟩
  | cons node rest ih =>
      obtain ⟨paths, kinds⟩ := ih
      by_cases unbound : node.isUnbound = true
      · obtain ⟨kind, known, found⟩ := vacancy?_of_isUnbound unbound
        rw [List.filterMap_cons_some found, List.filter_cons_of_pos unbound]
        simp [paths, kinds, known]
      · rw [List.filterMap_cons_none (vacancy?_of_not_isUnbound unbound),
          List.filter_cons_of_neg unbound]
        exact ⟨paths, kinds⟩

structure Planted.Covers {σ : Type} (planted : Planted σ) (walk : List (Node η α)) : Prop where
  count : planted.count = walk.length
  unbound : planted.unbound = (walk.filterMap Node.vacancy?).length
  records : planted.records =
    (walk.filterMap Node.vacancy?).map fun (kind, path) => .unboundLeaf kind path

namespace Node

theorem covers_plantFrom {children : List (Node η α)}
    (each : ∀ child ∈ children, ∀ path,
      (child.plant path).Covers (child.plant path).subject.preorder) (path : String) (index : Nat) :
    (plantFrom path index children).Covers (preorders (plantFrom path index children).subject) := by
  induction children generalizing index with
  | nil => exact ⟨rfl, rfl, rfl⟩
  | cons node rest ih =>
      obtain ⟨here, there⟩ := List.forall_mem_cons.1 each
      have first := here (childPath path index)
      have others := ih there (index + 1)
      simp only [plantFrom, preorders]
      constructor
      · rw [first.count, others.count, List.length_append]
      · rw [first.unbound, others.unbound, List.filterMap_append, List.length_append]
      · rw [first.records, others.records, List.filterMap_append, List.map_append]

theorem covers_plant (node : Node η α) (path : String) :
    (node.plant path).Covers (node.plant path).subject.preorder := by
  induction node generalizing path with
  | leaf info tip =>
      unfold plant
      by_cases unbound : tip.isUnbound = true
      · rw [if_pos unbound]
        constructor <;> simp [preorder, vacancy?, unbound]
      · rw [if_neg unbound]
        constructor <;> simp [preorder, vacancy?, unbound]
  | composite info rule children ih =>
      have below := covers_plantFrom ih path 0
      constructor
      · simp [plant, Planted.map, Planted.withParent, preorder, below.count]
        omega
      · exact below.unbound
      · exact below.records
  | decorator info rule child ih =>
      have below := ih (childPath path 0)
      constructor
      · simp [plant, Planted.map, Planted.withParent, preorder, below.count]
        omega
      · exact below.unbound
      · exact below.records

end Node

/-! ## Designs -/

/-- What is settled about a node before it is ever evaluated. -/
structure Design where
  kind : Kind
  name : Option String
  path : String
  slot : Option String
  arity : Nat
  thresholds : Option (UInt64 × UInt64)
  limit : Option RepeatCount

namespace Node

def slot : Node η α → Option String
  | .leaf _ tip => tip.slot
  | .composite .. | .decorator .. => none

def thresholds : Node η α → Option (UInt64 × UInt64)
  | .composite _ (.parallel successes failures) _ => some (successes, failures)
  | .leaf .. | .composite .. | .decorator .. => none

def limit : Node η α → Option RepeatCount
  | .decorator _ (.repeater limit _) _ => some limit
  | .leaf .. | .composite .. | .decorator .. => none

def design (node : Node η α) : Design where
  kind := node.kind
  name := node.name
  path := node.path
  slot := node.slot
  arity := node.children.length
  thresholds := node.thresholds
  limit := node.limit

theorem design_shape (node : Node η α) : node.shape.design = node.design := by
  have arity : node.shape.children.length = node.children.length := by
    rw [shape, children_relabel, List.length_map]
  cases node with
  | leaf info tip => cases tip <;> rfl
  | composite info rule children =>
      rw [design, arity]
      cases rule <;> rfl
  | decorator info rule child => cases rule <;> rfl

theorem design_at?_of_shape_eq {node other : Node η α} (same : other.shape = node.shape)
    (address : List Nat) :
    (other.at? address).map design = (node.at? address).map design := by
  have designs (node : Node η α) :
      (node.shape.at? address).map design = (node.at? address).map design := by
    rw [shape, at?_relabel, Option.map_map]
    exact congrArg (Option.map · _) (funext design_shape)
  rw [← designs other, same, designs node]

theorem length_plantFrom (path : String) (index : Nat) (nodes : List (Node η α)) :
    (plantFrom path index nodes).subject.length = nodes.length := by
  induction nodes generalizing index with
  | nil => rfl
  | cons node rest ih => simp only [plantFrom, List.length_cons, ih]

theorem design_plant (node : Node η α) (path : String) :
    (node.plant path).subject.design = { node.design with path } := by
  cases node with
  | leaf info tip =>
      unfold plant
      split <;> rfl
  | composite info rule children =>
      have arity : (Node.plant path (.composite info rule children)).subject.children.length =
          children.length := length_plantFrom path 0 children
      rw [design, arity]
      cases rule <;> rfl
  | decorator info rule child => cases rule <;> rfl

theorem design_at?_plant (node : Node η α) (path : String) (address : List Nat) :
    ((node.plant path).subject.at? address).map design =
      (node.at? address).map fun sub => { sub.design with path := pathFrom path address } := by
  induction address generalizing node path with
  | nil =>
      simp only [at?_nil, Option.map_some, design_plant]
      rfl
  | cons index rest ih =>
      rw [at?_cons, at?_cons, getElem?_children_plant]
      cases node.children[index]? with
      | none => rfl
      | some child => exact ih child (childPath path index)

theorem size_shape (node : Node η α) : node.shape.size = node.size := by
  rw [← length_preorder, shape, preorder_relabel, List.length_map, length_preorder]

end Node

/-! ## Vacancies -/

def Leaf.muted : Leaf α → Leaf Unit
  | action slot callback => action slot (callback.map fun _ => .constant .success)
  | condition slot test => condition slot (test.map fun _ => ())

namespace Node

def muted : Node η α → Node η Unit :=
  relabel (fun info => { name := info.name, path := info.path }) Leaf.muted Decorator.reset

theorem vacancy?_muted (node : Node η α) : node.muted.vacancy? = node.vacancy? := by
  cases node with
  | leaf info tip =>
      cases tip with
      | action slot callback => cases callback <;> rfl
      | condition slot test => cases test <;> rfl
  | composite info rule children => rfl
  | decorator info rule child => rfl

theorem filterMap_vacancy?_muted (node : Node η α) :
    node.muted.preorder.filterMap vacancy? = node.preorder.filterMap vacancy? := by
  rw [muted, preorder_relabel, List.filterMap_map]
  exact congrArg (List.filterMap · _) (funext vacancy?_muted)

theorem muted_evaluate [Host η α] (node : Node η α) (board : Board η) :
    (node.evaluate board).subject.muted = node.muted := by
  apply relabel_evaluate fun _ _ => rfl
  intro info tip board
  unfold evaluateLeaf
  split
  · rfl
  · simp only [Host.call, Outcome.map]
    split <;> rfl
  · simp only [Host.call, Outcome.map]
    split <;> rfl
  · rfl
  · rfl

theorem vacancy?_relabel_cases {change : Leaf α → Option (Leaf α)}
    (binds : ∀ tip new, change tip = some new → new.isUnbound = false) (node : Node η α) :
    (node.relabel id (fun tip => (change tip).getD tip) id).vacancy? = none ∨
      (node.relabel id (fun tip => (change tip).getD tip) id).vacancy? = node.vacancy? := by
  cases node with
  | leaf info tip =>
      cases replaced : change tip with
      | none => simp [relabel, replaced]
      | some new => simp [relabel, replaced, vacancy?, binds tip new replaced]
  | composite info rule children => exact .inl rfl
  | decorator info rule child => exact .inl rfl

theorem filterMap_vacancy?_replaceLeaves {change : Leaf α → Option (Leaf α)}
    (binds : ∀ tip new, change tip = some new → new.isUnbound = false) (node : Node η α) :
    ((node.replaceLeaves change).2.preorder.filterMap vacancy?).Sublist
      (node.preorder.filterMap vacancy?) := by
  rw [replaceLeaves_eq_relabel, preorder_relabel, List.filterMap_map]
  -- Leaf by leaf along the walk: a vacancy stays, or it is filled.
  induction node.preorder with
  | nil => exact List.Sublist.refl []
  | cons first rest ih =>
      rw [List.filterMap_cons, List.filterMap_cons]
      rcases vacancy?_relabel_cases binds first with gone | kept
      · rw [Function.comp_apply, gone]
        cases first.vacancy? with
        | none => exact ih
        | some vacancy => exact ih.cons vacancy
      · rw [Function.comp_apply, kept]
        cases first.vacancy? with
        | none => exact ih
        | some vacancy => exact ih.cons_cons vacancy

end Node

theorem Leaf.isUnbound_bindAction? {slot : String} {routine : α} {tip new : Leaf α}
    (bound : tip.bindAction? slot routine = some new) : new.isUnbound = false := by
  unfold bindAction? at bound
  split at bound
  · split at bound
    · cases bound
      rfl
    · cases bound
  · cases bound

theorem Leaf.isUnbound_bindCondition? {slot : String} {test : α} {tip new : Leaf α}
    (bound : tip.bindCondition? slot test = some new) : new.isUnbound = false := by
  unfold bindCondition? at bound
  split at bound
  · split at bound
    · cases bound
      rfl
    · cases bound
  · cases bound

namespace Tree

variable [Host η α]

theorem vacancies_perform (tree : Tree η α) (operation : Operation η α) :
    (tree.perform operation).vacancies.Sublist tree.vacancies := by
  cases operation with
  | evaluate board => exact List.Sublist.refl _
  | plant board => exact List.Sublist.refl _
  | tick =>
      have same : (tree.perform .tick).vacancies = tree.vacancies := by
        rw [vacancies, vacancies, ← Node.filterMap_vacancy?_muted,
          ← Node.filterMap_vacancy?_muted tree.root, ← Node.muted_evaluate tree.root tree.board]
        rfl
      rw [same]
  | bindAction slot routine =>
      have bound : tree.perform (.bindAction slot routine) =
        tree.afterBinding (tree.bindAction slot routine) := rfl
      rw [bound, tree.afterBinding_bindAction]
      exact Node.filterMap_vacancy?_replaceLeaves (fun _ _ => Leaf.isUnbound_bindAction?) tree.root
  | bindCondition slot test =>
      have bound : tree.perform (.bindCondition slot test) =
        tree.afterBinding (tree.bindCondition slot test) := rfl
      rw [bound, tree.afterBinding_bindCondition]
      exact Node.filterMap_vacancy?_replaceLeaves (fun _ _ => Leaf.isUnbound_bindCondition?)
        tree.root
  | edit change => exact List.Sublist.refl _

theorem vacancies_after (tree : Tree η α) (operations : List (Operation η α)) :
    (tree.after operations).vacancies.Sublist tree.vacancies := by
  induction operations generalizing tree with
  | nil => exact List.Sublist.refl _
  | cons operation operations ih =>
      exact (ih (tree.perform operation)).trans (tree.vacancies_perform operation)

theorem nodeCount_perform (tree : Tree η α) (operation : Operation η α) :
    (tree.perform operation).nodeCount = tree.nodeCount := by
  cases operation with
  | bindAction slot routine =>
      have bound : tree.perform (.bindAction slot routine) =
        tree.afterBinding (tree.bindAction slot routine) := rfl
      rw [bound, tree.afterBinding_bindAction]
  | bindCondition slot test =>
      have bound : tree.perform (.bindCondition slot test) =
        tree.afterBinding (tree.bindCondition slot test) := rfl
      rw [bound, tree.afterBinding_bindCondition]
  | evaluate board | plant board | tick | edit change => rfl

theorem nodeCount_after (tree : Tree η α) (operations : List (Operation η α)) :
    (tree.after operations).nodeCount = tree.nodeCount := by
  induction operations generalizing tree with
  | nil => rfl
  | cons operation operations ih => exact (ih _).trans (tree.nodeCount_perform operation)

theorem shape_after (tree : Tree η α) (operations : List (Operation η α)) :
    (tree.after operations).root.shape = tree.root.shape := by
  apply root_after operations (·.shape = tree.root.shape)
  · rfl
  · intro node board same
    rw [Node.shape_evaluate, same]
  · intro node change same keeps
    rw [Node.shape, Node.relabel_replaceLeaves keeps, ← Node.shape, same]

end Tree

/-! ## The copy in a snapshot -/

namespace NodeSnapshot

mutual

def preorder : NodeSnapshot → List NodeSnapshot
  | mk path kind name status children => mk path kind name status children :: preorders children

def preorders : List NodeSnapshot → List NodeSnapshot
  | [] => []
  | first :: rest => first.preorder ++ preorders rest

end

theorem preorders_map {nodes : List (Node η α)}
    (each : ∀ node ∈ nodes, (ofNode node).preorder = node.preorder.map ofNode) :
    preorders (nodes.map ofNode) = (nodes.flatMap Node.preorder).map ofNode := by
  induction nodes with
  | nil => rfl
  | cons node rest ih =>
      obtain ⟨here, there⟩ := List.forall_mem_cons.1 each
      rw [List.map_cons, preorders, here, ih there, List.flatMap_cons, List.map_append]

theorem preorder_ofNode (node : Node η α) : (ofNode node).preorder = node.preorder.map ofNode := by
  induction node using Node.induction_children with
  | step node ih =>
      rw [Node.preorder_eq, List.map_cons, ofNode_eq, preorder, preorders_map ih, ← ofNode_eq]

end NodeSnapshot

/-! ## Trees -/

structure Tree.Reported (node : Node η α) (built : Tree η α) (records : List Record) : Prop where
  all : records =
    (built.vacancies.map fun (kind, path) => .unboundLeaf kind path) ++
      [.built built.nodeCount built.unboundLeaves.length]
  levels : records.map Record.level = List.replicate built.unboundLeaves.length .warn ++ [.debug]
  paths : built.vacancies.map Prod.snd = built.unboundLeaves
  kinds : built.vacancies.map (Kind.leaf ·.1) =
    (built.root.preorder.filter (·.isUnbound)).map Node.kind
  designs : ∀ address, (built.root.at? address).map Node.design =
    (node.at? address).map fun sub => { sub.design with path := pathFrom "root" address }

structure Tree.Keeps (built tree : Tree η α) : Prop where
  designs : ∀ address,
    (tree.root.at? address).map Node.design = (built.root.at? address).map Node.design
  nodeCount : tree.nodeCount = built.nodeCount
  size : tree.nodeCount = tree.root.size
  shown : tree.nodeCount = tree.snapshot.root.preorder.length
  mirrored : ∀ address,
    (tree.snapshot.root.at? address).map
        (fun shown => (shown.path, shown.kind, shown.kind.label, shown.name, shown.status,
          shown.children.length)) =
      (tree.root.at? address).map
        fun node => (node.path, node.kind, node.kind.label, node.name, node.status,
          node.children.length)
  labeled : ∀ address shown node kind, tree.snapshot.root.at? address = some shown →
    tree.root.at? address = some node → shown.kind.label = Kind.label kind → node.kind = kind
  unbound : tree.unboundLeaves.Sublist built.unboundLeaves

namespace Tree

theorem map_vacancies (tree : Tree η α) :
    tree.vacancies.map Prod.snd = tree.unboundLeaves ∧
      tree.vacancies.map (Kind.leaf ·.1) =
        (tree.root.preorder.filter (·.isUnbound)).map Node.kind :=
  Node.map_vacancy? tree.root.preorder

theorem reported_build (node : Node η α) (board : Board η) :
    Reported node (build node board).1 (build node board).2 := by
  have covers := node.covers_plant "root"
  obtain ⟨paths, kinds⟩ := (build node board).1.map_vacancies
  have records : (build node board).2 =
      ((build node board).1.vacancies.map fun (kind, path) => .unboundLeaf kind path) ++
        [.built (build node board).1.nodeCount (build node board).1.unboundLeaves.length] := by
    rw [← paths, List.length_map]
    simp only [build, vacancies, covers.records, covers.unbound]
  refine ⟨records, ?_, paths, kinds, node.design_at?_plant "root"⟩
  rw [records, List.map_append, List.map_map, ← paths, List.length_map]
  congr 1
  exact List.map_eq_replicate_iff.2 fun _ _ => rfl

theorem mirrored (tree : Tree η α) (address : List Nat) :
    (tree.snapshot.root.at? address).map
        (fun shown => (shown.path, shown.kind, shown.kind.label, shown.name, shown.status,
          shown.children.length)) =
      (tree.root.at? address).map
        fun node => (node.path, node.kind, node.kind.label, node.name, node.status,
          node.children.length) := by
  rw [snapshot, NodeSnapshot.at?_ofNode, Option.map_map]
  refine congrArg (Option.map · _) (funext fun node => ?_)
  rw [Function.comp_apply, NodeSnapshot.ofNode_eq, List.length_map]

theorem labeled (tree : Tree η α) (address : List Nat) (shown : NodeSnapshot) (node : Node η α)
    (kind : Kind) (found : tree.snapshot.root.at? address = some shown)
    (sub : tree.root.at? address = some node) (same : shown.kind.label = kind.label) :
    node.kind = kind := by
  have mirror := tree.mirrored address
  rw [found, sub, Option.map_some, Option.map_some] at mirror
  have label : shown.kind.label = node.kind.label :=
    congrArg (fun columns => columns.2.2.1) (Option.some.inj mirror)
  exact Kind.label_injective (label.symm.trans same)

theorem keeps_after [Host η α] (node : Node η α) (board : Board η)
    (operations : List (Operation η α)) :
    Keeps (build node board).1 ((build node board).1.after operations) := by
  have shape := (build node board).1.shape_after operations
  have count := (build node board).1.nodeCount_after operations
  have size : ((build node board).1.after operations).nodeCount =
      ((build node board).1.after operations).root.size := by
    rw [count, ← Node.size_shape, shape, Node.size_shape, ← Node.length_preorder]
    exact (node.covers_plant "root").count
  refine ⟨Node.design_at?_of_shape_eq shape, count, size, ?_, mirrored _, labeled _, ?_⟩
  · rw [size, snapshot, NodeSnapshot.preorder_ofNode, List.length_map, Node.length_preorder]
  · rw [← (map_vacancies _).1, ← (map_vacancies _).1]
    exact ((build node board).1.vacancies_after operations).map Prod.snd

/-- A tree is counted and reported rightly when it is built, and is made of the same nodes ever
after, whatever is done to it. -/
theorem inventory [Host η α] (node : Node η α) (board : Board η) :
    Reported node (build node board).1 (build node board).2 ∧
      ∀ operations : List (Operation η α),
        Keeps (build node board).1 ((build node board).1.after operations) ∧
          ∀ later, ((build node board).1.after (operations ++ later)).unboundLeaves.Sublist
            ((build node board).1.after operations).unboundLeaves := by
  refine ⟨reported_build node board, fun operations => ⟨keeps_after node board operations, ?_⟩⟩
  intro later
  rw [← (map_vacancies _).1, ← (map_vacancies _).1, after, List.foldl_append]
  exact (((build node board).1.after operations).vacancies_after later).map Prod.snd

end Tree

end Behavior
