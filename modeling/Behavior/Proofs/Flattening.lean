import Behavior.Proofs.Labels
import Behavior.Proofs.Ordered

namespace Behavior

variable {η : Type} [HostTypes η] {α : Type}

namespace Composite

variable {rule : Composite}

theorem map_verdict_append (ordered : rule.isOrdered = true) {earlier : List Status}
    (passed : earlier.any rule.stops = false) (later : Except Panic (List Status)) :
    (later.map (earlier ++ ·)).map rule.verdict = later.map rule.verdict := by
  cases later with
  | error panic => rfl
  | ok later => exact congrArg Except.ok (verdict_append ordered passed later)

def absorbs (rule : Composite) (kind : Kind) : Bool :=
  rule.isOrdered && kind = rule.kind

end Composite

namespace Node
open Composite

def unpack (rule : Composite) (node : Node η α) : List (Node η α) :=
  if rule.absorbs node.kind then node.children else [node]

mutual

def flatten : Node η α → Node η α
  | .leaf info tip => .leaf info tip
  | .composite info rule children => .composite info rule (flattenAll rule children)
  | .decorator info rule child => .decorator info rule child.flatten

def flattenAll (rule : Composite) : List (Node η α) → List (Node η α)
  | [] => []
  | node :: rest => node.flatten.unpack rule ++ flattenAll rule rest

end

theorem flattenAll_eq_flatMap (rule : Composite) (nodes : List (Node η α)) :
    flattenAll rule nodes = nodes.flatMap fun node => node.flatten.unpack rule := by
  induction nodes with
  | nil => rfl
  | cons node rest ih => rw [flattenAll, ih, List.flatMap_cons]

theorem unpack_of_not_absorbs {rule : Composite} {node : Node η α}
    (apart : rule.absorbs node.kind = false) : node.unpack rule = [node] := by
  rw [unpack, apart]
  rfl

theorem flattenAll_of_not_ordered {rule : Composite} (apart : rule.isOrdered = false)
    (nodes : List (Node η α)) :
    flattenAll rule nodes = nodes.map flatten := by
  have single (node : Node η α) : node.unpack rule = [node] :=
    unpack_of_not_absorbs (by simp [absorbs, apart])
  simp only [flattenAll_eq_flatMap, single]
  exact List.map_eq_flatMap.symm

theorem exists_of_absorbs {rule : Composite} {node : Node η α}
    (absorbed : rule.absorbs node.kind = true) :
    rule.isOrdered = true ∧ ∃ info children, node = .composite info rule children := by
  obtain ⟨ordered, kind⟩ : rule.isOrdered = true ∧ node.kind = rule.kind := by
    simpa [Composite.absorbs] using absorbed
  refine ⟨ordered, ?_⟩
  cases node with
  | leaf info tip => cases rule <;> cases kind
  | composite info inner children =>
      have same : inner = rule := by
        cases rule with
        | sequence => cases inner <;> first | rfl | cases kind
        | selector => cases inner <;> first | rfl | cases kind
        | parallel successes failures => cases ordered
      exact ⟨info, children, congrArg (composite info · children) same⟩
  | decorator info inner child => cases inner <;> cases rule <;> cases kind

theorem flatten_of_childless {node : Node η α} (childless : node.children = []) :
    node.flatten = node := by
  cases node with
  | leaf info tip => rfl
  | composite info rule children =>
      obtain rfl : children = [] := childless
      rfl
  | decorator info rule child => cases childless

def IsFlat (node : Node η α) : Prop :=
  ∀ info rule children, composite info rule children ∈ node.preorder →
    ∀ child ∈ children, rule.absorbs child.kind = false

theorem IsFlat.of_mem {node sub : Node η α} (flat : node.IsFlat) (inside : sub ∈ node.preorder) :
    sub.IsFlat :=
  fun info rule children member =>
    flat info rule children (mem_preorder_trans inside member)

theorem IsFlat.of_mem_unpack {rule : Composite} {node child : Node η α} (flat : node.IsFlat)
    (unpacked : child ∈ node.unpack rule) : child.IsFlat ∧ rule.absorbs child.kind = false := by
  cases absorbed : rule.absorbs node.kind with
  | false =>
      rw [unpack_of_not_absorbs absorbed, List.mem_singleton] at unpacked
      exact ⟨unpacked ▸ flat, unpacked ▸ absorbed⟩
  | true =>
      obtain ⟨-, info, children, rfl⟩ := exists_of_absorbs absorbed
      rw [unpack, absorbed] at unpacked
      have inside : child ∈ (composite info rule children).preorder :=
        mem_preorder_iff.2 (.inr ⟨child, unpacked, self_mem_preorder child⟩)
      exact ⟨flat.of_mem inside, flat info rule children (self_mem_preorder _) child unpacked⟩

theorem isFlat_flatten (node : Node η α) : node.flatten.IsFlat := by
  induction node with
  | leaf info tip =>
      intro info' rule children member
      rcases mem_preorder_iff.1 member with same | ⟨_, inside, _⟩
      · cases same
      · cases inside
  | composite info rule children ih =>
      have unpacked {child : Node η α} (inside : child ∈ flattenAll rule children) :
          child.IsFlat ∧ rule.absorbs child.kind = false := by
        rw [flattenAll_eq_flatMap] at inside
        obtain ⟨old, member, inside⟩ := List.mem_flatMap.1 inside
        exact (ih old member).of_mem_unpack inside
      intro info' rule' children' member child inside
      rcases mem_preorder_iff.1 member with same | ⟨other, below, deeper⟩
      · cases same
        exact (unpacked inside).2
      · exact (unpacked below).1 info' rule' children' deeper child inside
  | decorator info rule child ih =>
      intro info' rule' children member
      rcases mem_preorder_iff.1 member with same | ⟨other, below, deeper⟩
      · cases same
      · rw [List.mem_singleton.1 below] at deeper
        exact ih info' rule' children deeper

example (one two three : Leaf α) :
    flatten (sequence [.leaf {} one, .sequence [.sequence [], .leaf {} two],
        .selector [.selector [.leaf {} three], .sequence []]] : Node η α) =
      sequence [.leaf {} one, .leaf {} two, .selector [.leaf {} three, .sequence []]] := rfl

def leaf? : Node η α → Option (Info η × Leaf α)
  | .leaf info tip => some (info, tip)
  | .composite .. => none
  | .decorator .. => none

def leaves (node : Node η α) : List (Info η × Leaf α) :=
  node.preorder.filterMap leaf?

theorem leaves_eq (node : Node η α) :
    node.leaves = node.leaf?.toList ++ node.children.flatMap leaves := by
  rw [leaves, preorder_eq, List.filterMap_cons, List.filterMap_flatMap]
  cases node.leaf? <;> rfl

theorem flatMap_leaves_unpack (rule : Composite) (node : Node η α) :
    (node.unpack rule).flatMap leaves = node.leaves := by
  cases absorbed : rule.absorbs node.kind with
  | false => rw [unpack_of_not_absorbs absorbed, List.flatMap_singleton]
  | true =>
      obtain ⟨-, info, children, rfl⟩ := exists_of_absorbs absorbed
      rw [unpack, absorbed, leaves_eq]
      rfl

theorem leaves_flatten (node : Node η α) : node.flatten.leaves = node.leaves := by
  induction node with
  | leaf info tip => rfl
  | composite info rule children ih =>
      rw [flatten, leaves_eq, leaves_eq]
      show (flattenAll rule children).flatMap leaves = children.flatMap leaves
      rw [flattenAll_eq_flatMap, List.flatMap_assoc]
      apply List.flatMap_congr
      intro child inside
      rw [flatMap_leaves_unpack, ih child inside]
  | decorator info rule child ih =>
      rw [flatten, leaves_eq, leaves_eq]
      show [child.flatten].flatMap leaves = [child].flatMap leaves
      rw [List.flatMap_singleton, List.flatMap_singleton, ih]

theorem leaves_relabel (onInfo : Info η → Info η) (node : Node η α) :
    (node.relabel onInfo id id).leaves = node.leaves.map (Prod.map onInfo id) := by
  rw [leaves, leaves, preorder_relabel, List.filterMap_map, List.map_filterMap]
  apply List.filterMap_congr
  intro sub _
  cases sub <;> rfl

theorem flatten_relabel {onInfo : Info η → Info η} {onLeaf : Leaf α → Leaf α}
    (kept : ∀ tip, (onLeaf tip).kind = tip.kind) (node : Node η α) :
    (node.relabel onInfo onLeaf id).flatten = node.flatten.relabel onInfo onLeaf id := by
  have unpack_relabel (rule : Composite) (node : Node η α) :
      (node.relabel onInfo onLeaf id).unpack rule =
        (node.unpack rule).map (relabel onInfo onLeaf id) := by
    have kind : (node.relabel onInfo onLeaf id).kind = node.kind := by
      cases node with
      | leaf info tip => exact congrArg Kind.leaf (kept tip)
      | composite info rule children => rfl
      | decorator info rule child => rfl
    rw [unpack, unpack, kind, children_relabel]
    split <;> rfl
  induction node with
  | leaf info tip => rfl
  | composite info rule children ih =>
      rw [relabel, flatten, flatten, relabel, relabelAll_eq_map, relabelAll_eq_map,
        flattenAll_eq_flatMap, flattenAll_eq_flatMap, List.flatMap_map, List.map_flatMap]
      congr 1
      apply List.flatMap_congr
      intro child inside
      rw [ih child inside, unpack_relabel]
  | decorator info rule child ih => rw [relabel, flatten, flatten, relabel, ih]

theorem unlabelled_flatten_plant (node : Node η α) (path : String) :
    (node.plant path).subject.flatten.unlabelled =
      (node.flatten.plant path).subject.unlabelled := by
  have flat (node : Node η α) : node.flatten.unlabelled = node.unlabelled.flatten :=
    (flatten_relabel (fun _ => rfl) node).symm
  rw [flat, unlabelled_plant, unlabelled_plant, flat]

variable [Host η α] {rule : Composite}

theorem matches_children (info : Info η) (rule : Composite) (children : List (Node η α))
    (board : Board η) :
    Matches (fun node others => others = node.children)
      ((Node.composite info rule children).evaluate board)
      ((evaluateUntil rule.stops children board).map id rule.verdict) := by
  rw [evaluate_composite_eq]
  exact ⟨rfl, rfl, by simp [Outcome.map], rfl⟩

theorem matches_unpack (ordered : rule.isOrdered = true) (node : Node η α) (board : Board η) :
    Matches (fun node others => others = node.unpack rule) (node.evaluate board)
      ((evaluateUntil rule.stops (node.unpack rule) board).map id rule.verdict) := by
  have kept : (node.evaluate board).subject.kind = node.kind := kind_evaluate node board
  cases absorbed : rule.absorbs node.kind with
  | true =>
      obtain ⟨-, info, children, rfl⟩ := exists_of_absorbs absorbed
      have inner := matches_children info rule children board
      rw [unpack, absorbed]
      refine ⟨inner.result, inner.board, inner.calls, ?_⟩
      rw [unpack, kept, absorbed]
      exact inner.subject
  | false =>
      have single := matches_single (verdict_singleton ordered) node board
      rw [unpack_of_not_absorbs absorbed]
      refine ⟨single.result, single.board, single.calls, ?_⟩
      rw [unpack_of_not_absorbs (by rw [kept, absorbed])]
      exact single.subject

theorem matches_flattenAll_of_ordered (ordered : rule.isOrdered = true) {nodes : List (Node η α)}
    (each : ∀ node ∈ nodes, ∀ board, Matches (fun node flat => flat = node.flatten)
      (node.evaluate board) (node.flatten.evaluate board)) (board : Board η) :
    Matches (fun nodes flat => flat = flattenAll rule nodes)
      ((evaluateUntil rule.stops nodes board).map id rule.verdict)
      ((evaluateUntil rule.stops (flattenAll rule nodes) board).map id rule.verdict) := by
  induction nodes generalizing board with
  | nil => exact ⟨rfl, rfl, rfl, rfl⟩
  | cons node rest ih =>
      obtain ⟨here, there⟩ := List.forall_mem_cons.1 each
      have first : Matches (fun node flat => flat = node.flatten.unpack rule) (node.evaluate board)
          ((evaluateUntil rule.stops (node.flatten.unpack rule) board).map id rule.verdict) := by
        refine ((here board).trans (matches_unpack ordered node.flatten board)).imp ?_
        rintro _ _ ⟨_, rfl, unpacked⟩
        exact unpacked
      obtain ⟨result, board', calls, subject⟩ := first
      simp only [Outcome.map, id] at result board' calls subject
      rw [flattenAll, evaluateUntil_append]
      rcases walk_cases rule.stops node board with
        ⟨panic, ended⟩ | ⟨status, ended, stop⟩ | ⟨status, ended, pass⟩
      · have failed := map_eq_error (result.symm.trans ended)
        rw [evaluateUntil_cons_of_error ended]
        simp only [failed]
        exact ⟨rfl, board', calls, congrArg (· ++ flattenAll rule rest) subject⟩
      · -- The walk over what the node was unpacked to has stopped as well.
        obtain ⟨statuses, walked, verdict⟩ := map_eq_ok (result.symm.trans ended)
        have stopped : statuses.any rule.stops = true := by
          rw [← stops_verdict ordered, verdict, stop]
        rw [evaluateUntil_cons_of_stops ended stop]
        simp only [walked, stopped, if_true]
        refine ⟨?_, board', calls, congrArg (· ++ flattenAll rule rest) subject⟩
        exact congrArg Except.ok ((verdict_singleton ordered status).trans verdict.symm)
      · obtain ⟨statuses, walked, verdict⟩ := map_eq_ok (result.symm.trans ended)
        have passed : statuses.any rule.stops = false := by
          rw [← stops_verdict ordered, verdict, pass]
        have later := ih there (node.evaluate board).board
        rw [evaluateUntil_cons_of_passes ended pass]
        simp only [walked, passed, Bool.false_eq_true, if_false, ← board']
        refine ⟨?_, later.board, ?_, ?_⟩
        · have one : [status].any rule.stops = false := by simp [pass]
          exact (map_verdict_append ordered one _).trans
            (later.result.trans (map_verdict_append ordered passed _).symm)
        · show callsOf (_ ++ _) = callsOf (_ ++ _)
          rw [callsOf_append, callsOf_append, calls]
          exact congrArg (_ ++ ·) later.calls
        · show _ ++ _ = _ ++ _
          rw [subject]
          exact congrArg (_ ++ ·) later.subject

theorem matches_flattenAll (rule : Composite) {nodes : List (Node η α)}
    (each : ∀ node ∈ nodes, ∀ board, Matches (fun node flat => flat = node.flatten)
      (node.evaluate board) (node.flatten.evaluate board)) (board : Board η) :
    Matches (fun nodes flat => flat = flattenAll rule nodes)
      ((evaluateUntil rule.stops nodes board).map id rule.verdict)
      ((evaluateUntil rule.stops (flattenAll rule nodes) board).map id rule.verdict) := by
  cases ordered : rule.isOrdered with
  | true => exact matches_flattenAll_of_ordered ordered each board
  | false =>
      have alike : List.Forall₂ (fun node flat => flat = node.flatten ∧
          ∀ board, Matches (fun node flat => flat = node.flatten)
            (node.evaluate board) (flat.evaluate board)) nodes (nodes.map flatten) := by
        rw [List.forall₂_map_right_iff, List.forall₂_same]
        exact fun node inside => ⟨rfl, each node inside⟩
      have walk : Matches (List.Forall₂ fun node flat => flat = node.flatten)
          (evaluateUntil rule.stops nodes board)
          (evaluateUntil rule.stops (nodes.map flatten) board) :=
        Matches.evaluateUntil alike board
      simp only [flattenAll_of_not_ordered ordered]
      refine ⟨congrArg (Except.map rule.verdict) walk.result, walk.board, walk.calls, ?_⟩
      show _ = List.map flatten _
      rw [← List.forall₂_eq_eq_eq, List.forall₂_map_right_iff]
      exact walk.subject.flip

theorem matches_flatten (node : Node η α) (board : Board η) :
    Matches (fun node flat => flat = node.flatten) (node.evaluate board)
      (node.flatten.evaluate board) := by
  induction node generalizing board with
  | leaf info tip =>
      exact ⟨rfl, rfl, rfl, (flatten_of_childless (children_evaluate_leaf info tip)).symm⟩
  | composite info rule children ih =>
      obtain ⟨result, board', calls, subject⟩ := matches_flattenAll rule ih board
      simp only [Outcome.map, id] at result board' calls subject
      rw [flatten, evaluate_composite_eq, evaluate_composite_eq]
      refine ⟨result, board', ?_, ?_⟩
      · simp only [callsOf_append, callsOf_closing, calls]
      · rw [flatten]
        simp only [result, subject]
  | decorator info rule child ih =>
      refine ((ih board).decorator info info rule).imp ?_
      rintro _ _ ⟨result, advanced, child, flat, rfl, rfl, rfl⟩
      rfl

theorem bisimulation_flatten :
    Bisimulation fun node flat : Node η α => flat = node.flatten := by
  rintro node _ rfl board
  exact matches_flatten node board

end Node

/-- Whether two trees have the same board, the same status, and leaves that differ at most in how
they are labelled. -/
structure SameLeaves (tree other : Tree η α) : Prop where
  board : tree.board = other.board
  status : tree.root.status = other.root.status
  leaves : tree.root.leaves.map (Prod.map Info.unlabelled id) =
    other.root.leaves.map (Prod.map Info.unlabelled id)

theorem sameLeaves_of_unlabelled {tree flat : Tree η α} (board : tree.board = flat.board)
    (roots : tree.root.flatten.unlabelled = flat.root.unlabelled) : SameLeaves tree flat := by
  have status_unlabelled (node : Node η α) : node.unlabelled.status = node.status := by
    cases node <;> rfl
  have status_flatten (node : Node η α) : node.flatten.status = node.status := by
    cases node <;> rfl
  constructor
  case board => exact board
  case status =>
    rw [← status_flatten, ← status_unlabelled tree.root.flatten, roots, status_unlabelled]
  case leaves =>
    rw [← tree.root.leaves_flatten, ← Node.leaves_relabel, ← Node.leaves_relabel]
    exact congrArg Node.leaves roots

section
variable [Host η α]

/-- A tree and its flat counterpart have the same leaves in the same order, and tick alike. -/
theorem sameLeaves_flatten (node : Node η α) :
    node.flatten.IsFlat ∧ node.flatten.leaves = node.leaves ∧
      ∀ (board : Board η) (edits : Nat → Board η → Board η) (time : Nat),
        Matches SameLeaves ((Tree.build node board).1.round edits time)
          ((Tree.build node.flatten board).1.round edits time) := by
  refine ⟨node.isFlat_flatten, node.leaves_flatten, ?_⟩
  intro board edits time
  have alike := Node.bisimulation_flatten.comp (@Node.bisimulation_unlabelled η _ α _)
  have roots : Relation.Comp (fun node flat : Node η α => flat = node.flatten)
      (fun node other => node.unlabelled = other.unlabelled)
      (Tree.build node board).1.root (Tree.build node.flatten board).1.root :=
    ⟨_, rfl, node.unlabelled_flatten_plant "root"⟩
  refine (alike.round_tree roots rfl edits time).imp ?_
  rintro tree flat ⟨same, _, rfl, roots⟩
  exact sameLeaves_of_unlabelled same roots

end

end Behavior
