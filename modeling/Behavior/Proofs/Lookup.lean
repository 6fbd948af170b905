import Mathlib.Data.List.Nodup
import Behavior.Proofs.Schedule
import Behavior.Snapshot

namespace Behavior

theorem pathFrom_append (path : String) (first second : List Nat) :
    pathFrom path (first ++ second) = pathFrom (pathFrom path first) second :=
  List.foldl_append

theorem pathFrom_eq_intercalate (path : String) (address : List Nat) :
    pathFrom path address = "/".intercalate (path :: address.map toString) := by
  induction address generalizing path with
  | nil => simp
  | cons index rest ih =>
      rw [pathFrom_cons, ih, childPath, List.map_cons, String.intercalate_cons_cons]
      cases rest with
      | nil => simp [String.append_assoc]
      | cons next rest => simp [String.intercalate_cons_cons, String.append_assoc]

namespace Node

variable {η : Type} [HostTypes η] {α : Type} {node sub : Node η α} {path : String}

theorem Addressed.child (addressed : node.Addressed path) {index : Nat}
    (found : node.children[index]? = some sub) : sub.Addressed (childPath path index) := by
  intro address inner located
  exact addressed (index :: address) inner (at?_cons_eq_some_iff.2 ⟨sub, found, located⟩)

theorem Addressed.below (addressed : node.Addressed path) {base : List Nat}
    (located : node.at? base = some sub) : sub.Addressed (pathFrom path base) := by
  intro address inner reached
  rw [← pathFrom_append]
  apply addressed
  rw [at?_append, located]
  exact reached

theorem Addressed.exists_address (addressed : node.Addressed path) (member : sub ∈ node.preorder) :
    ∃ address, node.at? address = some sub ∧ sub.path = pathFrom path address := by
  obtain ⟨address, located⟩ := mem_preorder_iff_at?.1 member
  exact ⟨address, located, addressed address sub located⟩

theorem Addressed.nodup (addressed : node.Addressed path) :
    (node.preorder.map Node.path).Nodup := by
  induction node using induction_children generalizing path with
  | step node ih =>
      have reached {child inner : Node η α} {index : Nat}
          (found : node.children[index]? = some child) (inside : inner ∈ child.preorder) :
          ∃ rest, node.at? (index :: rest) = some inner := by
        obtain ⟨rest, located⟩ := mem_preorder_iff_at?.1 inside
        exact ⟨rest, at?_cons_eq_some_iff.2 ⟨child, found, located⟩⟩
      rw [preorder_eq, List.map_cons, List.map_flatMap, List.nodup_cons, List.nodup_flatMap]
      refine ⟨?_, ?_, ?_⟩
      · intro member
        obtain ⟨child, inside, listed⟩ := List.mem_flatMap.1 member
        obtain ⟨inner, within, same⟩ := List.mem_map.1 listed
        obtain ⟨index, found⟩ := List.getElem?_of_mem inside
        obtain ⟨rest, located⟩ := reached found within
        cases addressed.injective located (at?_nil node) same
      · intro child inside
        obtain ⟨index, found⟩ := List.getElem?_of_mem inside
        exact ih child inside (addressed.child found)
      · rw [List.pairwise_iff_getElem]
        intro first second one two before shared here there
        obtain ⟨inner, within, same⟩ := List.mem_map.1 here
        obtain ⟨other, inside, alike⟩ := List.mem_map.1 there
        obtain ⟨rest, located⟩ := reached (List.getElem?_eq_getElem one) within
        obtain ⟨rest', found⟩ := reached (List.getElem?_eq_getElem two) inside
        have indices := addressed.injective located found (same.trans alike.symm)
        exact Nat.ne_of_lt before (List.cons.inj indices).1

theorem exists_preorder_eq_append {base : List Nat} (located : node.at? base = some sub) :
    ∃ before after, node.preorder = before ++ sub.preorder ++ after := by
  induction base generalizing node with
  | nil =>
      cases located
      exact ⟨[], [], by simp⟩
  | cons index rest ih =>
      obtain ⟨child, found, reached⟩ := at?_cons_eq_some_iff.1 located
      obtain ⟨before, after, within⟩ := ih reached
      obtain ⟨left, right, split⟩ := List.append_of_mem (List.mem_of_getElem? found)
      refine ⟨node :: left.flatMap preorder ++ before, after ++ right.flatMap preorder, ?_⟩
      rw [preorder_eq, split]
      simp [within]

end Node

namespace NodeSnapshot

variable {η : Type} [HostTypes η] {α : Type}

def at? (snapshot : NodeSnapshot) : List Nat → Option NodeSnapshot
  | [] => some snapshot
  | index :: rest => snapshot.children[index]?.bind (·.at? rest)

theorem ofNodes_eq_map (nodes : List (Node η α)) : ofNodes nodes = nodes.map ofNode := by
  induction nodes with
  | nil => rfl
  | cons node rest ih => rw [ofNodes, ih, List.map_cons]

theorem ofNode_eq (node : Node η α) :
    ofNode node = mk node.path node.kind node.name node.status (node.children.map ofNode) := by
  cases node with
  | leaf info tip => rfl
  | composite info rule children =>
      rw [ofNode, ofNodes_eq_map]
      rfl
  | decorator info rule child => rfl

theorem at?_ofNode (node : Node η α) (address : List Nat) :
    (ofNode node).at? address = (node.at? address).map ofNode := by
  induction address generalizing node with
  | nil => rfl
  | cons index rest ih =>
      rw [at?, ofNode_eq, children, List.getElem?_map, Node.at?_cons]
      cases node.children[index]? with
      | none => rfl
      | some child => exact ih child

theorem findAmong?_map (path : String) {nodes : List (Node η α)}
    (each : ∀ node ∈ nodes, (ofNode node).find? path =
      (node.preorder.find? (·.path = path)).map ofNode) :
    findAmong? path (nodes.map ofNode) =
      ((nodes.flatMap Node.preorder).find? (·.path = path)).map ofNode := by
  induction nodes with
  | nil => rfl
  | cons node rest ih =>
      obtain ⟨here, there⟩ := List.forall_mem_cons.1 each
      rw [List.map_cons, findAmong?, here, ih there, List.flatMap_cons, List.find?_append,
        Option.map_or]

theorem find?_ofNode (path : String) (node : Node η α) :
    (ofNode node).find? path = (node.preorder.find? (·.path = path)).map ofNode := by
  induction node using Node.induction_children with
  | step node ih =>
      rw [Node.preorder_eq, List.find?_cons, ofNode_eq, find?]
      by_cases same : node.path = path
      · rw [if_pos same, ← ofNode_eq]
        simp [same]
      · rw [if_neg same, findAmong?_map path ih]
        simp [same]

theorem runningAmong_map {nodes : List (Node η α)}
    (each : ∀ node ∈ nodes, (ofNode node).runningPaths =
      (node.preorder.filter (·.status = some .running)).map Node.path) :
    runningAmong (nodes.map ofNode) =
      ((nodes.flatMap Node.preorder).filter (·.status = some .running)).map Node.path := by
  induction nodes with
  | nil => rfl
  | cons node rest ih =>
      obtain ⟨here, there⟩ := List.forall_mem_cons.1 each
      rw [List.map_cons, runningAmong, here, ih there, List.flatMap_cons, List.filter_append,
        List.map_append]

theorem runningPaths_ofNode (node : Node η α) :
    (ofNode node).runningPaths =
      (node.preorder.filter (·.status = some .running)).map Node.path := by
  induction node using Node.induction_children with
  | step node ih =>
      rw [Node.preorder_eq, List.filter_cons, ofNode_eq, runningPaths, runningAmong_map ih]
      by_cases running : node.status = some .running <;> simp [running]

end NodeSnapshot

namespace Node.Addressed

variable {η : Type} [HostTypes η] {α : Type} {node sub : Node η α} {path : String}

theorem find?_eq_none (addressed : node.Addressed path) {text : String}
    (other : ∀ address, (node.at? address).isSome → text ≠ pathFrom path address) :
    (NodeSnapshot.ofNode node).find? text = none := by
  rw [NodeSnapshot.find?_ofNode, Option.map_eq_none_iff, List.find?_eq_none]
  intro sub member
  obtain ⟨address, located, spelled⟩ := addressed.exists_address member
  intro same
  exact other address (Option.isSome_iff_exists.2 ⟨sub, located⟩)
    ((of_decide_eq_true same).symm.trans spelled)

theorem find?_pathFrom (addressed : node.Addressed path) (address : List Nat) :
    (NodeSnapshot.ofNode node).find? (pathFrom path address) =
      (node.at? address).map .ofNode := by
  cases located : node.at? address with
  | none =>
      apply addressed.find?_eq_none
      intro other present same
      rw [← pathFrom_injective path same, located] at present
      cases present
  | some sub =>
      rw [NodeSnapshot.find?_ofNode]
      have spelled := addressed address sub located
      -- The first node with this path is the one at the address, since no other node has the path.
      cases found : node.preorder.find? (·.path = pathFrom path address) with
      | none =>
          have absent := List.find?_eq_none.1 found sub
            (mem_preorder_iff_at?.2 ⟨address, located⟩)
          simp [spelled] at absent
      | some other =>
          obtain ⟨place, reached⟩ := mem_preorder_iff_at?.1 (List.mem_of_find?_eq_some found)
          have same : other.path = sub.path := by
            rw [spelled]
            simpa using List.find?_some found
          rw [addressed.injective reached located same, located] at reached
          rw [reached]

theorem running_nodup (addressed : node.Addressed path) :
    (NodeSnapshot.ofNode node).runningPaths.Nodup := by
  rw [NodeSnapshot.runningPaths_ofNode]
  exact addressed.nodup.sublist (List.filter_sublist.map _)

theorem filter_map_eq_nil {condition : Node η α → Bool} {wanted : String → Prop}
    [DecidablePred wanted] (nodes : List (Node η α))
    (unwanted : ∀ node ∈ nodes, ¬ wanted node.path) :
    ((nodes.filter condition).map Node.path).filter wanted = [] := by
  rw [List.filter_eq_nil_iff]
  intro text member
  obtain ⟨node, listed, rfl⟩ := List.mem_map.1 member
  simpa using unwanted node (List.mem_of_mem_filter listed)

open Classical in
theorem running_below (addressed : node.Addressed path) {base : List Nat}
    (located : node.at? base = some sub) :
    (NodeSnapshot.ofNode sub).runningPaths = (NodeSnapshot.ofNode node).runningPaths.filter
      fun text => ∃ rest, text = pathFrom path (base ++ rest) := by
  obtain ⟨before, after, split⟩ := exists_preorder_eq_append located
  have inside {inner : Node η α} (member : inner ∈ node.preorder)
      (below : ∃ rest, inner.path = pathFrom path (base ++ rest)) : inner ∈ sub.preorder := by
    obtain ⟨rest, below⟩ := below
    obtain ⟨address, reached, spelled⟩ := addressed.exists_address member
    rw [pathFrom_injective path (spelled.symm.trans below), at?_append, located] at reached
    exact mem_preorder_iff_at?.2 ⟨rest, reached⟩
  have once := addressed.nodup
  rw [split, List.map_append, List.map_append, List.nodup_append, List.nodup_append] at once
  obtain ⟨⟨-, -, left⟩, -, right⟩ := once
  -- What stands before or after the subtree is not below it, or its path would be met twice.
  have earlier : ∀ inner ∈ before, ¬ ∃ rest, inner.path = pathFrom path (base ++ rest) := by
    intro inner member below
    have again := inside (by simp [split, member]) below
    exact left _ (List.mem_map_of_mem member) _ (List.mem_map_of_mem again) rfl
  have later : ∀ inner ∈ after, ¬ ∃ rest, inner.path = pathFrom path (base ++ rest) := by
    intro inner member below
    have again := inside (by simp [split, member]) below
    exact right _ (List.mem_append_right _ (List.mem_map_of_mem again)) _
      (List.mem_map_of_mem member) rfl
  have within : ∀ inner ∈ sub.preorder, ∃ rest, inner.path = pathFrom path (base ++ rest) := by
    intro inner member
    obtain ⟨rest, -, spelled⟩ := (addressed.below located).exists_address member
    exact ⟨rest, by rw [spelled, pathFrom_append]⟩
  simp only [NodeSnapshot.runningPaths_ofNode, split, List.filter_append, List.map_append]
  rw [filter_map_eq_nil before earlier, filter_map_eq_nil after later, List.nil_append,
    List.append_nil]
  symm
  rw [List.filter_eq_self]
  intro text member
  obtain ⟨inner, listed, rfl⟩ := List.mem_map.1 member
  exact decide_eq_true (within inner (List.mem_of_mem_filter listed))

end Node.Addressed

open Classical in
structure Tree.FoundByPath {η : Type} [HostTypes η] {α : Type} (tree : Tree η α) : Prop where
  spelled : ∀ address sub, tree.root.at? address = some sub →
    sub.path = "/".intercalate ("root" :: address.map toString)
  distinct : ∀ first second sub other, tree.root.at? first = some sub →
    tree.root.at? second = some other → first ≠ second → sub.path ≠ other.path
  captured : ∀ address, tree.snapshot.root.at? address = (tree.root.at? address).map .ofNode
  found : ∀ address sub, tree.root.at? address = some sub →
    tree.snapshot.root.find? sub.path = some (.ofNode sub)
  missed : ∀ text, (∀ sub ∈ tree.root.preorder, sub.path ≠ text) →
    tree.snapshot.root.find? text = none
  within : ∀ base sub rest, tree.root.at? base = some sub →
    (NodeSnapshot.ofNode sub).find? (pathFrom "root" (base ++ rest)) =
      tree.snapshot.root.find? (pathFrom "root" (base ++ rest))
  beyond : ∀ base sub text, tree.root.at? base = some sub →
    (∀ rest, text ≠ pathFrom "root" (base ++ rest)) → (NodeSnapshot.ofNode sub).find? text = none
  running : ∀ base sub, tree.root.at? base = some sub →
    (NodeSnapshot.ofNode sub).runningPaths =
      (sub.preorder.filter (·.status = some .running)).map Node.path
  once : ∀ base sub, tree.root.at? base = some sub →
    (NodeSnapshot.ofNode sub).runningPaths.Nodup
  part : ∀ base sub, tree.root.at? base = some sub →
    (NodeSnapshot.ofNode sub).runningPaths = tree.snapshot.root.runningPaths.filter
      fun text => ∃ rest, text = pathFrom "root" (base ++ rest)

section

variable {η : Type} [HostTypes η] {α : Type}

theorem Tree.foundByPath {tree : Tree η α} (addressed : tree.root.Addressed "root") :
    tree.FoundByPath where
  spelled address sub located := by
    rw [addressed address sub located, pathFrom_eq_intercalate]
  distinct first second sub other one two apart same := apart (addressed.injective one two same)
  captured address := NodeSnapshot.at?_ofNode tree.root address
  found address sub located := by
    have found := addressed.find?_pathFrom address
    rwa [located, ← addressed address sub located] at found
  missed text other := by
    apply addressed.find?_eq_none
    intro address present same
    obtain ⟨sub, located⟩ := Option.isSome_iff_exists.1 present
    apply other sub (Node.mem_preorder_iff_at?.2 ⟨address, located⟩)
    rw [same, addressed address sub located]
  within base sub rest located := by
    have below := (addressed.below located).find?_pathFrom rest
    rw [← pathFrom_append] at below
    rw [below]
    refine Eq.trans ?_ (addressed.find?_pathFrom (base ++ rest)).symm
    rw [Node.at?_append, located]
    rfl
  beyond base sub text located other := by
    apply (addressed.below located).find?_eq_none
    intro rest _
    rw [← pathFrom_append]
    exact other rest
  running base sub _ := NodeSnapshot.runningPaths_ofNode sub
  once base sub located := (addressed.below located).running_nodup
  part base sub located := addressed.running_below located

/-- Paths address the nodes of a tree from when it is built, whatever is done to it. -/
theorem Tree.foundByPath_after [Host η α] (node : Node η α) (board : Board η)
    (operations : List (Operation η α)) :
    ((build node board).1.after operations).FoundByPath :=
  foundByPath (addressed_after node board operations)

end

end Behavior
