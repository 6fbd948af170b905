import Behavior.Proofs.Waiting

namespace Behavior

variable {η : Type} [HostTypes η] {α : Type}

def Part.unknown : Part α → BindError
  | ⟨.action, slot, _⟩ => .unknownAction slot
  | ⟨.condition, slot, _⟩ => .unknownCondition slot

theorem Leaf.blank_settled (parts : List (Part α)) (tip : Leaf α) :
    (tip.settled parts).blank = tip.blank := by
  unfold settled
  split
  · exact tip.blank_rebind _
  · rfl

namespace Node

theorem count_replaceAllLeaves {part : Part α} {nodes : List (Node η α)}
    (each : ∀ node ∈ nodes,
      (node.replaceLeaves part.replace?).1 = node.preorder.countP (·.takes part)) :
    (replaceAllLeaves part.replace? nodes).1 = (preorders nodes).countP (·.takes part) := by
  induction nodes with
  | nil => rfl
  | cons node rest ih =>
      obtain ⟨here, there⟩ := List.forall_mem_cons.1 each
      simp only [replaceAllLeaves, preorders, List.countP_append, here, ih there]

theorem count_replaceLeaves (part : Part α) (node : Node η α) :
    (node.replaceLeaves part.replace?).1 = node.preorder.countP (·.takes part) := by
  induction node with
  | leaf info tip =>
      rw [replaceLeaves, Part.replace?_eq]
      cases fit : part.fits tip <;> simp [preorder, takes, fit]
  | composite info rule children ih =>
      rw [preorder, List.countP_cons]
      exact count_replaceAllLeaves ih
  | decorator info rule child ih =>
      rw [preorder, List.countP_cons]
      exact ih

theorem replaceLeaves_replace? (part : Part α) (node : Node η α) :
    node.replaceLeaves part.replace? =
      (node.preorder.countP (·.takes part), node.relabel id part.install id) := by
  refine Prod.ext (count_replaceLeaves part node) ?_
  rw [replaceLeaves_eq_relabel]
  simp only [Part.getD_replace?]

end Node

namespace Tree

def demand (tree : Tree η α) (part : Part α) : Nat :=
  tree.root.preorder.countP (·.takes part)

def answer (tree : Tree η α) (part : Part α) : Except BindError Nat :=
  if tree.demand part = 0 then .error part.unknown else .ok (tree.demand part)

theorem bind_eq (tree : Tree η α) (part : Part α) :
    tree.bind part = (tree.answer part).map fun count =>
      (count, { tree with root := tree.root.relabel id part.install id }) := by
  obtain ⟨kind, slot, routine⟩ := part
  cases kind with
  | action =>
      have walked : tree.root.replaceLeaves (·.bindAction? slot routine) =
        (tree.demand ⟨.action, slot, routine⟩, _) :=
          Node.replaceLeaves_replace? ⟨.action, slot, routine⟩ tree.root
      show tree.bindAction slot routine = _
      rw [bindAction, walked, answer]
      cases tree.demand ⟨.action, slot, routine⟩ <;> rfl
  | condition =>
      have walked : tree.root.replaceLeaves (·.bindCondition? slot routine) =
        (tree.demand ⟨.condition, slot, routine⟩, _) :=
          Node.replaceLeaves_replace? ⟨.condition, slot, routine⟩ tree.root
      show tree.bindCondition slot routine = _
      rw [bindCondition, walked, answer]
      cases tree.demand ⟨.condition, slot, routine⟩ <;> rfl

theorem demand_relabel {onLeaf : Leaf α → Leaf α} (kept : ∀ tip, (onLeaf tip).blank = tip.blank)
    (tree : Tree η α) (part : Part α) :
    demand { tree with root := tree.root.relabel id onLeaf id } part = tree.demand part := by
  rw [demand, Node.preorder_relabel, List.countP_map, demand]
  congr 1
  funext sub
  exact Node.takes_relabel (fun tip => Part.fits_of_blank_eq (kept tip) part) sub

def bindAll (tree : Tree η α) : List (Part α) → List (Except BindError Nat) × Tree η α
  | [] => ([], tree)
  | part :: rest =>
      let answer := tree.bind part
      let (answers, later) := (tree.afterBinding answer).bindAll rest
      (answer.map (·.1) :: answers, later)

theorem bindAll_eq (tree : Tree η α) (parts : List (Part α)) :
    tree.bindAll parts = (parts.map tree.answer,
      { tree with root := tree.root.relabel id (Leaf.settled parts) id }) := by
  rw [← show Part.installAll parts = Leaf.settled parts from funext (Part.installAll_eq parts)]
  induction parts generalizing tree with
  | nil =>
      show ([], tree) = ([], { tree with root := tree.root.relabel id id id })
      rw [Node.relabel_id]
  | cons part rest ih =>
      have answers : (tree.afterBinding (tree.bind part)).answer = tree.answer := by
        funext other
        rw [afterBinding_bind, answer, demand_relabel part.blank_install, answer]
      have first : (tree.bind part).map (·.1) = tree.answer part := by
        rw [bind_eq]
        cases tree.answer part <;> rfl
      rw [bindAll, ih, answers, first, afterBinding_bind, Node.relabel_relabel]
      rfl

section
variable [Host η α]

theorem bindAll_eq_after (tree : Tree η α) (parts : List (Part α)) :
    (tree.bindAll parts).2 = tree.after (parts.map Part.operation) := by
  rw [bindAll_eq, after_parts, funext (Part.installAll_eq parts)]

theorem snd_bindAll_concat (tree : Tree η α) (parts : List (Part α)) (part : Part α) :
    (tree.bindAll (parts ++ [part])).2 =
      (tree.bindAll parts).2.afterBinding ((tree.bindAll parts).2.bind part) := by
  rw [bindAll_eq_after, bindAll_eq_after, afterBinding_bind, ← perform_operation, List.map_append]
  exact List.foldl_append

end

end Tree

namespace Part

def isFor (kind : LeafKind) (slot : String) (part : Part α) : Bool :=
  part.kind = kind && part.slot = slot

def lastFor (parts : List (Part α)) (kind : LeafKind) (slot : String) : Option (Part α) :=
  (parts.filter (isFor kind slot)).getLast?

theorem fits_eq_isFor {tip : Leaf α} {slot : String} (made : tip.slot = some slot)
    (part : Part α) : part.fits tip = isFor tip.kind slot part := by
  simp [fits, isFor, made, eq_comm]

variable {first second : Part α}

theorem lastFor_swap (apart : first.kind ≠ second.kind ∨ first.slot ≠ second.slot)
    (before after : List (Part α)) (kind : LeafKind) (slot : String) :
    lastFor (before ++ second :: first :: after) kind slot =
      lastFor (before ++ first :: second :: after) kind slot := by
  unfold lastFor
  rw [List.filter_append, List.filter_append]
  congr 2
  by_cases one : isFor kind slot first = true
  · have other : ¬ isFor kind slot second = true := by
      simp only [isFor, Bool.and_eq_true, decide_eq_true_eq] at one ⊢
      rintro ⟨rfl, rfl⟩
      rcases apart with kinds | slots
      · exact kinds one.1
      · exact slots one.2
    rw [List.filter_cons_of_neg other, List.filter_cons_of_pos one, List.filter_cons_of_pos one,
      List.filter_cons_of_neg other]
  · simp [List.filter_cons, one]

theorem lastFor_override (kind : first.kind = second.kind) (slot : first.slot = second.slot)
    (before middle after : List (Part α)) (kind' : LeafKind) (slot' : String) :
    lastFor (before ++ middle ++ second :: after) kind' slot' =
      lastFor (before ++ first :: middle ++ second :: after) kind' slot' := by
  have alike : isFor kind' slot' first = isFor kind' slot' second := by
    rw [isFor, kind, slot, isFor]
  simp only [lastFor, List.filter_append, List.getLast?_append]
  by_cases fit : isFor kind' slot' second = true
  · rw [List.filter_cons_of_pos fit, List.getLast?_cons]
    rfl
  · rw [List.filter_cons_of_neg fit, List.filter_cons_of_neg (alike ▸ fit)]

end Part

theorem Leaf.settled_congr {parts others : List (Part α)}
    (same : ∀ kind slot, Part.lastFor others kind slot = Part.lastFor parts kind slot)
    (tip : Leaf α) : tip.settled others = tip.settled parts := by
  have last : (others.filter (·.fits tip)).getLast? = (parts.filter (·.fits tip)).getLast? := by
    cases made : tip.slot with
    | none => simp [Part.fits, made]
    | some slot =>
        simp only [Part.fits_eq_isFor made]
        exact same tip.kind slot
  rw [settled, last, settled]

namespace Tree

theorem snd_bindAll_congr (tree : Tree η α) {parts others : List (Part α)}
    (same : ∀ kind slot, Part.lastFor others kind slot = Part.lastFor parts kind slot) :
    (tree.bindAll others).2 = (tree.bindAll parts).2 := by
  rw [bindAll_eq, bindAll_eq, funext (Leaf.settled_congr same)]

theorem at?_bindAll_of_leaf {tree : Tree η α} {address : List Nat} {info : Info η} {tip : Leaf α}
    (located : tree.root.at? address = some (.leaf info tip)) (parts : List (Part α)) :
    (tree.bindAll parts).2.root.at? address = some (.leaf info (tip.settled parts)) := by
  rw [bindAll_eq, Node.at?_relabel, located]
  rfl

variable [Host η α]

theorem refused_bindAll {tree : Tree η α} {part : Part α} (missing : tree.demand part = 0)
    (before : List (Part α)) :
    let earlier := (tree.bindAll before).2
    (earlier.root.replaceLeaves part.replace?).2 = earlier.root ∧
      (tree.bindAll (before ++ [part])).2 = earlier := by
  intro earlier
  have none : earlier.demand part = 0 := by
    have same : earlier = _ := congrArg Prod.snd (tree.bindAll_eq before)
    rw [same, demand_relabel (Leaf.blank_settled before), missing]
  have refusal : earlier.bind part = .error part.unknown := by
    rw [bind_eq, answer, if_pos none]
    rfl
  refine ⟨Node.replaceLeaves_of_count_eq_zero ?_, ?_⟩
  · rw [Node.count_replaceLeaves]
    exact none
  · rw [snd_bindAll_concat, refusal]
    rfl

theorem evolves_bindAll {tree : Tree η α} {address : List Nat} {info : Info η} {tip : Leaf α}
    (located : tree.root.at? address = some (.leaf info tip)) {parts : List (Part α)}
    {part : Part α} (last : (parts.filter (·.fits tip)).getLast? = some part)
    (operations : List (Operation η α))
    (apart : ∀ other ∈ bindings operations, other.fits tip = false) :
    let later := (tree.bindAll parts).2
    ∃ info' last, (later.after operations).root.at? address =
        some (.leaf info' (tip.rebind last)) ∧
      Evolves part.routine (later.callsAt address operations) last := by
  intro later
  have found := at?_bindAll_of_leaf located parts
  have settled : tip.settled parts = tip.rebind part.routine := by
    rw [Leaf.settled, last]
  rw [settled] at found
  have spared : ∀ other ∈ bindings operations, other.fits (tip.rebind part.routine) = false := by
    intro other member
    rw [Part.fits_of_blank_eq (tip.blank_rebind part.routine)]
    exact apart other member
  obtain ⟨info', last, after, evolves⟩ :=
    evolves_after found (tip.routine?_rebind part.routine) operations spared
  rw [Leaf.rebind_rebind] at after
  exact ⟨info', last, after, evolves⟩

end Tree

/-- Whether a binding goes by nothing but the kind and the slot that a leaf was made with, and not
by names. -/
structure Part.GoesBySlot (η : Type) [HostTypes η] (part : Part α) : Prop where
  takes_iff : ∀ node : Node η α,
    node.takes part = true ↔ node.kind = .leaf part.kind ∧ node.slot = some part.slot
  named : ∀ (node : Node η α) (name : String), (node.named name).takes part = node.takes part
  direct : ∀ (routine : α) (status : Status),
    ∀ node ∈ ([.action routine, .condition routine, .constant status] : List (Node η α)),
      node.takes part = false

structure Tree.Settles [Host η α] (tree : Tree η α) (parts : List (Part α)) : Prop where
  answers : (tree.bindAll parts).1 = parts.map tree.answer
  refused : ∀ before part after, parts = before ++ part :: after → tree.demand part = 0 →
    let earlier := (tree.bindAll before).2
    (earlier.root.replaceLeaves part.replace?).2 = earlier.root ∧
      (tree.bindAll (before ++ [part])).2 = earlier
  others : let later := (tree.bindAll parts).2
    later = { tree with root := later.root } ∧
      later.root.relabel id Leaf.blank id = tree.root.relabel id Leaf.blank id
  leaves : ∀ address info tip, tree.root.at? address = some (.leaf info tip) →
    (tree.bindAll parts).2.root.at? address = some (.leaf info (tip.settled parts))
  order : ∀ others, (∀ kind slot, Part.lastFor others kind slot = Part.lastFor parts kind slot) →
    (tree.bindAll others).2 = (tree.bindAll parts).2
  swapped : ∀ before first second after, parts = before ++ first :: second :: after →
    first.kind ≠ second.kind ∨ first.slot ≠ second.slot →
      (tree.bindAll (before ++ second :: first :: after)).2 = (tree.bindAll parts).2
  overridden : ∀ before first middle second after,
    parts = before ++ first :: middle ++ second :: after →
      first.kind = second.kind → first.slot = second.slot →
        (tree.bindAll (before ++ middle ++ second :: after)).2 = (tree.bindAll parts).2
  unbound : (tree.bindAll parts).2.unboundLeaves = tree.root.waiting parts
  copies : ∀ address info tip part, tree.root.at? address = some (.leaf info tip) →
    (parts.filter (·.fits tip)).getLast? = some part →
      ∀ operations : List (Operation η α),
        (∀ other ∈ bindings operations, other.fits tip = false) →
          let later := (tree.bindAll parts).2
          ∃ info' last,
            (later.after operations).root.at? address = some (.leaf info' (tip.rebind last)) ∧
              Evolves part.routine (later.callsAt address operations) last

theorem Part.goesBySlot (part : Part α) : part.GoesBySlot η := by
  refine ⟨fun _ => Node.takes_iff, ?_, ?_⟩
  · intro node name
    cases node <;> rfl
  · intro routine status node member
    simp only [List.mem_cons, List.not_mem_nil, or_false] at member
    rcases member with rfl | rfl | rfl <;>
      simp [Node.action, Node.condition, Node.constant, Node.takes, Part.fits, Leaf.slot]

namespace Tree

variable [Host η α]

theorem settles (tree : Tree η α) (parts : List (Part α)) : tree.Settles parts := by
  constructor
  case answers => rw [bindAll_eq]
  case refused =>
    intro before part after _ missing
    exact refused_bindAll missing before
  case others =>
    have blank : Leaf.blank ∘ Leaf.settled parts = Leaf.blank := funext (Leaf.blank_settled parts)
    rw [bindAll_eq]
    refine ⟨rfl, ?_⟩
    show (tree.root.relabel id (Leaf.settled parts) id).relabel id Leaf.blank id = _
    rw [Node.relabel_relabel, blank]
    rfl
  case leaves =>
    intro address info tip located
    exact at?_bindAll_of_leaf located parts
  case order =>
    intro others same
    exact snd_bindAll_congr tree same
  case swapped =>
    rintro before first second after rfl apart
    exact snd_bindAll_congr tree (Part.lastFor_swap apart before after)
  case overridden =>
    rintro before first middle second after rfl kind slot
    exact snd_bindAll_congr tree (Part.lastFor_override kind slot before middle after)
  case unbound =>
    rw [unboundLeaves_eq_waiting, bindAll_eq_after, waiting_after, bindings_map_operation,
      List.append_nil]
  case copies =>
    intro address info tip part located last operations apart
    exact evolves_bindAll located last operations apart

/-- Any sequence of bindings finds the leaves that were made with the slots, and each of these has
the last routine for its slot to itself. What is left unbound is what none of all bindings was
for. -/
theorem bindings_settle (tree : Tree η α) (parts : List (Part α)) :
    tree.Settles parts ∧ (∀ part : Part α, part.GoesBySlot η) ∧
      ∀ (node : Node η α) (board : Board η) (operations : List (Operation η α)),
        node.Unattached → tree = (build node board).1.after operations →
          let made := (build node board).1.root.preorder
          (tree.bindAll parts).2.unboundLeaves =
            (made.filter fun sub =>
              sub.slot.isSome && !(bindings operations ++ parts).any (sub.takes ·)).map
                (·.path) := by
  refine ⟨tree.settles parts, Part.goesBySlot, ?_⟩
  rintro node board operations unattached rfl made
  rw [(settles _ parts).unbound, waiting_after]
  exact (unattached.plant "root").waiting_eq _

def errand : Node Counting Deed :=
  .sequence [.actionSlot "go", .selector [.conditionSlot "go", (Node.actionSlot "go").named "back"],
    (Node.action (.recite [])).named "go"]

theorem bindings_settle_errand :
    let node := (errand.evaluate ∅).subject
    let tree := (build node ∅).1.after [.tick]
    let parts : List (Part Deed) := [⟨.action, "go", .recite [.running]⟩,
      ⟨.condition, "back", .recite []⟩, ⟨.action, "go", .recite [.failure]⟩]
    node.Unattached ∧ tree.Settles parts ∧
      (tree.bindAll parts).1 = [.ok 2, .error (.unknownCondition "back"), .ok 2] ∧
      (tree.bindAll parts).2.unboundLeaves = ["root/1/0"] := by
  intro node tree parts
  have fresh : errand.Fresh := by
    have choice : (Node.selector [.conditionSlot "go", (Node.actionSlot "go").named "back"] :
        Node Counting Deed).Fresh :=
      .selector (by simpa using ⟨.conditionSlot "go", .named "back" (.actionSlot "go")⟩)
    exact .sequence (by
      simpa using ⟨.actionSlot "go", choice, .named "go" (.action (Deed.recite []))⟩)
  have unattached : node.Unattached := fresh.unattached.evaluate ∅
  obtain ⟨settled, -, absolute⟩ := bindings_settle tree parts
  refine ⟨unattached, settled, ?_, ?_⟩
  · rw [settled.answers]
    rfl
  · rw [absolute node ∅ [.tick] unattached rfl]
    rfl

end Tree

end Behavior
