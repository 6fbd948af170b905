import Behavior.Proofs.Casting
import Behavior.Proofs.Grafting

/-!
# Trees without slots

A tree whose callbacks are bound as it goes does what a tree without any slots does. Of the latter
each leaf has, at any time, the routine that its slot was last bound to, as the leaf's own calls
since then have left it; it has the private values that all its calls so far have left; and before
it was ever bound, it always fails. Binding all slots before the first tick is building the tree
with the callbacks in place.
-/

namespace Behavior

variable {η : Type} [HostTypes η] {α : Type}

def Info.anonymous (info : Info η) : Info η :=
  { info with name := none }

namespace Node

def equip (parts : List (Part α)) : Node η α → Node η α :=
  relabel id (Leaf.equip parts) id

def direct : Node η α → Node η α :=
  relabel Info.anonymous Leaf.direct id

def takes (part : Part α) : Node η α → Bool
  | .leaf _ tip => part.fits tip
  | .composite .. => false
  | .decorator .. => false

end Node

/-! ## The tree without slots -/

structure Reference (η : Type) [HostTypes η] (α : Type) where
  plan : Node η α
  tree : Tree η α
  chapters : List Nat → List (Chapter η α) := fun _ => []

namespace Reference

def cast (plan : Node η α) (chapters : List Nat → List (Chapter η α)) : Graft η α :=
  fun address info tip =>
    match plan.at? address with
    | some (.leaf made origin) =>
        ({ info with scratch := gathered made.scratch (chapters address) },
          origin.cast (chapters address))
    | _ => (info, tip)

def proceed (reference : Reference η α) (tree : Tree η α)
    (news : List Nat → List (Chapter η α)) : Reference η α :=
  let chapters address := reference.chapters address ++ news address
  { reference with
    tree := { tree with root := tree.root.graft (cast reference.plan chapters) }
    chapters }

def bind (reference : Reference η α) (part : Part α) : Reference η α :=
  reference.proceed reference.tree fun address =>
    if (reference.plan.at? address).any (·.takes part) then [.bound part.routine] else []

variable [Host η α]

def perform (reference : Reference η α) : Operation η α → Reference η α
  | .tick =>
      reference.proceed reference.tree.tick.subject fun address =>
        ((reference.tree.root.callAt? reference.tree.board address).map .called).toList
  | .bindAction slot routine => reference.bind ⟨.action, slot, routine⟩
  | .bindCondition slot routine => reference.bind ⟨.condition, slot, routine⟩
  | .edit change =>
      { reference with
        tree := { reference.tree with board := change reference.tree.board } }
  | .evaluate _ | .plant _ => reference

def after (built : Tree η α) (operations : List (Operation η α)) : Reference η α :=
  operations.foldl perform { plan := built.root, tree := { built with root := built.root.direct } }

end Reference

def SameRecords (tree other : Tree η α) : Prop :=
  ∀ address, (tree.root.at? address).map Node.status = (other.root.at? address).map Node.status

/-- Whether the next tick of both trees comes to the same: the same result, the same board, the same
calls in the same order and of the same leaves, and the same records. -/
structure SameTick [Host η α] (tree other : Tree η α) : Prop where
  matching : Matches SameRecords tree.tick other.tick
  calls : ∀ address, tree.root.callAt? tree.board address = other.root.callAt? other.board address

/-! ## Names and slots -/

theorem keepsValues_anonymous : KeepsValues (Info.anonymous : Info η → Info η) := by
  constructor
  case scratch => exact fun _ => rfl
  case moved => exact fun _ _ => rfl
  case noted => exact fun _ result => by cases result <;> rfl

theorem Composite.kind_ne_leaf (rule : Composite) (kind : LeafKind) : rule.kind ≠ .leaf kind := by
  cases rule <;> simp [Composite.kind]

theorem Decorator.kind_ne_leaf (rule : Decorator) (kind : LeafKind) : rule.kind ≠ .leaf kind := by
  cases rule <;> simp [Decorator.kind]

section
variable [Host η α] {onInfo : Info η → Info η}

theorem Visit.call?_relabel (keeps : KeepsValues onInfo) (address : List Nat) (node : Node η α)
    (start : Board η) :
    call? ⟨address, node.relabel onInfo Leaf.direct id, start⟩ = call? ⟨address, node, start⟩ := by
  cases node with
  | leaf info tip =>
      rw [Node.relabel, call?_of_leaf, call?_of_leaf, Leaf.call?_direct, keeps.scratch]
  | composite info rule children =>
      have silent (info : Info η) (children : List (Node η α)) :
          call? ⟨address, .composite info rule children, start⟩ = none :=
        call?_of_interior rule.kind_ne_leaf
      exact (silent _ _).trans (silent _ _).symm
  | decorator info rule child =>
      have silent (info : Info η) (child : Node η α) :
          call? ⟨address, .decorator info rule child, start⟩ = none :=
        call?_of_interior rule.kind_ne_leaf
      exact (silent _ _).trans (silent _ _).symm

theorem Node.callAt?_relabel (keeps : KeepsValues onInfo) (node : Node η α) (board : Board η)
    (address : List Nat) :
    (node.relabel onInfo Leaf.direct id).callAt? board address = node.callAt? board address := by
  rw [callAt?, callAt?, reach?_relabel keeps]
  cases node.reach? board address with
  | none => rfl
  | some reached => exact Visit.call?_relabel keeps address reached.1 reached.2

theorem sameTick_of_relabel_eq (keeps : KeepsValues onInfo)
    (silent : ∀ info, (onInfo info).status = info.status) {tree other : Tree η α}
    (root : tree.root.relabel onInfo Leaf.direct id = other.root.relabel onInfo Leaf.direct id)
    (board : tree.board = other.board) : SameTick tree other := by
  have evaluated := Node.matches_of_relabel_eq keeps root tree.board
  constructor
  case calls =>
    intro address
    rw [← Node.callAt?_relabel keeps, root, Node.callAt?_relabel keeps, board]
  case matching =>
    rw [board] at evaluated
    refine ⟨?_, ?_, ?_, ?_⟩
    · rw [Tree.result_tick, Tree.result_tick, board, evaluated.result]
    · show (tree.root.evaluate tree.board).board = (other.root.evaluate other.board).board
      rw [board, evaluated.board]
    · rw [Tree.events_tick, Tree.events_tick, board, evaluated.calls]
    · intro address
      have status (node : Node η α) :
          (node.at? address).map Node.status =
            ((node.relabel onInfo Leaf.direct id).at? address).map Node.status := by
        rw [Node.at?_relabel, Option.map_map]
        congr 1
        funext sub
        simp [Node.status, silent]
      show ((tree.root.evaluate tree.board).subject.at? address).map Node.status =
        ((other.root.evaluate other.board).subject.at? address).map Node.status
      rw [status, board, evaluated.subject, ← status]

theorem Reference.plan_foldl {reference : Reference η α} (operations : List (Operation η α)) :
    (operations.foldl perform reference).plan = reference.plan := by
  induction operations generalizing reference with
  | nil => rfl
  | cons operation operations ih =>
      rw [List.foldl_cons, ih]
      cases operation <;> rfl

end

theorem Node.exists_leaf_of_shape_eq {node plan : Node η α} (shape : node.shape = plan.shape)
    {address : List Nat} {made : Info η} {origin : Leaf α}
    (planned : plan.at? address = some (.leaf made origin)) :
    ∃ info tip, node.at? address = some (.leaf info tip) ∧ tip.blank = origin.blank := by
  have same := congrArg (·.at? address) shape
  simp only [Node.shape, at?_relabel, planned] at same
  obtain ⟨sub, located, alike⟩ := Option.map_eq_some_iff.1 same
  cases sub with
  | leaf info tip => exact ⟨info, tip, located, (Node.leaf.inj alike).2⟩
  | composite info rule children => cases alike
  | decorator info rule child => cases alike

/-! ## Following the tree with slots -/

structure Follows (reference : Reference η α) (tree : Tree η α) : Prop where
  root : reference.tree.root = tree.root.direct
  board : reference.tree.board = tree.board
  shape : tree.root.shape = reference.plan.shape
  cast : ∀ address made origin, reference.plan.at? address = some (.leaf made origin) →
    ∃ info, reference.tree.root.at? address =
        some (.leaf info (origin.cast (reference.chapters address))) ∧
      info.scratch = gathered made.scratch (reference.chapters address)

namespace Follows

variable {reference : Reference η α} {tree : Tree η α}

theorem sameTick [Host η α] (follows : Follows reference tree) : SameTick tree reference.tree := by
  refine sameTick_of_relabel_eq keepsValues_anonymous (fun _ => rfl) ?_ follows.board.symm
  have idle : (Info.anonymous : Info η → Info η) ∘ Info.anonymous = Info.anonymous := rfl
  have settled : (Leaf.direct : Leaf α → Leaf α) ∘ Leaf.direct = Leaf.direct :=
    funext Leaf.direct_direct
  rw [follows.root, Node.direct, Node.relabel_relabel, idle, settled]
  rfl

theorem leaf (follows : Follows reference tree) {address : List Nat} {made : Info η}
    {origin : Leaf α} (planned : reference.plan.at? address = some (.leaf made origin)) :
    ∃ info tip, tree.root.at? address = some (.leaf info tip) ∧ tip.blank = origin.blank ∧
      tip.direct = origin.cast (reference.chapters address) ∧
      info.scratch = gathered made.scratch (reference.chapters address) := by
  obtain ⟨info, tip, located, alike⟩ := Node.exists_leaf_of_shape_eq follows.shape planned
  obtain ⟨info', found, scratch⟩ := follows.cast address made origin planned
  rw [follows.root, Node.direct, Node.at?_relabel, located] at found
  obtain ⟨rfl, same⟩ := Node.leaf.inj (Option.some.inj found)
  exact ⟨info, tip, located, alike, same, scratch⟩

end Follows

namespace Reference

theorem cast_eq (reference : Reference η α) {chapters : List Nat → List (Chapter η α)}
    {address : List Nat} {made info : Info η} {origin tip new : Leaf α}
    {told : List (Chapter η α)}
    (planned : reference.plan.at? address = some (.leaf made origin))
    (all : chapters address = told) (scratch : info.scratch = gathered made.scratch told)
    (routine : new = origin.cast told) :
    cast reference.plan chapters address info tip = (info, new) := by
  simp only [cast, planned, all]
  rw [← scratch, ← routine]

theorem cast_proceed (reference : Reference η α) {tree : Tree η α}
    (news : List Nat → List (Chapter η α)) {address : List Nat} {made info : Info η}
    {origin tip : Leaf α} (planned : reference.plan.at? address = some (.leaf made origin))
    (located : tree.root.at? address = some (.leaf info tip)) :
    ∃ info, (reference.proceed tree news).tree.root.at? address =
        some (.leaf info (origin.cast ((reference.proceed tree news).chapters address))) ∧
      info.scratch = gathered made.scratch ((reference.proceed tree news).chapters address) := by
  have grafted := Node.at?_graft_of_leaf located
    (cast reference.plan (reference.proceed tree news).chapters)
  simp only [cast, planned] at grafted
  exact ⟨_, grafted, rfl⟩

end Reference

namespace Follows

variable {reference : Reference η α} {tree : Tree η α}

theorem graft_tick [Host η α] (follows : Follows reference tree) :
    (reference.perform .tick).tree.root =
      (reference.tree.root.evaluate reference.tree.board).subject := by
  apply Node.graft_eq_self
  intro address info tip located
  cases planned : reference.plan.at? address with
  | none => simp only [Reference.cast, planned]
  | some sub =>
      cases sub with
      | composite made rule children => simp only [Reference.cast, planned]
      | decorator made rule child => simp only [Reference.cast, planned]
      | leaf made origin =>
          obtain ⟨before, found, scratch⟩ := follows.cast address made origin planned
          -- A leaf that was not called has no new chapter, and one that was has exactly one.
          rcases Node.at?_evaluate_of_leaf found reference.tree.board with
            ⟨silent, later, after, kept⟩ | ⟨call, start, later, called, calls, after, left⟩
          · obtain ⟨rfl, rfl⟩ := Node.leaf.inj (Option.some.inj (after.symm.trans located))
            have none : ((reference.tree.root.callAt? reference.tree.board address).map
                Chapter.called).toList = [] := by
              rw [silent]
              rfl
            apply reference.cast_eq planned (congrArg (reference.chapters address ++ ·) none)
            · rw [kept, scratch, List.append_nil]
            · rw [List.append_nil]
          · obtain ⟨rfl, rfl⟩ := Node.leaf.inj (Option.some.inj (after.symm.trans located))
            have one : ((reference.tree.root.callAt? reference.tree.board address).map
                Chapter.called).toList = [.called call] := by
              rw [called]
              rfl
            apply reference.cast_eq planned (congrArg (reference.chapters address ++ ·) one)
            · rw [left, gathered_concat]
              rfl
            · rw [Leaf.cast_concat_called calls]

theorem graft_bind (follows : Follows reference tree) (part : Part α) :
    (reference.bind part).tree.root = (tree.root.relabel id part.install id).direct := by
  rw [Node.direct, Node.relabel_relabel]
  show reference.tree.root.graft _ = _
  rw [follows.root]
  apply Node.graft_relabel
  intro address info tip located
  obtain ⟨made, origin, planned, -⟩ := Node.exists_leaf_of_shape_eq follows.shape.symm located
  obtain ⟨_, _, found, same, routine, scratch⟩ := follows.leaf planned
  obtain ⟨rfl, rfl⟩ := Node.leaf.inj (Option.some.inj (located.symm.trans found))
  -- The plan and the tree have the same slots, so binding takes the same leaves in both.
  have taken : (reference.plan.at? address).any (·.takes part) = part.fits tip := by
    rw [planned, Part.fits_of_blank_eq same]
    rfl
  have news := congrArg
    (fun taken => if taken then [(Chapter.bound part.routine : Chapter η α)] else []) taken
  apply reference.cast_eq planned (congrArg (reference.chapters address ++ ·) news)
  · split
    · rw [gathered_concat]
      exact scratch
    · rw [List.append_nil]
      exact scratch
  · rw [Function.comp_apply, Part.install]
    split
    · rw [Leaf.cast_concat]
      exact Leaf.direct_rebind_of_blank_eq same part.routine
    · rw [List.append_nil, routine]

theorem bind [Host η α] (follows : Follows reference tree) (part : Part α) :
    Follows (reference.bind part) (tree.perform part.operation) := by
  have performed := tree.perform_operation part
  constructor
  case root => rw [performed, graft_bind follows]
  case board =>
    rw [performed]
    exact follows.board
  case shape =>
    rw [performed]
    show (tree.root.relabel id part.install id).shape = reference.plan.shape
    have blank : Leaf.blank ∘ part.install = Leaf.blank := funext part.blank_install
    rw [Node.shape, Node.relabel_relabel, blank]
    exact follows.shape
  case cast =>
    intro address made origin planned
    obtain ⟨info, found, -⟩ := follows.cast address made origin planned
    exact reference.cast_proceed _ planned found

theorem tick [Host η α] (follows : Follows reference tree) :
    Follows (reference.perform .tick) tree.tick.subject := by
  have evaluated := Node.matches_direct keepsValues_anonymous tree.root tree.board
  constructor
  case root =>
    rw [graft_tick follows, follows.root, follows.board]
    exact evaluated.subject
  case board =>
    show (reference.tree.root.evaluate reference.tree.board).board = _
    rw [follows.root, follows.board]
    exact evaluated.board.symm
  case shape => exact (Node.shape_evaluate tree.root tree.board).trans follows.shape
  case cast =>
    intro address made origin planned
    obtain ⟨info, found, -⟩ := follows.cast address made origin planned
    rcases Node.at?_evaluate_of_leaf found reference.tree.board with
      ⟨-, later, after, -⟩ | ⟨call, start, later, -, -, after, -⟩
    · exact reference.cast_proceed _ planned after
    · exact reference.cast_proceed _ planned after

theorem perform [Host η α] (follows : Follows reference tree) (operation : Operation η α) :
    Follows (reference.perform operation) (tree.perform operation) := by
  cases operation with
  | evaluate board => exact follows
  | plant board => exact follows
  | tick => exact follows.tick
  | bindAction slot routine => exact follows.bind ⟨.action, slot, routine⟩
  | bindCondition slot routine => exact follows.bind ⟨.condition, slot, routine⟩
  | edit change =>
      exact ⟨follows.root, congrArg change follows.board, follows.shape, follows.cast⟩

theorem start (tree : Tree η α) :
    Follows { plan := tree.root, tree := { tree with root := tree.root.direct } } tree := by
  refine ⟨rfl, rfl, rfl, ?_⟩
  intro address made origin planned
  refine ⟨made.anonymous, ?_, rfl⟩
  show tree.root.direct.at? address = _
  rw [Node.direct, Node.at?_relabel, planned]
  rfl

theorem after [Host η α] (follows : Follows reference tree)
    (operations : List (Operation η α)) :
    Follows (operations.foldl Reference.perform reference) (tree.after operations) := by
  induction operations generalizing reference tree with
  | nil => exact follows
  | cons operation operations ih => exact ih (follows.perform operation)

end Follows

/-! ## Binding before the first tick -/

theorem Tree.relabel_build (plan : Node η α) (board : Board η) (onLeaf : Leaf α → Leaf α) :
    (build plan board).1.root.relabel Info.unplaced onLeaf id =
      plan.relabel Info.unplaced onLeaf id :=
  Node.relabel_plant (fun _ _ => rfl) plan "root"

section
variable [Host η α]

theorem Tree.after_parts (tree : Tree η α) (parts : List (Part α)) :
    tree.after (parts.map Part.operation) =
      { tree with root := tree.root.relabel id (Part.installAll parts) id } := by
  induction parts generalizing tree with
  | nil =>
      show tree = { tree with root := tree.root.relabel id id id }
      rw [Node.relabel_id]
  | cons part parts ih =>
      show (tree.perform part.operation).after (parts.map Part.operation) = _
      rw [tree.perform_operation, ih, Node.relabel_relabel]
      rfl

theorem Tree.after_ticking {tree other : Tree η α}
    (root : tree.root.relabel Info.unplaced Leaf.direct id =
      other.root.relabel Info.unplaced Leaf.direct id)
    (board : tree.board = other.board) (edits : List (Board η → Board η)) :
    (tree.after (ticking edits)).root.relabel Info.unplaced Leaf.direct id =
        (other.after (ticking edits)).root.relabel Info.unplaced Leaf.direct id ∧
      (tree.after (ticking edits)).board = (other.after (ticking edits)).board := by
  induction edits generalizing tree other with
  | nil => exact ⟨root, board⟩
  | cons edit edits ih =>
      have evaluated := Node.matches_of_relabel_eq keepsValues_unplaced root (edit tree.board)
      have step (tree : Tree η α) : tree.after (ticking (edit :: edits)) =
        { tree with board := edit tree.board }.tick.subject.after (ticking edits) := rfl
      rw [step, step]
      apply ih
      · show (tree.root.evaluate (edit tree.board)).subject.relabel Info.unplaced Leaf.direct id =
          (other.root.evaluate (edit other.board)).subject.relabel Info.unplaced Leaf.direct id
        rw [← board]
        exact evaluated.subject
      · show (tree.root.evaluate (edit tree.board)).board =
          (other.root.evaluate (edit other.board)).board
        rw [← board]
        exact evaluated.board

theorem sameTick_equip (plan : Node η α) (board : Board η) (parts : List (Part α))
    (edits : List (Board η → Board η)) :
    SameTick (((Tree.build plan board).1.after (parts.map Part.operation)).after (ticking edits))
      ((Tree.build (plan.equip parts) board).1.after (ticking edits)) := by
  have installed : Leaf.direct ∘ Part.installAll parts = Leaf.direct ∘ Leaf.equip parts :=
    funext (Part.direct_installAll parts)
  have alike : ((Tree.build plan board).1.after (parts.map Part.operation)).root.relabel
      Info.unplaced Leaf.direct id =
        (Tree.build (plan.equip parts) board).1.root.relabel Info.unplaced Leaf.direct id := by
    rw [Tree.relabel_build, Node.equip, Node.relabel_relabel, ← installed, Tree.after_parts,
      Node.relabel_relabel]
    exact Tree.relabel_build plan board _
  have same : ((Tree.build plan board).1.after (parts.map Part.operation)).board =
      (Tree.build (plan.equip parts) board).1.board := by
    rw [Tree.after_parts]
    rfl
  obtain ⟨root, board⟩ := Tree.after_ticking alike same edits
  exact sameTick_of_relabel_eq keepsValues_unplaced (fun _ => rfl) root board

/-- Whatever the order of ticks and bindings, each tick comes to what it comes to in the tree
without slots, whose leaves are what befell them. If all bindings come first, that is the tree built
with the callbacks. -/
theorem sameTick_reference (plan : Node η α) (board : Board η) :
    let built := (Tree.build plan board).1
    (∀ operations : List (Operation η α),
      let reference := Reference.after built operations
      SameTick (built.after operations) reference.tree ∧
        ∀ address made origin, built.root.at? address = some (.leaf made origin) →
          ∃ info, reference.tree.root.at? address =
              some (.leaf info (origin.cast (reference.chapters address))) ∧
            info.scratch = gathered made.scratch (reference.chapters address)) ∧
      ∀ (parts : List (Part α)) (edits : List (Board η → Board η)),
        SameTick ((built.after (parts.map Part.operation)).after (ticking edits))
          ((Tree.build (plan.equip parts) board).1.after (ticking edits)) := by
  intro built
  constructor
  · intro operations reference
    have follows : Follows reference (built.after operations) :=
      (Follows.start built).after operations
    have planned : reference.plan = built.root := Reference.plan_foldl operations
    refine ⟨follows.sameTick, ?_⟩
    rw [← planned]
    exact follows.cast
  · exact sameTick_equip plan board

end

end Behavior
