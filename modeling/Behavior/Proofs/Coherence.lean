import Behavior.Proofs.Judgement
import Behavior.Proofs.Procedure
import Behavior.Proofs.Reach
import Behavior.Proofs.Session

/-!
# Coherence of the records

The status on record at a node is the one that the records below it amount to, although these may
stem from different evaluations: children that the last evaluation of a composite left out keep
older records, but it is never these that its own record rests upon. And a node without a record has
none below it.
-/

namespace Behavior.Node

variable {η : Type} [HostTypes η] {α : Type}

def Explains : Node η α → Status → Prop
  | .leaf _ tip, status => tip.kind = .condition → status ≠ .running
  | .composite _ rule children, status => rule.Explains (children.map Node.status) status
  | .decorator _ rule child, status =>
      ∃ record, child.status = some record ∧ rule.Explains record status

def Agrees (node : Node η α) : Prop :=
  match node.status with
  | none => ∀ sub ∈ node.preorder, sub.status = none
  | some status => node.Explains status

def Coherent (node : Node η α) : Prop :=
  ∀ sub ∈ node.preorder, sub.Agrees

def Unevaluated (node : Node η α) : Prop :=
  ∀ sub ∈ node.preorder, sub.status = none

instance (node : Node η α) : Decidable node.Unevaluated :=
  inferInstanceAs (Decidable (∀ sub ∈ node.preorder, sub.status = none))

/-- Whether the children of the node, if it is a parallel composite, are few enough to be counted
when all of them are running. -/
def isNarrow : Node η α → Bool
  | .composite _ (.parallel ..) children => children.length ≤ Int32.maxValue.toNatClampNeg
  | .composite .. => true
  | .leaf .. => true
  | .decorator .. => true

def Narrow (node : Node η α) : Prop :=
  ∀ sub ∈ node.preorder, sub.isNarrow = true

instance (node : Node η α) : Decidable node.Narrow :=
  inferInstanceAs (Decidable (∀ sub ∈ node.preorder, sub.isNarrow = true))

inductive Fresh : Node η α → Prop where
  | action (routine : α) : Fresh (.action routine)
  | constant (status : Status) : Fresh (.constant status)
  | condition (test : α) : Fresh (.condition test)
  | actionSlot (slot : String) : Fresh (.actionSlot slot)
  | conditionSlot (slot : String) : Fresh (.conditionSlot slot)
  | sequence {children : List (Node η α)} : (∀ child ∈ children, Fresh child) →
      Fresh (.sequence children)
  | selector {children : List (Node η α)} : (∀ child ∈ children, Fresh child) →
      Fresh (.selector children)
  | parallel {children : List (Node η α)} (successes failures : UInt64) :
      (∀ child ∈ children, Fresh child) → Fresh (.parallel children successes failures)
  | inverter {child : Node η α} : Fresh child → Fresh child.inverter
  | repeater {child : Node η α} (limit : RepeatCount) : Fresh child →
      Fresh (child.repeater limit)
  | untilFail {child : Node η α} : Fresh child → Fresh child.untilFail
  | named {node : Node η α} (name : String) : Fresh node → Fresh (node.named name)

/-! ## Before the first evaluation -/

theorem unevaluated_iff {node : Node η α} :
    node.Unevaluated ↔ node.status = none ∧ ∀ child ∈ node.children, child.Unevaluated :=
  forall_mem_preorder_iff

theorem Fresh.unevaluated {node : Node η α} (fresh : node.Fresh) : node.Unevaluated := by
  induction fresh with
  | action | constant | condition | actionSlot | conditionSlot =>
      exact unevaluated_iff.2 ⟨rfl, nofun⟩
  | sequence _ ih => exact unevaluated_iff.2 ⟨rfl, ih⟩
  | selector _ ih => exact unevaluated_iff.2 ⟨rfl, ih⟩
  | parallel successes failures _ ih => exact unevaluated_iff.2 ⟨rfl, ih⟩
  | inverter _ ih => exact unevaluated_iff.2 ⟨rfl, List.forall_mem_singleton.2 ih⟩
  | repeater limit _ ih => exact unevaluated_iff.2 ⟨rfl, List.forall_mem_singleton.2 ih⟩
  | untilFail _ ih => exact unevaluated_iff.2 ⟨rfl, List.forall_mem_singleton.2 ih⟩
  | @named node name _ ih =>
      obtain ⟨none, below⟩ := unevaluated_iff.1 ih
      refine unevaluated_iff.2 ⟨?_, ?_⟩
      · simpa [Node.named, Node.status] using none
      · simpa [Node.named] using below

theorem Unevaluated.coherent {node : Node η α} (unevaluated : node.Unevaluated) :
    node.Coherent := by
  intro sub member
  rw [Agrees, unevaluated sub member]
  exact fun inner below => unevaluated inner (mem_preorder_trans member below)

/-! ## What the records say is a matter of the records -/

theorem explains_recorded {node : Node η α} {status : Status} :
    node.recorded.Explains status ↔ node.Explains status := by
  cases node with
  | leaf info tip => simp [recorded, relabel, Explains]
  | composite info rule children =>
      have same : Node.status ∘ recorded (α := α) = (Node.status : Node η α → _) := by
        funext child
        simp [recorded, Node.status]
      simp only [recorded, relabel, relabelAll_eq_map, Explains, List.map_map]
      rw [show Node.status ∘ relabel _ _ _ = _ from same]
  | decorator info rule child =>
      simp [recorded, relabel, Explains, Node.status]

theorem coherent_recorded {node : Node η α} : node.recorded.Coherent ↔ node.Coherent := by
  have status_recorded (node : Node η α) : node.recorded.status = node.status := by
    simp [recorded, Node.status]
  have preorder_recorded (node : Node η α) :
      node.recorded.preorder = node.preorder.map recorded := preorder_relabel _ _ _ node
  have agrees_recorded (node : Node η α) : node.recorded.Agrees ↔ node.Agrees := by
    rw [Agrees, Agrees, status_recorded]
    cases node.status with
    | none => simp [preorder_recorded, status_recorded]
    | some status => exact explains_recorded
  simp [Coherent, preorder_recorded, agrees_recorded]

theorem narrow_relabel {β : Type} {onInfo : Info η → Info η} {onLeaf : Leaf α → Leaf β}
    {onRule : Decorator → Decorator} {node : Node η α} :
    (node.relabel onInfo onLeaf onRule).Narrow ↔ node.Narrow := by
  have narrow (node : Node η α) :
      (node.relabel onInfo onLeaf onRule).isNarrow = node.isNarrow := by
    cases node with
    | leaf info tip => rfl
    | composite info rule children =>
        cases rule <;> simp [relabel, isNarrow, relabelAll_eq_map]
    | decorator info rule child => rfl
  simp [Narrow, preorder_relabel, narrow]

theorem coherent_narrow_congr {node other : Node η α} (same : other.recorded = node.recorded)
    (kept : node.Coherent ∧ node.Narrow) : other.Coherent ∧ other.Narrow := by
  have narrow_recorded {node : Node η α} : node.recorded.Narrow ↔ node.Narrow := narrow_relabel
  rw [← coherent_recorded, ← narrow_recorded, same]
  exact ⟨coherent_recorded.2 kept.1, narrow_recorded.2 kept.2⟩

/-! ## Evaluating -/

theorem explains_conclude {outcome : Outcome η α (Node η α) Status} {status : Status} :
    (conclude outcome).subject.Explains status ↔ outcome.subject.Explains status := by
  cases ended : outcome.result with
  | error panic => rw [conclude_of_error ended]
  | ok result =>
      rw [conclude_of_ok ended]
      obtain ⟨subject, board, events, result⟩ := outcome
      cases subject <;> rfl

variable [Host η α] {node : Node η α} {board : Board η} {status : Status}

theorem explains_evaluateLeaf {info : Info η} {tip : Leaf α}
    (ended : (evaluateLeaf info tip board).result = .ok status) :
    (evaluateLeaf info tip board).subject.Explains status := by
  cases tip with
  | action slot callback =>
      cases callback with
      | none =>
          intro condition
          cases condition
      | some callback =>
          cases callback with
          | constant result =>
              intro condition
              cases condition
          | routine routine =>
              intro condition
              cases condition
  | condition slot test =>
      cases test with
      | none =>
          obtain rfl : .failure = status := by simpa [evaluateLeaf] using ended
          intro _ running
          cases running
      | some test =>
          simp only [evaluateLeaf, Outcome.map, Host.result_call] at ended
          obtain ⟨_, answered, rfl⟩ := map_eq_ok ended
          obtain ⟨holds, -, rfl⟩ := map_eq_ok answered
          intro _
          cases holds <;> decide

theorem settles_evaluateUntil {pass : Status} {children : List (Node η α)}
    {statuses : List Status}
    (ended : (evaluateUntil (· != pass) children board).result = .ok statuses) :
    Settles pass ((evaluateUntil (· != pass) children board).subject.map Node.status)
      ((statuses.find? (· != pass)).getD pass) := by
  rw [records_evaluateUntil ended]
  apply Composite.settles_find?
  rcases statuses_evaluateUntil ended with ⟨length, all⟩ | ⟨before, last, split, stop, all⟩
  · exact .inl ⟨by simpa using all, by simp [length]⟩
  · exact .inr ⟨before, last, split, by simpa using stop, by simpa using all⟩

theorem explains_evaluateUntil {info : Info η} {rule : Composite} {children : List (Node η α)}
    {statuses : List Status} (narrow : (Node.composite info rule children).isNarrow = true)
    (ended : (evaluateUntil rule.stops children board).result = .ok statuses) :
    rule.Explains ((evaluateUntil rule.stops children board).subject.map Node.status)
      (rule.verdict statuses) := by
  cases rule with
  | sequence => exact settles_evaluateUntil ended
  | selector => exact settles_evaluateUntil ended
  | parallel successes failures =>
      have length : statuses.length = children.length := by
        rcases statuses_evaluateUntil ended with ⟨length, -⟩ | ⟨before, last, split, stop, -⟩
        · exact length
        · cases stop
      have few : statuses.length ≤ Int32.maxValue.toNatClampNeg := by
        rw [length]
        simpa [isNarrow] using narrow
      refine ⟨statuses, ?_, Composite.verdict_parallel few⟩
      rw [records_evaluateUntil ended, length]
      simp

theorem explains_evaluate (narrow : node.isNarrow = true)
    (ended : (node.evaluate board).result = .ok status) :
    (node.evaluate board).subject.Explains status := by
  cases node with
  | leaf info tip =>
      rw [evaluate_leaf, result_conclude] at ended
      rw [evaluate_leaf, explains_conclude]
      exact explains_evaluateLeaf ended
  | composite info rule children =>
      rw [result_evaluate_composite] at ended
      obtain ⟨statuses, walked, rfl⟩ := map_eq_ok ended
      rw [evaluate_composite, explains_conclude]
      exact explains_evaluateUntil narrow walked
  | decorator info rule child =>
      rw [result_evaluate_decorator] at ended
      obtain ⟨record, inner, rfl⟩ := map_eq_ok ended
      rw [evaluate_decorator_of_ok info rule inner, explains_conclude]
      exact ⟨record, status_evaluate inner, rule.explains_judge record⟩

theorem Narrow.evaluate (narrow : node.Narrow) (board : Board η) :
    (node.evaluate board).subject.Narrow := by
  have narrow_shape {node : Node η α} : node.shape.Narrow ↔ node.Narrow := narrow_relabel
  rw [← narrow_shape, shape_evaluate]
  exact narrow_shape.2 narrow

theorem Coherent.evaluate (coherent : node.Coherent) (narrow : node.Narrow)
    (ended : (node.evaluate board).result = .ok status) :
    (node.evaluate board).subject.Coherent := by
  intro sub member
  obtain ⟨address, located⟩ := mem_preorder_iff_at?.1 member
  cases reached : node.reach? board address with
  | none =>
      -- The whole subtree is as it was, so what was on record below it still is.
      rw [at?_of_reach?_eq_none reached] at located
      exact coherent sub (mem_preorder_iff_at?.2 ⟨address, located⟩)
  | some pair =>
      obtain ⟨old, start⟩ := pair
      obtain ⟨before, after⟩ := at?_of_reach? reached
      obtain rfl : (old.evaluate start).subject = sub := by
        rw [located] at after
        exact (Option.some.inj after).symm
      obtain ⟨record, inner⟩ := result_of_reach? ended reached
      rw [Agrees, status_evaluate inner]
      exact explains_evaluate (narrow old (mem_preorder_iff_at?.2 ⟨address, before⟩)) inner

/-! ## Whole sessions -/

/-- Whatever a host does with a node that was never evaluated, the records agree at every node as
long as no evaluation panics. -/
theorem agrees_of_run {stage : Stage η α} {events : List (Event η α)} (fresh : node.Fresh)
    (narrow : node.Narrow) (run : Run (.bare node) stage events) :
    ∀ sub ∈ stage.root.preorder, sub.Agrees := by
  -- Every later evaluation has to count its parallel children correctly again.
  have kept : stage.root.Coherent ∧ stage.root.Narrow := by
    refine run.root_invariant (fun node => node.Coherent ∧ node.Narrow)
      ⟨fresh.unevaluated.coherent, narrow⟩ ?_ ?_ ?_
    · rintro node board status ⟨coherent, narrow⟩ ended
      exact ⟨coherent.evaluate narrow ended, narrow.evaluate board⟩
    · intro node kept
      exact coherent_narrow_congr (relabel_plant (fun _ _ => rfl) node "root") kept
    · intro node change kept keeps
      exact coherent_narrow_congr (relabel_replaceLeaves keeps node) kept
  exact kept.1

def door : Node Counting Deed :=
  .selector [.sequence [.actionSlot "unlock", .action (.recite [.running, .failure])],
    .parallel [.inverter (.condition (.recite [])), .repeater (.constant .success) (.times 2)] 2 1]

theorem agrees_of_run_door :
    ∃ (stage : Stage Counting Deed) (events : List (Event Counting Deed)),
      door.Fresh ∧ door.Narrow ∧ Run (.bare door) stage events ∧
        stage.root.preorder.map Node.status =
          [some .running, some .running, some .success, some .running, some .failure,
            some .failure, some .success, some .running, some .success] ∧
        ∀ sub ∈ stage.root.preorder, sub.Agrees := by
  have fresh : door.Fresh := by
    have first : (Node.sequence [.actionSlot "unlock", .action (.recite [.running, .failure])] :
        Node Counting Deed).Fresh :=
      .sequence (by simpa using ⟨.actionSlot "unlock", .action _⟩)
    have second : (Node.parallel [.inverter (.condition (.recite [])),
        .repeater (.constant .success) (.times 2)] 2 1 : Node Counting Deed).Fresh :=
      .parallel 2 1 (by
        simpa using ⟨.inverter (.condition _), .repeater (.times 2) (.constant .success)⟩)
    exact .selector (by simpa using ⟨first, second⟩)
  have narrow : door.Narrow := by decide
  have run := ((((.refl : Run (Stage.bare door) _ _)).step (.evaluate ∅) rfl rfl).step
    (.plant ∅) rfl rfl).step (.bindAction "unlock" (.recite [])) rfl rfl |>.step .tick rfl rfl
  exact ⟨_, _, fresh, narrow, run, rfl, agrees_of_run fresh narrow run⟩

end Behavior.Node
