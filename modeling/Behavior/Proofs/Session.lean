import Behavior.Proofs.Evaluation

namespace Behavior

variable {η : Type} [HostTypes η] {α : Type}

inductive Operation (η : Type) [HostTypes η] (α : Type) where
  | evaluate (board : Board η)
  | plant (board : Board η)
  | tick
  | bindAction (slot : String) (routine : α)
  | bindCondition (slot : String) (test : α)
  | edit (change : Board η → Board η)

inductive Stage (η : Type) [HostTypes η] (α : Type) where
  | bare (node : Node η α)
  | planted (tree : Tree η α)

def Stage.root : Stage η α → Node η α
  | bare node => node
  | planted tree => tree.root

structure Turn (η : Type) [HostTypes η] (α : Type) where
  stage : Stage η α
  events : List (Event η α) := []
  panic : Option Panic := none

def Outcome.panic? {σ ρ : Type} (outcome : Outcome η α σ ρ) : Option Panic :=
  match outcome.result with
  | .ok _ => none
  | .error panic => some panic

def Tree.afterBinding (tree : Tree η α) (answer : Except BindError (Nat × Tree η α)) : Tree η α :=
  match answer with
  | .ok (_, bound) => bound
  | .error _ => tree

def Stage.perform [Host η α] : Stage η α → Operation η α → Option (Turn η α)
  | bare node, .evaluate board =>
      let outcome := node.evaluate board
      some ⟨bare outcome.subject, outcome.events, outcome.panic?⟩
  | bare node, .plant board =>
      let (tree, records) := Tree.build node board
      some { stage := planted tree, events := records.map .log }
  | planted tree, .tick =>
      let outcome := tree.tick
      some ⟨planted outcome.subject, outcome.events, outcome.panic?⟩
  | planted tree, .bindAction slot routine =>
      some { stage := planted (tree.afterBinding (tree.bindAction slot routine)) }
  | planted tree, .bindCondition slot test =>
      some { stage := planted (tree.afterBinding (tree.bindCondition slot test)) }
  | planted tree, .edit change =>
      some { stage := planted { tree with board := change tree.board } }
  | _, _ => none

/-- Sequences of operations none of which panics, with all that happens meanwhile. -/
inductive Run [Host η α] (start : Stage η α) : Stage η α → List (Event η α) → Prop where
  | refl : Run start start []
  | step {stage : Stage η α} {events : List (Event η α)} {turn : Turn η α}
      (operation : Operation η α) : Run start stage events →
      stage.perform operation = some turn → turn.panic = none →
      Run start turn.stage (events ++ turn.events)

inductive Tree.Ticks [Host η α] (start : Tree η α) : Tree η α → Prop where
  | refl : Ticks start start
  | tick {tree : Tree η α} {status : Status} : Ticks start tree →
      tree.tick.result = .ok status → Ticks start tree.tick.subject

theorem Outcome.panic?_eq_none_iff {σ ρ : Type} {outcome : Outcome η α σ ρ} :
    outcome.panic? = none ↔ ∃ value, outcome.result = .ok value := by
  unfold panic?
  split <;> simp_all

theorem Tree.result_tick [Host η α] (tree : Tree η α) :
    tree.tick.result = (tree.root.evaluate tree.board).result := by
  simp only [tick, Outcome.map]
  cases (tree.root.evaluate tree.board).result <;> rfl

theorem Tree.board_tick [Host η α] (tree : Tree η α) :
    tree.tick.subject.board = (tree.root.evaluate tree.board).board := rfl

theorem Tree.events_tick [Host η α] (tree : Tree η α) :
    tree.tick.events = (tree.root.evaluate tree.board).events := rfl

def KeepsSlots (change : Leaf α → Option (Leaf α)) : Prop :=
  ∀ tip new, change tip = some new → new.blank = tip.blank

theorem Tree.afterBinding_bindAction (tree : Tree η α) (slot : String) (routine : α) :
    tree.afterBinding (tree.bindAction slot routine) =
      { tree with root := (tree.root.replaceLeaves (·.bindAction? slot routine)).2 } := by
  unfold bindAction
  split
  · rename_i same
    rw [Node.replaceLeaves_of_count_eq_zero (by rw [same])]
    rfl
  · rename_i same
    rw [same]
    rfl

theorem Tree.afterBinding_bindCondition (tree : Tree η α) (slot : String) (test : α) :
    tree.afterBinding (tree.bindCondition slot test) =
      { tree with root := (tree.root.replaceLeaves (·.bindCondition? slot test)).2 } := by
  unfold bindCondition
  split
  · rename_i same
    rw [Node.replaceLeaves_of_count_eq_zero (by rw [same])]
    rfl
  · rename_i same
    rw [same]
    rfl

theorem Stage.perform_planted [Host η α] {tree : Tree η α} {operation : Operation η α}
    {turn : Turn η α} (performed : (planted tree).perform operation = some turn) :
    turn = ⟨planted tree.tick.subject, tree.tick.events, tree.tick.panic?⟩ ∨
      ∃ later, turn = { stage := planted later } ∧
        (later.root = tree.root ∨
          ∃ change, KeepsSlots change ∧ later.root = (tree.root.replaceLeaves change).2) := by
  cases operation with
  | evaluate board => cases performed
  | plant board => cases performed
  | tick => exact .inl (Option.some.inj performed).symm
  | bindAction slot routine =>
      refine .inr ⟨_, (Option.some.inj performed).symm, .inr ?_⟩
      rw [tree.afterBinding_bindAction]
      exact ⟨_, fun _ _ => Leaf.blank_bindAction?, rfl⟩
  | bindCondition slot test =>
      refine .inr ⟨_, (Option.some.inj performed).symm, .inr ?_⟩
      rw [tree.afterBinding_bindCondition]
      exact ⟨_, fun _ _ => Leaf.blank_bindCondition?, rfl⟩
  | edit change => exact .inr ⟨_, (Option.some.inj performed).symm, .inl rfl⟩

theorem Stage.root_perform [Host η α] {stage : Stage η α} {operation : Operation η α}
    {turn : Turn η α} (performed : stage.perform operation = some turn) :
    (∃ board, turn.stage.root = (stage.root.evaluate board).subject ∧
        turn.panic = (stage.root.evaluate board).panic?) ∨
      turn.stage.root = (stage.root.plant "root").subject ∨
      (∃ change, KeepsSlots change ∧ turn.stage.root = (stage.root.replaceLeaves change).2) ∨
      turn.stage.root = stage.root := by
  cases stage with
  | bare node =>
      cases operation with
      | evaluate board =>
          obtain rfl := Option.some.inj performed
          exact .inl ⟨board, rfl, rfl⟩
      | plant board =>
          obtain rfl := Option.some.inj performed
          exact .inr (.inl rfl)
      | tick => cases performed
      | bindAction slot routine => cases performed
      | bindCondition slot test => cases performed
      | edit change => cases performed
  | planted tree =>
      rcases Stage.perform_planted performed with rfl | ⟨later, rfl, same | replaced⟩
      · refine .inl ⟨tree.board, rfl, ?_⟩
        simp only [Outcome.panic?, Tree.result_tick]
        rfl
      · exact .inr (.inr (.inr same))
      · exact .inr (.inr (.inl replaced))

theorem Run.root_invariant [Host η α] {start stage : Stage η α} {events : List (Event η α)}
    (run : Run start stage events) (holds : Node η α → Prop) (initially : holds start.root)
    (evaluated : ∀ {node : Node η α} {board status}, holds node →
      (node.evaluate board).result = .ok status → holds (node.evaluate board).subject)
    (planted : ∀ {node : Node η α}, holds node → holds (node.plant "root").subject)
    (replaced : ∀ {node : Node η α} {change}, holds node → KeepsSlots change →
      holds (node.replaceLeaves change).2) :
    holds stage.root := by
  induction run with
  | refl => exact initially
  | step operation _ performed calm ih =>
      rcases Stage.root_perform performed with
        ⟨board, same, panic⟩ | same | ⟨change, keeps, same⟩ | same
      · obtain ⟨status, ended⟩ := Outcome.panic?_eq_none_iff.1 (panic.symm.trans calm)
        rw [same]
        exact evaluated ih ended
      · rw [same]
        exact planted ih
      · rw [same]
        exact replaced ih keeps
      · rw [same]
        exact ih

theorem Run.exists_planted [Host η α] {start : Tree η α} {stage : Stage η α}
    {events : List (Event η α)} (run : Run (.planted start) stage events) :
    ∃ tree, stage = .planted tree := by
  induction run with
  | refl => exact ⟨start, rfl⟩
  | step operation _ performed _ ih =>
      obtain ⟨tree, rfl⟩ := ih
      rcases Stage.perform_planted performed with rfl | ⟨later, rfl, -⟩
      · exact ⟨_, rfl⟩
      · exact ⟨later, rfl⟩

end Behavior
