import Behavior.Proofs.Ordered
import Behavior.Proofs.Procedure
import Behavior.Proofs.Turns

namespace Behavior

variable {η : Type} [HostTypes η] {α : Type}

structure Composite.GoesOnAt (rule : Composite) (pass : Status) : Prop where
  ordered : rule.isOrdered = true
  stops : ∀ status, rule.stops status = (status != pass)

namespace Composite.GoesOnAt

variable {rule : Composite} {pass : Status}

theorem verdict_of_passes (goes : rule.GoesOnAt pass) {statuses : List Status}
    (passes : statuses.any rule.stops = false) : rule.verdict statuses = pass := by
  rw [← stops_verdict goes.ordered, goes.stops] at passes
  simpa using passes

theorem any_stops_replicate (goes : rule.GoesOnAt pass) (count : Nat) :
    (List.replicate count pass).any rule.stops = false := by
  rw [List.any_eq_false]
  intro status member
  simp [goes.stops, List.eq_of_mem_replicate member]

theorem results_of_passed {turns : List (Outcome η α (Node η α) Status)}
    (passed : ∀ turn ∈ turns, turn.result = .ok pass) :
    turns.map (·.result) = (List.replicate turns.length pass).map .ok := by
  rw [List.map_replicate]
  exact List.map_eq_replicate_iff.2 passed

theorem passed_of_results (goes : rule.GoesOnAt pass)
    {turns : List (Outcome η α (Node η α) Status)} {statuses : List Status}
    (results : turns.map (·.result) = statuses.map .ok)
    (passes : statuses.any rule.stops = false) : ∀ turn ∈ turns, turn.result = .ok pass := by
  intro turn member
  have listed := List.mem_map_of_mem (f := (·.result)) member
  rw [results] at listed
  obtain ⟨status, inside, same⟩ := List.mem_map.1 listed
  have passing := List.any_eq_false.1 passes status inside
  rw [goes.stops, bne_iff_ne, not_not] at passing
  rw [← same, passing]

end Composite.GoesOnAt

section
variable [Host η α]

/-- Whether the node is the first one to come to another status than `pass`, if it has its turn
after the nodes before it. -/
structure FirstToDepart (pass : Status) (board : Board η) (before : List (Node η α))
    (node : Node η α) (status : Status) : Prop where
  passed : ∀ turn ∈ Node.inTurn before board, turn.result = .ok pass
  departed : (node.evaluate (lastBoard board (Node.inTurn before board))).result = .ok status
  other : status ≠ pass

structure ShortCircuits (rule : Composite) (pass : Status) (info : Info η)
    (children : List (Node η α)) (board : Board η) : Prop where
  stopped : ∀ before child after status, children = before ++ child :: after →
    FirstToDepart pass board before child status →
      let turns := Node.inTurn (before ++ [child]) board
      TakesTurns ((Node.composite info rule children).evaluate board) info.path board turns after
          status ∧
        ∀ others, TakesTurns ((Node.composite info rule (before ++ child :: others)).evaluate board)
          info.path board turns others status
  exhausted : ∀ status,
    ((Node.composite info rule children).evaluate board).result = .ok status →
    (∀ before child after other, children = before ++ child :: after →
      ¬ FirstToDepart pass board before child other) →
    TakesTurns ((Node.composite info rule children).evaluate board) info.path board
      (Node.inTurn children board) [] pass
  restarts : let left := ((Node.composite info rule children).evaluate board).subject
    (∃ later, left = .composite later rule left.children) ∧
      ∀ next first rest, left.children = first :: rest →
        (first.evaluate next).events <+: (left.evaluate next).events ∧
          (left.evaluate next).subject.children.head? = some (first.evaluate next).subject

namespace Node

variable {rule : Composite} {pass : Status} {board : Board η}

theorem takesTurns_of_firstToDepart (goes : rule.GoesOnAt pass) {before : List (Node η α)}
    {child : Node η α} {status : Status} (first : FirstToDepart pass board before child status)
    (info : Info η) (after : List (Node η α)) :
    TakesTurns ((composite info rule (before ++ child :: after)).evaluate board) info.path board
      (inTurn (before ++ [child]) board) after status := by
  have passes := goes.any_stops_replicate (inTurn before board).length
  have stop : rule.stops status = true := by simp [goes.stops, first.other]
  have turns := takesTurns_of_walk
    (evaluateUntil_of_stops (Composite.GoesOnAt.results_of_passed first.passed) passes
      first.departed stop after) info
  rwa [Composite.verdict_append goes.ordered passes,
    Composite.verdict_singleton goes.ordered] at turns

theorem takesTurns_of_none_departs (goes : rule.GoesOnAt pass) {info : Info η}
    {children : List (Node η α)} {status : Status}
    (ended : ((composite info rule children).evaluate board).result = .ok status)
    (none : ∀ before child after other, children = before ++ child :: after →
      ¬ FirstToDepart pass board before child other) :
    TakesTurns ((composite info rule children).evaluate board) info.path board
      (inTurn children board) [] pass := by
  rw [result_evaluate_composite] at ended
  obtain ⟨statuses, walked, -⟩ := map_eq_ok ended
  rcases inTurn_cases walked with
    ⟨results, passes⟩ | ⟨before, child, after, passed, last, split, results, passes, ending, stop⟩
  · have walk := evaluateUntil_of_passes results passes
    rw [← List.append_nil ((inTurn children board).map (·.subject))] at walk
    have turns := takesTurns_of_walk walk info
    rwa [goes.verdict_of_passes passes] at turns
  · refine absurd ⟨goes.passed_of_results results passes, ending, ?_⟩
      (none before child after last split)
    rw [goes.stops] at stop
    simpa using stop

theorem starts_with_first (info : Info η) (rule : Composite) (first : Node η α)
    (rest : List (Node η α)) (board : Board η) :
    (first.evaluate board).events <+:
        ((composite info rule (first :: rest)).evaluate board).events ∧
      ((composite info rule (first :: rest)).evaluate board).subject.children.head? =
        some (first.evaluate board).subject := by
  rw [children_evaluate_composite, evaluate_composite_eq]
  rcases walk_cases rule.stops first board with
    ⟨panic, ended⟩ | ⟨status, ended, stop⟩ | ⟨status, ended, pass⟩
  · rw [evaluateUntil_cons_of_error ended]
    exact ⟨List.prefix_append _ _, rfl⟩
  · rw [evaluateUntil_cons_of_stops ended stop]
    exact ⟨List.prefix_append _ _, rfl⟩
  · rw [evaluateUntil_cons_of_passes ended pass]
    refine ⟨?_, rfl⟩
    simp only [List.append_assoc]
    exact List.prefix_append _ _

theorem shortCircuits_of_goesOnAt (goes : rule.GoesOnAt pass) (info : Info η)
    (children : List (Node η α)) (board : Board η) :
    ShortCircuits rule pass info children board := by
  constructor
  case stopped =>
    rintro before child after status rfl first
    exact ⟨takesTurns_of_firstToDepart goes first info after,
      takesTurns_of_firstToDepart goes first info⟩
  case exhausted =>
    intro status ended none
    exact takesTurns_of_none_departs goes ended none
  case restarts =>
    -- The rule is all that a composite keeps, so the next walk starts with the first child.
    have left : ((composite info rule children).evaluate board).subject =
        .composite (info.noted ((composite info rule children).evaluate board).result) rule
          ((composite info rule children).evaluate board).subject.children := by
      rw [children_evaluate_composite, evaluate_composite_eq]
    refine ⟨⟨_, left⟩, ?_⟩
    intro next first rest listed
    rw [left, listed]
    exact starts_with_first _ rule first rest next

end Node

/-- A sequence stops at the first child that does not succeed, and a selector at the first one that
does not fail. -/
theorem shortCircuits_evaluate (info : Info η) (children : List (Node η α)) (board : Board η) :
    ShortCircuits .sequence .success info children board ∧
      ShortCircuits .selector .failure info children board :=
  ⟨Node.shortCircuits_of_goesOnAt ⟨rfl, fun _ => rfl⟩ info children board,
    Node.shortCircuits_of_goesOnAt ⟨rfl, fun _ => rfl⟩ info children board⟩

end

def watch : List (Node Counting Deed) :=
  [.constant .success, .action (.recite [.running]), .action (.stumble "a" 1)]

theorem shortCircuits_evaluate_watch :
    FirstToDepart .success ∅ (watch.take 1) (.action (.recite [.running])) .running ∧
      TakesTurns ((Node.sequence watch).evaluate ∅) "" ∅ (Node.inTurn (watch.take 2) ∅)
        (watch.drop 2) .running := by
  have first :
      FirstToDepart .success ∅ (watch.take 1) (.action (.recite [.running])) .running := by
    constructor
    case passed =>
      intro turn member
      rw [List.mem_singleton.1 member]
      rfl
    case departed => rfl
    case other => decide
  obtain ⟨sequences, -⟩ := shortCircuits_evaluate {} watch ∅
  exact ⟨first, (sequences.stopped (watch.take 1) _ (watch.drop 2) .running rfl first).1⟩

end Behavior
