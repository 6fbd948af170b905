import Behavior.Proofs.Evaluation

namespace Behavior

variable {η : Type} [HostTypes η] {α : Type}

def lastBoard (board : Board η) (turns : List (Outcome η α (Node η α) Status)) : Board η :=
  (turns.getLast?.map (·.board)).getD board

@[simp] theorem lastBoard_nil (board : Board η) :
    lastBoard board ([] : List (Outcome η α (Node η α) Status)) = board := rfl

theorem lastBoard_cons (board : Board η) (turn : Outcome η α (Node η α) Status)
    (turns : List (Outcome η α (Node η α) Status)) :
    lastBoard board (turn :: turns) = lastBoard turn.board turns := by
  rw [lastBoard, lastBoard, List.getLast?_cons]
  cases turns.getLast? <;> rfl

structure TakesTurns (outcome : Outcome η α (Node η α) Status) (path : String) (board : Board η)
    (turns : List (Outcome η α (Node η α) Status)) (remaining : List (Node η α))
    (status : Status) : Prop where
  result : outcome.result = .ok status
  board : outcome.board = lastBoard board turns
  events : outcome.events = turns.flatMap (·.events) ++ Node.closing path (.ok status)
  children : outcome.subject.children = turns.map (·.subject) ++ remaining

namespace Node

variable [Host η α]

def inTurn : List (Node η α) → Board η → List (Outcome η α (Node η α) Status)
  | [], _ => []
  | node :: rest, board => node.evaluate board :: inTurn rest (node.evaluate board).board

@[simp] theorem inTurn_nil (board : Board η) : inTurn ([] : List (Node η α)) board = [] := rfl

@[simp] theorem inTurn_cons (node : Node η α) (rest : List (Node η α)) (board : Board η) :
    inTurn (node :: rest) board =
      node.evaluate board :: inTurn rest (node.evaluate board).board := rfl

theorem length_inTurn (nodes : List (Node η α)) (board : Board η) :
    (inTurn nodes board).length = nodes.length := by
  induction nodes generalizing board with
  | nil => rfl
  | cons node rest ih => rw [inTurn_cons, List.length_cons, List.length_cons, ih]

theorem inTurn_append (first second : List (Node η α)) (board : Board η) :
    inTurn (first ++ second) board =
      inTurn first board ++ inTurn second (lastBoard board (inTurn first board)) := by
  induction first generalizing board with
  | nil => rfl
  | cons node rest ih =>
      rw [List.cons_append, inTurn_cons, inTurn_cons, ih, lastBoard_cons, List.cons_append]

variable {stops : Status → Bool} {board : Board η} {statuses : List Status}

theorem evaluateUntil_of_passes {nodes : List (Node η α)}
    (results : (inTurn nodes board).map (·.result) = statuses.map .ok)
    (passes : statuses.any stops = false) :
    evaluateUntil stops nodes board =
      ⟨(inTurn nodes board).map (·.subject), lastBoard board (inTurn nodes board),
        (inTurn nodes board).flatMap (·.events), .ok statuses⟩ := by
  induction nodes generalizing board statuses with
  | nil =>
      obtain rfl : statuses = [] := List.map_eq_nil_iff.1 results.symm
      rfl
  | cons node rest ih =>
      cases statuses with
      | nil => cases results
      | cons status statuses =>
          obtain ⟨ended, others⟩ := List.cons.inj results
          rw [List.any_cons, Bool.or_eq_false_iff] at passes
          rw [evaluateUntil_cons_of_passes ended passes.1, ih others passes.2, inTurn_cons,
            lastBoard_cons]
          rfl

theorem evaluateUntil_of_stops {first : List (Node η α)} {node : Node η α} {status : Status}
    (results : (inTurn first board).map (·.result) = statuses.map .ok)
    (passes : statuses.any stops = false)
    (ended : (node.evaluate (lastBoard board (inTurn first board))).result = .ok status)
    (stop : stops status = true) (rest : List (Node η α)) :
    evaluateUntil stops (first ++ node :: rest) board =
      let turns := inTurn (first ++ [node]) board
      ⟨turns.map (·.subject) ++ rest, lastBoard board turns, turns.flatMap (·.events),
        .ok (statuses ++ [status])⟩ := by
  have last (turn : Outcome η α (Node η α) Status)
      (turns : List (Outcome η α (Node η α) Status)) :
      lastBoard board (turns ++ [turn]) = turn.board := by
    simp [lastBoard]
  rw [evaluateUntil_append, evaluateUntil_of_passes results passes]
  simp only [passes, Bool.false_eq_true, if_false, evaluateUntil_cons_of_stops ended stop,
    inTurn_append, inTurn_cons, inTurn_nil, last, List.map_append, List.flatMap_append]
  simp [Except.map]

theorem inTurn_cases {nodes : List (Node η α)}
    (ended : (evaluateUntil stops nodes board).result = .ok statuses) :
    ((inTurn nodes board).map (·.result) = statuses.map .ok ∧ statuses.any stops = false) ∨
      ∃ (first : List (Node η α)) (node : Node η α) (rest : List (Node η α))
        (passed : List Status) (status : Status), nodes = first ++ node :: rest ∧
        (inTurn first board).map (·.result) = passed.map .ok ∧ passed.any stops = false ∧
        (node.evaluate (lastBoard board (inTurn first board))).result = .ok status ∧
        stops status = true := by
  induction nodes generalizing board statuses with
  | nil =>
      obtain rfl : [] = statuses := by simpa [evaluateUntil] using ended
      exact .inl ⟨rfl, rfl⟩
  | cons node rest ih =>
      rcases walk_cases stops node board with
        ⟨panic, here⟩ | ⟨status, here, stop⟩ | ⟨status, here, pass⟩
      · rw [evaluateUntil_cons_of_error here] at ended
        cases ended
      · exact .inr ⟨[], node, rest, [], status, rfl, rfl, rfl, here, stop⟩
      · rw [evaluateUntil_cons_of_passes here pass] at ended
        obtain ⟨later, others, rfl⟩ := map_eq_ok ended
        rcases ih others with
          ⟨results, passes⟩ | ⟨first, other, after, passed, last, rfl, results, passes, ending⟩
        · refine .inl ⟨?_, ?_⟩
          · rw [inTurn_cons, List.map_cons, List.map_cons, here, results]
          · rw [List.any_cons, pass, passes]
            rfl
        · refine .inr ⟨node :: first, other, after, status :: passed, last, rfl, ?_, ?_, ?_⟩
          · rw [inTurn_cons, List.map_cons, List.map_cons, here, results]
          · rw [List.any_cons, pass, passes]
            rfl
          · rw [inTurn_cons, lastBoard_cons]
            exact ending

theorem takesTurns_of_walk {rule : Composite} {children remaining : List (Node η α)}
    {turns : List (Outcome η α (Node η α) Status)}
    (walk : evaluateUntil rule.stops children board =
      ⟨turns.map (·.subject) ++ remaining, lastBoard board turns, turns.flatMap (·.events),
        .ok statuses⟩) (info : Info η) :
    TakesTurns ((Node.composite info rule children).evaluate board) info.path board turns
      remaining (rule.verdict statuses) := by
  rw [evaluate_composite_eq, walk]
  exact ⟨rfl, rfl, rfl, rfl⟩

end Node

end Behavior
