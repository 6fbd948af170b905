import Mathlib.Algebra.Group.Nat.Defs
import Mathlib.Data.List.Count
import Behavior.Proofs.Judgement
import Behavior.Proofs.Procedure
import Behavior.Proofs.Turns

namespace Behavior

variable {η : Type} [HostTypes η] {α : Type}

structure DecidedBy (successes failures : Nat) (count : Status → Nat) (status : Status) : Prop where
  success : status = .success ↔ successes ≤ count .success
  failure : status = .failure ↔
    count .success < successes ∧ (failures ≤ count .failure ∨ count .running = 0)
  running : status = .running ↔
    count .success < successes ∧ count .failure < failures ∧ 0 < count .running

theorem DecidedBy.unique {successes failures : Nat} {count : Status → Nat} {status other : Status}
    (decided : DecidedBy successes failures count status)
    (decided' : DecidedBy successes failures count other) : other = status := by
  cases status with
  | success => exact decided'.success.2 (decided.success.1 rfl)
  | failure => exact decided'.failure.2 (decided.failure.1 rfl)
  | running => exact decided'.running.2 (decided.running.1 rfl)

theorem count_status_add (statuses : List Status) :
    statuses.count .success + statuses.count .failure + statuses.count .running =
      statuses.length := by
  induction statuses with
  | nil => rfl
  | cons status statuses ih =>
      cases status <;> simp <;> omega

theorem decidedBy_threshold (successes failures : Nat) (statuses : List Status) :
    DecidedBy successes failures (statuses.count ·) (threshold successes failures statuses) := by
  have some_running : .running ∈ statuses ↔ 0 < statuses.count .running := List.count_pos_iff.symm
  simp only [threshold, some_running]
  split
  case isTrue enough => constructor <;> simp only [reduceCtorEq, true_iff, false_iff] <;> omega
  case isFalse short =>
    split
    case isTrue failed => constructor <;> simp only [reduceCtorEq, true_iff, false_iff] <;> omega
    case isFalse spared =>
      split <;> constructor <;> simp only [reduceCtorEq, true_iff, false_iff] <;> omega

namespace Node

def countOf (nodes : List (Node η α)) (status : Status) : Nat :=
  (nodes.map Node.status).count (some status)

variable [Host η α] {info : Info η} {successes failures : UInt64} {children : List (Node η α)}
  {board : Board η} {status : Status}

theorem takesTurns_parallel
    (ended : ((composite info (.parallel successes failures) children).evaluate board).result =
      .ok status) :
    ∃ statuses : List Status, statuses.length = children.length ∧
      (evaluateUntil (Composite.parallel successes failures).stops children board).result =
        .ok statuses ∧
      TakesTurns ((composite info (.parallel successes failures) children).evaluate board)
        info.path board (inTurn children board) []
        ((Composite.parallel successes failures).verdict statuses) := by
  rw [result_evaluate_composite] at ended
  obtain ⟨statuses, walked, -⟩ := map_eq_ok ended
  rcases inTurn_cases walked with ⟨results, passes⟩ | ⟨_, _, _, _, last, -, -, -, -, stop⟩
  · have walk := evaluateUntil_of_passes results passes
    rw [← List.append_nil ((inTurn children board).map (·.subject))] at walk
    refine ⟨statuses, ?_, walked, takesTurns_of_walk walk info⟩
    have lengths := congrArg List.length results
    rw [List.length_map, List.length_map, length_inTurn] at lengths
    exact lengths.symm
  · -- No status stops the walk of a parallel composite.
    cases stop

theorem countOf_children_evaluate {statuses : List Status} {rule : Composite}
    (walked : (evaluateUntil rule.stops children board).result = .ok statuses)
    (all : statuses.length = children.length) :
    countOf ((composite info rule children).evaluate board).subject.children =
      (statuses.count ·) := by
  funext status
  rw [countOf, children_evaluate_composite, records_evaluateUntil walked, all, List.drop_length,
    List.map_nil, List.append_nil]
  exact List.count_map_of_injective statuses some (fun _ _ => Option.some.inj) status

theorem decidedBy_parallel (few : children.length < 2 ^ 31)
    (ended : ((composite info (.parallel successes failures) children).evaluate board).result =
      .ok status) :
    let count := countOf
      ((composite info (.parallel successes failures) children).evaluate board).subject.children
    TakesTurns ((composite info (.parallel successes failures) children).evaluate board) info.path
        board (inTurn children board) [] status ∧
      count .success + count .failure + count .running = children.length ∧
      DecidedBy successes.toNat failures.toNat count status := by
  obtain ⟨statuses, length, walked, turns⟩ := takesTurns_parallel ended
  have narrow : statuses.length ≤ Int32.maxValue.toNatClampNeg := by
    rw [length]
    exact Nat.le_of_lt_succ few
  obtain rfl : threshold successes.toNat failures.toNat statuses = status := by
    have same := turns.result.symm.trans ended
    rw [Composite.verdict_parallel narrow] at same
    exact Except.ok.inj same
  rw [Composite.verdict_parallel narrow] at turns
  rw [countOf_children_evaluate walked length]
  exact ⟨turns, (count_status_add statuses).trans length, decidedBy_threshold _ _ statuses⟩

/-- A parallel composite evaluates every child once, from left to right, and then goes by how many
of them came to each status. Nothing else about them matters. -/
theorem parallel_thresholds (few : children.length < 2 ^ 31)
    (ended : ((composite info (.parallel successes failures) children).evaluate board).result =
      .ok status) :
    let outcome := (composite info (.parallel successes failures) children).evaluate board
    let count := countOf outcome.subject.children
    TakesTurns outcome info.path board (inTurn children board) [] status ∧
      count .success + count .failure + count .running = children.length ∧
      DecidedBy successes.toNat failures.toNat count status ∧
      ∀ (info' : Info η) (children' : List (Node η α)) (board' : Board η) (status' : Status),
        let other := (composite info' (.parallel successes failures) children').evaluate board'
        children'.length < 2 ^ 31 → other.result = .ok status' →
          countOf other.subject.children = count → status' = status := by
  obtain ⟨turns, total, decided⟩ := decidedBy_parallel few ended
  refine ⟨turns, total, decided, ?_⟩
  intro info' children' board' status' other few' ended' same
  obtain ⟨-, -, decided'⟩ := decidedBy_parallel few' ended'
  rw [same] at decided'
  exact decided.unique decided'

def crew : List (Node Counting Deed) :=
  [.action (.recite [.running]), .constant .success, .condition (.recite [.failure])]

theorem parallel_thresholds_crew :
    crew.length < 2 ^ 31 ∧ ((parallel crew 2 2).evaluate ∅).result = .ok .running ∧
      TakesTurns ((parallel crew 2 2).evaluate ∅) "" ∅ (inTurn crew ∅) [] .running ∧
      DecidedBy 2 2 (countOf ((parallel crew 2 2).evaluate ∅).subject.children) .running ∧
      ∀ status, ((parallel crew.reverse 2 2).evaluate ∅).result = .ok status →
        status = .running := by
  have few : crew.length < 2 ^ 31 := by decide
  have ended : ((parallel crew 2 2).evaluate ∅).result = .ok .running := rfl
  obtain ⟨turns, -, decided, alone⟩ := parallel_thresholds few ended
  refine ⟨few, ended, turns, decided, ?_⟩
  intro status ended'
  have same : countOf ((parallel crew.reverse 2 2).evaluate ∅).subject.children =
      countOf ((parallel crew 2 2).evaluate ∅).subject.children := by
    funext status
    cases status <;> rfl
  exact alone {} crew.reverse ∅ status (by decide) ended' same

end Node

end Behavior
