import Behavior.Proofs.Ordered
import Behavior.Proofs.Rounds

namespace Behavior

variable {η : Type} [HostTypes η] {α : Type}

namespace Composite

/-- Whether the other rule makes of inverted statuses what this rule makes of the statuses, but
inverted, and stops at the same places. -/
structure Opposes (rule other : Composite) : Prop where
  stops : ∀ status, other.stops status.invert = rule.stops status
  verdict : ∀ statuses, other.verdict (statuses.map .invert) = (rule.verdict statuses).invert

theorem opposes_of_ordered {rule other : Composite} (ordered : rule.isOrdered = true)
    (ordered' : other.isOrdered = true) (empty : other.verdict [] = (rule.verdict []).invert)
    (stops : ∀ status, other.stops status.invert = rule.stops status) : rule.Opposes other := by
  refine ⟨stops, ?_⟩
  intro statuses
  induction statuses with
  | nil => exact empty
  | cons status statuses ih =>
      rw [List.map_cons, verdict_cons ordered, verdict_cons ordered', stops, ih]
      split <;> rfl

theorem sequence_opposes_selector : sequence.Opposes selector := by
  apply opposes_of_ordered rfl rfl rfl
  intro status
  cases status <;> rfl

theorem selector_opposes_sequence : selector.Opposes sequence := by
  apply opposes_of_ordered rfl rfl rfl
  intro status
  cases status <;> rfl

end Composite

namespace Node

def inverted (layer : Info η × Node η α) : Node η α :=
  .decorator layer.1 .inverter layer.2

def Wrapped (nodes wrapped : List (Node η α)) : Prop :=
  ∃ layers : List (Info η × Node η α), nodes = layers.map Prod.snd ∧ wrapped = layers.map inverted

theorem wrapped_cons {node wrapper : Node η α} {nodes wrapped : List (Node η α)}
    (first : ∃ info, wrapper = inverted (info, node)) (rest : Wrapped nodes wrapped) :
    Wrapped (node :: nodes) (wrapper :: wrapped) := by
  obtain ⟨info, rfl⟩ := first
  obtain ⟨layers, rfl, rfl⟩ := rest
  exact ⟨(info, node) :: layers, rfl, rfl⟩

section
variable [Host η α]

theorem matches_inverted (layer : Info η × Node η α) (board : Board η) :
    Matches (fun node wrapped => ∃ info, wrapped = inverted (info, node))
      ((layer.2.evaluate board).map id Status.invert) ((inverted layer).evaluate board) := by
  have around := matches_decorator layer.1 .inverter layer.2 board
  rwa [Decorator.after_inverter] at around

theorem matches_allInverted {stops stops' : Status → Bool}
    (opposite : ∀ status, stops' status.invert = stops status)
    (layers : List (Info η × Node η α)) (board : Board η) :
    Matches Wrapped ((evaluateUntil stops (layers.map Prod.snd) board).map id (List.map .invert))
      (evaluateUntil stops' (layers.map inverted) board) := by
  induction layers generalizing board with
  | nil => exact ⟨rfl, rfl, rfl, [], rfl, rfl⟩
  | cons layer layers ih =>
      obtain ⟨result, board', calls, first⟩ := matches_inverted layer board
      simp only [Outcome.map, id] at result board' calls first
      have unreached : Wrapped (layers.map Prod.snd) (layers.map inverted) := ⟨layers, rfl, rfl⟩
      rw [List.map_cons, List.map_cons]
      -- Both walks stop here or neither does, since the one stops at the inverted status.
      rcases walk_cases stops layer.2 board with
        ⟨panic, ended⟩ | ⟨status, ended, stop⟩ | ⟨status, ended, pass⟩
      · have ended' : ((inverted layer).evaluate board).result = .error panic := by
          rw [← result, ended, Except.map]
        rw [evaluateUntil_cons_of_error ended, evaluateUntil_cons_of_error ended']
        exact ⟨rfl, board', calls, wrapped_cons first unreached⟩
      · have ended' : ((inverted layer).evaluate board).result = .ok status.invert := by
          rw [← result, ended, Except.map]
        have stop' : stops' status.invert = true := (opposite status).trans stop
        rw [evaluateUntil_cons_of_stops ended stop, evaluateUntil_cons_of_stops ended' stop']
        exact ⟨rfl, board', calls, wrapped_cons first unreached⟩
      · have ended' : ((inverted layer).evaluate board).result = .ok status.invert := by
          rw [← result, ended, Except.map]
        have pass' : stops' status.invert = false := (opposite status).trans pass
        rw [evaluateUntil_cons_of_passes ended pass, evaluateUntil_cons_of_passes ended' pass',
          ← board']
        have later := ih (layer.2.evaluate board).board
        refine ⟨?_, later.board, ?_, wrapped_cons first later.subject⟩
        · show Except.map _ (Except.map _ _) = Except.map _ _
          rw [← later.result]
          simp only [Outcome.map]
          cases (evaluateUntil stops (layers.map Prod.snd)
            (layer.2.evaluate board).board).result <;> rfl
        · show callsOf (_ ++ _) = callsOf (_ ++ _)
          rw [callsOf_append, callsOf_append]
          exact congrArg₂ (· ++ ·) calls later.calls

end

def Dual (rule other : Composite) (node opposite : Node η α) : Prop :=
  ∃ (outer inner own : Info η) (nodes wrapped : List (Node η α)), Wrapped nodes wrapped ∧
    node = .decorator outer .inverter (.composite inner rule nodes) ∧
    opposite = .composite own other wrapped

section
variable [Host η α]

theorem bisimulation_dual {rule other : Composite} (opposes : rule.Opposes other) :
    Bisimulation (Dual rule other : Node η α → Node η α → Prop) := by
  rintro _ _ ⟨outer, inner, own, _, _, ⟨layers, rfl, rfl⟩, rfl, rfl⟩ board
  obtain ⟨result, board', calls, subject⟩ := matches_allInverted opposes.stops layers board
  rw [evaluate_decorator_eq, evaluate_composite_eq, evaluate_composite_eq]
  dsimp only
  rw [Decorator.after_inverter]
  refine ⟨?_, board', ?_, _, _, _, _, _, subject, rfl, rfl⟩
  · show Except.map _ (Except.map _ _) = Except.map _ _
    rw [← result]
    simp only [Outcome.map]
    cases (evaluateUntil rule.stops (layers.map Prod.snd) board).result with
    | error panic => rfl
    | ok statuses => exact congrArg Except.ok (opposes.verdict statuses).symm
  · simp only [callsOf_append, callsOf_closing, List.append_nil]
    exact calls

/-- An inverted sequence and a selector over inverted nodes do the same in every round, and so do an
inverted selector and a sequence over inverted nodes. -/
theorem deMorgan_rounds (children : List (Node η α)) (board : Board η)
    (edits : Nat → Board η → Board η) (time : Nat) :
    Matches (Dual .sequence .selector) ((sequence children).inverter.round board edits time)
        ((selector (children.map inverter)).round board edits time) ∧
      Matches (Dual .selector .sequence) ((selector children).inverter.round board edits time)
        ((sequence (children.map inverter)).round board edits time) := by
  have wrapped : Wrapped children (children.map inverter) := by
    refine ⟨children.map ({}, ·), ?_, ?_⟩
    · rw [List.map_map]
      exact (List.map_id children).symm
    · rw [List.map_map]
      rfl
  constructor
  · exact (bisimulation_dual Composite.sequence_opposes_selector).round
      ⟨{}, {}, {}, children, _, wrapped, rfl, rfl⟩ board edits time
  · exact (bisimulation_dual Composite.selector_opposes_sequence).round
      ⟨{}, {}, {}, children, _, wrapped, rfl, rfl⟩ board edits time

end

end Node

end Behavior
