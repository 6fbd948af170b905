import Behavior.Host
import Behavior.Node.Verdict

/-!
# Evaluating nodes

One evaluation is one walk down from a node, depth first and from left to right. Nothing is kept of
the walk itself: a composite that left off at a running child starts again with its first one. A
panic of a callback ends the walk where it is. The nodes above that leaf then come to no status, and
keep the one on record.
-/

namespace Behavior.Node

variable {η : Type} [HostTypes η] {α : Type}

def conclude (outcome : Outcome η α (Node η α) Status) : Outcome η α (Node η α) Status :=
  match outcome.result with
  | .ok status =>
      let node := outcome.subject
      { outcome with
        subject := node.withInfo { node.info with status := some status }
        events := outcome.events ++ [.log (.evaluated node.path status)] }
  | .error _ => outcome

variable [Host η α]

def evaluateLeaf (info : Info η) (tip : Leaf α) (board : Board η) :
    Outcome η α (Node η α) Status :=
  match tip with
  | .action _ (some (.constant status)) => ⟨.leaf info tip, board, [], .ok status⟩
  | .action slot (some (.routine routine)) =>
      (Host.call Host.act id routine info.scratch board).map
        (fun (routine, scratch) =>
          .leaf { info with scratch } (.action slot (some (.routine routine)))) id
  | .condition slot (some test) =>
      (Host.call Host.test Status.ofBool test info.scratch board).map
        (fun (test, scratch) => .leaf { info with scratch } (.condition slot (some test))) id
  | .action _ none | .condition _ none =>
      ⟨.leaf info tip, board, [.log (.missingCallback tip.kind info.path)], .ok .failure⟩

mutual

def evaluate : Node η α → Board η → Outcome η α (Node η α) Status
  | .leaf info tip, board => conclude (evaluateLeaf info tip board)
  | .composite info rule children, board =>
      conclude <|
        (evaluateUntil rule.stops children board).map (.composite info rule) rule.verdict
  | .decorator info rule child, board =>
      let inner := child.evaluate board
      conclude <|
        match inner.result with
        | .ok status =>
            let (rule, status) := rule.judge status
            ⟨.decorator info rule inner.subject, inner.board, inner.events, .ok status⟩
        | .error panic =>
            ⟨.decorator info rule inner.subject, inner.board, inner.events, .error panic⟩

/-- Evaluates nodes from left to right up to the first whose status `stops` the walk. The result
lists the statuses of those evaluated. -/
def evaluateUntil (stops : Status → Bool) :
    List (Node η α) → Board η → Outcome η α (List (Node η α)) (List Status)
  | [], board => ⟨[], board, [], .ok []⟩
  | node :: rest, board =>
      let first := node.evaluate board
      match first.result with
      | .error panic => ⟨first.subject :: rest, first.board, first.events, .error panic⟩
      | .ok status =>
          if stops status then
            ⟨first.subject :: rest, first.board, first.events, .ok [status]⟩
          else
            let others := evaluateUntil stops rest first.board
            { subject := first.subject :: others.subject
              board := others.board
              events := first.events ++ others.events
              result := others.result.map (status :: ·) }

end

end Behavior.Node
