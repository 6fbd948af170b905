import Mathlib.Data.List.Forall2
import Mathlib.Logic.Relation
import Behavior.Proofs.Reach

/-!
# Evaluations that match

Two evaluations match if nothing that happens outside of the nodes tells them apart: they come to
the same result, leave the same board, and make the same calls. What they log is of no account here.
Walks over children match if the children do one by one, and so do the nodes above them.
-/

namespace Behavior

variable {η : Type} [HostTypes η] {α σ τ ρ : Type}

def Event.calls : Event η α → List (Call η α)
  | log _ => []
  | .call made => [made]
  | within event => event.calls

def callsOf (events : List (Event η α)) : List (Call η α) :=
  events.flatMap Event.calls

@[simp] theorem callsOf_nil : callsOf ([] : List (Event η α)) = [] := rfl

@[simp] theorem callsOf_append (first second : List (Event η α)) :
    callsOf (first ++ second) = callsOf first ++ callsOf second := by
  simp [callsOf]

@[simp] theorem callsOf_closing {path : String} {result : Except Panic Status} :
    callsOf (Node.closing path result : List (Event η α)) = [] := by
  cases result <;> rfl

structure Matches (related : σ → τ → Prop) (first : Outcome η α σ ρ) (second : Outcome η α τ ρ) :
    Prop where
  result : first.result = second.result
  board : first.board = second.board
  calls : callsOf first.events = callsOf second.events
  subject : related first.subject second.subject

namespace Matches

theorem imp {related weaker : σ → τ → Prop} {first : Outcome η α σ ρ} {second : Outcome η α τ ρ}
    (matching : Matches related first second) (weaken : ∀ a b, related a b → weaker a b) :
    Matches weaker first second :=
  ⟨matching.result, matching.board, matching.calls, weaken _ _ matching.subject⟩

theorem symm {related : σ → τ → Prop} {first : Outcome η α σ ρ} {second : Outcome η α τ ρ}
    (matching : Matches related first second) :
    Matches (fun b a => related a b) second first :=
  ⟨matching.result.symm, matching.board.symm, matching.calls.symm, matching.subject⟩

theorem trans {υ : Type} {one : σ → τ → Prop} {two : τ → υ → Prop} {first : Outcome η α σ ρ}
    {second : Outcome η α τ ρ} {third : Outcome η α υ ρ} (before : Matches one first second)
    (after : Matches two second third) : Matches (Relation.Comp one two) first third :=
  ⟨before.result.trans after.result, before.board.trans after.board,
    before.calls.trans after.calls, _, before.subject, after.subject⟩

theorem map {π : Type} {related : σ → τ → Prop} {first : Outcome η α σ ρ}
    {second : Outcome η α τ ρ} (matching : Matches related first second) (f : ρ → π) :
    Matches related (first.map id f) (second.map id f) :=
  ⟨congrArg (Except.map f) matching.result, matching.board, matching.calls, matching.subject⟩

variable [Host η α] {stops : Status → Bool} {nodes others : List (Node η α)}

theorem evaluateUntil {related : Node η α → Node η α → Prop}
    (alike : List.Forall₂ (fun node other => related node other ∧
      ∀ board, Matches related (node.evaluate board) (other.evaluate board)) nodes others)
    (board : Board η) :
    Matches (List.Forall₂ related) (Node.evaluateUntil stops nodes board)
      (Node.evaluateUntil stops others board) := by
  induction alike generalizing board with
  | nil => exact ⟨rfl, rfl, rfl, .nil⟩
  | @cons node other rest rest' here there ih =>
      have unreached : List.Forall₂ related rest rest' := there.imp fun _ _ both => both.1
      have first := here.2 board
      rcases Node.walk_cases stops node board with
        ⟨panic, ended⟩ | ⟨status, ended, stop⟩ | ⟨status, ended, pass⟩
      · have ended' := first.result.symm.trans ended
        rw [Node.evaluateUntil_cons_of_error ended, Node.evaluateUntil_cons_of_error ended']
        exact ⟨rfl, first.board, first.calls, .cons first.subject unreached⟩
      · have ended' := first.result.symm.trans ended
        rw [Node.evaluateUntil_cons_of_stops ended stop,
          Node.evaluateUntil_cons_of_stops ended' stop]
        exact ⟨rfl, first.board, first.calls, .cons first.subject unreached⟩
      · have ended' := first.result.symm.trans ended
        rw [Node.evaluateUntil_cons_of_passes ended pass,
          Node.evaluateUntil_cons_of_passes ended' pass, ← first.board]
        have later := ih (node.evaluate board).board
        refine ⟨?_, later.board, ?_, .cons first.subject later.subject⟩
        · show Except.map _ _ = Except.map _ _
          rw [later.result]
        · show callsOf (_ ++ _) = callsOf (_ ++ _)
          rw [callsOf_append, callsOf_append, first.calls, later.calls]

theorem composite {related : Node η α → Node η α → Prop} {rule : Composite} {board : Board η}
    (walk : Matches (List.Forall₂ related) (Node.evaluateUntil rule.stops nodes board)
      (Node.evaluateUntil rule.stops others board)) (info info' : Info η) :
    Matches (fun node other => ∃ result children children',
        List.Forall₂ related children children' ∧
        node = .composite (info.noted result) rule children ∧
        other = .composite (info'.noted result) rule children')
      ((Node.composite info rule nodes).evaluate board)
      ((Node.composite info' rule others).evaluate board) := by
  rw [Node.evaluate_composite_eq, Node.evaluate_composite_eq]
  refine ⟨?_, walk.board, ?_, _, _, _, walk.subject, rfl, ?_⟩
  · show Except.map _ _ = Except.map _ _
    rw [walk.result]
  · show callsOf (_ ++ _) = callsOf (_ ++ _)
    rw [callsOf_append, callsOf_append, callsOf_closing, callsOf_closing, walk.calls]
  · rw [walk.result]

theorem decorator {related : Node η α → Node η α → Prop} {child other : Node η α}
    {board : Board η} (inner : Matches related (child.evaluate board) (other.evaluate board))
    (info info' : Info η) (rule : Decorator) :
    Matches (fun node other => ∃ result advanced child child', related child child' ∧
        node = .decorator (info.noted result) advanced child ∧
        other = .decorator (info'.noted result) advanced child')
      ((Node.decorator info rule child).evaluate board)
      ((Node.decorator info' rule other).evaluate board) := by
  rw [Node.evaluate_decorator_eq, Node.evaluate_decorator_eq]
  refine ⟨?_, inner.board, ?_, _, _, _, _, inner.subject, rfl, ?_⟩
  · show Except.map _ _ = Except.map _ _
    rw [inner.result]
  · show callsOf (_ ++ _) = callsOf (_ ++ _)
    rw [callsOf_append, callsOf_append, callsOf_closing, callsOf_closing, inner.calls]
  · rw [inner.result]

end Matches

/-! ## Around a single child -/

section
variable [Host η α]

theorem Node.matches_single {rule : Composite} (single : ∀ status, rule.verdict [status] = status)
    (node : Node η α) (board : Board η) :
    Matches (fun node others => others = [node]) (node.evaluate board)
      ((evaluateUntil rule.stops [node] board).map id rule.verdict) := by
  rw [evaluateUntil_singleton]
  refine ⟨?_, rfl, rfl, rfl⟩
  cases ended : (node.evaluate board).result with
  | error panic => simp only [Outcome.map, ended, Except.map]
  | ok status => simp only [Outcome.map, ended, Except.map, single]

theorem Node.matches_composite {rule : Composite}
    (single : ∀ status, rule.verdict [status] = status) (info : Info η) (child : Node η α)
    (board : Board η) :
    Matches (fun child node => ∃ info, node = .composite info rule [child]) (child.evaluate board)
      ((Node.composite info rule [child]).evaluate board) := by
  obtain ⟨result, board', calls, subject⟩ := matches_single single child board
  simp only [Outcome.map, id] at result board' calls subject
  rw [evaluate_composite_eq]
  dsimp only
  rw [subject]
  refine ⟨result, board', ?_, _, rfl⟩
  rw [callsOf_append, callsOf_closing, List.append_nil]
  exact calls

theorem Node.matches_decorator (info : Info η) (rule : Decorator) (child : Node η α)
    (board : Board η) :
    Matches (fun later node => ∃ info,
        node = .decorator info (rule.after (child.evaluate board).result) later)
      ((child.evaluate board).map id fun status => (rule.judge status).2)
      ((Node.decorator info rule child).evaluate board) := by
  rw [evaluate_decorator_eq]
  exact ⟨rfl, rfl, by simp [Outcome.map], _, rfl⟩

end

/-! ## What makes no difference -/

def Leaf.direct : Leaf α → Leaf α
  | action _ (some callback) => action none (some callback)
  | condition _ (some test) => condition none (some test)
  | action _ none | condition _ none => action none (some (.constant .failure))

structure KeepsValues (onInfo : Info η → Info η) : Prop where
  scratch : ∀ info, (onInfo info).scratch = info.scratch
  moved : ∀ info scratch, onInfo { info with scratch } = { onInfo info with scratch }
  noted : ∀ info result, onInfo (info.noted result) = (onInfo info).noted result

def Info.unplaced (info : Info η) : Info η :=
  { info with path := "" }

theorem keepsValues_unplaced : KeepsValues (Info.unplaced : Info η → Info η) := by
  constructor
  case scratch => exact fun _ => rfl
  case moved => exact fun _ _ => rfl
  case noted => exact fun _ result => by cases result <;> rfl

namespace Node

variable {onInfo : Info η → Info η}

theorem matches_conclude {onLeaf : Leaf α → Leaf α} (keeps : KeepsValues onInfo)
    {first second : Outcome η α (Node η α) Status}
    (matching : Matches (fun node other => other = node.relabel onInfo onLeaf id) first second) :
    Matches (fun node other => other = node.relabel onInfo onLeaf id) (conclude first)
      (conclude second) := by
  obtain ⟨result, board, calls, subject⟩ := matching
  cases ended : first.result with
  | error panic =>
      rw [conclude_of_error ended, conclude_of_error (result.symm.trans ended)]
      exact ⟨result, board, calls, subject⟩
  | ok status =>
      rw [conclude_of_ok ended, conclude_of_ok (result.symm.trans ended)]
      refine ⟨result, board, ?_, ?_⟩
      · rw [callsOf_append, callsOf_append, calls]
        rfl
      · rw [subject]
        have noted (info : Info η) : { onInfo info with status := some status } =
            onInfo { info with status := some status } := (keeps.noted info (.ok status)).symm
        cases first.subject <;> simp [withInfo, relabel, noted]

variable [Host η α]

theorem matches_evaluateLeaf (keeps : KeepsValues onInfo) (info : Info η) (tip : Leaf α)
    (board : Board η) :
    Matches (fun node other => other = node.relabel onInfo Leaf.direct id)
      (evaluateLeaf info tip board) (evaluateLeaf (onInfo info) tip.direct board) := by
  cases tip with
  | action slot callback =>
      cases callback with
      | none => exact ⟨rfl, rfl, rfl, rfl⟩
      | some callback =>
          cases callback with
          | constant status => exact ⟨rfl, rfl, rfl, rfl⟩
          | routine routine =>
              simp only [Leaf.direct, evaluateLeaf, keeps.scratch]
              exact ⟨rfl, rfl, rfl, congrArg (leaf · _) (keeps.moved info _).symm⟩
  | condition slot test =>
      cases test with
      | none => exact ⟨rfl, rfl, rfl, rfl⟩
      | some test =>
          simp only [Leaf.direct, evaluateLeaf, keeps.scratch]
          exact ⟨rfl, rfl, rfl, congrArg (leaf · _) (keeps.moved info _).symm⟩

theorem matches_direct (keeps : KeepsValues onInfo) (node : Node η α) (board : Board η) :
    Matches (fun node other => other = node.relabel onInfo Leaf.direct id) (node.evaluate board)
      ((node.relabel onInfo Leaf.direct id).evaluate board) := by
  induction node generalizing board with
  | leaf info tip => exact matches_conclude keeps (matches_evaluateLeaf keeps info tip board)
  | composite info rule children ih =>
      have alike : List.Forall₂ (fun node other => other = node.relabel onInfo Leaf.direct id ∧
          ∀ board, Matches (fun node other => other = node.relabel onInfo Leaf.direct id)
            (node.evaluate board) (other.evaluate board))
          children (relabelAll onInfo Leaf.direct id children) := by
        rw [relabelAll_eq_map, List.forall₂_map_right_iff, List.forall₂_same]
        exact fun child inside => ⟨rfl, ih child inside⟩
      refine ((Matches.evaluateUntil alike board).composite info (onInfo info)).imp ?_
      rintro _ _ ⟨result, children, others, pairwise, rfl, rfl⟩
      rw [relabel, keeps.noted, relabelAll_eq_map]
      congr 1
      rw [← List.forall₂_eq_eq_eq, List.forall₂_map_right_iff]
      exact pairwise.flip
  | decorator info rule child ih =>
      refine ((ih board).decorator info (onInfo info) rule).imp ?_
      rintro _ _ ⟨result, advanced, child, other, rfl, rfl, rfl⟩
      rw [relabel, keeps.noted, id]

theorem reachNth?_relabel (keeps : KeepsValues onInfo) (stops : Status → Bool)
    (nodes : List (Node η α)) (board : Board η) (index : Nat) :
    reachNth? stops (nodes.map (relabel onInfo Leaf.direct id)) board index =
      (reachNth? stops nodes board index).map (Prod.map (relabel onInfo Leaf.direct id) id) := by
  induction nodes generalizing board index with
  | nil => rfl
  | cons node rest ih =>
      have here := matches_direct keeps node board
      cases index with
      | zero => rfl
      | succ index =>
          rw [List.map_cons]
          rcases walk_cases stops node board with
            ⟨panic, ended⟩ | ⟨status, ended, stop⟩ | ⟨status, ended, pass⟩
          · have ended' := here.result.symm.trans ended
            rw [reachNth?_succ_of_error ended, reachNth?_succ_of_error ended']
            rfl
          · have ended' := here.result.symm.trans ended
            rw [reachNth?_succ_of_stops ended stop, reachNth?_succ_of_stops ended' stop]
            rfl
          · have ended' := here.result.symm.trans ended
            rw [reachNth?_succ_of_passes ended pass, reachNth?_succ_of_passes ended' pass,
              ← here.board]
            exact ih _ _

theorem reach?_relabel (keeps : KeepsValues onInfo) (node : Node η α) (board : Board η)
    (address : List Nat) :
    (node.relabel onInfo Leaf.direct id).reach? board address =
      (node.reach? board address).map (Prod.map (relabel onInfo Leaf.direct id) id) := by
  induction address generalizing node board with
  | nil => rfl
  | cons index rest ih =>
      have halts : (node.relabel onInfo Leaf.direct id).haltsAt = node.haltsAt := by
        cases node <;> rfl
      rw [reach?, reach?, reachChild?, reachChild?, halts, children_relabel,
        reachNth?_relabel keeps]
      cases reachNth? node.haltsAt node.children board index with
      | none => rfl
      | some reached => exact ih reached.1 reached.2

theorem matches_of_relabel_eq (keeps : KeepsValues onInfo) {node other : Node η α}
    (same : node.relabel onInfo Leaf.direct id = other.relabel onInfo Leaf.direct id)
    (board : Board η) :
    Matches (fun node other => node.relabel onInfo Leaf.direct id =
      other.relabel onInfo Leaf.direct id) (node.evaluate board) (other.evaluate board) := by
  have one := matches_direct keeps node board
  have two := matches_direct keeps other board
  rw [← same] at two
  refine (one.trans two.symm).imp ?_
  rintro _ _ ⟨_, rfl, equal⟩
  exact equal

end Node

end Behavior
