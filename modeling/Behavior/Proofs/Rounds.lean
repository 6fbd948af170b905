import Behavior.Proofs.Congruence

namespace Behavior

variable {η : Type} [HostTypes η] {α : Type} [Host η α]

def Node.round (node : Node η α) (board : Board η) (edits : Nat → Board η → Board η) :
    Nat → Outcome η α (Node η α) Status
  | 0 => node.evaluate (edits 0 board)
  | time + 1 =>
      let last := node.round board edits time
      last.subject.evaluate (edits (time + 1) last.board)

def Tree.round (tree : Tree η α) (edits : Nat → Board η → Board η) :
    Nat → Outcome η α (Tree η α) Status
  | 0 => { tree with board := edits 0 tree.board }.tick
  | time + 1 =>
      let last := (tree.round edits time).subject
      { last with board := edits (time + 1) last.board }.tick

theorem Tree.map_root_tick (tree : Tree η α) :
    tree.tick.map Tree.root id = tree.root.evaluate tree.board := by
  simp only [tick, Outcome.map, Except.map_id, id]

theorem Tree.board_round (tree : Tree η α) (edits : Nat → Board η → Board η) (time : Nat) :
    (tree.round edits time).subject.board = (tree.round edits time).board := by
  cases time <;> rfl

theorem Tree.map_root_round (tree : Tree η α) (edits : Nat → Board η → Board η) (time : Nat) :
    (tree.round edits time).map Tree.root id = tree.root.round tree.board edits time := by
  induction time with
  | zero => exact map_root_tick _
  | succ time ih =>
      have root : (tree.round edits time).subject.root =
          (tree.root.round tree.board edits time).subject := congrArg (·.subject) ih
      have board : (tree.round edits time).board =
          (tree.root.round tree.board edits time).board := congrArg (·.board) ih
      rw [round, map_root_tick, Node.round, root, board_round, board]

/-- If every evaluation of one node comes to what becomes of the result of another one by `turn`,
and leaves nodes of which this is true again, then all rounds do. -/
theorem Matches.round {related : Node η α → Node η α → Prop} {turn : Status → Status}
    (step : ∀ node other, related node other → ∀ board,
      Matches related ((node.evaluate board).map id turn) (other.evaluate board))
    {node other : Node η α} (start : related node other) (board : Board η)
    (edits : Nat → Board η → Board η) (time : Nat) :
    Matches related ((node.round board edits time).map id turn) (other.round board edits time) := by
  induction time with
  | zero => exact step node other start _
  | succ time ih =>
      have same : (node.round board edits time).board = (other.round board edits time).board :=
        ih.board
      rw [Node.round, Node.round, ← same]
      exact step _ _ ih.subject _

theorem Bisimulation.round {related : Node η α → Node η α → Prop}
    (bisimulation : Bisimulation related) {node other : Node η α} (start : related node other)
    (board : Board η) (edits : Nat → Board η → Board η) (time : Nat) :
    Matches related (node.round board edits time) (other.round board edits time) := by
  have step (node other : Node η α) (alike : related node other) (board : Board η) :
      Matches related ((node.evaluate board).map id id) (other.evaluate board) := by
    rw [Outcome.map_id]
    exact bisimulation node other alike board
  have rounds := Matches.round step start board edits time
  rwa [Outcome.map_id] at rounds

theorem Bisimulation.round_tree {related : Node η α → Node η α → Prop}
    (bisimulation : Bisimulation related) {tree other : Tree η α}
    (roots : related tree.root other.root) (boards : tree.board = other.board)
    (edits : Nat → Board η → Board η) (time : Nat) :
    Matches (fun tree other => tree.board = other.board ∧ related tree.root other.root)
      (tree.round edits time) (other.round edits time) := by
  have rounds := bisimulation.round roots tree.board edits time
  rw [← tree.map_root_round, boards, ← other.map_root_round] at rounds
  obtain ⟨result, board, calls, later⟩ := rounds
  simp only [Outcome.map, Except.map_id, id] at result
  refine ⟨result, board, calls, ?_, later⟩
  rw [tree.board_round, other.board_round]
  exact board

/-- Whether all rounds of both nodes come to the same: the same results, the same boards, the same
calls, and nodes that no later round tells apart. -/
def SameRounds (node other : Node η α) : Prop :=
  ∀ (board : Board η) (edits : Nat → Board η → Board η) (time : Nat),
    Matches Equivalent (node.round board edits time) (other.round board edits time)

theorem Equivalent.sameRounds {node other : Node η α} (equivalent : Equivalent node other) :
    SameRounds node other :=
  Equivalent.bisimulation.round equivalent

end Behavior
