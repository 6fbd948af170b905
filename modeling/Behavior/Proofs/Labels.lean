import Behavior.Proofs.Rounds

namespace Behavior

variable {η : Type} [HostTypes η] {α : Type}

def Info.unlabelled (info : Info η) : Info η :=
  { info with name := none, path := "" }

def Node.unlabelled : Node η α → Node η α :=
  relabel Info.unlabelled id id

def Record.unplaced : Record → Record
  | missingCallback kind _ => missingCallback kind ""
  | unboundLeaf kind _ => unboundLeaf kind ""
  | built nodes unbound => built nodes unbound
  | evaluated _ status => evaluated "" status
  | strayWrite key => strayWrite key

/-- The event without the path of the node that it is about. What happens during a call is not about
nodes of the tree, and is kept as it is. -/
def Event.unplaced : Event η α → Event η α
  | log record => .log record.unplaced
  | call made => .call made
  | within event => .within event

namespace Outcome

def unlabelled (outcome : Outcome η α (Node η α) Status) : Outcome η α (Node η α) Status :=
  { outcome with
    subject := outcome.subject.unlabelled
    events := outcome.events.map Event.unplaced }

def allUnlabelled (walk : Outcome η α (List (Node η α)) (List Status)) :
    Outcome η α (List (Node η α)) (List Status) :=
  { walk with
    subject := walk.subject.map Node.unlabelled
    events := walk.events.map Event.unplaced }

end Outcome

namespace Node

@[simp] theorem unlabelled_leaf (info : Info η) (tip : Leaf α) :
    (leaf info tip).unlabelled = leaf info.unlabelled tip := rfl

@[simp] theorem unlabelled_composite (info : Info η) (rule : Composite)
    (children : List (Node η α)) :
    (composite info rule children).unlabelled =
      composite info.unlabelled rule (children.map unlabelled) := by
  rw [unlabelled, relabel, relabelAll_eq_map]

@[simp] theorem unlabelled_decorator (info : Info η) (rule : Decorator) (child : Node η α) :
    (decorator info rule child).unlabelled = decorator info.unlabelled rule child.unlabelled := rfl

theorem unlabelled_plant (node : Node η α) (path : String) :
    (node.plant path).subject.unlabelled = node.unlabelled :=
  relabel_plant (fun _ _ => rfl) node path

theorem conclude_unlabelled (outcome : Outcome η α (Node η α) Status) :
    conclude outcome.unlabelled = (conclude outcome).unlabelled := by
  cases ended : outcome.result with
  | error panic => rw [conclude_of_error ended, conclude_of_error (by exact ended)]
  | ok status =>
      rw [conclude_of_ok ended, conclude_of_ok (by exact ended)]
      obtain ⟨subject, board, events, result⟩ := outcome
      cases subject <;>
        simp [Outcome.unlabelled, withInfo, info, path, Info.unlabelled, Event.unplaced,
          Record.unplaced]

theorem map_unplaced_events_call {ρ : Type} (meaning : α → Board η → Outcome η α α ρ)
    (status : ρ → Status) (routine : α) (scratch : Entries η) (board : Board η) :
    (Host.call meaning status routine scratch board).events.map Event.unplaced =
      (Host.call meaning status routine scratch board).events := by
  have inside (events : List (Event η α)) :
      (events.map Event.within).map Event.unplaced = events.map Event.within := by
    rw [List.map_map]
    rfl
  simp only [Host.call]
  split <;> exact congrArg (_ :: ·) (inside _)

theorem callsOf_map_unplaced (events : List (Event η α)) :
    callsOf (events.map Event.unplaced) = callsOf events := by
  rw [callsOf, callsOf, List.flatMap_map]
  apply List.flatMap_congr
  intro event _
  cases event <;> rfl

variable [Host η α]

theorem evaluateLeaf_unlabelled (info : Info η) (tip : Leaf α) (board : Board η) :
    evaluateLeaf info.unlabelled tip board = (evaluateLeaf info tip board).unlabelled := by
  cases tip with
  | action slot callback =>
      cases callback with
      | none => rfl
      | some callback =>
          cases callback with
          | constant status => rfl
          | routine routine =>
              simp only [evaluateLeaf, Outcome.unlabelled, Outcome.map, map_unplaced_events_call]
              rfl
  | condition slot test =>
      cases test with
      | none => rfl
      | some test =>
          simp only [evaluateLeaf, Outcome.unlabelled, Outcome.map, map_unplaced_events_call]
          rfl

theorem evaluateUntil_unlabelled {stops : Status → Bool} {nodes : List (Node η α)}
    (each : ∀ node ∈ nodes, ∀ board,
      node.unlabelled.evaluate board = (node.evaluate board).unlabelled) (board : Board η) :
    evaluateUntil stops (nodes.map unlabelled) board =
      (evaluateUntil stops nodes board).allUnlabelled := by
  induction nodes generalizing board with
  | nil => rfl
  | cons node rest ih =>
      obtain ⟨here, there⟩ := List.forall_mem_cons.1 each
      have first := here board
      have result : (node.unlabelled.evaluate board).result = (node.evaluate board).result :=
        congrArg (·.result) first
      rw [List.map_cons]
      rcases walk_cases stops node board with
        ⟨panic, ended⟩ | ⟨status, ended, stop⟩ | ⟨status, ended, pass⟩
      · rw [evaluateUntil_cons_of_error ended, evaluateUntil_cons_of_error (result.trans ended),
          first]
        rfl
      · rw [evaluateUntil_cons_of_stops ended stop,
          evaluateUntil_cons_of_stops (result.trans ended) stop, first]
        rfl
      · rw [evaluateUntil_cons_of_passes ended pass,
          evaluateUntil_cons_of_passes (result.trans ended) pass, first]
        have later := ih there (node.evaluate board).board
        simp only [Outcome.unlabelled, Outcome.allUnlabelled, List.map_cons,
          List.map_append] at later ⊢
        rw [later]

theorem evaluate_unlabelled (node : Node η α) (board : Board η) :
    node.unlabelled.evaluate board = (node.evaluate board).unlabelled := by
  induction node generalizing board with
  | leaf info tip =>
      rw [unlabelled_leaf, evaluate_leaf, evaluate_leaf, evaluateLeaf_unlabelled,
        conclude_unlabelled]
  | composite info rule children ih =>
      rw [unlabelled_composite, evaluate_composite, evaluate_composite, ← conclude_unlabelled,
        evaluateUntil_unlabelled ih]
      simp only [Outcome.unlabelled, Outcome.allUnlabelled, Outcome.map, unlabelled_composite]
  | decorator info rule child ih =>
      have inner := ih board
      have result : (child.unlabelled.evaluate board).result = (child.evaluate board).result :=
        congrArg (·.result) inner
      rw [unlabelled_decorator]
      cases ended : (child.evaluate board).result with
      | error panic =>
          rw [evaluate_decorator_of_error info rule ended,
            evaluate_decorator_of_error _ rule (result.trans ended), inner]
          rfl
      | ok status =>
          rw [evaluate_decorator_of_ok info rule ended,
            evaluate_decorator_of_ok _ rule (result.trans ended), ← conclude_unlabelled, inner]
          rfl

theorem evaluate_congr_unlabelled {node other : Node η α}
    (same : node.unlabelled = other.unlabelled) (board : Board η) :
    (node.evaluate board).unlabelled = (other.evaluate board).unlabelled := by
  rw [← evaluate_unlabelled, ← evaluate_unlabelled, same]

theorem bisimulation_unlabelled :
    Bisimulation fun node other : Node η α => node.unlabelled = other.unlabelled := by
  intro node other same board
  have alike := evaluate_congr_unlabelled same board
  refine ⟨congrArg (·.result) alike, congrArg (·.board) alike, ?_, congrArg (·.subject) alike⟩
  rw [← callsOf_map_unplaced, ← callsOf_map_unplaced (other.evaluate board).events]
  exact congrArg (callsOf ·.events) alike

theorem round_congr_unlabelled {node other : Node η α} (same : node.unlabelled = other.unlabelled)
    (board : Board η) (edits : Nat → Board η → Board η) (time : Nat) :
    (node.round board edits time).unlabelled = (other.round board edits time).unlabelled := by
  induction time with
  | zero => exact evaluate_congr_unlabelled same _
  | succ time ih =>
      have board' : (node.round board edits time).board = (other.round board edits time).board :=
        congrArg (·.board) ih
      rw [round, round, board']
      exact evaluate_congr_unlabelled (congrArg (·.subject) ih) _

end Node

section
variable [Host η α]

/-- Planting a node changes nothing but its labels, and from then on ticking the tree is evaluating
the node. No node can be told from another by its labels. -/
theorem inert_labels (node : Node η α) (board : Board η) :
    let built := (Tree.build node board).1
    built.root.unlabelled = node.unlabelled ∧ built.board = board ∧
      (∀ (edits : Nat → Board η → Board η) (time : Nat),
        ((built.round edits time).map Tree.root id).unlabelled =
            (node.round board edits time).unlabelled ∧
          (built.round edits time).subject.board = (node.round board edits time).board) ∧
      ∀ other : Node η α, other.unlabelled = node.unlabelled → ∀ start : Board η,
        (other.evaluate start).unlabelled = (node.evaluate start).unlabelled := by
  intro built
  have planted : built.root.unlabelled = node.unlabelled :=
    node.unlabelled_plant "root"
  refine ⟨planted, rfl, ?_, fun other same => Node.evaluate_congr_unlabelled same⟩
  intro edits time
  have alike : ((built.round edits time).map Tree.root id).unlabelled =
      (node.round board edits time).unlabelled := by
    rw [Tree.map_root_round]
    exact Node.round_congr_unlabelled planted board edits time
  exact ⟨alike, (built.board_round edits time).trans (congrArg (·.board) alike)⟩

end

def ascent : Node Counting Deed :=
  .sequence [.action (.recite [.success, .failure]),
    .repeater (.action (.stumble "hold" 3)) (.times 2)]

def namedAscent : Node Counting Deed :=
  ((Node.sequence [(Node.action (.recite [.success, .failure])).named "reach",
    .repeater ((Node.action (.stumble "hold" 3)).named "step") (.times 2)]).plant "cliff").subject

theorem inert_labels_ascent :
    namedAscent.unlabelled = ascent.unlabelled ∧
      (namedAscent.evaluate ∅).unlabelled = (ascent.evaluate ∅).unlabelled ∧
      (ascent.round ∅ (fun _ => id) 0).result = .error (.raised "stumbled") ∧
      (ascent.round ∅ (fun _ => id) 1).result = .ok .failure ∧
      ∀ time, (((Tree.build ascent ∅).1.round (fun _ => id) time).map Tree.root id).unlabelled =
        (ascent.round ∅ (fun _ => id) time).unlabelled := by
  have same : namedAscent.unlabelled = ascent.unlabelled := rfl
  obtain ⟨-, -, rounds, alike⟩ := inert_labels ascent ∅
  exact ⟨same, alike namedAscent same ∅, rfl, rfl, fun time => (rounds (fun _ => id) time).1⟩

end Behavior
