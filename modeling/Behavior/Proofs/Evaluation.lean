import Behavior.Node.Evaluation
import Behavior.Proofs.Relabeling

namespace Behavior

theorem map_eq_ok {ε ρ π : Type} {result : Except ε ρ} {f : ρ → π} {value : π}
    (ended : result.map f = .ok value) : ∃ inner, result = .ok inner ∧ f inner = value := by
  cases result with
  | error cause => cases ended
  | ok inner => exact ⟨inner, rfl, by simpa [Except.map] using ended⟩

theorem map_eq_error {ε ρ π : Type} {result : Except ε ρ} {f : ρ → π} {cause : ε}
    (failed : result.map f = .error cause) : result = .error cause := by
  cases result with
  | error other => simpa [Except.map] using failed
  | ok inner => cases failed

variable {η : Type} [HostTypes η] {α : Type}

theorem Outcome.map_id {σ ρ : Type} (outcome : Outcome η α σ ρ) : outcome.map id id = outcome := by
  rw [map, Except.map_id]
  rfl

theorem Outcome.map_map {σ ρ π ϖ : Type} (outcome : Outcome η α σ ρ) (f : ρ → π) (g : π → ϖ) :
    (outcome.map id f).map id g = outcome.map id (g ∘ f) := by
  obtain ⟨subject, board, events, result⟩ := outcome
  cases result <;> rfl

@[simp] theorem Host.result_call {ρ : Type} (meaning : α → Board η → Outcome η α α ρ)
    (status : ρ → Status) (routine : α) (scratch : Entries η) (board : Board η) :
    (call meaning status routine scratch board).result =
      (meaning routine { board with scratch := some scratch }).result.map status := by
  simp only [call]
  split <;> simp_all

def Info.noted (info : Info η) : Except Panic Status → Info η
  | .ok status => { info with status := some status }
  | .error _ => info

def Decorator.after (rule : Decorator) : Except Panic Status → Decorator
  | .ok status => (rule.judge status).1
  | .error _ => rule

theorem Decorator.after_inverter (result : Except Panic Status) :
    inverter.after result = inverter := by
  cases result <;> rfl

namespace Node

@[simp] theorem info_leaf (info : Info η) (tip : Leaf α) : (leaf info tip).info = info := rfl

@[simp] theorem info_composite (info : Info η) (rule : Composite) (children : List (Node η α)) :
    (composite info rule children).info = info := rfl

@[simp] theorem info_decorator (info : Info η) (rule : Decorator) (child : Node η α) :
    (decorator info rule child).info = info := rfl

@[simp] theorem path_leaf (info : Info η) (tip : Leaf α) : (leaf info tip).path = info.path := rfl

/-! ## Recording the status -/

def closing (path : String) : Except Panic Status → List (Event η α)
  | .ok status => [.log (.evaluated path status)]
  | .error _ => []

@[simp] theorem closing_ok {path : String} {status : Status} :
    (closing path (.ok status) : List (Event η α)) = [.log (.evaluated path status)] := rfl

@[simp] theorem closing_error {path : String} {panic : Panic} :
    (closing path (.error panic) : List (Event η α)) = [] := rfl

section
variable {outcome : Outcome η α (Node η α) Status}

@[simp] theorem result_conclude : (conclude outcome).result = outcome.result := by
  unfold conclude
  split <;> simp_all

@[simp] theorem board_conclude : (conclude outcome).board = outcome.board := by
  unfold conclude
  split <;> rfl

@[simp] theorem children_conclude :
    (conclude outcome).subject.children = outcome.subject.children := by
  unfold conclude
  split <;> simp

theorem conclude_of_ok {status : Status} (ended : outcome.result = .ok status) :
    conclude outcome =
      { outcome with
        subject := outcome.subject.withInfo { outcome.subject.info with status := some status }
        events := outcome.events ++ [.log (.evaluated outcome.subject.path status)] } := by
  simp only [conclude, ended]

theorem conclude_of_error {panic : Panic} (ended : outcome.result = .error panic) :
    conclude outcome = outcome := by
  simp only [conclude, ended]

theorem events_conclude :
    (conclude outcome).events =
      outcome.events ++ closing outcome.subject.path outcome.result := by
  cases ended : outcome.result with
  | error panic => simp [conclude_of_error ended]
  | ok status => simp [conclude_of_ok ended]

@[simp] theorem scratch_conclude :
    (conclude outcome).subject.info.scratch = outcome.subject.info.scratch := by
  unfold conclude
  split <;> simp

theorem relabel_conclude {β : Type} {onInfo : Info η → Info η} {onLeaf : Leaf α → Leaf β}
    {onRule : Decorator → Decorator}
    (unrecorded : ∀ info status, onInfo { info with status } = onInfo info) :
    (conclude outcome).subject.relabel onInfo onLeaf onRule =
      outcome.subject.relabel onInfo onLeaf onRule := by
  cases ended : outcome.result with
  | error panic => rw [conclude_of_error ended]
  | ok status =>
      rw [conclude_of_ok ended]
      obtain ⟨subject, board, events, result⟩ := outcome
      cases subject <;> simp [withInfo, info, relabel, unrecorded]

end

/-! ## Walking over children -/

variable [Host η α] {stops : Status → Bool} {node : Node η α} {rest nodes : List (Node η α)}
  {board : Board η}

theorem evaluateUntil_cons_of_error {panic : Panic}
    (ended : (node.evaluate board).result = .error panic) :
    evaluateUntil stops (node :: rest) board =
      ⟨(node.evaluate board).subject :: rest, (node.evaluate board).board,
        (node.evaluate board).events, .error panic⟩ := by
  simp only [evaluateUntil, ended]

theorem evaluateUntil_cons_of_stops {status : Status}
    (ended : (node.evaluate board).result = .ok status) (stop : stops status = true) :
    evaluateUntil stops (node :: rest) board =
      ⟨(node.evaluate board).subject :: rest, (node.evaluate board).board,
        (node.evaluate board).events, .ok [status]⟩ := by
  simp only [evaluateUntil, ended, stop, if_true]

theorem evaluateUntil_cons_of_passes {status : Status}
    (ended : (node.evaluate board).result = .ok status) (pass : stops status = false) :
    evaluateUntil stops (node :: rest) board =
      { subject := (node.evaluate board).subject ::
          (evaluateUntil stops rest (node.evaluate board).board).subject
        board := (evaluateUntil stops rest (node.evaluate board).board).board
        events := (node.evaluate board).events ++
          (evaluateUntil stops rest (node.evaluate board).board).events
        result := (evaluateUntil stops rest (node.evaluate board).board).result.map
          (status :: ·) } := by
  simp only [evaluateUntil, ended, pass, Bool.false_eq_true, if_false]

theorem status_evaluate {status : Status} (ended : (node.evaluate board).result = .ok status) :
    (node.evaluate board).subject.status = some status := by
  have concluded : ∃ outcome, node.evaluate board = conclude outcome := by
    cases node with
    | leaf info tip => exact ⟨_, rfl⟩
    | composite info rule children => exact ⟨_, rfl⟩
    | decorator info rule child => exact ⟨_, rfl⟩
  obtain ⟨outcome, same⟩ := concluded
  rw [same, result_conclude] at ended
  rw [same, conclude_of_ok ended]
  simp [Node.status]

/-- The node with the given index, and the board on which it is evaluated, if the walk over the
nodes gets to it. -/
def reachNth? (stops : Status → Bool) :
    List (Node η α) → Board η → Nat → Option (Node η α × Board η)
  | [], _, _ => none
  | node :: _, board, 0 => some (node, board)
  | node :: rest, board, index + 1 =>
      match (node.evaluate board).result with
      | .error _ => none
      | .ok status =>
          if stops status then none else reachNth? stops rest (node.evaluate board).board index

theorem reachNth?_succ_of_error {panic : Panic}
    (ended : (node.evaluate board).result = .error panic) (index : Nat) :
    reachNth? stops (node :: rest) board (index + 1) = none := by
  simp only [reachNth?, ended]

theorem reachNth?_succ_of_stops {status : Status}
    (ended : (node.evaluate board).result = .ok status) (stop : stops status = true)
    (index : Nat) : reachNth? stops (node :: rest) board (index + 1) = none := by
  simp only [reachNth?, ended, stop, if_true]

theorem reachNth?_succ_of_passes {status : Status}
    (ended : (node.evaluate board).result = .ok status) (pass : stops status = false)
    (index : Nat) :
    reachNth? stops (node :: rest) board (index + 1) =
      reachNth? stops rest (node.evaluate board).board index := by
  simp only [reachNth?, ended, pass, Bool.false_eq_true, if_false]

theorem walk_cases (stops : Status → Bool) (node : Node η α) (board : Board η) :
    (∃ panic, (node.evaluate board).result = .error panic) ∨
      (∃ status, (node.evaluate board).result = .ok status ∧ stops status = true) ∨
      ∃ status, (node.evaluate board).result = .ok status ∧ stops status = false := by
  cases (node.evaluate board).result with
  | error panic => exact .inl ⟨panic, rfl⟩
  | ok status => cases stop : stops status <;> simp [stop]

theorem evaluateUntil_singleton (stops : Status → Bool) (node : Node η α) (board : Board η) :
    evaluateUntil stops [node] board =
      (node.evaluate board).map (fun node => [node]) fun status => [status] := by
  rcases walk_cases stops node board with
    ⟨panic, ended⟩ | ⟨status, ended, stop⟩ | ⟨status, ended, pass⟩
  · rw [evaluateUntil_cons_of_error ended, Outcome.map, ended, Except.map]
  · rw [evaluateUntil_cons_of_stops ended stop, Outcome.map, ended, Except.map]
  · rw [evaluateUntil_cons_of_passes ended pass, Outcome.map, ended]
    simp [evaluateUntil, Except.map]

theorem evaluateUntil_append (stops : Status → Bool) (first second : List (Node η α))
    (board : Board η) :
    evaluateUntil stops (first ++ second) board =
      let walk := evaluateUntil stops first board
      match walk.result with
      | .error panic => ⟨walk.subject ++ second, walk.board, walk.events, .error panic⟩
      | .ok statuses =>
          if statuses.any stops then
            ⟨walk.subject ++ second, walk.board, walk.events, .ok statuses⟩
          else
            let others := evaluateUntil stops second walk.board
            { subject := walk.subject ++ others.subject
              board := others.board
              events := walk.events ++ others.events
              result := others.result.map (statuses ++ ·) } := by
  induction first generalizing board with
  | nil =>
      show _ = Outcome.mk _ _ _ ((evaluateUntil stops second board).result.map id)
      rw [Except.map_id]
      rfl
  | cons node rest ih =>
      rw [List.cons_append]
      rcases walk_cases stops node board with
        ⟨panic, ended⟩ | ⟨status, ended, stop⟩ | ⟨status, ended, pass⟩
      · rw [evaluateUntil_cons_of_error ended, evaluateUntil_cons_of_error ended]
        rfl
      · rw [evaluateUntil_cons_of_stops ended stop, evaluateUntil_cons_of_stops ended stop]
        simp [stop]
      · rw [evaluateUntil_cons_of_passes ended pass, evaluateUntil_cons_of_passes ended pass, ih]
        cases walked : (evaluateUntil stops rest (node.evaluate board).board).result with
        | error panic => simp only [walked, Except.map, List.cons_append]
        | ok statuses =>
            simp only [walked, Except.map, List.any_cons, pass, Bool.false_or, List.cons_append,
              List.append_assoc]
            split
            · rfl
            · split <;> rfl

theorem getElem?_of_reachNth? {index : Nat} {child : Node η α} {start : Board η}
    (reached : reachNth? stops nodes board index = some (child, start)) :
    nodes[index]? = some child := by
  induction nodes generalizing board index with
  | nil => cases reached
  | cons node rest ih =>
      cases index with
      | zero =>
          obtain ⟨rfl, rfl⟩ : node = child ∧ board = start := by simpa [reachNth?] using reached
          rfl
      | succ index =>
          rcases walk_cases stops node board with
            ⟨panic, ended⟩ | ⟨status, ended, stop⟩ | ⟨status, ended, pass⟩
          · rw [reachNth?_succ_of_error ended] at reached
            cases reached
          · rw [reachNth?_succ_of_stops ended stop] at reached
            cases reached
          · rw [reachNth?_succ_of_passes ended pass] at reached
            exact ih reached

theorem getElem?_evaluateUntil (index : Nat) :
    (evaluateUntil stops nodes board).subject[index]? =
      ((reachNth? stops nodes board index).map fun reached =>
        (reached.1.evaluate reached.2).subject).or nodes[index]? := by
  induction nodes generalizing board index with
  | nil => rfl
  | cons node rest ih =>
      rcases walk_cases stops node board with
        ⟨panic, ended⟩ | ⟨status, ended, stop⟩ | ⟨status, ended, pass⟩
      · rw [evaluateUntil_cons_of_error ended]
        cases index with
        | zero => rfl
        | succ index => simp [reachNth?_succ_of_error ended]
      · rw [evaluateUntil_cons_of_stops ended stop]
        cases index with
        | zero => rfl
        | succ index => simp [reachNth?_succ_of_stops ended stop]
      · rw [evaluateUntil_cons_of_passes ended pass]
        cases index with
        | zero => rfl
        | succ index => simp [reachNth?_succ_of_passes ended pass, ih]

theorem getElem?_of_result_evaluateUntil {statuses : List Status}
    (ended : (evaluateUntil stops nodes board).result = .ok statuses) (index : Nat) :
    statuses[index]?.map Except.ok =
      (reachNth? stops nodes board index).map fun reached =>
        (reached.1.evaluate reached.2).result := by
  induction nodes generalizing board index statuses with
  | nil =>
      obtain rfl : [] = statuses := by simpa [evaluateUntil] using ended
      rfl
  | cons node rest ih =>
      rcases walk_cases stops node board with
        ⟨panic, first⟩ | ⟨status, first, stop⟩ | ⟨status, first, pass⟩
      · rw [evaluateUntil_cons_of_error first] at ended
        cases ended
      · rw [evaluateUntil_cons_of_stops first stop] at ended
        obtain rfl : [status] = statuses := by simpa using ended
        cases index with
        | zero => simp [reachNth?, first]
        | succ index => simp [reachNth?_succ_of_stops first stop]
      · rw [evaluateUntil_cons_of_passes first pass] at ended
        obtain ⟨later, others, rfl⟩ := map_eq_ok ended
        cases index with
        | zero => simp [reachNth?, first]
        | succ index => simpa [reachNth?_succ_of_passes first pass] using ih others index

theorem isSome_reachNth?_iff {index : Nat} :
    (reachNth? stops nodes board index).isSome ↔
      index < nodes.length ∧ ∀ earlier < index, ∃ child start status,
        reachNth? stops nodes board earlier = some (child, start) ∧
          (child.evaluate start).result = .ok status ∧ stops status = false := by
  induction nodes generalizing board index with
  | nil => simp [reachNth?]
  | cons node rest ih =>
      cases index with
      | zero => simp [reachNth?]
      | succ index =>
          rw [Nat.forall_lt_succ_left']
          rcases walk_cases stops node board with
            ⟨panic, ended⟩ | ⟨status, ended, stop⟩ | ⟨status, ended, pass⟩
          · simp [reachNth?, ended]
          · simp [reachNth?, ended, stop]
          · simp [reachNth?, ended, pass, ih]

theorem isSome_reachNth?_of_passes {index : Nat} (inside : index < nodes.length)
    (passes : ∀ earlier < index, ∀ child start,
      reachNth? stops nodes board earlier = some (child, start) →
        ∃ status, (child.evaluate start).result = .ok status ∧ stops status = false) :
    (reachNth? stops nodes board index).isSome := by
  induction index using Nat.strongRecOn with
  | ind index ih =>
      refine isSome_reachNth?_iff.2 ⟨inside, fun earlier before => ?_⟩
      have reached := ih earlier before (Nat.lt_trans before inside) fun first lt =>
        passes first (Nat.lt_trans lt before)
      obtain ⟨⟨child, start⟩, found⟩ := Option.isSome_iff_exists.1 reached
      obtain ⟨status, ended, pass⟩ := passes earlier before child start found
      exact ⟨child, start, status, found, ended, pass⟩

theorem map_evaluateUntil {β : Type} {f : Node η α → β}
    (same : ∀ child ∈ nodes, ∀ board, f (child.evaluate board).subject = f child) :
    (evaluateUntil stops nodes board).subject.map f = nodes.map f := by
  apply List.ext_getElem?
  intro index
  rw [List.getElem?_map, List.getElem?_map, getElem?_evaluateUntil]
  cases reached : reachNth? stops nodes board index with
  | none => rfl
  | some pair =>
      have found := getElem?_of_reachNth? reached
      simp [found, same pair.1 (List.mem_of_getElem? found)]

theorem statuses_evaluateUntil {statuses : List Status}
    (ended : (evaluateUntil stops nodes board).result = .ok statuses) :
    (statuses.length = nodes.length ∧ ∀ status ∈ statuses, stops status = false) ∨
      ∃ before last, statuses = before ++ [last] ∧ stops last = true ∧
        ∀ status ∈ before, stops status = false := by
  induction nodes generalizing board statuses with
  | nil =>
      obtain rfl : [] = statuses := by simpa [evaluateUntil] using ended
      exact .inl ⟨rfl, by simp⟩
  | cons node rest ih =>
      rcases walk_cases stops node board with
        ⟨panic, first⟩ | ⟨status, first, stop⟩ | ⟨status, first, pass⟩
      · rw [evaluateUntil_cons_of_error first] at ended
        cases ended
      · rw [evaluateUntil_cons_of_stops first stop] at ended
        obtain rfl : [status] = statuses := by simpa using ended
        exact .inr ⟨[], status, rfl, stop, by simp⟩
      · rw [evaluateUntil_cons_of_passes first pass] at ended
        obtain ⟨later, others, rfl⟩ := map_eq_ok ended
        rcases ih others with ⟨length, all⟩ | ⟨before, last, rfl, stop, all⟩
        · exact .inl ⟨congrArg (· + 1) length, List.forall_mem_cons.2 ⟨pass, all⟩⟩
        · exact .inr ⟨status :: before, last, rfl, stop, List.forall_mem_cons.2 ⟨pass, all⟩⟩

theorem records_evaluateUntil {statuses : List Status}
    (ended : (evaluateUntil stops nodes board).result = .ok statuses) :
    (evaluateUntil stops nodes board).subject.map Node.status =
      statuses.map some ++ (nodes.drop statuses.length).map Node.status := by
  induction nodes generalizing board statuses with
  | nil =>
      obtain rfl : [] = statuses := by simpa [evaluateUntil] using ended
      rfl
  | cons node rest ih =>
      rcases walk_cases stops node board with
        ⟨panic, first⟩ | ⟨status, first, stop⟩ | ⟨status, first, pass⟩
      · rw [evaluateUntil_cons_of_error first] at ended
        cases ended
      · rw [evaluateUntil_cons_of_stops first stop] at ended ⊢
        obtain rfl : [status] = statuses := by simpa using ended
        simp [status_evaluate first]
      · rw [evaluateUntil_cons_of_passes first pass] at ended ⊢
        obtain ⟨later, others, rfl⟩ := map_eq_ok ended
        simp [status_evaluate first, ih others]

/-! ## The root -/

theorem evaluate_leaf (info : Info η) (tip : Leaf α) :
    (Node.leaf info tip).evaluate board = conclude (evaluateLeaf info tip board) := rfl

theorem evaluate_composite (info : Info η) (rule : Composite) (children : List (Node η α)) :
    (Node.composite info rule children).evaluate board =
      conclude ((evaluateUntil rule.stops children board).map (.composite info rule)
        rule.verdict) := rfl

theorem evaluate_decorator_of_ok (info : Info η) (rule : Decorator) {child : Node η α}
    {status : Status} (ended : (child.evaluate board).result = .ok status) :
    (Node.decorator info rule child).evaluate board =
      conclude ⟨.decorator info (rule.judge status).1 (child.evaluate board).subject,
        (child.evaluate board).board, (child.evaluate board).events,
        .ok (rule.judge status).2⟩ := by
  simp only [evaluate, ended]

theorem evaluate_decorator_of_error (info : Info η) (rule : Decorator) {child : Node η α}
    {panic : Panic} (ended : (child.evaluate board).result = .error panic) :
    (Node.decorator info rule child).evaluate board =
      ⟨.decorator info rule (child.evaluate board).subject,
        (child.evaluate board).board, (child.evaluate board).events, .error panic⟩ := by
  simp only [evaluate, ended]
  rfl

theorem evaluate_composite_eq (info : Info η) (rule : Composite) (children : List (Node η α)) :
    (Node.composite info rule children).evaluate board =
      let walk := evaluateUntil rule.stops children board
      let result := walk.result.map rule.verdict
      ⟨.composite (info.noted result) rule walk.subject, walk.board,
        walk.events ++ closing info.path result, result⟩ := by
  cases ended : (evaluateUntil rule.stops children board).result with
  | error panic =>
      simp only [evaluate_composite, conclude, Outcome.map, ended, Except.map, closing_error,
        List.append_nil]
      rfl
  | ok statuses =>
      simp only [evaluate_composite, conclude, Outcome.map, ended, Except.map]
      rfl

theorem evaluate_decorator_eq (info : Info η) (rule : Decorator) (child : Node η α) :
    (Node.decorator info rule child).evaluate board =
      let inner := child.evaluate board
      let result := inner.result.map fun status => (rule.judge status).2
      ⟨.decorator (info.noted result) (rule.after inner.result) inner.subject, inner.board,
        inner.events ++ closing info.path result, result⟩ := by
  cases ended : (child.evaluate board).result with
  | error panic =>
      rw [evaluate_decorator_of_error info rule ended]
      simp [ended, Except.map, Info.noted, Decorator.after]
  | ok status =>
      rw [evaluate_decorator_of_ok info rule ended, conclude_of_ok rfl]
      simp only [ended, Except.map]
      rfl

@[simp] theorem result_evaluate_composite (info : Info η) (rule : Composite)
    (children : List (Node η α)) :
    ((Node.composite info rule children).evaluate board).result =
      (evaluateUntil rule.stops children board).result.map rule.verdict := by
  rw [evaluate_composite, result_conclude]
  rfl

@[simp] theorem result_evaluate_decorator (info : Info η) (rule : Decorator) (child : Node η α) :
    ((Node.decorator info rule child).evaluate board).result =
      (child.evaluate board).result.map fun status => (rule.judge status).2 := by
  cases ended : (child.evaluate board).result with
  | error panic =>
      rw [evaluate_decorator_of_error info rule ended]
      rfl
  | ok status =>
      rw [evaluate_decorator_of_ok info rule ended, result_conclude]
      rfl

theorem shape_evaluateLeaf (info : Info η) (tip : Leaf α) :
    (evaluateLeaf info tip board).subject.shape = (Node.leaf info tip).shape := by
  unfold evaluateLeaf
  split
  · rfl
  · simp only [Host.call, Outcome.map]
    split <;> rfl
  · simp only [Host.call, Outcome.map]
    split <;> rfl
  · rfl
  · rfl

theorem children_evaluate_leaf (info : Info η) (tip : Leaf α) :
    ((Node.leaf info tip).evaluate board).subject.children = [] := by
  have none : (evaluateLeaf info tip board).subject.shape.children = [] := by
    rw [shape_evaluateLeaf]
    rfl
  rw [shape, children_relabel] at none
  rw [evaluate_leaf, children_conclude]
  exact List.map_eq_nil_iff.1 none

@[simp] theorem children_evaluate_composite (info : Info η) (rule : Composite)
    (children : List (Node η α)) :
    ((Node.composite info rule children).evaluate board).subject.children =
      (evaluateUntil rule.stops children board).subject := by
  rw [evaluate_composite, children_conclude]
  rfl

@[simp] theorem children_evaluate_decorator (info : Info η) (rule : Decorator)
    (child : Node η α) :
    ((Node.decorator info rule child).evaluate board).subject.children =
      [(child.evaluate board).subject] := by
  cases ended : (child.evaluate board).result with
  | error panic =>
      rw [evaluate_decorator_of_error info rule ended]
      rfl
  | ok status =>
      rw [evaluate_decorator_of_ok info rule ended, children_conclude]
      rfl

/-! ## The shape -/

theorem reset_judge (rule : Decorator) (status : Status) :
    (rule.judge status).1.reset = rule.reset := by
  cases rule with
  | inverter => rfl
  | repeater limit completed => cases status <;> rfl
  | untilFail => rfl

/-- What the evaluation of a leaf leaves alone, all evaluations do, panics included. -/
theorem relabel_evaluate {β : Type} {onInfo : Info η → Info η} {onLeaf : Leaf α → Leaf β}
    (unrecorded : ∀ info status, onInfo { info with status } = onInfo info)
    (leaves : ∀ info tip board, (evaluateLeaf info tip board).subject.relabel onInfo onLeaf
      Decorator.reset = (Node.leaf info tip).relabel onInfo onLeaf Decorator.reset)
    (node : Node η α) (board : Board η) :
    (node.evaluate board).subject.relabel onInfo onLeaf Decorator.reset =
      node.relabel onInfo onLeaf Decorator.reset := by
  induction node generalizing board with
  | leaf info tip =>
      rw [evaluate_leaf, relabel_conclude unrecorded]
      exact leaves info tip board
  | composite info rule children ih =>
      rw [evaluate_composite, relabel_conclude unrecorded]
      simp only [Outcome.map, relabel, relabelAll_eq_map]
      congr 1
      exact map_evaluateUntil ih
  | decorator info rule child ih =>
      cases ended : (child.evaluate board).result with
      | error panic =>
          rw [evaluate_decorator_of_error info rule ended]
          simp only [relabel]
          congr 1
          exact ih board
      | ok status =>
          rw [evaluate_decorator_of_ok info rule ended, relabel_conclude unrecorded]
          simp only [relabel, reset_judge]
          congr 1
          exact ih board

theorem shape_evaluate (node : Node η α) (board : Board η) :
    (node.evaluate board).subject.shape = node.shape :=
  relabel_evaluate (fun _ _ => rfl) (fun info tip _ => shape_evaluateLeaf info tip) node board

theorem kind_evaluate (node : Node η α) (board : Board η) :
    (node.evaluate board).subject.kind = node.kind := by
  have kind_shape (node : Node η α) : node.shape.kind = node.kind := by
    cases node with
    | leaf info tip => exact congrArg Kind.leaf tip.kind_blank
    | composite info rule children => rfl
    | decorator info rule child => cases rule <;> rfl
  rw [← kind_shape, shape_evaluate, kind_shape]

end Node

end Behavior
