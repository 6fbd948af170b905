import Behavior.Proofs.Evaluation

namespace Behavior.Node

variable {η : Type} [HostTypes η] {α : Type} [Host η α] {node : Node η α} {board : Board η}

def haltsAt : Node η α → Status → Bool
  | .leaf .. => fun _ => false
  | .composite _ rule _ => rule.stops
  | .decorator .. => fun _ => false

def reachChild? (node : Node η α) (board : Board η) (index : Nat) :
    Option (Node η α × Board η) :=
  reachNth? node.haltsAt node.children board index

def reach? (node : Node η α) (board : Board η) : List Nat → Option (Node η α × Board η)
  | [] => some (node, board)
  | index :: rest => (node.reachChild? board index).bind fun reached =>
      reached.1.reach? reached.2 rest

theorem getElem?_children_evaluate (node : Node η α) (board : Board η) (index : Nat) :
    (node.evaluate board).subject.children[index]? =
      ((node.reachChild? board index).map fun reached =>
        (reached.1.evaluate reached.2).subject).or node.children[index]? := by
  cases node with
  | leaf info tip =>
      rw [children_evaluate_leaf]
      rfl
  | composite info rule children =>
      rw [children_evaluate_composite]
      exact getElem?_evaluateUntil index
  | decorator info rule child =>
      rw [children_evaluate_decorator]
      cases index with
      | zero => rfl
      | succ index =>
          cases ended : (child.evaluate board).result <;>
            simp [reachChild?, reachNth?, children, haltsAt, ended]

theorem result_of_reachChild? {status : Status} (ended : (node.evaluate board).result = .ok status)
    {index : Nat} {child : Node η α} {start : Board η}
    (reached : node.reachChild? board index = some (child, start)) :
    ∃ status, (child.evaluate start).result = .ok status := by
  cases node with
  | leaf info tip => cases reached
  | composite info rule children =>
      rw [result_evaluate_composite] at ended
      obtain ⟨statuses, walked, -⟩ := map_eq_ok ended
      have agree := getElem?_of_result_evaluateUntil walked index
      rw [show reachNth? rule.stops children board index = some (child, start) from reached]
        at agree
      obtain ⟨status, -, same⟩ := Option.map_eq_some_iff.1 agree
      exact ⟨status, same.symm⟩
  | decorator info rule only =>
      have found : [only][index]? = some child := getElem?_of_reachNth? reached
      obtain rfl : index = 0 := by
        have := (List.getElem?_eq_some_iff.1 found).1
        simpa using this
      obtain ⟨rfl, rfl⟩ : only = child ∧ board = start := by
        simpa [reachChild?, reachNth?, children] using reached
      rw [result_evaluate_decorator] at ended
      obtain ⟨status, inner, -⟩ := map_eq_ok ended
      exact ⟨status, inner⟩

theorem reach?_cons_eq_some_iff {index : Nat} {rest : List Nat} {sub : Node η α}
    {start : Board η} :
    node.reach? board (index :: rest) = some (sub, start) ↔
      ∃ child middle, node.reachChild? board index = some (child, middle) ∧
        child.reach? middle rest = some (sub, start) := by
  simp [reach?, Option.bind_eq_some_iff]

theorem reach?_append (node : Node η α) (board : Board η) (first second : List Nat) :
    node.reach? board (first ++ second) =
      (node.reach? board first).bind fun reached => reached.1.reach? reached.2 second := by
  induction first generalizing node board with
  | nil => rfl
  | cons index rest ih =>
      simp only [List.cons_append, reach?]
      cases node.reachChild? board index with
      | none => rfl
      | some reached => exact ih reached.1 reached.2

theorem reach?_concat_eq_some_iff {address : List Nat} {index : Nat} {sub : Node η α}
    {start : Board η} :
    node.reach? board (address ++ [index]) = some (sub, start) ↔
      ∃ parent middle, node.reach? board address = some (parent, middle) ∧
        parent.reachChild? middle index = some (sub, start) := by
  simp only [reach?_append, Option.bind_eq_some_iff, Prod.exists, reach?_cons_eq_some_iff]
  simp [reach?]

theorem at?_of_reach? {address : List Nat} {sub : Node η α} {start : Board η}
    (reached : node.reach? board address = some (sub, start)) :
    node.at? address = some sub ∧
      (node.evaluate board).subject.at? address = some (sub.evaluate start).subject := by
  induction address generalizing node board with
  | nil =>
      obtain ⟨rfl, rfl⟩ : node = sub ∧ board = start := by simpa [reach?] using reached
      exact ⟨rfl, rfl⟩
  | cons index rest ih =>
      obtain ⟨child, middle, first, reached⟩ := reach?_cons_eq_some_iff.1 reached
      obtain ⟨before, after⟩ := ih reached
      refine ⟨at?_cons_eq_some_iff.2 ⟨child, getElem?_of_reachNth? first, before⟩,
        at?_cons_eq_some_iff.2 ⟨(child.evaluate middle).subject, ?_, after⟩⟩
      rw [getElem?_children_evaluate, first]
      rfl

theorem at?_of_reach?_eq_none {address : List Nat} (missed : node.reach? board address = none) :
    (node.evaluate board).subject.at? address = node.at? address := by
  induction address generalizing node board with
  | nil => cases missed
  | cons index rest ih =>
      rw [at?_cons, at?_cons, getElem?_children_evaluate]
      cases reached : node.reachChild? board index with
      | none => rfl
      | some pair =>
          rw [getElem?_of_reachNth? reached]
          exact ih (by simpa [reach?, reached] using missed)

theorem result_of_reach? {status : Status} (ended : (node.evaluate board).result = .ok status)
    {address : List Nat} {sub : Node η α} {start : Board η}
    (reached : node.reach? board address = some (sub, start)) :
    ∃ status, (sub.evaluate start).result = .ok status := by
  induction address generalizing node board status with
  | nil =>
      obtain ⟨rfl, rfl⟩ : node = sub ∧ board = start := by simpa [reach?] using reached
      exact ⟨status, ended⟩
  | cons index rest ih =>
      obtain ⟨child, middle, first, reached⟩ := reach?_cons_eq_some_iff.1 reached
      obtain ⟨_, inner⟩ := result_of_reachChild? ended first
      exact ih inner reached

end Behavior.Node
