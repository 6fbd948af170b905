import Behavior.Proofs.Scratch
import Behavior.Proofs.Session

namespace Behavior

variable {η : Type} [HostTypes η] {α : Type}

namespace HostCode

def ownView (code : HostCode η α) (depth : Nat) (tip : Leaf α) (start : Board η) :
    Option (Entries η) :=
  match tip with
  | .action _ (some (.routine routine)) =>
      (code.act routine).ownView (code.nested depth) start start.scratch
  | .condition _ (some test) => (code.test test).ownView (code.nested depth) start start.scratch
  | .action _ (some (.constant _)) | .action _ none | .condition _ none => none

def Returns (code : HostCode η α) (depth : Nat) (tip : Leaf α) (start : Board η) : Prop :=
  match tip with
  | .action _ (some (.routine routine)) => (code.act routine).Returns (code.nested depth) start
  | .condition _ (some test) => (code.test test).Returns (code.nested depth) start
  | .action _ (some (.constant _)) | .action _ none | .condition _ none => True

theorem scratch_nested (code : HostCode η α) (depth : Nat) (node : Node η α) (board : Board η)
    (status : Status) (ended : (code.nested depth node board).result = .ok status) :
    (code.nested depth node board).board.scratch = board.scratch := by
  cases depth with
  | zero => cases ended
  | succ depth =>
      let _ := code.host depth
      exact (keepsScratch node board).restored status ended

theorem scratch_finish_of_returns (code : HostCode η α) {depth : Nat} {tip : Leaf α}
    {start : Board η} {call : Call η α} {inner : List (Event η α)}
    (called : @Leaf.call? η _ α (code.host depth) tip start = some (call, inner))
    (returns : code.Returns depth tip start) :
    call.finish.scratch = code.ownView depth tip start := by
  cases tip with
  | action slot callback =>
      cases callback with
      | none => cases called
      | some callback =>
          cases callback with
          | constant status => cases called
          | routine routine =>
              obtain ⟨rfl, rfl⟩ := Prod.mk.inj (Option.some.inj called)
              exact Procedure.scratch_run (code.scratch_nested depth) returns
  | condition slot test =>
      cases test with
      | none => cases called
      | some test =>
          obtain ⟨rfl, rfl⟩ := Prod.mk.inj (Option.some.inj called)
          exact Procedure.scratch_run (code.scratch_nested depth) returns

end HostCode

/-- Whether a panic did no harm: the board has the view that it had before the evaluation, and the
leaf with the given address has the given private values. -/
def Recovers [Host η α] (node : Node η α) (board : Board η) (address : List Nat)
    (entries : Entries η) : Prop :=
  (node.evaluate board).board.scratch = board.scratch ∧ ∃ after,
    (node.evaluate board).subject.at? address = some after ∧ after.info.scratch = entries

theorem Tree.Ticks.scratch_eq [Host η α] {start tree : Tree η α} (ticks : Ticks start tree) :
    tree.board.scratch = start.board.scratch := by
  induction ticks with
  | refl => rfl
  | tick _ ended ih =>
      rw [Tree.result_tick] at ended
      rw [Tree.board_tick, (keepsScratch _ _).restored _ ended, ih]

theorem Node.evaluate_of_error [Host η α] {node : Node η α} {board : Board η} {panic : Panic}
    (panicked : (node.evaluate board).result = .error panic) :
    ∃ earlier last call, node.leafVisits board = earlier ++ [last] ∧ last ∈ node.visits board ∧
      last.call? = some call ∧ call.answer = .error panic ∧
      (node.evaluate board).board = call.finish ∧ ∃ after,
        (node.evaluate board).subject.at? last.address = some after ∧ after.info.scratch = ∅ := by
  obtain ⟨earlier, last, listed, ended, -⟩ := endsIn_leafVisits panicked
  have member : last ∈ node.leafVisits board := by simp [listed]
  obtain ⟨visited, leaf⟩ := List.mem_filter.1 member
  cases called : last.call? with
  | none =>
      obtain ⟨status, calm⟩ := (Visit.board_of_call?_eq_none leaf called).2
      rw [calm] at ended
      cases ended
  | some call =>
      rw [Visit.result_of_call? called] at ended
      obtain ⟨left, emptied⟩ := Visit.outcome_of_call?_of_error called ended
      have threads := node.threads_leafVisits board
      rw [listed] at threads
      have board := threads.board_last.symm.trans left
      exact ⟨earlier, last, call, listed, visited, called, ended, board, _,
        (at?_of_reach? (mem_visits.1 visited)).2, emptied⟩

structure HostCode.Strands (code : HostCode η α) (depth : Nat) (node : Node η α) (board : Board η)
    (panic : Panic) (address : List Nat) (tip : Leaf α) (call : Call η α)
    (outcome : Outcome η α (Node η α) Status) : Prop where
  panicked : call.answer = .error panic
  left : outcome.board = call.finish
  emptied : ∃ after, outcome.subject.at? address = some after ∧ after.info.scratch = ∅
  recovers_iff : @Recovers η _ α (code.host depth) node board address
      ((code.ownView depth tip call.start).getD ∅) ↔
    call.finish.scratch = board.scratch ∧ (code.ownView depth tip call.start).getD ∅ = ∅
  caught : ∀ {ρ : Type} (next : Node η α → Except Panic Status → Procedure η α ρ),
    ((Procedure.evaluate node next).run (code.nested (depth + 1)) board).board =
      ((next outcome.subject (.error panic)).run (code.nested (depth + 1)) call.finish).board
  ticks : ∀ tree later : Tree η α, tree.root = outcome.subject → tree.board = outcome.board →
    @Tree.Ticks η _ α (code.host depth) tree later → later.board.scratch = call.finish.scratch
  again : ∀ start, ∀ visit ∈ @Node.visits η _ α (code.host depth) outcome.subject start,
    visit.address = address → ∀ next, @Visit.call? η _ α (code.host depth) visit = some next →
      next.start.scratch = some ∅

/-- A panic leaves the board as it was when the panic came, and its leaf without private values.
Calls in which nothing was caught are none the worse for it. -/
theorem strands_of_panic (code : HostCode η α) (depth : Nat) {node : Node η α} {board : Board η}
    {panic : Panic}
    (panicked : (@Node.evaluate η _ α (code.host depth) node board).result = .error panic) :
    let _ := code.host depth
    (∃ earlier last info tip call, node.leafVisits board = earlier ++ [last] ∧
      last.node = .leaf info tip ∧ last.call? = some call ∧
      code.Strands depth node board panic last.address tip call (node.evaluate board)) ∧
      ∀ visit ∈ node.visits board, ∀ info tip call, visit.node = .leaf info tip →
        visit.call? = some call → code.Returns depth tip call.start →
          call.finish.scratch = code.ownView depth tip call.start := by
  intro _
  constructor
  · obtain ⟨earlier, last, call, listed, visited, called, answered, finish, after, located,
      emptied⟩ := Node.evaluate_of_error panicked
    obtain ⟨info, tip, inner, leaf, -⟩ := Visit.settle_of_call? called
    refine ⟨earlier, last, info, tip, call, listed, leaf, called, answered, finish,
      ⟨after, located, emptied⟩, ?_, ?_, ?_, ?_⟩
    · constructor
      -- The leaf has lost what it had, so it can have kept nothing but nothing.
      · rintro ⟨restored, other, found, kept⟩
        obtain rfl : after = other := by
          rw [located] at found
          exact Option.some.inj found
        exact ⟨by rw [← finish, restored], by rw [← kept, emptied]⟩
      · rintro ⟨restored, nothing⟩
        exact ⟨by rw [finish, restored], after, located, by rw [emptied, nothing]⟩
    · intro ρ next
      show ((next (node.evaluate board).subject (node.evaluate board).result).run _
        (node.evaluate board).board).board = _
      rw [panicked, finish]
    · intro tree later root same ticks
      rw [ticks.scratch_eq, same, finish]
    · intro start visit member here again made
      have same := (Node.at?_of_reach? (Node.mem_visits.1 member)).1
      rw [here, located] at same
      rw [Visit.start_of_call? made, ← Option.some.inj same, emptied]
  · intro visit _ info tip call leaf called returns
    obtain ⟨info', tip', inner, same, made, -⟩ := Visit.settle_of_call? called
    obtain ⟨rfl, rfl⟩ : info' = info ∧ tip' = tip := by simpa [same] using leaf
    rw [← (Leaf.call?_spec made).2.1] at made
    exact code.scratch_finish_of_returns made returns

def mishaps : Node Counting Deed :=
  .sequence [.untilFail (.action (.attempt (.action (.stumble "b" 2)))),
    .inverter (.action (.stumble "a" 1))]

theorem strands_of_panic_mishaps :
    let _ := Deed.code.host 1
    (∃ earlier last info tip call, mishaps.leafVisits ∅ = earlier ++ [last] ∧
      last.node = .leaf info tip ∧ last.call? = some call ∧
      Deed.code.Strands 1 mishaps ∅ (.raised "stumbled") last.address tip call
        (mishaps.evaluate ∅)) ∧
      ∀ visit ∈ mishaps.visits ∅, ∀ info tip call, visit.node = .leaf info tip →
        visit.call? = some call → Deed.code.Returns 1 tip call.start →
          call.finish.scratch = Deed.code.ownView 1 tip call.start := by
  have panicked : (mishaps.evaluate ∅).result = .error (.raised "stumbled") := rfl
  exact strands_of_panic Deed.code 1 panicked

theorem not_recovers_stumble :
    let entries : Entries Counting := (∅ : Entries Counting).insert "a" ⟨.host .count, (1 : Nat)⟩
    let node : Node Counting Deed := .action (.stumble "a" 1)
    (node.evaluate ∅).result = .error (.raised "stumbled") ∧
      Deed.code.ownView 1 (.action none (some (.routine (.stumble "a" 1)))) ⟨∅, some ∅⟩ =
        some entries ∧
      (node.evaluate ∅).board.scratch = some entries ∧
      (node.evaluate ∅).subject.info.scratch = ∅ ∧ ¬ Recovers node ∅ [] entries := by
  refine ⟨rfl, rfl, rfl, rfl, ?_⟩
  rintro ⟨restored, -⟩
  cases restored

end Behavior
