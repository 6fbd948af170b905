import Behavior.Proofs.Panics
import Behavior.Proofs.Schedule
import Behavior.Proofs.Trace

namespace Behavior

variable {η : Type} [HostTypes η] {α : Type}

def Node.completed? : Node η α → Option UInt64
  | .decorator _ (.repeater _ completed) _ => some completed
  | .leaf .. | .composite .. | .decorator .. => none

structure Unmarked (old new : Node η α) : Prop where
  info : new.info = { old.info with scratch := new.info.scratch }
  completed : new.completed? = old.completed?
  scratch : (∀ kind, old.kind ≠ .leaf kind) → new.info.scratch = old.info.scratch

/-- What is noted of a node when it comes to a status. A repeater counts what its child came to, and
a leaf has the private values that its call left. -/
structure Visit.Marked [Host η α] (visit : Visit η α) (status : Status) : Prop where
  status : visit.outcome.subject.status = some status
  completed : ∀ info limit completed child,
    visit.node = .decorator info (.repeater limit completed) child → ∃ result,
      (child.evaluate visit.start).result = .ok result ∧
      visit.outcome.subject.completed? =
        some (if result.isRunning then completed else succSaturating completed)
  scratch : visit.outcome.subject.info.scratch =
    (visit.call?.map Call.remains).getD visit.node.info.scratch

section
variable [Host η α]

theorem unmarked_of_error {node : Node η α} {board : Board η} {panic : Panic}
    (panicked : (node.evaluate board).result = .error panic) :
    Unmarked node (node.evaluate board).subject := by
  cases node with
  | leaf info tip =>
      rw [Node.evaluate_leaf, Node.result_conclude] at panicked
      rw [Node.evaluate_leaf, Node.conclude_of_error panicked]
      rcases Node.evaluateLeaf_cases info tip board with
        ⟨-, same⟩ | ⟨-, _, same⟩ | ⟨call, inner, -, same⟩
      · rw [same] at panicked
        cases panicked
      · rw [same] at panicked
        cases panicked
      · rw [same, Call.subject_settle]
        exact ⟨rfl, rfl, fun interior => absurd rfl (interior tip.kind)⟩
  | composite info rule children =>
      rw [Node.result_evaluate_composite] at panicked
      simp only [Node.evaluate_composite_eq, panicked]
      exact ⟨rfl, rfl, fun _ => rfl⟩
  | decorator info rule child =>
      rw [Node.result_evaluate_decorator] at panicked
      have inner := map_eq_error panicked
      simp only [Node.evaluate_decorator_eq, inner]
      refine ⟨rfl, ?_, fun _ => rfl⟩
      cases rule <;> rfl

theorem Visit.marked_of_ok {visit : Visit η α} {status : Status}
    (ended : visit.outcome.result = .ok status) : visit.Marked status := by
  constructor
  case status => exact Node.status_evaluate ended
  case completed =>
    intro info limit completed child same
    rw [outcome, same, Node.result_evaluate_decorator] at ended
    obtain ⟨result, inner, -⟩ := map_eq_ok ended
    refine ⟨result, inner, ?_⟩
    simp only [outcome, same, Node.evaluate_decorator_eq, inner]
    cases result <;> rfl
  case scratch =>
    cases called : visit.call? with
    | none => exact scratch_of_call?_eq_none called
    | some call =>
        rw [result_of_call? called] at ended
        rw [(outcome_of_call?_of_ok called ended).2, Option.map_some, Option.getD_some,
          Call.remains, ended]

end

namespace Node

variable [Host η α] {node : Node η α} {board : Board η}

theorem leafVisits_of_error {visit : Visit η α} {panic : Panic}
    (visited : visit ∈ node.visits board) (leaf : visit.isLeaf = true)
    (panicked : visit.outcome.result = .error panic) :
    (node.evaluate board).result = .error panic ∧ ∃ earlier,
      node.leafVisits board = earlier ++ [visit] ∧
      ∀ other ∈ earlier, ∃ status, other.outcome.result = .ok status := by
  cases ended : (node.evaluate board).result with
  | ok status =>
      obtain ⟨_, calm⟩ := result_of_reach? ended (mem_visits.1 visited)
      have calm : visit.outcome.result = .ok _ := calm
      rw [panicked] at calm
      cases calm
  | error cause =>
      obtain ⟨earlier, last, listed, fatal, calm⟩ := endsIn_leafVisits ended
      have member : visit ∈ node.leafVisits board := List.mem_filter.2 ⟨visited, leaf⟩
      rw [listed, List.mem_append, List.mem_singleton] at member
      rcases member with before | rfl
      · obtain ⟨status, returned⟩ := calm visit before
        rw [panicked] at returned
        cases returned
      · rw [panicked] at fatal
        exact ⟨fatal.symm, earlier, listed, calm⟩

theorem returns_iff {last visit : Visit η α} {panic : Panic}
    (fatal : last ∈ node.visits board) (leaf : last.isLeaf = true)
    (panicked : last.outcome.result = .error panic) (visited : visit ∈ node.visits board) :
    (∃ status, visit.outcome.result = .ok status) ↔ ¬ visit.address <+: last.address := by
  constructor
  · rintro ⟨status, ended⟩ ⟨rest, below⟩
    have reached := mem_visits.1 fatal
    rw [← below, reach?_append, mem_visits.1 visited, Option.bind_some] at reached
    obtain ⟨_, calm⟩ := result_of_reach? ended reached
    have calm : last.outcome.result = .ok _ := calm
    rw [panicked] at calm
    cases calm
  · intro apart
    cases ended : visit.outcome.result with
    | ok status => exact ⟨status, rfl⟩
    | error cause =>
        exfalso
        apply apart
        -- Within the visit, too, there is a leaf that panics, and there is only one in all.
        obtain ⟨earlier, inner, listed, failed, -⟩ := endsIn_leafVisits ended
        have member : inner ∈ visit.node.leafVisits visit.start := by simp [listed]
        obtain ⟨reached, isLeaf⟩ := List.mem_filter.1 member
        have below : node.reach? board (visit.address ++ inner.address) =
            some (inner.node, inner.start) := by
          rw [reach?_append, mem_visits.1 visited]
          exact mem_visits.1 reached
        let same : Visit η α := ⟨visit.address ++ inner.address, inner.node, inner.start⟩
        have listedSame : same ∈ node.leafVisits board :=
          List.mem_filter.2 ⟨mem_visits.2 below, isLeaf⟩
        obtain ⟨-, before, all, calm⟩ := leafVisits_of_error fatal leaf panicked
        rw [all, List.mem_append, List.mem_singleton] at listedSame
        rcases listedSame with returned | equal
        · obtain ⟨status, came⟩ := calm same returned
          have came : inner.outcome.result = .ok status := came
          rw [failed] at came
          cases came
        · exact ⟨inner.address, congrArg Visit.address equal⟩

end Node

/-- What a tick leaves that the call of the leaf with the given address has cut short. -/
structure CutShort [Host η α] (tree : Tree η α) (panic : Panic) (address : List Nat)
    (call : Call η α) : Prop where
  result : tree.tick.result = .error panic
  ticks : tree.tick.subject.ticks = tree.ticks
  spine : ∀ above, above <+: address → ∃ old new, tree.root.at? above = some old ∧
    tree.tick.subject.root.at? above = some new ∧ Unmarked old new
  returned : ∀ visit ∈ tree.root.visits tree.board,
    (∃ status, visit.outcome.result = .ok status) ↔ ¬ visit.address <+: address
  kept : ∀ visit ∈ tree.root.visits tree.board, ∀ status, visit.outcome.result = .ok status →
    tree.tick.subject.root.at? visit.address = some visit.outcome.subject ∧ visit.Marked status
  untouched : ∀ other, (∀ visit ∈ tree.root.visits tree.board, visit.address ≠ other) →
    tree.tick.subject.root.at? other = tree.root.at? other
  calls : ∃ earlier, tree.tick.events.filterMap Event.call? = earlier ++ [call] ∧
    ∀ other ∈ earlier, ∃ status, other.answer = .ok status
  shared : HandsOn tree.board.shared (tree.tick.events.filterMap Event.call?)
    tree.tick.subject.board.shared
  traced : traces tree.tick.events = traceOf (tree.root.account tree.board)
  untraced : ∀ above, above <+: address → ∀ old, tree.root.at? above = some old →
    ∀ status, (old.path, status) ∉ traces tree.tick.events
  log : KeepsOutOfTrees tree.tick.events →
    (logOf tree.tick.events).filterMap Record.trace? = traces tree.tick.events

section
variable [Host η α]

theorem Node.exists_visit_of_callAt? {node : Node η α} {board : Board η} {address : List Nat}
    {call : Call η α} (called : node.callAt? board address = some call) :
    ∃ visit ∈ node.visits board, visit.address = address ∧ visit.call? = some call := by
  obtain ⟨⟨sub, start⟩, reached, called⟩ := Option.bind_eq_some_iff.1 called
  exact ⟨⟨address, sub, start⟩, mem_visits.2 reached, rfl, called⟩

theorem Tree.exists_callAt?_of_error {tree : Tree η α} {panic : Panic}
    (panicked : tree.tick.result = .error panic) :
    ∃ address call, tree.root.callAt? tree.board address = some call ∧
      call.answer = .error panic := by
  rw [Tree.result_tick] at panicked
  obtain ⟨_, last, call, -, visited, called, answered, -⟩ := Node.evaluate_of_error panicked
  refine ⟨last.address, call, ?_, answered⟩
  rw [Node.callAt?, Node.mem_visits.1 visited]
  exact called

theorem cutShort_of_addressed {tree : Tree η α} (addressed : tree.root.Addressed "root")
    {panic : Panic} {address : List Nat} {call : Call η α}
    (called : tree.root.callAt? tree.board address = some call)
    (panicked : call.answer = .error panic) : CutShort tree panic address call := by
  obtain ⟨last, visited, rfl, made⟩ := Node.exists_visit_of_callAt? called
  have leaf := Visit.isLeaf_of_call? made
  have fatal : last.outcome.result = .error panic := by
    rw [Visit.result_of_call? made, panicked]
  have returned (visit : Visit η α) (member : visit ∈ tree.root.visits tree.board) :
      (∃ status, visit.outcome.result = .ok status) ↔ ¬ visit.address <+: last.address :=
    Node.returns_iff visited leaf fatal member
  obtain ⟨result, earlier, listed, calm⟩ := Node.leafVisits_of_error visited leaf fatal
  constructor
  case result => rw [Tree.result_tick, result]
  case ticks =>
    simp only [Tree.tick, Outcome.map]
    rw [result]
  case spine =>
    rintro above ⟨rest, below⟩
    have reached := Node.mem_visits.1 visited
    rw [← below, Node.reach?_append] at reached
    obtain ⟨⟨old, start⟩, first, -⟩ := Option.bind_eq_some_iff.1 reached
    obtain ⟨before, after⟩ := Node.at?_of_reach? first
    refine ⟨old, _, before, after, ?_⟩
    -- No evaluation around the call that panicked comes to a status.
    have member : ⟨above, old, start⟩ ∈ tree.root.visits tree.board := Node.mem_visits.2 first
    cases ended : (old.evaluate start).result with
    | error cause => exact unmarked_of_error ended
    | ok status => exact absurd ⟨rest, below⟩ ((returned _ member).1 ⟨status, ended⟩)
  case returned => exact returned
  case kept =>
    intro visit member status ended
    exact ⟨(Node.at?_of_reach? (Node.mem_visits.1 member)).2, Visit.marked_of_ok ended⟩
  case untouched =>
    intro other missed
    apply Node.at?_of_reach?_eq_none
    cases reached : tree.root.reach? tree.board other with
    | none => rfl
    | some pair =>
        have member : ⟨other, pair.1, pair.2⟩ ∈ tree.root.visits tree.board :=
          Node.mem_visits.2 reached
        exact absurd rfl (missed _ member)
  case calls =>
    refine ⟨earlier.filterMap Visit.call?, ?_, ?_⟩
    · rw [Tree.events_tick, Node.filterMap_call?_events, ← Node.filterMap_call?_leafVisits, listed,
        List.filterMap_append, List.filterMap_cons_some made, List.filterMap_nil]
    · intro other member
      obtain ⟨visit, before, called⟩ := List.mem_filterMap.1 member
      obtain ⟨status, ended⟩ := calm visit before
      exact ⟨status, by rw [← Visit.result_of_call? called, ended]⟩
  case shared =>
    rw [Tree.events_tick, Node.filterMap_call?_events]
    exact (keepsScratch tree.root tree.board).shared
  case traced => exact Node.traces_evaluate addressed
  case untraced =>
    intro above prior old located status member
    rw [Tree.events_tick, Node.traces_evaluate addressed,
      Node.mem_traceOf addressed located] at member
    obtain ⟨sub, start, reached, ended⟩ := Node.mem_account.1 member
    have member : ⟨above, sub, start⟩ ∈ tree.root.visits tree.board := Node.mem_visits.2 reached
    exact (returned _ member).1 ⟨status, ended⟩ prior
  case log => exact fun apart => apart.log_eq.1

/-- Whatever happened to a tree before, a tick in which the call of a leaf panics leaves it half
way: done as far as the tick had got, and as it was from there on. There is no other way for a tick
to panic. -/
theorem cutShort_of_panic (node : Node η α) (board : Board η) (operations : List (Operation η α)) :
    let tree := (Tree.build node board).1.after operations
    (∀ address call panic, tree.root.callAt? tree.board address = some call →
      call.answer = .error panic → CutShort tree panic address call) ∧
      ∀ panic, tree.tick.result = .error panic → ∃ address call,
        tree.root.callAt? tree.board address = some call ∧ call.answer = .error panic := by
  intro tree
  have addressed : tree.root.Addressed "root" := Tree.addressed_after node board operations
  constructor
  · intro address call panic called panicked
    exact cutShort_of_addressed addressed called panicked
  · exact fun panic panicked => Tree.exists_callAt?_of_error panicked

end

def climb : Node Counting Deed :=
  .sequence [.repeater (.constant .success) (.times 1), .action (.recite [.running]),
    .repeater (.action (.stumble "height" 2)) (.times 3), .constant .success]

theorem cutShort_of_panic_climb :
    let tree := (Tree.build climb ∅).1.after [.tick]
    ∃ call, tree.root.callAt? tree.board [2, 0] = some call ∧
      call.answer = .error (.raised "stumbled") ∧
      traces tree.tick.events =
        [("root/0/0", .success), ("root/0", .success), ("root/1", .success)] ∧
      CutShort tree (.raised "stumbled") [2, 0] call := by
  refine ⟨_, rfl, rfl, ?_, ?_⟩
  · decide
  · exact (cutShort_of_panic climb ∅ [.tick]).1 _ _ _ rfl rfl

end Behavior
