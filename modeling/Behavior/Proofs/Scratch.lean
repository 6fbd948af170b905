import Behavior.Proofs.Calls
import Behavior.Proofs.Procedure

namespace Behavior

variable {η : Type} [HostTypes η] {α : Type}

def HandsOn : Entries η → List (Call η α) → Entries η → Prop
  | first, [], last => first = last
  | first, call :: rest, last => call.start.shared = first ∧ HandsOn call.finish.shared rest last

structure KeepsScratch [Host η α] (node : Node η α) (board : Board η) : Prop where
  calls : (node.evaluate board).events.filterMap Event.call? =
    (node.visits board).filterMap Visit.call?
  located : ∀ visit ∈ node.visits board, node.at? visit.address = some visit.node
  once : ((node.visits board).map (·.address)).Nodup
  view : ∀ visit ∈ node.visits board, ∀ call, visit.call? = some call →
    call.start.scratch = some visit.node.info.scratch
  restored : ∀ status, (node.evaluate board).result = .ok status →
    (node.evaluate board).board.scratch = board.scratch
  kept : ∀ visit ∈ node.visits board, ∀ call status, visit.call? = some call →
    call.answer = .ok status → ∃ after,
      (node.evaluate board).subject.at? visit.address = some after ∧
        after.info.scratch = call.finish.scratch.getD ∅
  uncalled : ∀ address sub, node.at? address = some sub →
    (∀ visit ∈ node.visits board, visit.address = address → visit.call? = none) → ∃ after,
      (node.evaluate board).subject.at? address = some after ∧
        after.info.scratch = sub.info.scratch
  interior : ∀ address sub, node.at? address = some sub → (∀ kind, sub.kind ≠ .leaf kind) →
    ∃ after, (node.evaluate board).subject.at? address = some after ∧
      after.info.scratch = sub.info.scratch
  shared : HandsOn board.shared ((node.visits board).filterMap Visit.call?)
    (node.evaluate board).board.shared

section
variable [Host η α]

theorem Threads.restored {first last : Board η} {visits : List (Visit η α)}
    (threads : Threads first visits last)
    (kept : ∀ visit ∈ visits, visit.outcome.board.scratch = visit.start.scratch) :
    last.scratch = first.scratch := by
  induction visits generalizing first with
  | nil =>
      obtain rfl : first = last := threads
      rfl
  | cons visit rest ih =>
      obtain ⟨rfl, later⟩ := threads
      obtain ⟨here, there⟩ := List.forall_mem_cons.1 kept
      rw [ih later there, here]

theorem Threads.handsOn {first last : Board η} {visits : List (Visit η α)}
    (threads : Threads first visits last) (leaves : ∀ visit ∈ visits, visit.isLeaf = true) :
    HandsOn first.shared (visits.filterMap Visit.call?) last.shared := by
  induction visits generalizing first with
  | nil =>
      obtain rfl : first = last := threads
      rfl
  | cons visit rest ih =>
      obtain ⟨rfl, later⟩ := threads
      obtain ⟨leaf, others⟩ := List.forall_mem_cons.1 leaves
      have next := ih later others
      cases called : visit.call? with
      | none =>
          rw [List.filterMap_cons_none called]
          rwa [(Visit.board_of_call?_eq_none leaf called).1] at next
      | some call =>
          rw [List.filterMap_cons_some called]
          rw [Visit.shared_of_call? called] at next
          exact ⟨by rw [Visit.start_of_call? called], next⟩

theorem Visit.restored {visit : Visit η α} {status : Status} (leaf : visit.isLeaf = true)
    (ended : visit.outcome.result = .ok status) :
    visit.outcome.board.scratch = visit.start.scratch := by
  cases called : visit.call? with
  | none => rw [(board_of_call?_eq_none leaf called).1]
  | some call =>
      rw [result_of_call? called] at ended
      rw [(outcome_of_call?_of_ok called ended).1]

theorem Node.scratch_of_uncalled {node sub : Node η α} {board : Board η} {address : List Nat}
    (located : node.at? address = some sub)
    (calm : ∀ visit ∈ node.visits board, visit.address = address → visit.call? = none) :
    ∃ after, (node.evaluate board).subject.at? address = some after ∧
      after.info.scratch = sub.info.scratch := by
  cases reached : node.reach? board address with
  | none => exact ⟨sub, by rw [at?_of_reach?_eq_none reached, located], rfl⟩
  | some pair =>
      obtain ⟨before, after⟩ := at?_of_reach? reached
      have visited : ⟨address, pair.1, pair.2⟩ ∈ node.visits board := mem_visits.2 reached
      have kept := Visit.scratch_of_call?_eq_none (calm _ visited rfl)
      obtain rfl : pair.1 = sub := by
        rw [located] at before
        exact (Option.some.inj before).symm
      exact ⟨_, after, kept⟩

theorem keepsScratch (node : Node η α) (board : Board η) : KeepsScratch node board where
  calls := node.filterMap_call?_events board
  located visit member := (Node.at?_of_reach? (Node.mem_visits.1 member)).1
  once := node.nodup_address_visits board
  view visit _ call called := by rw [Visit.start_of_call? called]
  restored status ended := by
    refine (node.threads_leafVisits board).restored fun visit member => ?_
    obtain ⟨visited, leaf⟩ := List.mem_filter.1 member
    obtain ⟨_, inner⟩ := Node.result_of_reach? ended (Node.mem_visits.1 visited)
    exact Visit.restored leaf inner
  kept visit member call status called answered :=
    ⟨_, (Node.at?_of_reach? (Node.mem_visits.1 member)).2,
      (Visit.outcome_of_call?_of_ok called answered).2⟩
  uncalled address sub located calm := Node.scratch_of_uncalled located calm
  interior address sub located interior := by
    refine Node.scratch_of_uncalled located fun visit member here => ?_
    have same := (Node.at?_of_reach? (Node.mem_visits.1 member)).1
    rw [here, located] at same
    rw [Option.some.inj same] at interior
    exact Visit.call?_of_interior interior
  shared := by
    rw [← node.filterMap_call?_leafVisits board]
    exact (node.threads_leafVisits board).handsOn fun visit member => (List.mem_filter.1 member).2

end

def Event.innermost : Event η α → Event η α
  | log record => log record
  | .call made => .call made
  | within event => event.innermost

theorem Node.visit_or_emits_of_call [Host η α] {node : Node η α} {board : Board η}
    {event : Event η α} {call : Call η α} (member : event ∈ (node.evaluate board).events)
    (inside : event.innermost = .call call) :
    (∃ visit ∈ node.visits board, visit.call? = some call) ∨
      ∃ start inner, Leaf.Emits start inner ∧ inner.map .within <:+: (node.evaluate board).events ∧
        ∃ below ∈ inner, below.innermost = .call call := by
  rw [← report_visits, List.mem_flatMap] at member
  obtain ⟨visit, visited, reported⟩ := member
  rcases visit.mem_report_cases reported with ⟨record, rfl⟩ | ⟨made, called, same⟩
  · cases inside
  · rcases same with rfl | ⟨inner, emits, part, below, listed, rfl⟩
    · obtain rfl : made = call := by simpa [Event.innermost] using inside
      exact .inl ⟨visit, visited, called⟩
    · have within := part.trans (infix_of_mem_visits visited)
      exact .inr ⟨made.start, inner, emits, within, below, listed, inside⟩

theorem HostCode.exists_evaluation_of_call (code : HostCode η α)
    {evaluation : Node η α → Board η → Outcome η α (Node η α) Status} {start : Board η}
    {inner : List (Event η α)} (emits : @Leaf.Emits η _ α (code.hostBy evaluation) start inner)
    {below : Event η α} (member : below ∈ inner) {call : Call η α}
    (inside : below.innermost = .call call) :
    ∃ node board, below ∈ (evaluation node board).events ∧
      (evaluation node board).events <:+: inner := by
  rcases emits with ⟨routine, rfl⟩ | ⟨test, rfl⟩
  · rcases Procedure.mem_events_run member with ⟨key, rfl⟩ | within
    · cases inside
    · exact within
  · rcases Procedure.mem_events_run member with ⟨key, rfl⟩ | within
    · cases inside
    · exact within

theorem HostCode.exists_visit_of_call (code : HostCode η α) {depth : Nat} {node : Node η α}
    {board : Board η} {event : Event η α} {call : Call η α}
    (member : event ∈ (@Node.evaluate η _ α (code.host depth) node board).events)
    (inside : event.innermost = .call call) :
    ∃ level ≤ depth, ∃ sub start,
      (@Node.evaluate η _ α (code.host level) sub start).events.map Event.innermost <:+:
          (@Node.evaluate η _ α (code.host depth) node board).events.map Event.innermost ∧
        ∃ visit ∈ @Node.visits η _ α (code.host level) sub start,
          @Visit.call? η _ α (code.host level) visit = some call := by
  induction depth generalizing node board event with
  | zero =>
      rcases @Node.visit_or_emits_of_call η _ α (code.host 0) _ _ _ _ member inside with
        ⟨visit, visited⟩ | ⟨start, inner, emits, part, below, listed, here⟩
      · exact ⟨0, Nat.le_refl 0, node, board, List.infix_rfl, visit, visited⟩
      · obtain ⟨_, _, none, -⟩ := code.exists_evaluation_of_call emits listed here
        cases none
  | succ depth ih =>
      rcases @Node.visit_or_emits_of_call η _ α (code.host (depth + 1)) _ _ _ _ member inside with
        ⟨visit, visited⟩ | ⟨start, inner, emits, part, below, listed, here⟩
      · exact ⟨depth + 1, Nat.le_refl _, node, board, List.infix_rfl, visit, visited⟩
      · -- The call takes place in an evaluation that a routine performs, one level further down.
        obtain ⟨_, _, within, piece⟩ := code.exists_evaluation_of_call emits listed here
        obtain ⟨level, le, sub, start, whole, visited⟩ := ih within here
        refine ⟨level, Nat.le_succ_of_le le, sub, start, whole.trans ?_, visited⟩
        have outer := part.map Event.innermost
        rw [List.map_map] at outer
        exact (piece.map Event.innermost).trans outer

/-- Private values are kept apart in every evaluation: in those of a host, and in those that its
routines perform on the same board, however deep, where again every call is one of a leaf that has
its own values in view. -/
theorem scratch_discipline :
    (∀ [Host η α] (node : Node η α) (board : Board η), KeepsScratch node board) ∧
      ∀ (code : HostCode η α) (depth : Nat) (node : Node η α) (board : Board η),
        ∀ event ∈ (@Node.evaluate η _ α (code.host depth) node board).events,
          ∀ call, event.innermost = .call call →
            ∃ level ≤ depth, ∃ sub start,
              (@Node.evaluate η _ α (code.host level) sub start).events.map Event.innermost <:+:
                  (@Node.evaluate η _ α (code.host depth) node board).events.map Event.innermost ∧
                @KeepsScratch η _ α (code.host level) sub start ∧
                ∃ visit ∈ @Node.visits η _ α (code.host level) sub start,
                  @Visit.call? η _ α (code.host level) visit = some call ∧
                    call.start.scratch = some visit.node.info.scratch := by
  refine ⟨fun node board => keepsScratch node board, ?_⟩
  intro code depth node board event member call inside
  obtain ⟨level, le, sub, start, part, visit, visited, called⟩ :=
    code.exists_visit_of_call member inside
  let _ := code.host level
  have kept := keepsScratch sub start
  exact ⟨level, le, sub, start, part, kept, visit, visited, called,
    kept.view visit visited call called⟩

end Behavior
