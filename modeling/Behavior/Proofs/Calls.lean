import Behavior.Proofs.Visits

namespace Behavior

variable {η : Type} [HostTypes η] {α : Type}

def Event.call? : Event η α → Option (Call η α)
  | log _ => none
  | .call made => some made
  | within _ => none

/-- What remains of a leaf and of the board after the given call. The leaf has the callback `tip`,
and the board had the given view before. -/
def Call.settle (call : Call η α) (inner : List (Event η α)) (info : Info η) (tip : Leaf α)
    (view : Option (Entries η)) : Outcome η α (Node η α) Status :=
  match call.answer with
  | .ok status =>
      ⟨.leaf { info with scratch := call.finish.scratch.getD ∅ } tip,
        { call.finish with scratch := view }, .call call :: inner.map .within, .ok status⟩
  | .error panic =>
      ⟨.leaf { info with scratch := ∅ } tip, call.finish, .call call :: inner.map .within,
        .error panic⟩

def Call.remains (call : Call η α) : Entries η :=
  match call.answer with
  | .ok _ => call.finish.scratch.getD ∅
  | .error _ => ∅

section
variable {call : Call η α} {inner : List (Event η α)} {info : Info η} {tip : Leaf α}
  {view : Option (Entries η)}

theorem Call.subject_settle :
    (call.settle inner info tip view).subject =
      .leaf { info with scratch := call.remains } tip := by
  unfold settle remains
  split <;> rfl

@[simp] theorem Call.events_settle :
    (call.settle inner info tip view).events = .call call :: inner.map .within := by
  unfold settle
  split <;> rfl

@[simp] theorem Call.result_settle : (call.settle inner info tip view).result = call.answer := by
  unfold settle
  split <;> simp_all

@[simp] theorem Call.path_settle :
    (call.settle inner info tip view).subject.path = info.path := by
  unfold settle
  split <;> rfl

theorem Call.settle_of_ok {status : Status} (answered : call.answer = .ok status) :
    call.settle inner info tip view =
      ⟨.leaf { info with scratch := call.finish.scratch.getD ∅ } tip,
        { call.finish with scratch := view }, .call call :: inner.map .within, .ok status⟩ := by
  simp only [settle, answered]

theorem Call.settle_of_error {panic : Panic} (panicked : call.answer = .error panic) :
    call.settle inner info tip view =
      ⟨.leaf { info with scratch := ∅ } tip, call.finish, .call call :: inner.map .within,
        .error panic⟩ := by
  simp only [settle, panicked]

end

namespace Leaf

def rebind (tip : Leaf α) (routine : α) : Leaf α :=
  match tip with
  | action slot _ => action slot (some (.routine routine))
  | condition slot _ => condition slot (some routine)

variable [Host η α]

def call? (tip : Leaf α) (start : Board η) : Option (Call η α × List (Event η α)) :=
  match tip with
  | action _ (some (.routine routine)) =>
      let reply := Host.act routine start
      some (⟨routine, start, reply.subject, reply.board, reply.result.map id⟩, reply.events)
  | condition _ (some test) =>
      let reply := Host.test test start
      some (⟨test, start, reply.subject, reply.board, reply.result.map .ofBool⟩, reply.events)
  | action _ (some (.constant _)) | action _ none | condition _ none => none

def Emits (start : Board η) (events : List (Event η α)) : Prop :=
  (∃ routine : α, (Host.act routine start).events = events) ∨
    ∃ test : α, (Host.test test start).events = events

theorem call?_spec {tip : Leaf α} {start : Board η} {call : Call η α}
    {inner : List (Event η α)} (called : tip.call? start = some (call, inner)) :
    tip.isUnbound = false ∧ call.start = start ∧ Emits call.start inner := by
  cases tip with
  | action slot callback =>
      cases callback with
      | none => cases called
      | some callback =>
          cases callback with
          | constant status => cases called
          | routine routine =>
              obtain ⟨rfl, rfl⟩ := Prod.mk.inj (Option.some.inj called)
              exact ⟨rfl, rfl, .inl ⟨routine, rfl⟩⟩
  | condition slot test =>
      cases test with
      | none => cases called
      | some test =>
          obtain ⟨rfl, rfl⟩ := Prod.mk.inj (Option.some.inj called)
          exact ⟨rfl, rfl, .inr ⟨test, rfl⟩⟩

end Leaf

namespace Node

theorem map_call {ρ : Type} (meaning : α → Board η → Outcome η α α ρ) (status : ρ → Status)
    (routine : α) (board : Board η) (info : Info η) (rebind : α → Leaf α) :
    (Host.call meaning status routine info.scratch board).map
        (fun (routine, scratch) => Node.leaf { info with scratch } (rebind routine)) id =
      let start := { board with scratch := some info.scratch }
      let reply := meaning routine start
      Call.settle ⟨routine, start, reply.subject, reply.board, reply.result.map status⟩
        reply.events info (rebind reply.subject) board.scratch := by
  cases replied : (meaning routine { board with scratch := some info.scratch }).result with
  | ok value => simp only [Host.call, Outcome.map, Call.settle, replied, Except.map, id]
  | error panic => simp only [Host.call, Outcome.map, Call.settle, replied, Except.map]

variable [Host η α]

theorem evaluateLeaf_of_call? {info : Info η} {tip : Leaf α} {board : Board η} {call : Call η α}
    {inner : List (Event η α)}
    (made : tip.call? { board with scratch := some info.scratch } = some (call, inner)) :
    evaluateLeaf info tip board = call.settle inner info (tip.rebind call.after) board.scratch := by
  cases tip with
  | action slot callback =>
      cases callback with
      | none => cases made
      | some callback =>
          cases callback with
          | constant status => cases made
          | routine routine =>
              obtain ⟨rfl, rfl⟩ := Prod.mk.inj (Option.some.inj made)
              exact map_call Host.act id routine board info fun routine =>
                .action slot (some (.routine routine))
  | condition slot test =>
      cases test with
      | none => cases made
      | some test =>
          obtain ⟨rfl, rfl⟩ := Prod.mk.inj (Option.some.inj made)
          exact map_call Host.test Status.ofBool test board info fun test =>
            .condition slot (some test)

theorem evaluateLeaf_cases (info : Info η) (tip : Leaf α) (board : Board η) :
    (tip.isUnbound = true ∧ evaluateLeaf info tip board =
        ⟨.leaf info tip, board, [.log (.missingCallback tip.kind info.path)], .ok .failure⟩) ∨
      (tip.isUnbound = false ∧ ∃ status,
        evaluateLeaf info tip board = ⟨.leaf info tip, board, [], .ok status⟩) ∨
      ∃ call inner, tip.call? { board with scratch := some info.scratch } = some (call, inner) ∧
        evaluateLeaf info tip board =
          call.settle inner info (tip.rebind call.after) board.scratch := by
  cases tip with
  | action slot callback =>
      cases callback with
      | none => exact .inl ⟨rfl, rfl⟩
      | some callback =>
          cases callback with
          | constant status => exact .inr (.inl ⟨rfl, status, rfl⟩)
          | routine routine => exact .inr (.inr ⟨_, _, rfl, evaluateLeaf_of_call? rfl⟩)
  | condition slot test =>
      cases test with
      | none => exact .inl ⟨rfl, rfl⟩
      | some test => exact .inr (.inr ⟨_, _, rfl, evaluateLeaf_of_call? rfl⟩)

theorem evaluateLeaf_of_call?_eq_none {info : Info η} {tip : Leaf α} {board : Board η}
    (silent : tip.call? { board with scratch := some info.scratch } = none) :
    (evaluateLeaf info tip board).subject = .leaf info tip := by
  rcases evaluateLeaf_cases info tip board with ⟨-, same⟩ | ⟨-, _, same⟩ | ⟨_, _, made, -⟩
  · rw [same]
  · rw [same]
  · rw [silent] at made
    cases made

theorem scratch_evaluate_composite (info : Info η) (rule : Composite)
    (children : List (Node η α)) (board : Board η) :
    ((Node.composite info rule children).evaluate board).subject.info.scratch = info.scratch := by
  rw [evaluate_composite, scratch_conclude]
  rfl

theorem scratch_evaluate_decorator (info : Info η) (rule : Decorator) (child : Node η α)
    (board : Board η) :
    ((Node.decorator info rule child).evaluate board).subject.info.scratch = info.scratch := by
  cases ended : (child.evaluate board).result with
  | error panic =>
      rw [evaluate_decorator_of_error info rule ended]
      rfl
  | ok status =>
      rw [evaluate_decorator_of_ok info rule ended, scratch_conclude]
      rfl

end Node

@[simp] theorem Node.filterMap_call?_closing {path : String} {result : Except Panic Status} :
    (closing path result : List (Event η α)).filterMap Event.call? = [] := by
  cases result <;> rfl

theorem Node.eq_log_of_mem_closing {path : String} {result : Except Panic Status}
    {event : Event η α} (member : event ∈ closing path result) :
    ∃ record, event = .log record := by
  cases result with
  | ok status => exact ⟨_, List.mem_singleton.1 member⟩
  | error panic => cases member

namespace Visit

variable [Host η α] {visit : Visit η α} {call : Call η α}

def call? (visit : Visit η α) : Option (Call η α) :=
  (visit.report.filterMap Event.call?).head?

theorem report_of_leaf (visit : Visit η α) {info : Info η} {tip : Leaf α}
    (leaf : visit.node = .leaf info tip) :
    visit.report = (Node.evaluateLeaf info tip visit.start).events ++
      Node.closing (Node.evaluateLeaf info tip visit.start).subject.path
        (Node.evaluateLeaf info tip visit.start).result := by
  obtain ⟨address, node, start⟩ := visit
  subst leaf
  simp only [report, outcome, Node.evaluate_leaf, Node.events_conclude]

theorem call?_cases (visit : Visit η α) :
    (visit.call? = none ∧ (∀ event ∈ visit.report, ∃ record, event = .log record) ∧
        visit.outcome.subject.info.scratch = visit.node.info.scratch ∧
        (visit.isLeaf = true → visit.outcome.board = visit.start ∧
          ∃ status, visit.outcome.result = .ok status)) ∨
      ∃ call info tip inner, visit.call? = some call ∧
        visit.report.filterMap Event.call? = [call] ∧ visit.node = .leaf info tip ∧
        tip.call? { visit.start with scratch := some info.scratch } = some (call, inner) ∧
        Node.evaluateLeaf info tip visit.start =
          call.settle inner info (tip.rebind call.after) visit.start.scratch := by
  obtain ⟨address, node, start⟩ := visit
  cases node with
  | leaf info tip =>
      have reported := report_of_leaf ⟨address, .leaf info tip, start⟩ rfl
      rcases Node.evaluateLeaf_cases info tip start with
        ⟨unbound, same⟩ | ⟨bound, status, same⟩ | ⟨call, inner, made, same⟩
      · refine .inl ⟨?_, ?_, ?_, fun _ => ⟨?_, .failure, ?_⟩⟩ <;>
          simp [call?, reported, same, outcome, Node.evaluate_leaf, Event.call?]
      · refine .inl ⟨?_, ?_, ?_, fun _ => ⟨?_, status, ?_⟩⟩ <;>
          simp [call?, reported, same, outcome, Node.evaluate_leaf, Event.call?]
      · -- What goes on during the call is wrapped, so its calls are not taken for this one.
        have silent : (inner.map Event.within).filterMap Event.call? = [] := by
          simp [List.filterMap_map, Function.comp_def, Event.call?]
        have calls : (report ⟨address, .leaf info tip, start⟩).filterMap Event.call? = [call] := by
          simp [reported, same, Event.call?, silent]
        refine .inr ⟨call, info, tip, inner, ?_, calls, rfl, made, same⟩
        rw [call?, calls]
        rfl
  | composite info rule children =>
      have kept := Node.scratch_evaluate_composite info rule children start
      refine .inl ⟨by simp [call?, report], fun _ => Node.eq_log_of_mem_closing, kept, ?_⟩
      intro leaf
      cases leaf
  | decorator info rule child =>
      have kept := Node.scratch_evaluate_decorator info rule child start
      refine .inl ⟨by simp [call?, report], fun _ => Node.eq_log_of_mem_closing, kept, ?_⟩
      intro leaf
      cases leaf

theorem call?_of_leaf (address : List Nat) (info : Info η) (tip : Leaf α) (start : Board η) :
    call? ⟨address, .leaf info tip, start⟩ =
      (tip.call? { start with scratch := some info.scratch }).map (·.1) := by
  rcases call?_cases ⟨address, .leaf info tip, start⟩ with
    ⟨calm, silent, -⟩ | ⟨call, _, _, inner, called, -, leaf, made, -⟩
  · rw [calm]
    cases made : tip.call? { start with scratch := some info.scratch } with
    | none => rfl
    | some pair =>
        have reported := report_of_leaf ⟨address, .leaf info tip, start⟩ rfl
        rw [Node.evaluateLeaf_of_call? made, Call.events_settle] at reported
        have listed : .call pair.1 ∈ report ⟨address, .leaf info tip, start⟩ := by simp [reported]
        obtain ⟨record, other⟩ := silent _ listed
        cases other
  · obtain ⟨rfl, rfl⟩ := Node.leaf.inj leaf
    rw [called, made]
    rfl

theorem filterMap_report (visit : Visit η α) :
    visit.report.filterMap Event.call? = visit.call?.toList := by
  rcases visit.call?_cases with ⟨calm, silent, -⟩ | ⟨call, _, _, _, called, calls, -⟩
  · rw [calm, Option.toList_none, List.filterMap_eq_nil_iff]
    intro event member
    obtain ⟨record, rfl⟩ := silent event member
    rfl
  · rw [called, calls]
    rfl

theorem mem_report_cases {event : Event η α} (member : event ∈ visit.report) :
    (∃ record, event = .log record) ∨ ∃ call, visit.call? = some call ∧
      (event = .call call ∨ ∃ inner, Leaf.Emits call.start inner ∧
        inner.map .within <:+: visit.report ∧ ∃ below ∈ inner, event = .within below) := by
  rcases visit.call?_cases with
    ⟨-, silent, -⟩ | ⟨call, info, tip, inner, called, -, leaf, made, same⟩
  · exact .inl (silent event member)
  · have reported := visit.report_of_leaf leaf
    rw [same, Call.events_settle, List.cons_append] at reported
    rw [reported] at member ⊢
    rcases List.mem_cons.1 member with rfl | later
    · exact .inr ⟨call, called, .inl rfl⟩
    · rcases List.mem_append.1 later with inside | after
      · obtain ⟨below, listed, rfl⟩ := List.mem_map.1 inside
        have emits := (Leaf.call?_spec made).2.2
        refine .inr ⟨call, called, .inr ⟨inner, emits, ?_, below, listed, rfl⟩⟩
        exact List.infix_cons List.infix_append_left
      · exact .inl (Node.eq_log_of_mem_closing after)

theorem scratch_of_call?_eq_none (calm : visit.call? = none) :
    visit.outcome.subject.info.scratch = visit.node.info.scratch := by
  rcases visit.call?_cases with ⟨-, -, kept, -⟩ | ⟨call, _, _, _, called, -⟩
  · exact kept
  · rw [calm] at called
    cases called

theorem board_of_call?_eq_none (leaf : visit.isLeaf = true) (calm : visit.call? = none) :
    visit.outcome.board = visit.start ∧ ∃ status, visit.outcome.result = .ok status := by
  rcases visit.call?_cases with ⟨-, -, -, still⟩ | ⟨call, _, _, _, called, -⟩
  · exact still leaf
  · rw [calm] at called
    cases called

section
variable (called : visit.call? = some call)
include called

theorem settle_of_call? :
    ∃ info tip inner, visit.node = .leaf info tip ∧
      tip.call? { visit.start with scratch := some info.scratch } = some (call, inner) ∧
      visit.outcome =
        Node.conclude (call.settle inner info (tip.rebind call.after) visit.start.scratch) := by
  rcases visit.call?_cases with ⟨calm, -⟩ | ⟨other, info, tip, inner, first, -, leaf, made, same⟩
  · rw [calm] at called
    cases called
  · obtain rfl : other = call := by simpa [first] using called
    refine ⟨info, tip, inner, leaf, made, ?_⟩
    rw [outcome, leaf, Node.evaluate_leaf, same]

theorem isLeaf_of_call? : visit.isLeaf = true := by
  obtain ⟨info, tip, -, leaf, -⟩ := settle_of_call? called
  simp [isLeaf, leaf]

theorem start_of_call? :
    call.start = { visit.start with scratch := some visit.node.info.scratch } := by
  obtain ⟨info, tip, inner, leaf, made, -⟩ := settle_of_call? called
  rw [(Leaf.call?_spec made).2.1, leaf]
  rfl

theorem result_of_call? : visit.outcome.result = call.answer := by
  obtain ⟨_, _, _, -, -, same⟩ := settle_of_call? called
  simp [same]

theorem outcome_of_call?_of_ok {status : Status} (answered : call.answer = .ok status) :
    visit.outcome.board = { call.finish with scratch := visit.start.scratch } ∧
      visit.outcome.subject.info.scratch = call.finish.scratch.getD ∅ := by
  obtain ⟨_, _, _, -, -, same⟩ := settle_of_call? called
  simp [same, Call.settle_of_ok answered]

theorem outcome_of_call?_of_error {panic : Panic} (panicked : call.answer = .error panic) :
    visit.outcome.board = call.finish ∧ visit.outcome.subject.info.scratch = ∅ := by
  obtain ⟨_, _, _, -, -, same⟩ := settle_of_call? called
  simp [same, Call.settle_of_error panicked]

theorem shared_of_call? : visit.outcome.board.shared = call.finish.shared := by
  cases answered : call.answer with
  | ok status => rw [(outcome_of_call?_of_ok called answered).1]
  | error panic => rw [(outcome_of_call?_of_error called answered).1]

end

theorem call?_of_interior (interior : ∀ kind, visit.node.kind ≠ .leaf kind) :
    visit.call? = none := by
  cases called : visit.call? with
  | none => rfl
  | some call =>
      obtain ⟨info, tip, -, leaf, -⟩ := settle_of_call? called
      rw [leaf] at interior
      exact absurd rfl (interior tip.kind)

end Visit

def Node.callAt? [Host η α] (node : Node η α) (board : Board η) (address : List Nat) :
    Option (Call η α) :=
  (node.reach? board address).bind fun (sub, start) => Visit.call? ⟨address, sub, start⟩

theorem Node.filterMap_call?_leafVisits [Host η α] (node : Node η α) (board : Board η) :
    (node.leafVisits board).filterMap Visit.call? = (node.visits board).filterMap Visit.call? := by
  rw [leafVisits, List.filterMap_filter]
  apply List.filterMap_congr
  intro visit _
  cases called : visit.call? with
  | none => simp
  | some call => simp [Visit.isLeaf_of_call? called]

theorem Node.filterMap_call?_events [Host η α] (node : Node η α) (board : Board η) :
    (node.evaluate board).events.filterMap Event.call? =
      (node.visits board).filterMap Visit.call? := by
  rw [← report_visits, List.filterMap_flatMap, List.filterMap_eq_flatMap_toList]
  exact List.flatMap_congr fun visit _ => visit.filterMap_report

end Behavior
