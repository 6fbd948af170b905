import Behavior.Proofs.Reach

namespace Behavior

variable {η : Type} [HostTypes η] {α : Type}

/-- The evaluation of one node in the course of another one: where it is, what it is like before,
and the board it is evaluated on. -/
structure Visit (η : Type) [HostTypes η] (α : Type) where
  address : List Nat
  node : Node η α
  start : Board η

namespace Visit

def under (index : Nat) (visit : Visit η α) : Visit η α :=
  { visit with address := index :: visit.address }

def isLeaf (visit : Visit η α) : Bool :=
  match visit.node with
  | .leaf .. => true
  | .composite .. => false
  | .decorator .. => false

@[simp] theorem isLeaf_under (index : Nat) (visit : Visit η α) :
    (visit.under index).isLeaf = visit.isLeaf := rfl

variable [Host η α]

def outcome (visit : Visit η α) : Outcome η α (Node η α) Status :=
  visit.node.evaluate visit.start

@[simp] theorem outcome_under (index : Nat) (visit : Visit η α) :
    (visit.under index).outcome = visit.outcome := rfl

def report (visit : Visit η α) : List (Event η α) :=
  match visit.node with
  | .leaf .. => visit.outcome.events
  | .composite info .. | .decorator info .. => Node.closing info.path visit.outcome.result

@[simp] theorem report_under (index : Nat) (visit : Visit η α) :
    (visit.under index).report = visit.report := rfl

end Visit

/-- Whether, of two nodes of a tree, the evaluation of the first one ends before that of the other
if both take place. -/
def EndsBefore : List Nat → List Nat → Prop
  | _ :: _, [] => True
  | [], _ => False
  | index :: rest, index' :: rest' => index < index' ∨ index = index' ∧ EndsBefore rest rest'

theorem not_endsBefore_self (address : List Nat) : ¬ EndsBefore address address := by
  induction address with
  | nil => exact id
  | cons index rest ih => simp [EndsBefore, ih]

namespace Node

variable [Host η α]

mutual

def visits : Node η α → Board η → List (Visit η α)
  | .leaf info tip, board => [⟨[], .leaf info tip, board⟩]
  | .composite info rule children, board =>
      visitsFrom rule.stops 0 children board ++ [⟨[], .composite info rule children, board⟩]
  | .decorator info rule child, board =>
      (child.visits board).map (·.under 0) ++ [⟨[], .decorator info rule child, board⟩]

def visitsFrom (stops : Status → Bool) (index : Nat) :
    List (Node η α) → Board η → List (Visit η α)
  | [], _ => []
  | node :: rest, board =>
      (node.visits board).map (·.under index) ++
        match (node.evaluate board).result with
        | .error _ => []
        | .ok status =>
            if stops status then []
            else visitsFrom stops (index + 1) rest (node.evaluate board).board

end

variable {stops : Status → Bool} {node : Node η α} {rest nodes : List (Node η α)}
  {board : Board η} {index : Nat}

theorem visitsFrom_cons_of_error {panic : Panic}
    (ended : (node.evaluate board).result = .error panic) :
    visitsFrom stops index (node :: rest) board = (node.visits board).map (·.under index) := by
  simp only [visitsFrom, ended, List.append_nil]

theorem visitsFrom_cons_of_stops {status : Status}
    (ended : (node.evaluate board).result = .ok status) (stop : stops status = true) :
    visitsFrom stops index (node :: rest) board = (node.visits board).map (·.under index) := by
  simp only [visitsFrom, ended, stop, if_true, List.append_nil]

theorem visitsFrom_cons_of_passes {status : Status}
    (ended : (node.evaluate board).result = .ok status) (pass : stops status = false) :
    visitsFrom stops index (node :: rest) board =
      (node.visits board).map (·.under index) ++
        visitsFrom stops (index + 1) rest (node.evaluate board).board := by
  simp only [visitsFrom, ended, pass, Bool.false_eq_true, if_false]

theorem visits_eq (node : Node η α) (board : Board η) :
    node.visits board = visitsFrom node.haltsAt 0 node.children board ++ [⟨[], node, board⟩] := by
  cases node with
  | leaf info tip => rfl
  | composite info rule children => rfl
  | decorator info rule child =>
      cases ended : (child.evaluate board).result <;>
        simp [visits, children, haltsAt, visitsFrom, ended]

/-! ## Which nodes are visited -/

theorem mem_visitsFrom {visit : Visit η α} :
    visit ∈ visitsFrom stops index nodes board ↔
      ∃ offset child start inner, reachNth? stops nodes board offset = some (child, start) ∧
        inner ∈ child.visits start ∧ visit = inner.under (index + offset) := by
  induction nodes generalizing index board with
  | nil => simp [visitsFrom, reachNth?]
  | cons node rest ih =>
      constructor
      · intro member
        -- What is visited is below the first child, or on the walk that goes on behind it.
        have split : visit ∈ (node.visits board).map (·.under index) ∨
            ∃ status, (node.evaluate board).result = .ok status ∧ stops status = false ∧
              visit ∈ visitsFrom stops (index + 1) rest (node.evaluate board).board := by
          rcases walk_cases stops node board with
            ⟨panic, ended⟩ | ⟨status, ended, stop⟩ | ⟨status, ended, pass⟩
          · exact .inl (by rwa [visitsFrom_cons_of_error ended] at member)
          · exact .inl (by rwa [visitsFrom_cons_of_stops ended stop] at member)
          · rw [visitsFrom_cons_of_passes ended pass, List.mem_append] at member
            exact member.imp id fun later => ⟨status, ended, pass, later⟩
        rcases split with first | ⟨status, ended, pass, later⟩
        · obtain ⟨inner, visited, rfl⟩ := List.mem_map.1 first
          exact ⟨0, node, board, inner, rfl, visited, rfl⟩
        · obtain ⟨offset, child, start, inner, reached, visited, rfl⟩ := ih.1 later
          refine ⟨offset + 1, child, start, inner, ?_, visited, ?_⟩
          · rw [reachNth?_succ_of_passes ended pass, reached]
          · rw [show index + 1 + offset = index + (offset + 1) by omega]
      · rintro ⟨offset, child, start, inner, reached, member, rfl⟩
        cases offset with
        | zero =>
            obtain ⟨rfl, rfl⟩ : node = child ∧ board = start := by simpa [reachNth?] using reached
            rw [visitsFrom]
            exact List.mem_append_left _ (List.mem_map.2 ⟨inner, member, rfl⟩)
        | succ offset =>
            rcases walk_cases stops node board with
              ⟨panic, ended⟩ | ⟨status, ended, stop⟩ | ⟨status, ended, pass⟩
            · rw [reachNth?_succ_of_error ended] at reached
              cases reached
            · rw [reachNth?_succ_of_stops ended stop] at reached
              cases reached
            · rw [reachNth?_succ_of_passes ended pass] at reached
              rw [visitsFrom_cons_of_passes ended pass]
              apply List.mem_append_right
              refine ih.2 ⟨offset, child, start, inner, reached, member, ?_⟩
              rw [show index + (offset + 1) = index + 1 + offset by omega]

theorem mem_visits {visit : Visit η α} :
    visit ∈ node.visits board ↔
      node.reach? board visit.address = some (visit.node, visit.start) := by
  obtain ⟨address, sub, start⟩ := visit
  induction address generalizing node board with
  | nil =>
      rw [visits_eq, List.mem_append, mem_visitsFrom]
      simp [reach?, Visit.under, eq_comm]
  | cons index rest ih =>
      rw [visits_eq, List.mem_append, mem_visitsFrom, reach?_cons_eq_some_iff]
      constructor
      · rintro (⟨offset, child, middle, inner, reached, member, same⟩ | root)
        · obtain ⟨⟨rfl, rfl⟩, rfl, rfl⟩ : (index = offset ∧ rest = inner.address) ∧
              sub = inner.node ∧ start = inner.start := by simpa [Visit.under] using same
          exact ⟨child, middle, reached, ih.1 member⟩
        · simp at root
      · rintro ⟨child, middle, reached, below⟩
        refine .inl ⟨index, child, middle, ⟨rest, sub, start⟩, reached, ih.2 below, ?_⟩
        rw [Nat.zero_add]
        rfl

/-! ## The order of the visits -/

theorem pairwise_visitsFrom
    (ordered : ∀ child ∈ nodes, ∀ board,
      (child.visits board).Pairwise fun first second => EndsBefore first.address second.address) :
    (visitsFrom stops index nodes board).Pairwise fun first second =>
      EndsBefore first.address second.address := by
  induction nodes generalizing index board with
  | nil => exact .nil
  | cons node rest ih =>
      obtain ⟨here, there⟩ := List.forall_mem_cons.1 ordered
      have first : ((node.visits board).map (·.under index)).Pairwise fun first second =>
          EndsBefore first.address second.address :=
        List.pairwise_map.2 ((here board).imp fun before => .inr ⟨rfl, before⟩)
      rcases walk_cases stops node board with
        ⟨panic, ended⟩ | ⟨status, ended, stop⟩ | ⟨status, ended, pass⟩
      · rwa [visitsFrom_cons_of_error ended]
      · rwa [visitsFrom_cons_of_stops ended stop]
      · rw [visitsFrom_cons_of_passes ended pass, List.pairwise_append]
        -- Visits below the first child have a smaller index than those below later children.
        refine ⟨first, ih there, ?_⟩
        intro visit member later listed
        obtain ⟨inner, -, rfl⟩ := List.mem_map.1 member
        obtain ⟨offset, -, -, other, -, -, rfl⟩ := mem_visitsFrom.1 listed
        exact .inl (by omega)

theorem pairwise_visits (node : Node η α) (board : Board η) :
    (node.visits board).Pairwise fun first second =>
      EndsBefore first.address second.address := by
  induction node using induction_children generalizing board with
  | step node ih =>
      rw [visits_eq, List.pairwise_append]
      refine ⟨pairwise_visitsFrom ih, List.pairwise_singleton _ _, ?_⟩
      intro visit member root listed
      obtain ⟨offset, -, -, inner, -, -, rfl⟩ := mem_visitsFrom.1 member
      obtain rfl := List.mem_singleton.1 listed
      trivial

theorem nodup_address_visits (node : Node η α) (board : Board η) :
    ((node.visits board).map (·.address)).Nodup := by
  refine List.pairwise_map.2 ((pairwise_visits node board).imp ?_)
  intro first second before same
  rw [same] at before
  exact not_endsBefore_self _ before

/-! ## What the visits report -/

theorem report_visitsFrom
    (reported : ∀ child ∈ nodes, ∀ board,
      (child.visits board).flatMap Visit.report = (child.evaluate board).events) :
    (visitsFrom stops index nodes board).flatMap Visit.report =
      (evaluateUntil stops nodes board).events := by
  induction nodes generalizing index board with
  | nil => rfl
  | cons node rest ih =>
      obtain ⟨here, there⟩ := List.forall_mem_cons.1 reported
      have first : ((node.visits board).map (·.under index)).flatMap Visit.report =
          (node.evaluate board).events := by
        rw [List.flatMap_map, ← here board]
        rfl
      rcases walk_cases stops node board with
        ⟨panic, ended⟩ | ⟨status, ended, stop⟩ | ⟨status, ended, pass⟩
      · rw [visitsFrom_cons_of_error ended, evaluateUntil_cons_of_error ended, first]
      · rw [visitsFrom_cons_of_stops ended stop, evaluateUntil_cons_of_stops ended stop, first]
      · rw [visitsFrom_cons_of_passes ended pass, evaluateUntil_cons_of_passes ended pass,
          List.flatMap_append, first, ih there]

theorem report_visits (node : Node η α) (board : Board η) :
    (node.visits board).flatMap Visit.report = (node.evaluate board).events := by
  induction node generalizing board with
  | leaf info tip => simp [visits, Visit.report, Visit.outcome]
  | composite info rule children ih =>
      rw [visits, List.flatMap_append, report_visitsFrom ih, evaluate_composite, events_conclude]
      simp only [List.flatMap_singleton, Visit.report, Visit.outcome, evaluate_composite,
        result_conclude]
      rfl
  | decorator info rule child ih =>
      have below : ((child.visits board).map (·.under 0)).flatMap Visit.report =
          (child.evaluate board).events := by
        rw [List.flatMap_map, ← ih board]
        rfl
      rw [visits, List.flatMap_append, below]
      simp only [List.flatMap_singleton, Visit.report, Visit.outcome, result_evaluate_decorator]
      cases ended : (child.evaluate board).result with
      | error panic => simp [evaluate_decorator_of_error info rule ended, Except.map]
      | ok status =>
          rw [evaluate_decorator_of_ok info rule ended, events_conclude]
          rfl

theorem infix_of_mem_visits {visit : Visit η α} (visited : visit ∈ node.visits board) :
    visit.report <:+: (node.evaluate board).events := by
  rw [← report_visits]
  exact List.infix_of_mem_flatten (List.mem_map_of_mem visited)

end Node

/-! ## The way of the board -/

def Threads [Host η α] : Board η → List (Visit η α) → Board η → Prop
  | first, [], last => first = last
  | first, visit :: rest, last => visit.start = first ∧ Threads visit.outcome.board rest last

section
variable [Host η α] {first middle last : Board η}

theorem Threads.append {visits later : List (Visit η α)} (before : Threads first visits middle)
    (after : Threads middle later last) : Threads first (visits ++ later) last := by
  induction visits generalizing first with
  | nil =>
      obtain rfl : first = middle := before
      exact after
  | cons visit rest ih => exact ⟨before.1, ih before.2⟩

theorem Threads.board_last {earlier : List (Visit η α)} {visit : Visit η α}
    (threads : Threads first (earlier ++ [visit]) last) : visit.outcome.board = last := by
  induction earlier generalizing first with
  | nil => exact threads.2
  | cons other rest ih => exact ih threads.2

theorem Threads.under {visits : List (Visit η α)} (threads : Threads first visits last)
    (index : Nat) : Threads first (visits.map (·.under index)) last := by
  induction visits generalizing first with
  | nil => exact threads
  | cons visit rest ih => exact ⟨threads.1, ih threads.2⟩

end

namespace Node

variable [Host η α]

def leafVisits (node : Node η α) (board : Board η) : List (Visit η α) :=
  (node.visits board).filter Visit.isLeaf

theorem filter_isLeaf_under (node : Node η α) (board : Board η) (index : Nat) :
    ((node.visits board).map (·.under index)).filter Visit.isLeaf =
      (node.leafVisits board).map (·.under index) :=
  List.filter_map

variable {stops : Status → Bool} {nodes : List (Node η α)} {board : Board η} {index : Nat}

theorem threads_visitsFrom
    (threads : ∀ child ∈ nodes, ∀ board,
      Threads board (child.leafVisits board) (child.evaluate board).board) :
    Threads board ((visitsFrom stops index nodes board).filter Visit.isLeaf)
      (evaluateUntil stops nodes board).board := by
  induction nodes generalizing index board with
  | nil => rfl
  | cons node rest ih =>
      obtain ⟨here, there⟩ := List.forall_mem_cons.1 threads
      have first : Threads board (((node.visits board).map (·.under index)).filter Visit.isLeaf)
          (node.evaluate board).board := by
        rw [filter_isLeaf_under]
        exact (here board).under index
      rcases walk_cases stops node board with
        ⟨panic, ended⟩ | ⟨status, ended, stop⟩ | ⟨status, ended, pass⟩
      · rwa [visitsFrom_cons_of_error ended, evaluateUntil_cons_of_error ended]
      · rwa [visitsFrom_cons_of_stops ended stop, evaluateUntil_cons_of_stops ended stop]
      · rw [visitsFrom_cons_of_passes ended pass, evaluateUntil_cons_of_passes ended pass,
          List.filter_append]
        exact first.append (ih there)

theorem threads_leafVisits (node : Node η α) (board : Board η) :
    Threads board (node.leafVisits board) (node.evaluate board).board := by
  induction node generalizing board with
  | leaf info tip => exact ⟨rfl, rfl⟩
  | composite info rule children ih =>
      rw [leafVisits, visits, List.filter_append, evaluate_composite, board_conclude]
      simpa [Visit.isLeaf, Outcome.map] using threads_visitsFrom ih
  | decorator info rule child ih =>
      have unchanged : ((Node.decorator info rule child).evaluate board).board =
          (child.evaluate board).board := by
        cases ended : (child.evaluate board).result with
        | error panic => rw [evaluate_decorator_of_error info rule ended]
        | ok status => rw [evaluate_decorator_of_ok info rule ended, board_conclude]
      rw [leafVisits, visits, List.filter_append, unchanged, filter_isLeaf_under]
      simpa [Visit.isLeaf] using (ih board).under 0

/-! ## The end of a walk that panics -/

def EndsIn (panic : Panic) (visits : List (Visit η α)) : Prop :=
  ∃ earlier last, visits = earlier ++ [last] ∧ last.outcome.result = .error panic ∧
    ∀ visit ∈ earlier, ∃ status, visit.outcome.result = .ok status

theorem EndsIn.under {panic : Panic} {visits : List (Visit η α)} (ends : EndsIn panic visits)
    (index : Nat) : EndsIn panic (visits.map (·.under index)) := by
  obtain ⟨earlier, last, rfl, panicked, calm⟩ := ends
  refine ⟨earlier.map (·.under index), last.under index, by simp, panicked, ?_⟩
  intro visit member
  obtain ⟨inner, listed, rfl⟩ := List.mem_map.1 member
  exact calm inner listed

theorem EndsIn.append {panic : Panic} {visits later : List (Visit η α)}
    (calm : ∀ visit ∈ visits, ∃ status, visit.outcome.result = .ok status)
    (ends : EndsIn panic later) : EndsIn panic (visits ++ later) := by
  obtain ⟨earlier, last, rfl, panicked, before⟩ := ends
  refine ⟨visits ++ earlier, last, by simp, panicked, ?_⟩
  intro visit member
  exact (List.mem_append.1 member).elim (calm visit) (before visit)

theorem endsIn_visitsFrom {panic : Panic}
    (ends : ∀ child ∈ nodes, ∀ board, (child.evaluate board).result = .error panic →
      EndsIn panic (child.leafVisits board))
    (panicked : (evaluateUntil stops nodes board).result = .error panic) :
    EndsIn panic ((visitsFrom stops index nodes board).filter Visit.isLeaf) := by
  induction nodes generalizing index board with
  | nil => cases panicked
  | cons node rest ih =>
      obtain ⟨here, there⟩ := List.forall_mem_cons.1 ends
      rcases walk_cases stops node board with
        ⟨cause, ended⟩ | ⟨status, ended, stop⟩ | ⟨status, ended, pass⟩
      · rw [evaluateUntil_cons_of_error ended] at panicked
        obtain rfl : cause = panic := by simpa using panicked
        rw [visitsFrom_cons_of_error ended, filter_isLeaf_under]
        exact (here board ended).under index
      · rw [evaluateUntil_cons_of_stops ended stop] at panicked
        cases panicked
      · rw [evaluateUntil_cons_of_passes ended pass] at panicked
        rw [visitsFrom_cons_of_passes ended pass, List.filter_append, filter_isLeaf_under]
        refine EndsIn.append ?_ (ih there ?_)
        -- The first child came to an end, so all that was visited below it did.
        · intro visit member
          obtain ⟨inner, listed, rfl⟩ := List.mem_map.1 member
          have reached := mem_visits.1 (List.mem_filter.1 listed).1
          obtain ⟨status, calm⟩ := result_of_reach? ended reached
          exact ⟨status, calm⟩
        · exact map_eq_error panicked

theorem endsIn_leafVisits {panic : Panic} {node : Node η α} {board : Board η}
    (panicked : (node.evaluate board).result = .error panic) :
    EndsIn panic (node.leafVisits board) := by
  induction node generalizing board with
  | leaf info tip => exact ⟨[], ⟨[], .leaf info tip, board⟩, rfl, panicked, by simp⟩
  | composite info rule children ih =>
      rw [result_evaluate_composite] at panicked
      rw [leafVisits, visits, List.filter_append]
      simpa [Visit.isLeaf] using endsIn_visitsFrom ih (map_eq_error panicked)
  | decorator info rule child ih =>
      rw [result_evaluate_decorator] at panicked
      rw [leafVisits, visits, List.filter_append, filter_isLeaf_under]
      simpa [Visit.isLeaf] using (ih (map_eq_error panicked)).under 0

end Node

end Behavior
