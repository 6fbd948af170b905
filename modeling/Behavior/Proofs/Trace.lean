import Mathlib.Data.List.Induction
import Behavior.Proofs.Address
import Behavior.Proofs.Calls
import Behavior.Proofs.Coherence

/-!
# What the log tells about a tick

The log of a tick gives an exact account of it: which nodes of the tree were evaluated, in which
order, and what they came to. Which nodes these are follows from the account alone, and so does the
status that every node has on record after any number of ticks.
-/

namespace Behavior

variable {η : Type} [HostTypes η] {α : Type}

/-! ## Reading the log -/

def Event.record? : Event η α → Option Record
  | log record => some record
  | .call _ => none
  | within _ => none

def Event.records : Event η α → List Record
  | log record => [record]
  | .call _ => []
  | within event => event.records

def logOf (events : List (Event η α)) : List Record :=
  events.flatMap Event.records

def Record.trace? : Record → Option (String × Status)
  | evaluated path status => if path = "" then none else some (path, status)
  | missingCallback .. | unboundLeaf .. | built .. | strayWrite .. => none

def Record.complaint? : Record → Option String
  | missingCallback _ path => if path = "" then none else some path
  | evaluated .. | unboundLeaf .. | built .. | strayWrite .. => none

def traces (events : List (Event η α)) : List (String × Status) :=
  (events.filterMap Event.record?).filterMap Record.trace?

def complaints (events : List (Event η α)) : List String :=
  (events.filterMap Event.record?).filterMap Record.complaint?

/-- Whether the event is no trace and no complaint of a node of a tree from within a call. -/
def Event.keepsOut : Event η α → Bool
  | within event =>
      event.records.all fun record => record.trace?.isNone && record.complaint?.isNone
  | log _ => true
  | .call _ => true

def KeepsOutOfTrees (events : List (Event η α)) : Prop :=
  ∀ event ∈ events, event.keepsOut = true

instance (events : List (Event η α)) : Decidable (KeepsOutOfTrees events) :=
  inferInstanceAs (Decidable (∀ event ∈ events, event.keepsOut = true))

theorem filterMap_logOf {β : Type} {read : Record → Option β} {events : List (Event η α)}
    (silent : ∀ event, .within event ∈ events → ∀ record ∈ event.records, read record = none) :
    (logOf events).filterMap read = (events.filterMap Event.record?).filterMap read := by
  rw [logOf, List.filterMap_flatMap, List.filterMap_filterMap, List.filterMap_eq_flatMap_toList]
  apply List.flatMap_congr
  intro event member
  cases event with
  | log record => cases told : read record <;> simp [Event.records, Event.record?, told]
  | call made => rfl
  | within event => simpa [Event.records, Event.record?] using silent event member

theorem KeepsOutOfTrees.silent {events : List (Event η α)} (apart : KeepsOutOfTrees events)
    {event : Event η α} (member : .within event ∈ events) {record : Record}
    (listed : record ∈ event.records) : record.trace? = none ∧ record.complaint? = none := by
  have all := apart _ member
  simp only [Event.keepsOut, List.all_eq_true, Bool.and_eq_true, Option.isNone_iff_eq_none] at all
  exact all record listed

theorem KeepsOutOfTrees.log_eq {events : List (Event η α)} (apart : KeepsOutOfTrees events) :
    (logOf events).filterMap Record.trace? = traces events ∧
      (logOf events).filterMap Record.complaint? = complaints events :=
  ⟨filterMap_logOf fun _ member _ listed => (apart.silent member listed).1,
    filterMap_logOf fun _ member _ listed => (apart.silent member listed).2⟩

def Node.complaint : Node η α → List Record
  | .leaf info tip => if tip.isUnbound then [.missingCallback tip.kind info.path] else []
  | .composite .. => []
  | .decorator .. => []

/-! ## The records of a visit -/

section
variable [Host η α]

theorem Visit.filterMap_record?_report (visit : Visit η α) {status : Status}
    (ended : visit.outcome.result = .ok status) :
    visit.report.filterMap Event.record? =
      visit.node.complaint ++ [.evaluated visit.node.path status] := by
  obtain ⟨address, node, start⟩ := visit
  cases node with
  | leaf info tip =>
      have reported := report_of_leaf ⟨address, .leaf info tip, start⟩ rfl
      have result : (Node.evaluateLeaf info tip start).result = .ok status := by
        simpa [outcome, Node.evaluate_leaf] using ended
      rw [reported, result, Node.closing_ok, List.filterMap_append]
      rcases Node.evaluateLeaf_cases info tip start with
        ⟨unbound, same⟩ | ⟨bound, _, same⟩ | ⟨call, inner, made, same⟩
      · simp [same, Node.complaint, unbound, Event.record?]
      · simp [same, Node.complaint, bound, Event.record?]
      · have bound := (Leaf.call?_spec made).1
        simp [same, Node.complaint, bound, Event.record?]
  | composite info rule children =>
      rw [report, ended]
      rfl
  | decorator info rule child =>
      rw [report, ended]
      rfl

theorem Visit.filterMap_record?_report_of_error (visit : Visit η α) {panic : Panic}
    (panicked : visit.outcome.result = .error panic) :
    visit.report.filterMap Event.record? = [] := by
  obtain ⟨address, node, start⟩ := visit
  cases node with
  | leaf info tip =>
      have reported := report_of_leaf ⟨address, .leaf info tip, start⟩ rfl
      have result : (Node.evaluateLeaf info tip start).result = .error panic := by
        simpa [outcome, Node.evaluate_leaf] using panicked
      rcases Node.evaluateLeaf_cases info tip start with
        ⟨-, same⟩ | ⟨-, _, same⟩ | ⟨call, inner, -, same⟩
      · rw [same] at result
        cases result
      · rw [same] at result
        cases result
      · rw [reported, result, same]
        simp [Event.record?]
  | composite info rule children =>
      rw [report, panicked]
      rfl
  | decorator info rule child =>
      rw [report, panicked]
      rfl

/-! ## Which nodes are evaluated -/

def Node.account (node : Node η α) (board : Board η) : List (List Nat × Status) :=
  (node.visits board).filterMap fun visit =>
    visit.outcome.result.toOption.map fun status => (visit.address, status)

end

def traceOf (account : List (List Nat × Status)) : List (String × Status) :=
  account.map fun entry => (pathFrom "root" entry.1, entry.2)

theorem mem_traceOf_pathFrom {account : List (List Nat × Status)} {address : List Nat}
    {status : Status} :
    (pathFrom "root" address, status) ∈ traceOf account ↔ (address, status) ∈ account := by
  rw [traceOf, List.mem_map]
  constructor
  · rintro ⟨⟨other, _⟩, member, same⟩
    obtain ⟨path, rfl⟩ := Prod.mk.inj same
    rwa [← pathFrom_injective "root" path]
  · intro member
    exact ⟨_, member, rfl⟩

def Node.LetsPass (trace : List (String × Status)) (child : Node η α) : Node η α → Prop
  | .composite _ .sequence _ => (child.path, .success) ∈ trace
  | .composite _ .selector _ => (child.path, .failure) ∈ trace
  | .composite _ (.parallel ..) _ => True
  | .decorator .. => True
  | .leaf .. => True

/-- The nodes that have to be evaluated, going by the trace: the root, and with a node each of its
children up to the first one that does not let it go on. -/
inductive Node.Due (root : Node η α) (trace : List (String × Status)) : List Nat → Prop where
  | root : Due root trace []
  | child {address : List Nat} {index : Nat} {parent child : Node η α} : Due root trace address →
      root.at? address = some parent → parent.children[index]? = some child →
      (∀ earlier < index, ∀ sibling, parent.children[earlier]? = some sibling →
        LetsPass trace sibling parent) →
      Due root trace (address ++ [index])

namespace Node

theorem mem_traceOf {node sub : Node η α} (addressed : node.Addressed "root") {address : List Nat}
    (located : node.at? address = some sub) {account : List (List Nat × Status)}
    {status : Status} : (sub.path, status) ∈ traceOf account ↔ (address, status) ∈ account := by
  rw [addressed address sub located]
  exact mem_traceOf_pathFrom

variable [Host η α] {node : Node η α} {board : Board η}

theorem mem_account {address : List Nat} {status : Status} :
    (address, status) ∈ node.account board ↔ ∃ sub start,
      node.reach? board address = some (sub, start) ∧
        (sub.evaluate start).result = .ok status := by
  constructor
  · intro member
    obtain ⟨visit, visited, told⟩ := List.mem_filterMap.1 member
    cases ended : visit.outcome.result with
    | error panic => simp [ended, Except.toOption] at told
    | ok result =>
        obtain ⟨rfl, rfl⟩ : visit.address = address ∧ result = status := by
          simpa [ended, Except.toOption] using told
        exact ⟨visit.node, visit.start, mem_visits.1 visited, ended⟩
  · rintro ⟨sub, start, reached, ended⟩
    have visited : ⟨address, sub, start⟩ ∈ node.visits board := mem_visits.2 reached
    exact List.mem_filterMap.2 ⟨_, visited, by simp [Visit.outcome, ended, Except.toOption]⟩

theorem letsPass_iff (addressed : node.Addressed "root") {address : List Nat}
    {parent child : Node η α} {start middle : Board η} {index : Nat} {status : Status}
    (reached : node.reach? board address = some (parent, start))
    (next : parent.reachChild? start index = some (child, middle))
    (ended : (child.evaluate middle).result = .ok status) :
    LetsPass (traceOf (node.account board)) child parent ↔ parent.haltsAt status = false := by
  have below : node.reach? board (address ++ [index]) = some (child, middle) :=
    reach?_concat_eq_some_iff.2 ⟨parent, start, reached, next⟩
  have told (result : Status) :
      (child.path, result) ∈ traceOf (node.account board) ↔ status = result := by
    rw [mem_traceOf addressed (at?_of_reach? below).1, mem_account]
    simp [below, ended]
  cases parent with
  | leaf info tip => cases next
  | composite info rule children =>
      cases rule with
      | sequence => simp [LetsPass, told, haltsAt, Composite.stops]
      | selector => simp [LetsPass, told, haltsAt, Composite.stops]
      | parallel successes failures => simp [LetsPass, haltsAt, Composite.stops]
  | decorator info rule only => simp [LetsPass, haltsAt]

theorem due_iff {status : Status} (ended : (node.evaluate board).result = .ok status)
    (addressed : node.Addressed "root") {address : List Nat} :
    node.Due (traceOf (node.account board)) address ↔
      ∃ status, (address, status) ∈ node.account board := by
  constructor
  · intro due
    -- What is due is reached, because its earlier siblings let the parent go on; and within an
    -- evaluation that comes to an end, so does everything that is reached.
    induction due with
    | root => exact ⟨status, mem_account.2 ⟨node, board, rfl, ended⟩⟩
    | @child address index parent child _ located found passes ih =>
        obtain ⟨_, member⟩ := ih
        obtain ⟨sub, start, reached, _⟩ := mem_account.1 member
        obtain rfl : sub = parent := by
          rw [(at?_of_reach? reached).1] at located
          exact Option.some.inj located
        have next : (sub.reachChild? start index).isSome := by
          refine isSome_reachNth?_of_passes (List.getElem?_eq_some_iff.1 found).1 ?_
          intro earlier before sibling middle gotTo
          have below : node.reach? board (address ++ [earlier]) = some (sibling, middle) :=
            reach?_concat_eq_some_iff.2 ⟨sub, start, reached, gotTo⟩
          obtain ⟨result, inner⟩ := result_of_reach? ended below
          have pass := passes earlier before sibling (getElem?_of_reachNth? gotTo)
          exact ⟨result, inner, (letsPass_iff addressed reached gotTo inner).1 pass⟩
        obtain ⟨⟨only, middle⟩, gotTo⟩ := Option.isSome_iff_exists.1 next
        have below : node.reach? board (address ++ [index]) = some (only, middle) :=
          reach?_concat_eq_some_iff.2 ⟨sub, start, reached, gotTo⟩
        obtain ⟨result, inner⟩ := result_of_reach? ended below
        exact ⟨result, mem_account.2 ⟨only, middle, below, inner⟩⟩
  · rintro ⟨result, member⟩
    -- `Due` adds indices at the end of an address.
    induction address using List.reverseRecOn generalizing result with
    | nil => exact .root
    | append_singleton address index ih =>
        obtain ⟨child, middle, below, -⟩ := mem_account.1 member
        obtain ⟨parent, start, reached, next⟩ := reach?_concat_eq_some_iff.1 below
        obtain ⟨first, inner⟩ := result_of_reach? ended reached
        have due := ih first (mem_account.2 ⟨parent, start, reached, inner⟩)
        refine due.child (at?_of_reach? reached).1 (getElem?_of_reachNth? next) ?_
        intro earlier before sibling located
        obtain ⟨-, all⟩ := isSome_reachNth?_iff.1 (Option.isSome_of_eq_some next)
        obtain ⟨other, early, status, gotTo, done, pass⟩ := all earlier before
        obtain rfl : other = sibling := by
          rw [getElem?_of_reachNth? gotTo] at located
          exact Option.some.inj located
        exact (letsPass_iff addressed reached gotTo done).2 pass

/-! ## What is on the log -/

def complaintAt (node : Node η α) (address : List Nat) : List Record :=
  ((node.at? address).map complaint).getD []

theorem filterMap_record?_evaluate (addressed : node.Addressed "root") :
    (node.evaluate board).events.filterMap Event.record? =
      (node.account board).flatMap fun entry =>
        node.complaintAt entry.1 ++ [.evaluated (pathFrom "root" entry.1) entry.2] := by
  rw [← report_visits, List.filterMap_flatMap, account, List.filterMap_eq_flatMap_toList,
    List.flatMap_assoc]
  apply List.flatMap_congr
  intro visit member
  have located := (at?_of_reach? (mem_visits.1 member)).1
  have path := addressed visit.address visit.node located
  cases inner : visit.outcome.result with
  | error panic =>
      rw [visit.filterMap_record?_report_of_error inner]
      simp [Except.toOption]
  | ok result =>
      rw [visit.filterMap_record?_report inner]
      simp [Except.toOption, complaintAt, located, path]

end Node

structure Accounts [Host η α] (tree : Tree η α) (account : List (List Nat × Status)) : Prop where
  ordered : account.Pairwise fun first second => EndsBefore first.1 second.1
  due : ∀ address, (∃ status, (address, status) ∈ account) ↔
    tree.root.Due (traceOf account) address
  records : tree.tick.events.filterMap Event.record? = account.flatMap fun entry =>
    tree.root.complaintAt entry.1 ++ [.evaluated (pathFrom "root" entry.1) entry.2]
  traced : traces tree.tick.events = traceOf account
  once : ((traces tree.tick.events).map (·.1)).Nodup
  worded : ((tree.tick.events.filterMap Event.record?).filter (·.level = .trace)).map
      Record.account =
    account.map fun entry => pathFrom "root" entry.1 ++ " -> " ++ entry.2.label
  complained : complaints tree.tick.events =
    (account.filter fun entry => (tree.root.at? entry.1).any Node.isUnbound).map
      fun entry => pathFrom "root" entry.1
  adjacent : ∀ address status info tip, (address, status) ∈ account →
    tree.root.at? address = some (.leaf info tip) → tip.isUnbound = true →
      [.missingCallback tip.kind info.path, .evaluated info.path status] <:+:
        logOf tree.tick.events
  log : KeepsOutOfTrees tree.tick.events →
    (logOf tree.tick.events).filterMap Record.trace? = traceOf account ∧
      (logOf tree.tick.events).filterMap Record.complaint? = complaints tree.tick.events
  paths : tree.tick.subject.root.Addressed "root"
  recorded : ∀ address status, (address, status) ∈ account → ∃ sub,
    tree.tick.subject.root.at? address = some sub ∧ sub.status = some status
  others : ∀ address, (∀ status, (address, status) ∉ account) →
    tree.tick.subject.root.at? address = tree.root.at? address

theorem logOf_mono {first second : List (Event η α)} (part : first <:+: second) :
    logOf first <:+: logOf second := by
  obtain ⟨before, after, rfl⟩ := part
  exact ⟨logOf before, logOf after, by simp [logOf]⟩

namespace Node

theorem filterMap_complaintAt {node : Node η α} (addressed : node.Addressed "root")
    (address : List Nat) :
    (node.complaintAt address).filterMap Record.trace? = [] ∧
      (node.complaintAt address).filterMap Record.complaint? =
        if (node.at? address).any isUnbound then [pathFrom "root" address] else [] := by
  cases located : node.at? address with
  | none => simp [complaintAt, located]
  | some sub =>
      have path := addressed address sub located
      rw [complaintAt, located]
      cases sub with
      | leaf info tip =>
          rw [path_leaf] at path
          cases unbound : tip.isUnbound <;>
            simp [complaint, unbound, isUnbound, Record.trace?, Record.complaint?, path,
              pathFrom_root_ne_empty]
      | composite info rule children => exact ⟨rfl, rfl⟩
      | decorator info rule child => exact ⟨rfl, rfl⟩

theorem traces_evaluate [Host η α] {node : Node η α} {board : Board η}
    (addressed : node.Addressed "root") :
    traces (node.evaluate board).events = traceOf (node.account board) := by
  rw [traces, filterMap_record?_evaluate addressed, List.filterMap_flatMap, traceOf,
    List.map_eq_flatMap]
  apply List.flatMap_congr
  intro entry _
  rw [List.filterMap_append, (filterMap_complaintAt addressed entry.1).1]
  simp [Record.trace?, pathFrom_root_ne_empty]

theorem level_of_mem_complaintAt {node : Node η α} {address : List Nat} {record : Record}
    (member : record ∈ node.complaintAt address) : record.level = .error := by
  cases located : node.at? address with
  | none => simp [complaintAt, located] at member
  | some sub =>
      rw [complaintAt, located] at member
      cases sub with
      | leaf info tip =>
          have complained :
              tip.isUnbound = true ∧ record = .missingCallback tip.kind info.path := by
            simpa [complaint] using member
          rw [complained.2]
          rfl
      | composite info rule children => cases member
      | decorator info rule child => cases member

variable [Host η α] {node : Node η α} {board : Board η}

theorem pairwise_account (node : Node η α) (board : Board η) :
    (node.account board).Pairwise fun first second => EndsBefore first.1 second.1 := by
  rw [account, List.pairwise_filterMap]
  refine (pairwise_visits node board).imp ?_
  intro first second before entry told entry' told'
  obtain ⟨_, -, rfl⟩ := Option.map_eq_some_iff.1 told
  obtain ⟨_, -, rfl⟩ := Option.map_eq_some_iff.1 told'
  exact before

theorem nodup_traceOf_account (node : Node η α) (board : Board η) :
    ((traceOf (node.account board)).map (·.1)).Nodup := by
  rw [traceOf, List.map_map]
  refine List.pairwise_map.2 ((pairwise_account node board).imp ?_)
  intro first second before same
  have here : first.1 = second.1 := pathFrom_injective "root" same
  rw [here] at before
  exact not_endsBefore_self _ before

theorem logOf_unbound {address : List Nat} {status : Status} {info : Info η} {tip : Leaf α}
    (member : (address, status) ∈ node.account board)
    (located : node.at? address = some (.leaf info tip)) (unbound : tip.isUnbound = true) :
    [.missingCallback tip.kind info.path, .evaluated info.path status] <:+:
      logOf (node.evaluate board).events := by
  obtain ⟨sub, start, reached, ended⟩ := mem_account.1 member
  obtain rfl : sub = .leaf info tip := by
    rw [(at?_of_reach? reached).1] at located
    exact Option.some.inj located
  have visited : ⟨address, .leaf info tip, start⟩ ∈ node.visits board := mem_visits.2 reached
  have whole := logOf_mono (infix_of_mem_visits visited)
  rcases evaluateLeaf_cases info tip start with ⟨-, same⟩ | ⟨bound, -⟩ | ⟨call, inner, made, -⟩
  · rw [evaluate_leaf, result_conclude, same] at ended
    cases ended
    rw [Visit.report_of_leaf _ rfl] at whole
    simpa [same, logOf, Event.records] using whole
  · rw [unbound] at bound
    cases bound
  · rw [(Leaf.call?_spec made).1] at unbound
    cases unbound

end Node

section
variable [Host η α] {tree : Tree η α}

theorem accounts_account {status : Status} (ended : tree.tick.result = .ok status)
    (addressed : tree.root.Addressed "root") : Accounts tree (tree.root.account tree.board) := by
  rw [Tree.result_tick] at ended
  have records : tree.tick.events.filterMap Event.record? = _ :=
    Node.filterMap_record?_evaluate addressed
  have traced : traces tree.tick.events = _ := Node.traces_evaluate addressed
  constructor
  case ordered => exact tree.root.pairwise_account tree.board
  case due => exact fun address => (Node.due_iff ended addressed).symm
  case records => exact records
  case traced => exact traced
  case once =>
    rw [traced]
    exact tree.root.nodup_traceOf_account tree.board
  case worded =>
    rw [records, List.filter_flatMap, List.map_flatMap, List.map_eq_flatMap]
    apply List.flatMap_congr
    intro entry _
    have severe : (tree.root.complaintAt entry.1).filter (·.level = .trace) = [] :=
      List.filter_eq_nil_iff.2 fun record member => by
        simp [Node.level_of_mem_complaintAt member]
    rw [List.filter_append, severe]
    rfl
  case complained =>
    rw [complaints, records, List.filterMap_flatMap, ← List.filterMap_eq_map,
      List.filterMap_filter, List.filterMap_eq_flatMap_toList]
    apply List.flatMap_congr
    intro entry _
    rw [List.filterMap_append, (Node.filterMap_complaintAt addressed entry.1).2]
    cases (tree.root.at? entry.1).any Node.isUnbound <;> rfl
  case adjacent =>
    intro address status info tip member located unbound
    exact Node.logOf_unbound member located unbound
  case log =>
    intro apart
    obtain ⟨traces, complaints⟩ := apart.log_eq
    exact ⟨traces.trans traced, complaints⟩
  case paths => exact (Node.addressed_evaluate _).2 addressed
  case recorded =>
    intro address status member
    obtain ⟨sub, start, reached, inner⟩ := Node.mem_account.1 member
    exact ⟨_, (Node.at?_of_reach? reached).2, Node.status_evaluate inner⟩
  case others =>
    intro address missing
    cases reached : tree.root.reach? tree.board address with
    | none => exact Node.at?_of_reach?_eq_none reached
    | some pair =>
        obtain ⟨status, inner⟩ := Node.result_of_reach? ended reached
        exact absurd (Node.mem_account.2 ⟨pair.1, pair.2, reached, inner⟩) (missing status)

end

/-! ## Whole runs -/

theorem traces_append (first second : List (Event η α)) :
    traces (first ++ second) = traces first ++ traces second := by
  simp [traces]

def lastTraced (trace : List (String × Status)) (path : String) : Option Status :=
  (trace.reverse.find? (·.1 == path)).map (·.2)

theorem lastTraced_append (first second : List (String × Status)) (path : String) :
    lastTraced (first ++ second) path = (lastTraced second path).or (lastTraced first path) := by
  simp only [lastTraced, List.reverse_append, List.find?_append]
  cases second.reverse.find? (·.1 == path) <;> rfl

theorem mem_of_lastTraced {trace : List (String × Status)} {path : String} {status : Status}
    (last : lastTraced trace path = some status) : (path, status) ∈ trace := by
  obtain ⟨⟨other, _⟩, found, rfl⟩ := Option.map_eq_some_iff.1 last
  obtain rfl : other = path := by simpa using List.find?_some found
  exact List.mem_reverse.1 (List.mem_of_find?_eq_some found)

theorem notMem_of_lastTraced {trace : List (String × Status)} {path : String}
    (last : lastTraced trace path = none) (status : Status) : (path, status) ∉ trace := by
  intro member
  have missed := List.find?_eq_none.1 (Option.map_eq_none_iff.1 last) _ (List.mem_reverse.2 member)
  simp at missed

theorem Node.status_of_at?_plant {node sub : Node η α} {path : String} {address : List Nat}
    (located : (node.plant path).subject.at? address = some sub) :
    ∃ old, node.at? address = some old ∧ old.status = sub.status := by
  have same : (node.plant path).subject.recorded = node.recorded :=
    relabel_plant (fun _ _ => rfl) node path
  obtain ⟨old, found, alike⟩ := exists_at?_of_relabel_eq _ _ _ same located
  exact ⟨old, found, by simpa [Node.status] using alike⟩

theorem Node.info_of_at?_replaceLeaves {node sub : Node η α}
    {change : Leaf α → Option (Leaf α)} (keeps : KeepsSlots change) {address : List Nat}
    (located : (node.replaceLeaves change).2.at? address = some sub) :
    ∃ old, node.at? address = some old ∧ old.info = sub.info := by
  have same : (node.replaceLeaves change).2.relabel id Leaf.blank id =
      node.relabel id Leaf.blank id := relabel_replaceLeaves keeps node
  exact exists_at?_of_relabel_eq _ _ _ same located

variable [Host η α]

theorem Accounts.status_of_lastTraced {tree : Tree η α} {account : List (List Nat × Status)}
    (accounts : Accounts tree account) {address : List Nat} {sub : Node η α}
    (located : tree.tick.subject.root.at? address = some sub) {status : Status}
    (last : lastTraced (traceOf account) sub.path = some status) : sub.status = some status := by
  have member := (Node.mem_traceOf accounts.paths located).1 (mem_of_lastTraced last)
  obtain ⟨other, found, same⟩ := accounts.recorded address status member
  rw [located] at found
  rwa [Option.some.inj found]

theorem Run.status_eq_lastTraced {node : Node η α} {board : Board η} {stage : Stage η α}
    {events : List (Event η α)} (unevaluated : node.Unevaluated)
    (run : Run (.planted (Tree.build node board).1) stage events) {address : List Nat}
    {sub : Node η α} (located : stage.root.at? address = some sub) :
    sub.status = lastTraced (traces events) sub.path := by
  induction run generalizing sub with
  | refl =>
      obtain ⟨old, found, same⟩ := Node.status_of_at?_plant located
      rw [← same, unevaluated old (Node.mem_preorder_iff_at?.2 ⟨address, found⟩)]
      rfl
  | step operation run performed calm ih =>
      obtain ⟨tree, rfl⟩ := run.exists_planted
      have addressed : tree.root.Addressed "root" := run.addressed
      rcases Stage.perform_planted performed with rfl | ⟨later, rfl, same | ⟨change, keeps, same⟩⟩
      · obtain ⟨status, ended⟩ := Outcome.panic?_eq_none_iff.1 calm
        have accounts := accounts_account ended addressed
        rw [traces_append, lastTraced_append, accounts.traced]
        cases last : lastTraced (traceOf (tree.root.account tree.board)) sub.path with
        | some status => exact accounts.status_of_lastTraced located last
        | none =>
            -- The node was left out in this tick and keeps the record of an earlier one.
            have missed (status : Status) :
                (address, status) ∉ tree.root.account tree.board := fun member =>
              notMem_of_lastTraced last status
                ((Node.mem_traceOf accounts.paths located).2 member)
            have unchanged := accounts.others address missed
            exact ih (unchanged.symm.trans located)
      · have located : later.root.at? address = some sub := located
        rw [same] at located
        rw [List.append_nil]
        exact ih located
      · have located : later.root.at? address = some sub := located
        rw [same] at located
        obtain ⟨old, found, alike⟩ := Node.info_of_at?_replaceLeaves keeps located
        have before := ih found
        rw [List.append_nil]
        rwa [Node.status, Node.path, alike] at before

/-- The log of a tick accounts for it, whatever happened to the tree before, and the traces of all
ticks so far account for what every node has on record. -/
theorem accounts_of_run {node : Node η α} {board : Board η} {tree : Tree η α}
    {events : List (Event η α)} {status : Status} (unevaluated : node.Unevaluated)
    (run : Run (.planted (Tree.build node board).1) (.planted tree) events)
    (ended : tree.tick.result = .ok status) :
    (∃ account, Accounts tree account) ∧
      (∀ sub ∈ tree.tick.subject.root.preorder,
        sub.status = lastTraced (traces (events ++ tree.tick.events)) sub.path) ∧
      (KeepsOutOfTrees (events ++ tree.tick.events) →
        (logOf (events ++ tree.tick.events)).filterMap Record.trace? =
          traces (events ++ tree.tick.events)) := by
  refine ⟨⟨_, accounts_account ended run.addressed⟩, ?_, fun apart => apart.log_eq.1⟩
  intro sub member
  obtain ⟨address, located⟩ := Node.mem_preorder_iff_at?.1 member
  have calm : tree.tick.panic? = none := Outcome.panic?_eq_none_iff.2 ⟨status, ended⟩
  exact (run.step .tick rfl calm).status_eq_lastTraced unevaluated located

def guard : Node Counting Deed :=
  .sequence [.action (.attempt (.constant .success)),
    .selector [.actionSlot "greet", .constant .success], .action (.recite [.running])]

theorem accounts_of_run_guard :
    ∃ (tree : Tree Counting Deed) (events : List (Event Counting Deed)),
      guard.Unevaluated ∧
      Run (.planted (Tree.build guard ∅).1) (.planted tree) events ∧
      tree.tick.result = .ok .success ∧ KeepsOutOfTrees (events ++ tree.tick.events) ∧
      traces tree.tick.events =
        [("root/0", .success), ("root/1/0", .success), ("root/1", .success), ("root/2", .success),
          ("root", .success)] ∧
      (∃ account, Accounts tree account) ∧
      (∀ sub ∈ tree.tick.subject.root.preorder,
        sub.status = lastTraced (traces (events ++ tree.tick.events)) sub.path) ∧
      (KeepsOutOfTrees (events ++ tree.tick.events) →
        (logOf (events ++ tree.tick.events)).filterMap Record.trace? =
          traces (events ++ tree.tick.events)) := by
  have unevaluated : guard.Unevaluated := by decide
  have run := (((.refl : Run (.planted (Tree.build guard ∅).1) _ _)).step .tick rfl rfl).step
    (.bindAction "greet" (.recite [])) rfl rfl
  refine ⟨_, _, unevaluated, run, rfl, ?_, ?_, accounts_of_run unevaluated run rfl⟩
  · decide
  · decide

end Behavior
