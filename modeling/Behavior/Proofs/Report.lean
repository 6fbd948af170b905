import Behavior.Proofs.Lookup
import Behavior.Proofs.Trace

namespace Behavior

variable {η : Type} [HostTypes η] {α : Type}

namespace Tree

def report (tree : Tree η α) : List String :=
  tree.snapshot.root.runningPaths

def nextTrace [Host η α] (tree : Tree η α) : List (String × Status) :=
  traceOf (tree.root.account tree.board)

/-- Whether the report after the next tick is one about that tick: whether it has the paths of the
nodes that are evaluated in it and running. -/
def ReportsNext [Host η α] (tree : Tree η α) : Prop :=
  ∀ path, path ∈ tree.tick.subject.report ↔ (path, .running) ∈ tree.nextTrace

def PassesBy [Host η α] (tree : Tree η α) (path : String) : Prop :=
  ∀ status, (path, status) ∉ tree.nextTrace

theorem mem_report {tree : Tree η α} (addressed : tree.root.Addressed "root") {path : String} :
    path ∈ tree.report ↔ ∃ address sub, tree.root.at? address = some sub ∧
      sub.status = some .running ∧ pathFrom "root" address = path := by
  rw [report, snapshot, NodeSnapshot.runningPaths_ofNode, List.mem_map]
  constructor
  · rintro ⟨sub, member, rfl⟩
    obtain ⟨inside, running⟩ := List.mem_filter.1 member
    obtain ⟨address, located⟩ := Node.mem_preorder_iff_at?.1 inside
    exact ⟨address, sub, located, by simpa using running, (addressed address sub located).symm⟩
  · rintro ⟨address, sub, located, running, rfl⟩
    have inside := Node.mem_preorder_iff_at?.2 ⟨address, located⟩
    exact ⟨sub, List.mem_filter.2 ⟨inside, by simpa using running⟩, addressed address sub located⟩

theorem path_mem_report_iff {tree : Tree η α} (addressed : tree.root.Addressed "root")
    {sub : Node η α} (member : sub ∈ tree.root.preorder) :
    sub.path ∈ tree.report ↔ sub.status = some .running := by
  obtain ⟨address, located⟩ := Node.mem_preorder_iff_at?.1 member
  rw [mem_report addressed, addressed address sub located]
  constructor
  · rintro ⟨other, found, located', running, same⟩
    rw [pathFrom_injective "root" same, located] at located'
    rwa [Option.some.inj located']
  · intro running
    exact ⟨address, sub, located, running, rfl⟩

section
variable [Host η α] {tree : Tree η α}

theorem running_tick_iff {account : List (List Nat × Status)} (accounts : Accounts tree account)
    (address : List Nat) :
    (∃ sub, tree.tick.subject.root.at? address = some sub ∧ sub.status = some .running) ↔
      (address, .running) ∈ account ∨
        (∃ sub, tree.root.at? address = some sub ∧ sub.status = some .running) ∧
          ∀ status, (address, status) ∉ account := by
  by_cases told : ∃ status, (address, status) ∈ account
  · obtain ⟨status, member⟩ := told
    constructor
    · rintro ⟨sub, located, running⟩
      obtain ⟨other, found, noted⟩ := accounts.recorded address status member
      rw [located] at found
      obtain rfl := Option.some.inj found
      rw [running] at noted
      obtain rfl := Option.some.inj noted
      exact .inl member
    · rintro (here | ⟨-, missed⟩)
      · exact accounts.recorded address .running here
      · exact absurd member (missed status)
  · have missed (status : Status) : (address, status) ∉ account := fun member =>
      told ⟨status, member⟩
    rw [accounts.others address missed]
    constructor
    · exact fun before => .inr ⟨before, missed⟩
    · rintro (here | ⟨before, -⟩)
      · exact absurd here (missed .running)
      · exact before

theorem mem_report_tick {status : Status} (ended : tree.tick.result = .ok status)
    (addressed : tree.root.Addressed "root") (path : String) :
    path ∈ tree.tick.subject.report ↔
      (path, .running) ∈ tree.nextTrace ∨ path ∈ tree.report ∧ tree.PassesBy path := by
  have accounts := accounts_account ended addressed
  rw [mem_report accounts.paths, mem_report addressed]
  constructor
  · rintro ⟨address, sub, located, running, rfl⟩
    rcases (running_tick_iff accounts address).1 ⟨sub, located, running⟩ with
      here | ⟨⟨old, found, before⟩, missed⟩
    · exact .inl (mem_traceOf_pathFrom.2 here)
    · exact .inr ⟨⟨address, old, found, before, rfl⟩, fun status member =>
        missed status (mem_traceOf_pathFrom.1 member)⟩
  · rintro (here | ⟨⟨address, old, found, before, rfl⟩, missed⟩)
    · obtain ⟨⟨address, _⟩, member, same⟩ := List.mem_map.1 here
      obtain ⟨rfl, rfl⟩ := Prod.mk.inj same
      obtain ⟨sub, located, running⟩ := (running_tick_iff accounts address).2 (.inl member)
      exact ⟨address, sub, located, running, rfl⟩
    · obtain ⟨sub, located, running⟩ := (running_tick_iff accounts address).2
        (.inr ⟨⟨old, found, before⟩, fun status member =>
          missed status (mem_traceOf_pathFrom.2 member)⟩)
      exact ⟨address, sub, located, running, rfl⟩

theorem reportsNext_iff {status : Status} (ended : tree.tick.result = .ok status)
    (addressed : tree.root.Addressed "root") :
    tree.ReportsNext ↔ ∀ path ∈ tree.report, ¬ tree.PassesBy path := by
  constructor
  · intro reports path before missed
    have still := (mem_report_tick ended addressed path).2 (.inr ⟨before, missed⟩)
    exact missed .running ((reports path).1 still)
  · intro reached path
    rw [mem_report_tick ended addressed]
    constructor
    · rintro (here | ⟨before, missed⟩)
      · exact here
      · exact absurd missed (reached path before)
    · exact .inl

/-- After a tick, the report has the paths of the nodes that were running in it, and of those that
were reported before and that it passed by; it is right about the tick only if there are none of
these. In a tree that starts without records, it has the nodes that were running when they were last
evaluated, however long ago that was. -/
theorem report_of_run {node : Node η α} {board : Board η} {events : List (Event η α)}
    {status : Status} (run : Run (.planted (build node board).1) (.planted tree) events)
    (ended : tree.tick.result = .ok status) :
    (∀ path, path ∈ tree.tick.subject.report ↔
        (path, .running) ∈ tree.nextTrace ∨ path ∈ tree.report ∧ tree.PassesBy path) ∧
      tree.tick.subject.report.Nodup ∧
      (tree.ReportsNext ↔ ∀ path ∈ tree.report, ¬ tree.PassesBy path) ∧
      (node.Unevaluated → ∀ sub ∈ tree.tick.subject.root.preorder,
        sub.path ∈ tree.tick.subject.report ↔
          lastTraced (traces (events ++ tree.tick.events)) sub.path = some .running) := by
  have addressed : tree.root.Addressed "root" := run.addressed
  have calm : tree.tick.panic? = none := Outcome.panic?_eq_none_iff.2 ⟨status, ended⟩
  have later := run.step .tick rfl calm
  have addressed' : tree.tick.subject.root.Addressed "root" := later.addressed
  refine ⟨mem_report_tick ended addressed, addressed'.running_nodup,
    reportsNext_iff ended addressed, ?_⟩
  intro unevaluated sub member
  obtain ⟨address, located⟩ := Node.mem_preorder_iff_at?.1 member
  have record := later.status_eq_lastTraced unevaluated located
  rw [path_mem_report_iff addressed' member, record]

end

end Tree

def lookout : Node Counting Deed :=
  .sequence [.action (.recite [.success, .failure]), .action (.recite [.running])]

theorem Tree.report_of_run_lookout :
    ∃ (tree : Tree Counting Deed) (events : List (Event Counting Deed)),
      Run (.planted (build lookout ∅).1) (.planted tree) events ∧
      tree.tick.result = .ok .failure ∧ lookout.Unevaluated ∧
      tree.report = ["root", "root/1"] ∧
      tree.nextTrace = [("root/0", .failure), ("root", .failure)] ∧
      tree.tick.subject.report.Nodup ∧
      ("root/1" ∈ tree.tick.subject.report ↔ ("root/1", .running) ∈ tree.nextTrace ∨
        "root/1" ∈ tree.report ∧ tree.PassesBy "root/1") := by
  have run := (.refl : Run (.planted (build lookout ∅).1) _ _).step .tick rfl rfl
  obtain ⟨after, once, -⟩ := report_of_run run rfl
  exact ⟨_, _, run, rfl, by decide, rfl, rfl, once, after "root/1"⟩

theorem Tree.not_reportsNext_lookout :
    ∃ (tree : Tree Counting Deed) (events : List (Event Counting Deed)),
      Run (.planted (build lookout ∅).1) (.planted tree) events ∧
      tree.tick.result = .ok .failure ∧ tree.tick.subject.report = ["root/1"] ∧
      ¬ tree.ReportsNext := by
  have run := (.refl : Run (.planted (build lookout ∅).1) _ _).step .tick rfl rfl
  refine ⟨_, _, run, rfl, rfl, ?_⟩
  intro reports
  have told := (reports "root/1").1 (.head _)
  exact absurd told (by decide)

end Behavior
