import Mathlib.Algebra.GroupWithZero.Nat
import Behavior.Proofs.Repetition

namespace Behavior

variable {η : Type} [HostTypes η] {α : Type}

def Node.tower (core : Node η α) : List (Info η × Decorator) → Node η α
  | [] => core
  | (info, rule) :: layers => .decorator info rule (core.tower layers)

namespace Decorator

def judgeAll : List Decorator → Status → List Decorator × Status
  | [], status => ([], status)
  | rule :: rules, status =>
      let inner := judgeAll rules status
      let outer := rule.judge inner.2
      (outer.1 :: inner.1, outer.2)

def allAfter (rules : List Decorator) : Except Panic Status → List Decorator
  | .ok status => (judgeAll rules status).1
  | .error _ => rules

end Decorator

section
variable [Host η α]

theorem Node.evaluate_tower (core : Node η α) (layers : List (Info η × Decorator))
    (board : Board η) :
    ∃ later : List (Info η × Decorator),
      later.map Prod.snd =
          Decorator.allAfter (layers.map Prod.snd) (core.evaluate board).result ∧
        ((core.tower layers).evaluate board).subject = (core.evaluate board).subject.tower later ∧
        ((core.tower layers).evaluate board).board = (core.evaluate board).board ∧
        callsOf ((core.tower layers).evaluate board).events =
          callsOf (core.evaluate board).events ∧
        ((core.tower layers).evaluate board).result = (core.evaluate board).result.map
          fun status => (Decorator.judgeAll (layers.map Prod.snd) status).2 := by
  induction layers with
  | nil =>
      refine ⟨[], ?_, rfl, rfl, rfl, ?_⟩
      · cases (core.evaluate board).result <;> rfl
      · cases ended : (core.evaluate board).result <;> exact ended
  | cons layer layers ih =>
      obtain ⟨info, rule⟩ := layer
      obtain ⟨later, rules, subject, board', calls, result⟩ := ih
      rw [tower, evaluate_decorator_eq]
      dsimp only
      refine ⟨(_, _) :: later, ?_, congrArg (decorator _ _) subject, board', ?_, ?_⟩
      · rw [List.map_cons, rules, result]
        cases (core.evaluate board).result <;> rfl
      · rw [callsOf_append, callsOf_closing, calls, List.append_nil]
      · rw [result]
        cases (core.evaluate board).result <;> rfl

theorem Equivalent.tower (related : List Decorator → List Decorator → Prop)
    (step : ∀ rules others, related rules others → ∀ status,
      related (Decorator.judgeAll rules status).1 (Decorator.judgeAll others status).1 ∧
        (Decorator.judgeAll rules status).2 = (Decorator.judgeAll others status).2)
    (core : Node η α) (layers others : List (Info η × Decorator))
    (start : related (layers.map Prod.snd) (others.map Prod.snd)) :
    Equivalent (core.tower layers) (core.tower others) := by
  refine ⟨fun node other => ∃ core layers others,
    related (layers.map Prod.snd) (others.map Prod.snd) ∧ node = core.tower layers ∧
      other = core.tower others, ?_, core, layers, others, start, rfl, rfl⟩
  rintro _ _ ⟨core, layers, others, alike, rfl, rfl⟩ board
  obtain ⟨later, rules, subject, board', calls, result⟩ := core.evaluate_tower layers board
  obtain ⟨later', rules', subject', board'', calls', result'⟩ := core.evaluate_tower others board
  refine ⟨?_, board'.trans board''.symm, calls.trans calls'.symm,
    _, later, later', ?_, subject, subject'⟩
  · rw [result, result']
    cases (core.evaluate board).result with
    | error panic => rfl
    | ok status => exact congrArg Except.ok (step _ _ alike status).2
  · rw [rules, rules']
    cases (core.evaluate board).result with
    | error panic => exact alike
    | ok status => exact (step _ _ alike status).1

end

/-- Repeaters with the counters that they have after the node in their midst settled so often. The
first settlement that they pass on is the one with the number `bound`. -/
inductive Counted (settlements : Nat) : List Decorator → (bound : Nat) → Prop
  | nil : Counted settlements [] 1
  | cons {rules : List Decorator} {bound : Nat} (count : UInt64) :
      Counted settlements rules bound →
      Counted settlements
        (.repeater (.times count) (saturated (settlements + 1 - bound)) :: rules)
        (bound + (max count.toNat 1 - 1))

namespace Counted

variable {settlements bound : Nat} {rules : List Decorator}

theorem one_le (counted : Counted settlements rules bound) : 1 ≤ bound := by
  induction counted with
  | nil => exact Nat.le_refl 1
  | cons count _ ih => exact Nat.le_add_right_of_le ih

theorem judgeAll_running (counted : Counted settlements rules bound) :
    Decorator.judgeAll rules .running = (rules, .running) := by
  induction counted with
  | nil => rfl
  | cons count _ ih => rw [Decorator.judgeAll, ih, Decorator.judge_repeater_running]

theorem judgeAll_of_settled (counted : Counted settlements rules bound) {status : Status}
    (settled : status.isSettled) :
    Counted (settlements + 1) (Decorator.judgeAll rules status).1 bound ∧
      (Decorator.judgeAll rules status).2 =
        if bound ≤ settlements + 1 then status else .running := by
  induction counted with
  | nil => exact ⟨.nil, (if_pos (Nat.le_add_left 1 settlements)).symm⟩
  | @cons rules bound count below ih =>
      obtain ⟨later, passed⟩ := ih
      have next := later.cons count
      rw [Decorator.judgeAll, passed]
      -- The outer repeater counts this settlement if those below it pass it on.
      by_cases audible : bound ≤ settlements + 1
      · have heard : settlements + 1 - bound + 1 = settlements + 1 + 1 - bound := by omega
        rw [if_pos audible, Decorator.judge_repeater_of_settled settled, heard]
        refine ⟨next, ?_⟩
        have one := below.one_le
        simp only [RepeatCount.isReached, decide_eq_true_eq, le_saturated_iff]
        congr 1
        apply propext
        omega
      · have silent : settlements + 1 - bound = settlements + 1 + 1 - bound := by omega
        rw [if_neg audible, Decorator.judge_repeater_running, silent]
        exact ⟨next, (if_neg (by omega)).symm⟩

theorem step {others : List Decorator} (counted : Counted settlements rules bound)
    (counted' : Counted settlements others bound) (status : Status) :
    (∃ later, Counted later (Decorator.judgeAll rules status).1 bound ∧
        Counted later (Decorator.judgeAll others status).1 bound) ∧
      (Decorator.judgeAll rules status).2 = (Decorator.judgeAll others status).2 := by
  by_cases settled : status.isSettled
  · obtain ⟨later, passed⟩ := counted.judgeAll_of_settled settled
    obtain ⟨later', passed'⟩ := counted'.judgeAll_of_settled settled
    exact ⟨⟨_, later, later'⟩, passed.trans passed'.symm⟩
  · obtain rfl : status = .running := not_not.1 (mt Status.isSettled_iff.2 settled)
    rw [counted.judgeAll_running, counted'.judgeAll_running]
    exact ⟨⟨_, counted, counted'⟩, rfl⟩

end Counted

/-- The number of the first settlement that a tower of repeaters with these limits passes on. -/
def towerCount (counts : List UInt64) : Nat :=
  1 + (counts.map fun count => max count.toNat 1 - 1).sum

theorem counted_fresh (counts : List UInt64) :
    Counted 0 (counts.map fun count => .repeater (.times count) 0) (towerCount counts) := by
  induction counts with
  | nil => exact .nil
  | cons count counts ih =>
      have below := ih.one_le
      have zero : 0 + 1 - towerCount counts = 0 := by omega
      have total : towerCount (count :: counts) =
          towerCount counts + (max count.toNat 1 - 1) := by
        simp only [towerCount, List.map_cons, List.sum_cons]
        omega
      have outer := ih.cons count
      rwa [zero, ← total] at outer

inductive Endless : List Decorator → Prop
  | here (completed : UInt64) (rules : List Decorator) :
      Endless (.repeater .forever completed :: rules)
  | above {rules : List Decorator} (limit : RepeatCount) (completed : UInt64) : Endless rules →
      Endless (.repeater limit completed :: rules)

theorem Endless.judgeAll {rules : List Decorator} (endless : Endless rules) (status : Status) :
    Endless (Decorator.judgeAll rules status).1 ∧
      (Decorator.judgeAll rules status).2 = .running := by
  induction endless with
  | here completed rules =>
      rw [Decorator.judgeAll, Decorator.judge]
      split
      · exact ⟨.here _ _, rfl⟩
      · exact ⟨.here _ _, rfl⟩
  | above limit completed _ ih =>
      rw [Decorator.judgeAll, ih.2, Decorator.judge_repeater_running]
      exact ⟨.above limit completed ih.1, rfl⟩

def Node.repeaters (core : Node η α) (layers : List (Info η × RepeatCount)) : Node η α :=
  core.tower (layers.map (Prod.map id (Decorator.repeater · 0)))

theorem Node.map_snd_repeaters (layers : List (Info η × RepeatCount)) :
    (layers.map (Prod.map id (Decorator.repeater · 0))).map Prod.snd =
      (layers.map Prod.snd).map (Decorator.repeater · 0) := by
  rw [List.map_map, List.map_map]
  rfl

theorem endless_of_mem {limits : List RepeatCount} (endless : .forever ∈ limits) :
    Endless (limits.map (Decorator.repeater · 0)) := by
  induction limits with
  | nil => cases endless
  | cons limit limits ih =>
      rcases List.mem_cons.1 endless with rfl | below
      · exact .here 0 _
      · exact .above limit 0 (ih below)

section
variable [Host η α]

theorem Equivalent.repeaters_times (core : Node η α) {layers : List (Info η × RepeatCount)}
    {counts : List UInt64} (limits : layers.map Prod.snd = counts.map .times)
    (fits : towerCount counts < UInt64.size) :
    Equivalent (core.repeaters layers)
      (core.repeater (.times (.ofNat (towerCount counts)))) := by
  have many : Counted 0 ((layers.map (Prod.map id (Decorator.repeater · 0))).map Prod.snd)
      (towerCount counts) := by
    rw [Node.map_snd_repeaters, limits, List.map_map]
    exact counted_fresh counts
  have one : Counted 0 [.repeater (.times (.ofNat (towerCount counts))) 0]
      (towerCount counts) := by
    have single := counted_fresh [.ofNat (towerCount counts)]
    have total : towerCount [.ofNat (towerCount counts)] = towerCount counts := by
      have positive := (counted_fresh counts).one_le
      rw [towerCount, List.map_singleton, List.sum_singleton, UInt64.toNat_ofNat_of_lt' fits]
      omega
    rwa [total] at single
  refine Equivalent.tower (fun rules others => ∃ settlements,
    Counted settlements rules (towerCount counts) ∧
      Counted settlements others (towerCount counts)) ?_ core _ [({}, _)] ⟨0, many, one⟩
  rintro rules others ⟨settlements, counted, counted'⟩ status
  exact counted.step counted' status

theorem Equivalent.repeaters_forever (core : Node η α) {layers : List (Info η × RepeatCount)}
    (endless : .forever ∈ layers.map Prod.snd) :
    Equivalent (core.repeaters layers) core.forever := by
  have many : Endless ((layers.map (Prod.map id (Decorator.repeater · 0))).map Prod.snd) := by
    rw [Node.map_snd_repeaters]
    exact endless_of_mem endless
  refine Equivalent.tower (fun rules others => Endless rules ∧ Endless others) ?_ core _ [({}, _)]
    ⟨many, .here 0 []⟩
  rintro rules others ⟨one, other⟩ status
  exact ⟨⟨(one.judgeAll status).1, (other.judgeAll status).1⟩,
    (one.judgeAll status).2.trans (other.judgeAll status).2.symm⟩

/-- A tower of repeaters around a node does what one repeater does that passes on the same
settlements, and if one of them has no limit, it is running for ever. -/
theorem sameRounds_repeaters (core : Node η α) (layers : List (Info η × RepeatCount)) :
    (∀ counts : List UInt64, layers.map Prod.snd = counts.map .times →
        towerCount counts < UInt64.size →
        SameRounds (core.repeaters layers)
          (core.repeater (.times (.ofNat (towerCount counts))))) ∧
      (.forever ∈ layers.map Prod.snd →
        SameRounds (core.repeaters layers) core.forever ∧
          ∀ (board : Board η) (edits : Nat → Board η → Board η) (time : Nat) (status : Status),
            ((core.repeaters layers).round board edits time).result = .ok status →
              status = .running) := by
  refine ⟨fun counts limits fits => (Equivalent.repeaters_times core limits fits).sameRounds, ?_⟩
  intro endless
  have same := (Equivalent.repeaters_forever core endless).sameRounds
  refine ⟨same, ?_⟩
  intro board edits time status ended
  rw [(same board edits time).result, Node.forever,
    (keepsCount_round core .forever board edits time).result] at ended
  obtain ⟨record, -, rfl⟩ := map_eq_ok ended
  simp [RepeatCount.pass, RepeatCount.isReached]

end

def patrol : Node Counting Deed :=
  .action (.recite [.success, .running, .failure, .success])

theorem sameRounds_repeaters_patrol :
    let limited : List (Info Counting × RepeatCount) :=
      [({}, .times 2), ({ name := some "gate" }, .times 0), ({}, .times 2)]
    let endless : List (Info Counting × RepeatCount) := [({}, .times 1), ({}, .forever)]
    [0, 1, 2, 3].map (fun time => ((patrol.repeaters limited).round ∅ (fun _ => id) time).result) =
        [.ok .running, .ok .running, .ok .running, .ok .success] ∧
      SameRounds (patrol.repeaters limited) (patrol.repeater (.times 3)) ∧
      SameRounds (patrol.repeaters endless) patrol.forever := by
  intro limited endless
  exact ⟨rfl, (sameRounds_repeaters patrol limited).1 [2, 0, 2] rfl (by decide),
    ((sameRounds_repeaters patrol endless).2 (by simp [endless])).1⟩

end Behavior
