import Behavior.Node.Verdict

namespace Behavior

/-- All records are `pass`, and then so is the status; or they are up to one that is not, and then
that one is the status. What stands behind that one is of no account. -/
def Settles (pass : Status) (records : List (Option Status)) (status : Status) : Prop :=
  ∃ passed rest, records = List.replicate passed (some pass) ++ rest ∧
    (rest = [] ∧ status = pass ∨ ∃ later, rest = some status :: later ∧ status ≠ pass)

def threshold (successes failures : Nat) (statuses : List Status) : Status :=
  if successes ≤ statuses.count .success then .success
  else if failures ≤ statuses.count .failure then .failure
  else if .running ∈ statuses then .running
  else .failure

def Composite.Explains (rule : Composite) (records : List (Option Status)) (status : Status) :
    Prop :=
  match rule with
  | sequence => Settles .success records status
  | selector => Settles .failure records status
  | parallel successes failures =>
      ∃ statuses, records = statuses.map some ∧
        status = threshold successes.toNat failures.toNat statuses

def RepeatCount.Reached (limit : RepeatCount) (completed : UInt64) : Prop :=
  ∃ count, limit = times count ∧ count ≤ completed

def Decorator.Explains (rule : Decorator) (record status : Status) : Prop :=
  match rule with
  | inverter => record = status.invert
  | repeater limit completed =>
      (record ≠ .running ∧ limit.Reached completed ∧ status = record) ∨
        ((record = .running ∨ ¬ limit.Reached completed) ∧ status = .running)
  | untilFail =>
      (record = .failure ∧ status = .success) ∨ (record ≠ .failure ∧ status = .running)

theorem Tally.foldl_add (statuses : List Status) (successes failures running : Nat) :
    statuses.foldl add ⟨.ofNat successes, .ofNat failures, .ofNat running⟩ =
      ⟨.ofNat (successes + statuses.count .success), .ofNat (failures + statuses.count .failure),
        .ofNat (running + statuses.count .running)⟩ := by
  induction statuses generalizing successes failures running with
  | nil => rfl
  | cons status rest ih =>
      cases status with
      | running =>
          have next := ih successes failures (running + 1)
          rw [Int32.ofNat_add] at next
          simpa [add, Nat.add_assoc, Nat.add_comm 1] using next
      | success =>
          have next := ih (successes + 1) failures running
          rw [UInt64.ofNat_add] at next
          simpa [add, Nat.add_assoc, Nat.add_comm 1] using next
      | failure =>
          have next := ih successes (failures + 1) running
          rw [UInt64.ofNat_add] at next
          simpa [add, Nat.add_assoc, Nat.add_comm 1] using next

theorem Tally.ofList_eq (statuses : List Status) :
    ofList statuses =
      ⟨.ofNat (statuses.count .success), .ofNat (statuses.count .failure),
        .ofNat (statuses.count .running)⟩ := by
  simpa [ofList] using foldl_add statuses 0 0 0

namespace Composite

theorem verdict_parallel {successes failures : UInt64} {statuses : List Status}
    (few : statuses.length ≤ Int32.maxValue.toNatClampNeg) :
    (parallel successes failures).verdict statuses =
      threshold successes.toNat failures.toNat statuses := by
  have bound (status : Status) : statuses.count status < 2 ^ 31 :=
    Nat.lt_of_le_of_lt (Nat.le_trans List.count_le_length few) (by decide)
  -- The running children are counted in a signed word, which is the narrowest of the three.
  have wide (status : Status) : statuses.count status < UInt64.size :=
    Nat.lt_trans (bound status) (by decide)
  have running : 0 < Int32.ofNat (statuses.count .running) ↔ .running ∈ statuses := by
    rw [Int32.lt_iff_toInt_lt, Int32.toInt_ofNat_of_lt (bound .running), ← List.count_pos_iff]
    simp
  simp only [verdict, threshold, Tally.ofList_eq, UInt64.le_ofNat_iff (wide _), running]

theorem settles_find? {pass : Status} {statuses : List Status} {later : List (Option Status)}
    (walked : (∀ status ∈ statuses, status = pass) ∧ later = [] ∨
      ∃ before last, statuses = before ++ [last] ∧ last ≠ pass ∧
        ∀ status ∈ before, status = pass) :
    Settles pass (statuses.map some ++ later)
      ((statuses.find? (· != pass)).getD pass) := by
  rcases walked with ⟨all, rfl⟩ | ⟨before, last, rfl, ne, all⟩
  · obtain same : statuses = List.replicate statuses.length pass :=
      List.eq_replicate_iff.2 ⟨rfl, all⟩
    have none_left : statuses.find? (· != pass) = none :=
      List.find?_eq_none.2 fun status member => by simp [all status member]
    refine ⟨statuses.length, [], ?_, .inl ⟨rfl, by rw [none_left]; rfl⟩⟩
    rw [← List.map_replicate, ← same]
  · obtain same : before = List.replicate before.length pass :=
      List.eq_replicate_iff.2 ⟨rfl, all⟩
    have passed : before.find? (· != pass) = none :=
      List.find?_eq_none.2 fun status member => by simp [all status member]
    have found : (before ++ [last]).find? (· != pass) = some last := by
      rw [List.find?_append, passed]
      simp [ne]
    refine ⟨before.length, some last :: later, ?_, .inr ⟨later, ?_, ?_⟩⟩
    · rw [← List.map_replicate, ← same]
      simp
    · rw [found]
      rfl
    · rwa [found]

end Composite

theorem RepeatCount.isReached_iff {limit : RepeatCount} {completed : UInt64} :
    limit.isReached completed ↔ limit.Reached completed := by
  cases limit <;> simp [isReached, Reached]

theorem Decorator.explains_judge (rule : Decorator) (record : Status) :
    (rule.judge record).1.Explains record (rule.judge record).2 := by
  cases rule with
  | inverter => simp [judge, Explains]
  | repeater limit completed =>
      by_cases running : record = .running
      · subst running
        exact .inr ⟨.inl rfl, rfl⟩
      · have settled : record.isRunning = false := by simpa [Status.isRunning] using running
        simp only [judge, settled, Bool.false_eq_true, if_false, Explains]
        by_cases reached : limit.isReached (succSaturating completed) = true
        · exact .inl ⟨running, RepeatCount.isReached_iff.1 reached, by simp [reached]⟩
        · exact .inr ⟨.inr (mt RepeatCount.isReached_iff.2 reached), by simp [reached]⟩
  | untilFail => cases record <;> simp [judge, Explains]

end Behavior
