import Mathlib.Data.Nat.Count
import Behavior.Proofs.Rounds

namespace Behavior

variable {η : Type} [HostTypes η] {α : Type}

def saturated (settlements : Nat) : UInt64 :=
  .ofNat (min settlements (UInt64.size - 1))

theorem toNat_saturated (settlements : Nat) :
    (saturated settlements).toNat = min settlements (UInt64.size - 1) := by
  apply UInt64.toNat_ofNat_of_lt'
  exact Nat.lt_of_le_of_lt (Nat.min_le_right _ _) (by decide)

theorem succSaturating_saturated (settlements : Nat) :
    succSaturating (saturated settlements) = saturated (settlements + 1) := by
  have shown := toNat_saturated settlements
  have next := toNat_saturated (settlements + 1)
  have sum := UInt64.toNat_add (saturated settlements) 1
  have one : (1 : UInt64).toNat = 1 := rfl
  have none : (0 : UInt64).toNat = 0 := rfl
  simp only [UInt64.size] at shown next
  unfold succSaturating
  split
  case isTrue full =>
    rw [full] at sum
    apply UInt64.toNat_inj.1
    omega
  case isFalse room =>
    have positive := mt UInt64.toNat_inj.1 room
    apply UInt64.toNat_inj.1
    omega

theorem le_saturated_iff {count : UInt64} {settlements : Nat} :
    count ≤ saturated settlements ↔ count.toNat ≤ settlements := by
  have small := count.toNat_lt
  rw [UInt64.le_iff_toNat_le, toNat_saturated, UInt64.size]
  omega

theorem Decorator.judge_repeater_of_settled {status : Status} (settled : status.isSettled)
    (limit : RepeatCount) (settlements : Nat) :
    (repeater limit (saturated settlements)).judge status =
      (repeater limit (saturated (settlements + 1)),
        if limit.isReached (saturated (settlements + 1)) then status else .running) := by
  have moving : status.isRunning = false := by simpa [Status.isSettled] using settled
  simp only [judge, moving, Bool.false_eq_true, if_false, succSaturating_saturated]

theorem Decorator.judge_repeater_running (limit : RepeatCount) (completed : UInt64) :
    (repeater limit completed).judge .running = (repeater limit completed, .running) := rfl

inductive Count where
  | signed (count : Int32)
  | unsigned (count : UInt64)
  | unlimited

namespace Count

def limit : Count → RepeatCount
  | signed count => .ofInt32 count
  | unsigned count => .times count
  | unlimited => .forever

def Reached : Count → Nat → Prop
  | signed count, settlements => count ≠ -1 ∧ count.toInt ≤ settlements
  | unsigned count, settlements => count.toNat ≤ settlements
  | unlimited, _ => False

instance (count : Count) (settlements : Nat) : Decidable (count.Reached settlements) :=
  match count with
  | signed count => inferInstanceAs (Decidable (count ≠ -1 ∧ count.toInt ≤ settlements))
  | unsigned count => inferInstanceAs (Decidable (count.toNat ≤ settlements))
  | unlimited => inferInstanceAs (Decidable False)

theorem Reached.mono {count : Count} {settlements later : Nat} (reached : count.Reached settlements)
    (le : settlements ≤ later) : count.Reached later := by
  cases count with
  | signed count => exact ⟨reached.1, by have := reached.2; omega⟩
  | unsigned count => exact Nat.le_trans reached le
  | unlimited => exact reached

theorem toNat_toUInt64_of_nonneg {count : Int32} (nonneg : 0 ≤ count) :
    count.toInt64.toUInt64.toNat = count.toInt.toNat := by
  have wide : count.toInt64.toBitVec.toInt = count.toInt := Int32.toInt_toInt64 count
  have nonneg' : 0 ≤ count.toInt := Int32.le_iff_toInt_le.1 nonneg
  show count.toInt64.toBitVec.toNat = count.toInt.toNat
  rw [← wide] at nonneg' ⊢
  rw [BitVec.toInt_eq_toNat_cond] at nonneg' ⊢
  split at nonneg' <;> omega

theorem isReached_limit (count : Count) (settlements : Nat) :
    count.limit.isReached (saturated settlements) = true ↔ count.Reached settlements := by
  cases count with
  | unsigned count => simp [limit, RepeatCount.isReached, Reached, le_saturated_iff]
  | unlimited => simp [limit, RepeatCount.isReached, Reached]
  | signed count =>
      by_cases endless : count = -1
      · simp [limit, RepeatCount.ofInt32, RepeatCount.isReached, Reached, endless]
      · by_cases negative : count < 0
        · have below : count.toInt < 0 := Int32.lt_iff_toInt_lt.1 negative
          simp [limit, RepeatCount.ofInt32, RepeatCount.isReached, Reached, endless, negative]
          omega
        · have nonneg := Int32.not_lt.1 negative
          simp only [limit, RepeatCount.ofInt32, endless, negative, if_false,
            RepeatCount.isReached, decide_eq_true_eq, le_saturated_iff, Reached, ne_eq,
            not_false_eq_true, true_and, toNat_toUInt64_of_nonneg nonneg, Int.toNat_le]

end Count

def Outcome.settles (outcome : Outcome η α (Node η α) Status) : Bool :=
  match outcome.result with
  | .ok status => status.isSettled
  | .error _ => false

variable [Host η α]

def Node.settlements (node : Node η α) (board : Board η) (edits : Nat → Board η → Board η) :
    Nat → Nat :=
  Nat.count fun time => (node.round board edits time).settles

theorem Node.settlements_succ (node : Node η α) (board : Board η) (edits : Nat → Board η → Board η)
    (time : Nat) :
    node.settlements board edits (time + 1) =
      node.settlements board edits time + (node.round board edits time).settles.toNat := by
  rw [settlements, Nat.count_succ]
  cases (node.round board edits time).settles <;> rfl

def RepeatCount.pass (limit : RepeatCount) (settlements : Nat) (status : Status) : Status :=
  if status.isSettled && limit.isReached (saturated settlements) then status else .running

/-- What the evaluation of a repeater comes to, given that of its child and the number of times that
the child has settled by then. -/
structure KeepsCount (limit : RepeatCount) (settlements : Nat)
    (outer inner : Outcome η α (Node η α) Status) : Prop where
  subject : ∃ info : Info η, info.path = "" ∧
    outer.subject = .decorator info (.repeater limit (saturated settlements)) inner.subject
  board : outer.board = inner.board
  events : outer.events = inner.events ++ Node.closing "" outer.result
  result : outer.result = inner.result.map (limit.pass settlements)

theorem Decorator.after_repeater {child : Node η α} {board : Board η} {settlements later : Nat}
    (counted : later = settlements + (child.evaluate board).settles.toNat) (limit : RepeatCount) :
    (repeater limit (saturated settlements)).after (child.evaluate board).result =
        repeater limit (saturated later) ∧
      ((child.evaluate board).result.map fun status =>
          ((repeater limit (saturated settlements)).judge status).2) =
        (child.evaluate board).result.map (limit.pass later) := by
  cases ended : (child.evaluate board).result with
  | error panic => simp [counted, ended, Outcome.settles, Except.map, after]
  | ok status =>
      by_cases settled : status.isSettled
      · have judged := judge_repeater_of_settled settled limit settlements
        simp [counted, ended, Outcome.settles, Except.map, after, settled, judged,
          RepeatCount.pass]
      · obtain rfl : status = .running := not_not.1 (mt Status.isSettled_iff.2 settled)
        simp [counted, ended, Outcome.settles, Except.map, after, settled,
          judge_repeater_running, RepeatCount.pass]

theorem keepsCount_evaluate {info : Info η} {child : Node η α} {board : Board η}
    {settlements later : Nat} (path : info.path = "")
    (counted : later = settlements + (child.evaluate board).settles.toNat) (limit : RepeatCount) :
    KeepsCount limit later
      ((Node.decorator info (.repeater limit (saturated settlements)) child).evaluate board)
      (child.evaluate board) := by
  obtain ⟨after, judged⟩ := Decorator.after_repeater counted limit
  rw [Node.evaluate_decorator_eq]
  dsimp only
  rw [after, judged, path]
  refine ⟨⟨_, ?_, rfl⟩, rfl, rfl, rfl⟩
  cases (child.evaluate board).result <;> exact path

theorem keepsCount_round (child : Node η α) (limit : RepeatCount) (board : Board η)
    (edits : Nat → Board η → Board η) (time : Nat) :
    KeepsCount limit (child.settlements board edits (time + 1))
      ((child.repeater limit).round board edits time) (child.round board edits time) := by
  have counted := child.settlements_succ board edits time
  induction time with
  | zero =>
      have path : ({} : Info η).path = "" := rfl
      exact keepsCount_evaluate path counted limit
  | succ time ih =>
      have last := ih (child.settlements_succ board edits time)
      obtain ⟨info, path, subject⟩ := last.subject
      rw [Node.round, Node.round, subject, last.board]
      exact keepsCount_evaluate path counted limit

/-- A repeater passes the settlements of its child on from the one with the number that was asked
for, however many there are. -/
theorem repeater_law (child : Node η α) (count : Count) (board : Board η)
    (edits : Nat → Board η → Board η) (time : Nat) :
    let outer := (child.repeater count.limit).round board edits
    let inner := child.round board edits
    (outer time).subject.children = [(inner time).subject] ∧
      (outer time).board = (inner time).board ∧
      (outer time).events = (inner time).events ++ Node.closing "" (outer time).result ∧
      (outer time).result = (inner time).result.map (fun status =>
        if status.isSettled ∧ count.Reached (child.settlements board edits (time + 1)) then status
        else .running) ∧
      ∀ final, (outer time).result = .ok final → final.isSettled →
        ∀ later status, time ≤ later → (inner later).result = .ok status → status.isSettled →
          (outer later).result = .ok status := by
  intro outer inner
  have keeps := keepsCount_round child count.limit board edits
  have passed (time : Nat) : (outer time).result = (inner time).result.map (fun status =>
      if status.isSettled ∧ count.Reached (child.settlements board edits (time + 1)) then status
      else .running) := by
    have same : count.limit.pass (child.settlements board edits (time + 1)) = fun status =>
        if status.isSettled ∧ count.Reached (child.settlements board edits (time + 1)) then status
        else .running := by
      funext status
      simp only [RepeatCount.pass, Bool.and_eq_true, count.isReached_limit]
    rw [← same]
    exact (keeps time).result
  refine ⟨?_, (keeps time).board, (keeps time).events, passed time, ?_⟩
  · obtain ⟨info, -, subject⟩ := (keeps time).subject
    rw [show (outer time).subject = _ from subject]
    rfl
  · intro final ended settled later status le answered settled'
    -- The limit was reached at the time of the first settlement that was passed on.
    have reached : count.Reached (child.settlements board edits (time + 1)) := by
      rw [passed] at ended
      obtain ⟨record, -, same⟩ := map_eq_ok ended
      by_contra unmet
      rw [if_neg (mt And.right unmet)] at same
      subst same
      cases settled
    have more : child.settlements board edits (time + 1) ≤
        child.settlements board edits (later + 1) :=
      Nat.count_monotone _ (Nat.add_le_add_right le 1)
    rw [passed, answered]
    exact congrArg Except.ok (if_pos ⟨settled', reached.mono more⟩)

theorem repeater_law_twice :
    let child : Node Counting Deed := .action (.recite [.success, .running, .failure, .success])
    let outer := (child.repeater (Count.signed 2).limit).round ∅ fun _ => id
    [0, 1, 2].map (fun time => (outer time).result) = [.ok .running, .ok .running, .ok .failure] ∧
      (child.round ∅ (fun _ => id) 3).result = .ok .success ∧
      (outer 3).result = .ok .success := by
  intro child outer
  obtain ⟨-, -, -, -, terminal⟩ := repeater_law child (.signed 2) ∅ (fun _ => id) 2
  exact ⟨rfl, rfl, terminal .failure rfl rfl 3 .success (by decide) rfl rfl⟩

end Behavior
