import Mathlib.Algebra.Ring.Parity
import Behavior.Proofs.Towers

namespace Behavior

variable {η : Type} [HostTypes η] {α : Type}

/-- Whether the composite is one of those that come to the status of an only child: any sequence or
selector, and a parallel composite that asks for one of either. -/
def Composite.IsTransparent : Composite → Prop
  | sequence | selector => True
  | parallel successes failures => successes = 1 ∧ failures = 1

theorem Composite.IsTransparent.verdict {rule : Composite} (transparent : rule.IsTransparent)
    (status : Status) : rule.verdict [status] = status := by
  cases rule with
  | sequence => cases status <;> rfl
  | selector => cases status <;> rfl
  | parallel successes failures =>
      obtain ⟨rfl, rfl⟩ := transparent
      cases status <;> rfl

/-- Whether the count is one that every settlement meets. -/
def Count.IsTransparent : Count → Prop
  | signed count => count = 0 ∨ count = 1 ∨ count < -1
  | unsigned count => count = 0 ∨ count = 1
  | unlimited => False

theorem Count.IsTransparent.limit {count : Count} (transparent : count.IsTransparent) :
    ∃ most ≤ 1, count.limit = .times most := by
  cases count with
  | signed count =>
      rcases transparent with rfl | rfl | below
      · exact ⟨0, by decide, rfl⟩
      · exact ⟨1, by decide, rfl⟩
      · have limited : count ≠ -1 := by
          rintro rfl
          exact absurd below (by decide)
        have negative : count < 0 := Int32.lt_trans below (by decide)
        refine ⟨0, by decide, ?_⟩
        rw [Count.limit, RepeatCount.ofInt32, if_neg limited, if_pos negative]
  | unsigned count =>
      rcases transparent with rfl | rfl
      · exact ⟨0, by decide, rfl⟩
      · exact ⟨1, by decide, rfl⟩
  | unlimited => exact transparent.elim

theorem one_le_succSaturating (n : UInt64) : 1 ≤ succSaturating n := by
  have positive : succSaturating n ≠ 0 := by
    unfold succSaturating
    split
    case isTrue full =>
      rintro rfl
      exact absurd full (by decide)
    case isFalse room => exact room
  have nonzero : (succSaturating n).toNat ≠ (0 : UInt64).toNat := mt UInt64.toNat_inj.1 positive
  exact UInt64.le_iff_toNat_le.2 (Nat.one_le_iff_ne_zero.2 nonzero)

theorem Count.IsTransparent.judge {count : Count} (transparent : count.IsTransparent)
    (completed : UInt64) (status : Status) :
    ∃ later, (Decorator.repeater count.limit completed).judge status =
      (.repeater count.limit later, status) := by
  cases status with
  | running => exact ⟨completed, rfl⟩
  | success | failure =>
      refine ⟨succSaturating completed, ?_⟩
      have reached : count.limit.isReached (succSaturating completed) = true := by
        obtain ⟨most, small, limit⟩ := transparent.limit
        rw [limit]
        exact decide_eq_true (UInt64.le_trans small (one_le_succSaturating completed))
      simp [Decorator.judge, Status.isRunning, reached]

theorem Count.IsTransparent.after {count : Count} (transparent : count.IsTransparent)
    (completed : UInt64) (result : Except Panic Status) :
    ∃ later, (Decorator.repeater count.limit completed).after result =
      .repeater count.limit later := by
  cases result with
  | error panic => exact ⟨completed, rfl⟩
  | ok status =>
      obtain ⟨later, judged⟩ := transparent.judge completed status
      exact ⟨later, congrArg Prod.fst judged⟩

inductive Wrapper where
  | composite (rule : Composite) (transparent : rule.IsTransparent)
  | repeater (count : Count) (transparent : count.IsTransparent)
  | inverter

namespace Wrapper

def isInverter : Wrapper → Bool
  | inverter => true
  | composite .. | repeater .. => false

def pass : Wrapper → Status → Status
  | inverter => Status.invert
  | composite .. | repeater .. => id

end Wrapper

structure Layer (η : Type) [HostTypes η] where
  wrapper : Wrapper
  info : Info η := {}
  completed : UInt64 := 0

def Layer.around (layer : Layer η) (child : Node η α) : Node η α :=
  match layer.wrapper with
  | .composite rule _ => .composite layer.info rule [child]
  | .repeater count _ => .decorator layer.info (.repeater count.limit layer.completed) child
  | .inverter => .decorator layer.info .inverter child

section
variable [Host η α]

theorem Layer.matches_around (layer : Layer η) (child : Node η α) (board : Board η) :
    Matches (fun child node => ∃ later : Layer η, later.wrapper = layer.wrapper ∧
        node = later.around child)
      ((child.evaluate board).map id layer.wrapper.pass)
      ((layer.around child).evaluate board) := by
  obtain ⟨wrapper, info, completed⟩ := layer
  cases wrapper with
  | composite rule transparent =>
      have inner := Node.matches_composite transparent.verdict info child board
      rw [Wrapper.pass, Outcome.map_id]
      refine inner.imp ?_
      rintro later node ⟨info, rfl⟩
      exact ⟨⟨.composite rule transparent, info, completed⟩, rfl, rfl⟩
  | repeater count transparent =>
      have inner := Node.matches_decorator info (.repeater count.limit completed) child board
      -- The status passes whatever the counter shows, although the counter goes on.
      have passed : (fun status =>
          ((Decorator.repeater count.limit completed).judge status).2) = id := by
        funext status
        obtain ⟨later, judged⟩ := transparent.judge completed status
        rw [judged]
        rfl
      obtain ⟨now, counted⟩ := transparent.after completed (child.evaluate board).result
      rw [passed, counted] at inner
      refine inner.imp ?_
      rintro later node ⟨info, rfl⟩
      exact ⟨⟨.repeater count transparent, info, now⟩, rfl, rfl⟩
  | inverter =>
      have inner := Node.matches_decorator info .inverter child board
      rw [Decorator.after_inverter] at inner
      refine inner.imp ?_
      rintro later node ⟨info, rfl⟩
      exact ⟨⟨.inverter, info, completed⟩, rfl, rfl⟩

end

def Node.under (core : Node η α) (layers : List (Layer η)) : Node η α :=
  layers.foldr Layer.around core

def Under (wrappers : List Wrapper) (core node : Node η α) : Prop :=
  ∃ layers : List (Layer η), layers.map Layer.wrapper = wrappers ∧ node = core.under layers

/-- What becomes of a status below these wrappers: an odd number of inverters makes a failure of a
success and a success of a failure, and what is running is running. -/
def turned (wrappers : List Wrapper) : Status → Status
  | .running => .running
  | .success => if Odd (wrappers.countP Wrapper.isInverter) then .failure else .success
  | .failure => if Odd (wrappers.countP Wrapper.isInverter) then .success else .failure

theorem turned_nil : turned [] = id := by
  funext status
  cases status <;> simp [turned]

theorem turned_cons (wrapper : Wrapper) (wrappers : List Wrapper) :
    turned (wrapper :: wrappers) = wrapper.pass ∘ turned wrappers := by
  funext status
  cases wrapper with
  | composite rule transparent => cases status <;> rfl
  | repeater count transparent => cases status <;> rfl
  | inverter =>
      have counted : (Wrapper.inverter :: wrappers).countP Wrapper.isInverter =
          wrappers.countP Wrapper.isInverter + 1 := List.countP_cons_of_pos rfl
      by_cases odd : Odd (wrappers.countP Wrapper.isInverter)
      · cases status <;> simp [turned, counted, Nat.odd_add_one, odd, Wrapper.pass, Status.invert]
      · cases status <;> simp [turned, counted, Nat.odd_add_one, odd, Wrapper.pass, Status.invert]

section
variable [Host η α]

theorem matches_under (wrappers : List Wrapper) (core node : Node η α)
    (under : Under wrappers core node) (board : Board η) :
    Matches (Under wrappers) ((core.evaluate board).map id (turned wrappers))
      (node.evaluate board) := by
  obtain ⟨layers, rfl, rfl⟩ := under
  induction layers with
  | nil =>
      rw [List.map_nil, turned_nil, Outcome.map_id]
      exact ⟨rfl, rfl, rfl, [], rfl, rfl⟩
  | cons layer layers ih =>
      have outer := layer.matches_around (core.under layers) board
      rw [List.map_cons, turned_cons, ← Outcome.map_map]
      refine ((ih.map layer.wrapper.pass).trans outer).imp ?_
      rintro _ _ ⟨_, ⟨layers', same, rfl⟩, layer', same', rfl⟩
      exact ⟨layer' :: layers', congrArg₂ List.cons same' same, rfl⟩

end

def Node.untilFails (core : Node η α) (infos : List (Info η)) : Node η α :=
  core.tower (infos.map (·, .untilFail))

def UntilFails (height : Nat) (core node : Node η α) : Prop :=
  ∃ layers : List (Info η × Decorator),
    layers.map Prod.snd = .replicate height .untilFail ∧ node = core.tower layers

theorem untilFails_untilFails (core : Node η α) (infos : List (Info η)) :
    UntilFails infos.length core (core.untilFails infos) := by
  refine ⟨infos.map (·, .untilFail), ?_, rfl⟩
  rw [List.map_map]
  exact List.map_const'

theorem Decorator.judgeAll_untilFail (more : Nat) (status : Status) :
    judgeAll (.replicate (more + 2) untilFail) status =
      (.replicate (more + 2) untilFail, .running) := by
  induction more with
  | zero => cases status <;> rfl
  | succ more ih =>
      rw [List.replicate_succ, judgeAll, ih]
      rfl

section
variable [Host η α]

theorem matches_untilFails (more : Nat) (core node : Node η α)
    (tower : UntilFails (more + 2) core node) (board : Board η) :
    Matches (UntilFails (more + 2)) ((core.evaluate board).map id fun _ => .running)
      (node.evaluate board) := by
  obtain ⟨layers, rules, rfl⟩ := tower
  obtain ⟨later, after, subject, board', calls, result⟩ := core.evaluate_tower layers board
  rw [rules] at after result
  simp only [Decorator.judgeAll_untilFail] at result
  refine ⟨result.symm, board'.symm, calls.symm, later, ?_, subject⟩
  rw [after]
  cases (core.evaluate board).result with
  | error panic => rfl
  | ok status => exact congrArg Prod.fst (Decorator.judgeAll_untilFail more status)

theorem Equivalent.untilFails_forever {more : Nat} {core node : Node η α}
    (tower : UntilFails (more + 2) core node) : Equivalent node core.forever := by
  obtain ⟨layers, rules, rfl⟩ := tower
  refine Equivalent.tower (fun rules others => rules = .replicate (more + 2) .untilFail ∧
    Endless others) ?_ core layers [({}, _)] ⟨rules, .here 0 []⟩
  rintro _ others ⟨rfl, endless⟩ status
  rw [Decorator.judgeAll_untilFail]
  exact ⟨⟨rfl, (endless.judgeAll status).1⟩, (endless.judgeAll status).2.symm⟩

/-- Every round of a tower of wrappers is a round of the node in its midst, whose status is turned
over once for each inverter. Two or more wrappers that wait for a failure are running for ever. -/
theorem rounds_under (core : Node η α) :
    (∀ (layers : List (Layer η)) (board : Board η) (edits : Nat → Board η → Board η) (time : Nat),
      let wrappers := layers.map Layer.wrapper
      Matches (Under wrappers) ((core.round board edits time).map id (turned wrappers))
        ((core.under layers).round board edits time)) ∧
      ∀ (first second : Info η) (rest : List (Info η)),
        let tower := core.untilFails (first :: second :: rest)
        (∀ (board : Board η) (edits : Nat → Board η → Board η) (time : Nat),
          Matches (UntilFails (rest.length + 2))
            ((core.round board edits time).map id fun _ => .running)
            (tower.round board edits time)) ∧
          SameRounds tower core.forever := by
  constructor
  · intro layers board edits time wrappers
    have start : Under wrappers core (core.under layers) := ⟨layers, rfl, rfl⟩
    exact Matches.round (matches_under wrappers) start board edits time
  · intro first second rest tower
    have start : UntilFails (rest.length + 2) core tower :=
      untilFails_untilFails core (first :: second :: rest)
    refine ⟨?_, (Equivalent.untilFails_forever start).sameRounds⟩
    exact Matches.round (matches_untilFails rest.length) start

end

def lap : Node Counting Deed :=
  .action (.recite [.success, .failure, .running])

theorem rounds_under_lap :
    let layers : List (Layer Counting) :=
      [⟨.inverter, {}, 0⟩, ⟨.composite .sequence trivial, {}, 0⟩,
        ⟨.inverter, { name := some "gate" }, 0⟩,
        ⟨.repeater (.signed (-2)) (.inr (.inr (by decide))), {}, 5⟩,
        ⟨.composite (.parallel 1 1) ⟨rfl, rfl⟩, {}, 0⟩, ⟨.inverter, {}, 0⟩]
    let wrappers := layers.map Layer.wrapper
    let results (node : Node Counting Deed) :=
      [0, 1, 2].map fun time => (node.round ∅ (fun _ => id) time).result
    results lap = [.ok .success, .ok .failure, .ok .running] ∧
      results (lap.under layers) = [.ok .failure, .ok .success, .ok .running] ∧
      results (lap.under layers.tail) = [.ok .success, .ok .failure, .ok .running] ∧
      results (lap.untilFails [{}, {}]) = [.ok .running, .ok .running, .ok .running] ∧
      (∀ time, Matches (Under wrappers)
        ((lap.round ∅ (fun _ => id) time).map id (turned wrappers))
        ((lap.under layers).round ∅ (fun _ => id) time)) ∧
      SameRounds (lap.untilFails [{}, {}]) lap.forever := by
  intro layers wrappers results
  have three : results (lap.under layers) = [.ok .failure, .ok .success, .ok .running] := by rfl
  have two : results (lap.under layers.tail) = [.ok .success, .ok .failure, .ok .running] := by rfl
  exact ⟨rfl, three, two, rfl, (rounds_under lap).1 layers ∅ fun _ => id,
    ((rounds_under lap).2 {} {} []).2⟩

example (core : Node η α) :
    core.under [⟨.composite .sequence trivial, {}, 0⟩, ⟨.composite .selector trivial, {}, 0⟩,
      ⟨.composite (.parallel 1 1) ⟨rfl, rfl⟩, {}, 0⟩, ⟨.inverter, {}, 0⟩,
      ⟨.repeater (.signed (-2)) (.inr (.inr (by decide))), {}, 0⟩] =
    .sequence [.selector [.parallel [(core.repeater (.ofInt32 (-2))).inverter] 1 1]] := rfl

end Behavior
