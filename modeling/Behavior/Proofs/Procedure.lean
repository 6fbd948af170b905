import Behavior.Board.Lemmas
import Behavior.Node.Evaluation

/-!
# Routines as procedures

What the routine of a leaf does with the board, one step after the other: it looks at the board,
writes shared and private values, puts another board in place, and evaluates nodes that it has for
itself on the board it was called on. A panic of such an evaluation is caught, and the routine goes
on as it likes. A host whose routines are procedures is a host like any other, and the evaluations
in it are nested as deep as is allowed.
-/

namespace Behavior

inductive Procedure (η : Type) [HostTypes η] (α ρ : Type) where
  | reply (routine : α) (value : ρ)
  | panic (routine : α) (cause : Panic)
  | read (next : Board η → Procedure η α ρ)
  | share (entries : Entries η) (next : Procedure η α ρ)
  | setLocal (key : String) (type : ValueType η) (value : type.Carrier) (next : Procedure η α ρ)
  | eraseLocal (key : String) (next : Procedure η α ρ)
  | replace (board : Board η) (next : Procedure η α ρ)
  | evaluate (node : Node η α) (next : Node η α → Except Panic Status → Procedure η α ρ)

namespace Procedure

variable {η : Type} [HostTypes η] {α ρ : Type}

def run (evaluation : Node η α → Board η → Outcome η α (Node η α) Status) :
    Procedure η α ρ → Board η → Outcome η α α ρ
  | reply routine value, board => ⟨routine, board, [], .ok value⟩
  | panic routine cause, board => ⟨routine, board, [], .error cause⟩
  | read next, board => (next board).run evaluation board
  | share entries next, board => next.run evaluation { board with shared := entries }
  | setLocal key type value next, board =>
      let (board, records) := board.setLocal key type value
      let rest := next.run evaluation board
      { rest with events := records.map .log ++ rest.events }
  | eraseLocal key next, board => next.run evaluation (board.eraseLocal key).2
  | replace board next, _ => next.run evaluation board
  | evaluate node next, board =>
      let inner := evaluation node board
      let rest := (next inner.subject inner.result).run evaluation inner.board
      { rest with events := inner.events ++ rest.events }

/-- The view that is the procedure's own doing when it ends: the given view with its own writes, as
if nothing that it evaluates had touched the view. -/
def ownView (evaluation : Node η α → Board η → Outcome η α (Node η α) Status) :
    Procedure η α ρ → Board η → Option (Entries η) → Option (Entries η)
  | reply .., _, view => view
  | panic .., _, view => view
  | read next, board, view => (next board).ownView evaluation board view
  | share entries next, board, view =>
      next.ownView evaluation { board with shared := entries } view
  | setLocal key type value next, board, view =>
      next.ownView evaluation (board.setLocal key type value).1
        (view.map (·.insert key ⟨type, value⟩))
  | eraseLocal key next, board, view =>
      next.ownView evaluation (board.eraseLocal key).2 (view.map (·.erase key))
  | replace board next, _, _ => next.ownView evaluation board board.scratch
  | evaluate node next, board, view =>
      let inner := evaluation node board
      (next inner.subject inner.result).ownView evaluation inner.board view

theorem mem_events_run {evaluation : Node η α → Board η → Outcome η α (Node η α) Status}
    {procedure : Procedure η α ρ} {board : Board η} {event : Event η α}
    (member : event ∈ (procedure.run evaluation board).events) :
    (∃ key, event = .log (.strayWrite key)) ∨
      ∃ node start, event ∈ (evaluation node start).events ∧
        (evaluation node start).events <:+: (procedure.run evaluation board).events := by
  induction procedure generalizing board with
  | reply routine value => cases member
  | panic routine cause => cases member
  | read next ih => exact ih board member
  | share entries next ih => exact ih member
  | setLocal key type value next ih =>
      rcases List.mem_append.1 member with stray | later
      · obtain ⟨record, listed, rfl⟩ := List.mem_map.1 stray
        exact .inl ⟨key, congrArg Event.log (Board.eq_strayWrite_of_mem_setLocal listed)⟩
      · rcases ih later with stray | ⟨node, start, inner, part⟩
        · exact .inl stray
        · exact .inr ⟨node, start, inner, List.infix_append_of_infix_right part⟩
  | eraseLocal key next ih => exact ih member
  | replace board next ih => exact ih member
  | evaluate node next ih =>
      rcases List.mem_append.1 member with inner | later
      · exact .inr ⟨node, board, inner, List.infix_append_left⟩
      · rcases ih _ _ later with stray | ⟨node, start, inner, part⟩
        · exact .inl stray
        · exact .inr ⟨node, start, inner, List.infix_append_of_infix_right part⟩

def Returns (evaluation : Node η α → Board η → Outcome η α (Node η α) Status) :
    Procedure η α ρ → Board η → Prop
  | reply .., _ => True
  | panic .., _ => True
  | read next, board => (next board).Returns evaluation board
  | share entries next, board => next.Returns evaluation { board with shared := entries }
  | setLocal key type value next, board =>
      next.Returns evaluation (board.setLocal key type value).1
  | eraseLocal key next, board => next.Returns evaluation (board.eraseLocal key).2
  | replace board next, _ => next.Returns evaluation board
  | evaluate node next, board =>
      let inner := evaluation node board
      (∃ status, inner.result = .ok status) ∧
        (next inner.subject inner.result).Returns evaluation inner.board

theorem scratch_run {evaluation : Node η α → Board η → Outcome η α (Node η α) Status}
    (restored : ∀ node board status, (evaluation node board).result = .ok status →
      (evaluation node board).board.scratch = board.scratch)
    {procedure : Procedure η α ρ} {board : Board η} (returns : procedure.Returns evaluation board) :
    (procedure.run evaluation board).board.scratch =
      procedure.ownView evaluation board board.scratch := by
  induction procedure generalizing board with
  | reply routine value => rfl
  | panic routine cause => rfl
  | read next ih => exact ih board returns
  | share entries next ih => exact ih returns
  | setLocal key type value next ih =>
      have later := ih returns
      rw [Board.scratch_setLocal] at later
      exact later
  | eraseLocal key next ih =>
      have later := ih returns
      rw [Board.scratch_eraseLocal] at later
      exact later
  | replace other next ih => exact ih returns
  | evaluate node next ih =>
      obtain ⟨⟨status, ended⟩, returns⟩ := returns
      -- The evaluation gave the view back, so what follows starts from the same one.
      have later := ih _ _ returns
      rwa [restored node board status ended] at later

end Procedure

structure HostCode (η : Type) [HostTypes η] (α : Type) where
  act : α → Procedure η α Status
  test : α → Procedure η α Bool

namespace HostCode

variable {η : Type} [HostTypes η] {α : Type}

@[reducible] def hostBy (code : HostCode η α)
    (evaluation : Node η α → Board η → Outcome η α (Node η α) Status) : Host η α where
  act routine board := (code.act routine).run evaluation board
  test routine board := (code.test routine).run evaluation board

/-- What an evaluation comes to that a routine performs. It is cut short by a panic if it would be
nested deeper than is allowed. -/
def nested (code : HostCode η α) : Nat → Node η α → Board η → Outcome η α (Node η α) Status
  | 0 => fun node board => ⟨node, board, [], .error (.raised "nested too deep")⟩
  | depth + 1 => @Node.evaluate η _ α (code.hostBy (code.nested depth))

@[reducible] def host (code : HostCode η α) (depth : Nat) : Host η α :=
  code.hostBy (code.nested depth)

end HostCode

/-! ## A small host -/

inductive Counting where
  | count

instance : HostTypes Counting where
  decEq := fun .count .count => .isTrue rfl
  Carrier _ := Nat
  name _ := "usize"

inductive Deed where
  | recite (statuses : List Status)
  | stumble (key : String) (value : Nat)
  | attempt (node : Node Counting Deed)

namespace Deed

def procedure {ρ : Type} (reply : Status → ρ) : Deed → Procedure Counting Deed ρ
  | recite [] => .reply (recite []) (reply .success)
  | recite (status :: rest) => .reply (recite rest) (reply status)
  | stumble key value =>
      .setLocal key (.host .count) value (.panic (stumble key value) (.raised "stumbled"))
  | attempt node => .evaluate node fun node result =>
      .reply (attempt node) (reply (result.toOption.getD .failure))

@[reducible] def code : HostCode Counting Deed where
  act := procedure id
  test := procedure (· == .success)

instance : Host Counting Deed := code.host 1

end Deed

end Behavior
