import Behavior.Node.Basic

/-!
# Calling the host

A routine is called on the board as it stands. It may change the board, it may change itself, it may
evaluate nodes of its own, and it either answers or panics. Whatever it did before a panic stays
done, so an outcome has all its parts in either case.
-/

namespace Behavior

inductive Panic where
  | mismatch (error : TypeMismatch)
  | raised (message : String)
deriving DecidableEq

def Panic.message : Panic → String
  | mismatch error => error.message
  | raised message => message

/-- One call of a routine: what it started from, what it left behind, and how it ended. A test that
holds counts as a success. -/
structure Call (η : Type) [HostTypes η] (α : Type) where
  before : α
  start : Board η
  after : α
  finish : Board η
  answer : Except Panic Status

inductive Event (η : Type) [HostTypes η] (α : Type) where
  | log (record : Record)
  | call (call : Call η α)
  | within (event : Event η α)

structure Outcome (η : Type) [HostTypes η] (α σ ρ : Type) where
  subject : σ
  board : Board η
  events : List (Event η α)
  result : Except Panic ρ

namespace Outcome

variable {η : Type} [HostTypes η] {α σ τ ρ π : Type}

def map (f : σ → τ) (g : ρ → π) (outcome : Outcome η α σ ρ) : Outcome η α τ π :=
  ⟨f outcome.subject, outcome.board, outcome.events, outcome.result.map g⟩

end Outcome

class Host (η : Type) [HostTypes η] (α : Type) where
  act : α → Board η → Outcome η α α Status
  test : α → Board η → Outcome η α α Bool

/-- Calls a routine with the given private values in view. When it returns, the view that it leaves
becomes the private values, and the board gets back the view it had. After a panic neither happens:
there are no private values any more, and the view stays on the board as the routine left it. -/
def Host.call {η : Type} [HostTypes η] {α ρ : Type} (meaning : α → Board η → Outcome η α α ρ)
    (status : ρ → Status) (routine : α) (scratch : Entries η) (board : Board η) :
    Outcome η α (α × Entries η) Status :=
  let start := { board with scratch := some scratch }
  let reply := meaning routine start
  let answer := reply.result.map status
  let events :=
    .call ⟨routine, start, reply.subject, reply.board, answer⟩ :: reply.events.map .within
  match answer with
  | .ok status =>
      { subject := (reply.subject, reply.board.scratch.getD ∅)
        board := { reply.board with scratch := board.scratch }
        events
        result := .ok status }
  | .error panic =>
      { subject := (reply.subject, ∅)
        board := reply.board
        events
        result := .error panic }

end Behavior
