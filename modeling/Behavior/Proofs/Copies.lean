import Behavior.Proofs.Casting

namespace Behavior

variable {η : Type} [HostTypes η] {α : Type}

/-- Whether the calls lead from the routine to the last one, each starting with what the call before
it left. -/
inductive Evolves : α → List (Call η α) → α → Prop where
  | nil (routine : α) : Evolves routine [] routine
  | cons (call : Call η α) {calls : List (Call η α)} {last : α} :
      Evolves call.after calls last → Evolves call.before (call :: calls) last

namespace Evolves

theorem append {first middle last : α} {calls others : List (Call η α)}
    (before : Evolves first calls middle) (after : Evolves middle others last) :
    Evolves first (calls ++ others) last := by
  induction before with
  | nil => exact after
  | cons call _ ih => exact .cons call (ih after)

end Evolves

namespace Leaf

def routine? : Leaf α → Option α
  | action _ (some (.routine routine)) => some routine
  | condition _ test => test
  | action _ (some (.constant _)) | action _ none => none

@[simp] theorem routine?_rebind (tip : Leaf α) (routine : α) :
    (tip.rebind routine).routine? = some routine := by
  cases tip <;> rfl

@[simp] theorem blank_rebind (tip : Leaf α) (routine : α) :
    (tip.rebind routine).blank = tip.blank := by
  cases tip <;> rfl

theorem rebind_of_routine? {tip : Leaf α} {routine : α} (bound : tip.routine? = some routine) :
    tip.rebind routine = tip := by
  cases tip with
  | action slot callback =>
      cases callback with
      | none => cases bound
      | some callback =>
          cases callback with
          | constant status => cases bound
          | routine own =>
              obtain rfl : own = routine := Option.some.inj bound
              rfl
  | condition slot test =>
      obtain rfl : test = some routine := bound
      rfl

theorem routine?_of_call? [Host η α] {tip : Leaf α} {start : Board η} {call : Call η α}
    {inner : List (Event η α)} (called : tip.call? start = some (call, inner)) :
    tip.routine? = some call.before := by
  cases tip with
  | action slot callback =>
      cases callback with
      | none => cases called
      | some callback =>
          cases callback with
          | constant status => cases called
          | routine routine =>
              obtain ⟨rfl, -⟩ := Prod.mk.inj (Option.some.inj called)
              rfl
  | condition slot test =>
      cases test with
      | none => cases called
      | some test =>
          obtain ⟨rfl, -⟩ := Prod.mk.inj (Option.some.inj called)
          rfl

end Leaf

theorem Node.routine?_of_callAt? [Host η α] {node : Node η α} {address : List Nat} {info : Info η}
    {tip : Leaf α} (located : node.at? address = some (.leaf info tip)) {board : Board η}
    {call : Call η α} (called : node.callAt? board address = some call) :
    tip.routine? = some call.before := by
  obtain ⟨⟨sub, start⟩, reached, made⟩ := Option.bind_eq_some_iff.1 called
  obtain rfl : sub = .leaf info tip :=
    Option.some.inj ((at?_of_reach? reached).1.symm.trans located)
  have settled := (Visit.call?_of_leaf address info tip start).symm.trans made
  obtain ⟨⟨own, inner⟩, found, rfl⟩ := Option.map_eq_some_iff.1 settled
  exact Leaf.routine?_of_call? found

def Operation.part? : Operation η α → Option (Part α)
  | bindAction slot routine => some ⟨.action, slot, routine⟩
  | bindCondition slot test => some ⟨.condition, slot, test⟩
  | tick | edit _ | evaluate _ | plant _ => none

@[simp] theorem Operation.part?_operation (part : Part α) :
    (part.operation : Operation η α).part? = some part := by
  obtain ⟨kind, slot, routine⟩ := part
  cases kind <;> rfl

def bindings (operations : List (Operation η α)) : List (Part α) :=
  operations.filterMap Operation.part?

@[simp] theorem bindings_map_operation (parts : List (Part α)) :
    bindings (parts.map Part.operation : List (Operation η α)) = parts := by
  simp [bindings, List.filterMap_map]

namespace Tree

variable [Host η α]

def callsOn (tree : Tree η α) (address : List Nat) : Operation η α → List (Call η α)
  | .tick => (tree.root.callAt? tree.board address).toList
  | .bindAction .. | .bindCondition .. | .edit _ | .evaluate _ | .plant _ => []

def callsAt (tree : Tree η α) (address : List Nat) : List (Operation η α) → List (Call η α)
  | [] => []
  | operation :: rest =>
      tree.callsOn address operation ++ (tree.perform operation).callsAt address rest

section
variable {tree : Tree η α} {address : List Nat} {info : Info η} {tip : Leaf α} {routine : α}
  (located : tree.root.at? address = some (.leaf info tip)) (bound : tip.routine? = some routine)
include located bound

theorem evolves_tick :
    ∃ info' next, tree.tick.subject.root.at? address = some (.leaf info' (tip.rebind next)) ∧
      Evolves routine (tree.callsOn address .tick) next := by
  rcases Node.at?_evaluate_of_leaf located tree.board with
    ⟨silent, info', after, -⟩ | ⟨call, start, info', called, -, after, -⟩
  · refine ⟨info', routine, ?_, ?_⟩
    · rw [Leaf.rebind_of_routine? bound]
      exact after
    · rw [callsOn, silent]
      exact .nil routine
  · refine ⟨info', call.after, after, ?_⟩
    obtain rfl : call.before = routine :=
      Option.some.inj ((Node.routine?_of_callAt? located called).symm.trans bound)
    rw [callsOn, called]
    exact .cons call (.nil call.after)

theorem evolves_part {part : Part α} (apart : part.fits tip = false) :
    ∃ info' next, (tree.perform part.operation).root.at? address =
        some (.leaf info' (tip.rebind next)) ∧
      Evolves routine ([] : List (Call η α)) next := by
  refine ⟨info, routine, ?_, .nil routine⟩
  have spared : part.install tip = tip := by simp [Part.install, apart]
  rw [tree.perform_operation, Node.at?_relabel, located, Leaf.rebind_of_routine? bound]
  exact congrArg (some <| Node.leaf info ·) spared

theorem evolves_perform (operation : Operation η α)
    (apart : ∀ part ∈ operation.part?, part.fits tip = false) :
    ∃ info' next, (tree.perform operation).root.at? address =
        some (.leaf info' (tip.rebind next)) ∧
      Evolves routine (tree.callsOn address operation) next := by
  cases operation with
  | tick => exact evolves_tick located bound
  | bindAction slot routine => exact evolves_part located bound (apart _ rfl)
  | bindCondition slot test => exact evolves_part located bound (apart _ rfl)
  | edit change | evaluate board | plant board =>
      refine ⟨info, routine, ?_, .nil routine⟩
      rw [Leaf.rebind_of_routine? bound]
      exact located

theorem evolves_after (operations : List (Operation η α))
    (apart : ∀ part ∈ bindings operations, part.fits tip = false) :
    ∃ info' last, (tree.after operations).root.at? address =
        some (.leaf info' (tip.rebind last)) ∧
      Evolves routine (tree.callsAt address operations) last := by
  induction operations generalizing tree info tip routine with
  | nil =>
      refine ⟨info, routine, ?_, .nil routine⟩
      rw [Leaf.rebind_of_routine? bound]
      exact located
  | cons operation operations ih =>
      have first : ∀ part ∈ operation.part?, part.fits tip = false := by
        intro part same
        exact apart part (List.mem_filterMap.2 ⟨operation, List.mem_cons_self, same⟩)
      -- A call leaves another routine, but the leaf is taken by the same bindings as before.
      have others : ∀ next, ∀ part ∈ bindings operations, part.fits (tip.rebind next) = false := by
        intro next part member
        rw [Part.fits_of_blank_eq (tip.blank_rebind next)]
        obtain ⟨later, listed, same⟩ := List.mem_filterMap.1 member
        exact apart part (List.mem_filterMap.2 ⟨later, List.mem_cons_of_mem _ listed, same⟩)
      obtain ⟨info', next, found, here⟩ := evolves_perform located bound operation first
      obtain ⟨info'', last, ending, there⟩ := ih found (tip.routine?_rebind next) (others next)
      rw [Leaf.rebind_rebind] at ending
      exact ⟨info'', last, ending, here.append there⟩

end

end Tree

end Behavior
