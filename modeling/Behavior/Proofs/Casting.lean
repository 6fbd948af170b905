import Behavior.Proofs.Calls
import Behavior.Proofs.Matching
import Behavior.Proofs.Schedule

namespace Behavior

variable {η : Type} [HostTypes η] {α : Type}

/-- One thing that befell a leaf: it was bound to a routine, or it called the one it had. -/
inductive Chapter (η : Type) [HostTypes η] (α : Type) where
  | bound (routine : α)
  | called (call : Call η α)

namespace Chapter

def routine : Chapter η α → α
  | bound routine => routine
  | called call => call.after

def entries (before : Entries η) : Chapter η α → Entries η
  | bound _ => before
  | called call => call.remains

end Chapter

/-- The leaf without slots that stands for one made like this, going by what befell it. -/
def Leaf.cast (made : Leaf α) (chapters : List (Chapter η α)) : Leaf α :=
  match chapters.getLast? with
  | some chapter => (made.rebind chapter.routine).direct
  | none => made.direct

def gathered (start : Entries η) (chapters : List (Chapter η α)) : Entries η :=
  chapters.foldl Chapter.entries start

structure Part (α : Type) where
  kind : LeafKind
  slot : String
  routine : α

namespace Part

def operation : Part α → Operation η α
  | ⟨.action, slot, routine⟩ => .bindAction slot routine
  | ⟨.condition, slot, routine⟩ => .bindCondition slot routine

def fits (part : Part α) (tip : Leaf α) : Bool :=
  tip.kind = part.kind && tip.slot = some part.slot

def install (part : Part α) (tip : Leaf α) : Leaf α :=
  if part.fits tip then tip.rebind part.routine else tip

def installAll (parts : List (Part α)) (tip : Leaf α) : Leaf α :=
  parts.foldl (fun tip part => part.install tip) tip

end Part

def Leaf.settled (parts : List (Part α)) (tip : Leaf α) : Leaf α :=
  match (parts.filter (·.fits tip)).getLast? with
  | some part => tip.rebind part.routine
  | none => tip

def Leaf.equip (parts : List (Part α)) (tip : Leaf α) : Leaf α :=
  match (parts.filter (·.fits tip)).getLast? with
  | some part => (tip.rebind part.routine).direct
  | none => tip

@[simp] theorem Leaf.call?_direct [Host η α] (tip : Leaf α) (start : Board η) :
    tip.direct.call? start = tip.call? start := by
  cases tip with
  | action slot callback =>
      cases callback with
      | none => rfl
      | some callback => cases callback <;> rfl
  | condition slot test => cases test <;> rfl

@[simp] theorem Leaf.rebind_rebind (tip : Leaf α) (first second : α) :
    (tip.rebind first).rebind second = tip.rebind second := by
  cases tip <;> rfl

theorem Leaf.direct_rebind_of_blank_eq {tip origin : Leaf α} (alike : tip.blank = origin.blank)
    (routine : α) : (tip.rebind routine).direct = (origin.rebind routine).direct := by
  cases tip <;> cases origin <;> cases alike <;> rfl

theorem Part.fits_of_blank_eq {tip origin : Leaf α} (alike : tip.blank = origin.blank)
    (part : Part α) : part.fits tip = part.fits origin := by
  cases tip <;> cases origin <;> cases alike <;> rfl

theorem Part.blank_install (part : Part α) (tip : Leaf α) :
    (part.install tip).blank = tip.blank := by
  unfold install
  split
  · cases tip <;> rfl
  · rfl

theorem Leaf.rebind_direct [Host η α] {tip : Leaf α} {start : Board η}
    (calls : (tip.direct.call? start).isSome) (routine : α) :
    tip.direct.rebind routine = (tip.rebind routine).direct := by
  cases tip with
  | action slot callback =>
      cases callback with
      | none => cases calls
      | some callback => rfl
  | condition slot test =>
      cases test with
      | none => cases calls
      | some test => rfl

theorem Leaf.cast_concat (made : Leaf α) (chapters : List (Chapter η α)) (chapter : Chapter η α) :
    made.cast (chapters ++ [chapter]) = (made.rebind chapter.routine).direct := by
  simp [cast]

theorem Leaf.cast_concat_called [Host η α] {made : Leaf α} {chapters : List (Chapter η α)}
    {start : Board η} (calls : ((made.cast chapters).call? start).isSome) (call : Call η α) :
    made.cast (chapters ++ [.called call]) = (made.cast chapters).rebind call.after := by
  rw [cast_concat]
  unfold cast at calls ⊢
  cases last : chapters.getLast? with
  | none =>
      rw [last] at calls
      exact (rebind_direct calls call.after).symm
  | some chapter =>
      rw [last] at calls
      have bound := rebind_direct calls call.after
      rw [rebind_rebind] at bound
      exact bound.symm

theorem gathered_concat (start : Entries η) (chapters : List (Chapter η α))
    (chapter : Chapter η α) :
    gathered start (chapters ++ [chapter]) = chapter.entries (gathered start chapters) := by
  simp [gathered]

theorem Node.subject_conclude_of_leaf {outcome : Outcome η α (Node η α) Status} {info : Info η}
    {tip : Leaf α} (leaf : outcome.subject = .leaf info tip) :
    ∃ info', (conclude outcome).subject = .leaf info' tip ∧ info'.scratch = info.scratch := by
  cases ended : outcome.result with
  | error panic =>
      rw [conclude_of_error ended]
      exact ⟨info, leaf, rfl⟩
  | ok status =>
      rw [conclude_of_ok ended, leaf]
      exact ⟨{ info with status := some status }, rfl, rfl⟩

theorem Node.at?_evaluate_of_leaf [Host η α] {node : Node η α} {address : List Nat}
    {info : Info η} {tip : Leaf α} (located : node.at? address = some (.leaf info tip))
    (board : Board η) :
    (node.callAt? board address = none ∧ ∃ info',
        (node.evaluate board).subject.at? address = some (.leaf info' tip) ∧
          info'.scratch = info.scratch) ∨
      ∃ (call : Call η α) (start : Board η) (info' : Info η),
        node.callAt? board address = some call ∧ (tip.call? start).isSome ∧
          (node.evaluate board).subject.at? address = some (.leaf info' (tip.rebind call.after)) ∧
            info'.scratch = call.remains := by
  unfold callAt?
  cases reached : node.reach? board address with
  | none =>
      refine .inl ⟨rfl, info, ?_, rfl⟩
      rw [at?_of_reach?_eq_none reached, located]
  | some pair =>
      obtain ⟨sub, start⟩ := pair
      obtain ⟨before, after⟩ := at?_of_reach? reached
      obtain rfl : sub = .leaf info tip := by
        rw [before] at located
        exact Option.some.inj located
      rw [after, evaluate_leaf]
      have called := Visit.call?_of_leaf address info tip start
      cases made : tip.call? { start with scratch := some info.scratch } with
      | none =>
          rw [made] at called
          have same := evaluateLeaf_of_call?_eq_none made
          obtain ⟨info', subject, scratch⟩ := subject_conclude_of_leaf same
          exact .inl ⟨called, info', congrArg some subject, scratch⟩
      | some pair =>
          obtain ⟨call, inner⟩ := pair
          rw [made] at called
          have settled := (congrArg (·.subject) (evaluateLeaf_of_call? made)).trans
            Call.subject_settle
          obtain ⟨info', subject, scratch⟩ := subject_conclude_of_leaf settled
          exact .inr ⟨call, _, info', called, by rw [made]; rfl, congrArg some subject, scratch⟩

namespace Part

def replace? : Part α → Leaf α → Option (Leaf α)
  | ⟨.action, slot, routine⟩, tip => tip.bindAction? slot routine
  | ⟨.condition, slot, test⟩, tip => tip.bindCondition? slot test

theorem replace?_eq (part : Part α) (tip : Leaf α) :
    part.replace? tip = if part.fits tip then some (tip.rebind part.routine) else none := by
  obtain ⟨kind, slot, routine⟩ := part
  cases tip with
  | action own callback =>
      cases kind with
      | action =>
          cases own with
          | none => rfl
          | some own =>
              by_cases same : own = slot <;>
                simp [replace?, Leaf.bindAction?, fits, same, Leaf.kind, Leaf.slot, Leaf.rebind]
      | condition => rfl
  | condition own test =>
      cases kind with
      | action => rfl
      | condition =>
          cases own with
          | none => rfl
          | some own =>
              by_cases same : own = slot <;>
                simp [replace?, Leaf.bindCondition?, fits, same, Leaf.kind, Leaf.slot, Leaf.rebind]

theorem getD_replace? (part : Part α) (tip : Leaf α) :
    (part.replace? tip).getD tip = part.install tip := by
  rw [replace?_eq, install]
  split <;> rfl

end Part

namespace Tree

def bind (tree : Tree η α) : Part α → Except BindError (Nat × Tree η α)
  | ⟨.action, slot, routine⟩ => tree.bindAction slot routine
  | ⟨.condition, slot, test⟩ => tree.bindCondition slot test

theorem afterBinding_bind (tree : Tree η α) (part : Part α) :
    tree.afterBinding (tree.bind part) =
      { tree with root := tree.root.relabel id part.install id } := by
  have replaced : tree.afterBinding (tree.bind part) =
      { tree with root := (tree.root.replaceLeaves part.replace?).2 } := by
    obtain ⟨kind, slot, routine⟩ := part
    cases kind with
    | action => exact tree.afterBinding_bindAction slot routine
    | condition => exact tree.afterBinding_bindCondition slot routine
  rw [replaced, Node.replaceLeaves_eq_relabel]
  simp only [Part.getD_replace?]

theorem perform_operation [Host η α] (tree : Tree η α) (part : Part α) :
    tree.perform part.operation = { tree with root := tree.root.relabel id part.install id } := by
  have bound : tree.perform part.operation = tree.afterBinding (tree.bind part) := by
    obtain ⟨kind, slot, routine⟩ := part
    cases kind <;> rfl
  rw [bound, afterBinding_bind]

end Tree

@[simp] theorem Leaf.direct_direct (tip : Leaf α) : tip.direct.direct = tip.direct := by
  cases tip with
  | action slot callback => cases callback <;> rfl
  | condition slot test => cases test <;> rfl

theorem Part.installAll_eq (parts : List (Part α)) (tip : Leaf α) :
    installAll parts tip = tip.settled parts := by
  induction parts generalizing tip with
  | nil => rfl
  | cons part parts ih =>
      -- What the first part does to the leaf makes no difference to what the later ones do.
      have fits (later : Part α) : later.fits (part.install tip) = later.fits tip :=
        fits_of_blank_eq (part.blank_install tip) later
      have rebound (routine : α) : (part.install tip).rebind routine = tip.rebind routine := by
        unfold install
        split
        · rw [Leaf.rebind_rebind]
        · rfl
      show installAll parts (part.install tip) = tip.settled (part :: parts)
      rw [ih]
      simp only [Leaf.settled, fits, rebound, List.filter_cons]
      cases last : (parts.filter (·.fits tip)).getLast? with
      | some later => cases part.fits tip <;> simp [List.getLast?_cons, last]
      | none => cases fit : part.fits tip <;> simp [List.getLast?_cons, last, install, fit]

theorem Part.direct_installAll (parts : List (Part α)) (tip : Leaf α) :
    (installAll parts tip).direct = (tip.equip parts).direct := by
  rw [installAll_eq, Leaf.settled, Leaf.equip]
  cases (parts.filter (·.fits tip)).getLast? with
  | some part => exact (Leaf.direct_direct _).symm
  | none => rfl

end Behavior
