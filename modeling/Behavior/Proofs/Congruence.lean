import Behavior.Proofs.Matching
import Behavior.Proofs.Procedure
import Behavior.Proofs.Session

namespace Behavior

variable {η : Type} [HostTypes η] {α : Type}

def Bisimulation [Host η α] (related : Node η α → Node η α → Prop) : Prop :=
  ∀ node other, related node other →
    ∀ board, Matches related (node.evaluate board) (other.evaluate board)

def Equivalent [Host η α] (node other : Node η α) : Prop :=
  ∃ related, Bisimulation related ∧ related node other

theorem Bisimulation.comp [Host η α] {one two : Node η α → Node η α → Prop}
    (first : Bisimulation one) (second : Bisimulation two) :
    Bisimulation (Relation.Comp one two) := by
  rintro node third ⟨other, here, there⟩ board
  exact (first node other here board).trans (second other third there board)

/-- A tree with one place left open, around which any state of evaluation is possible. -/
inductive Context (η : Type) [HostTypes η] (α : Type) where
  | hole
  | composite (info : Info η) (rule : Composite) (before : List (Node η α))
      (inner : Context η α) (after : List (Node η α))
  | decorator (info : Info η) (rule : Decorator) (inner : Context η α)

def Context.fill (node : Node η α) : Context η α → Node η α
  | hole => node
  | composite info rule before inner after =>
      .composite info rule (before ++ inner.fill node :: after)
  | decorator info rule inner => .decorator info rule (inner.fill node)

/-- The results of ticks and the boards that they leave, if the host edits the board in the given
way before each of them. Panics are caught. -/
def Tree.course [Host η α] (tree : Tree η α) :
    List (Board η → Board η) → List (Except Panic Status × Board η)
  | [] => []
  | edit :: edits =>
      let outcome := { tree with board := edit tree.board }.tick
      (outcome.result, outcome.subject.board) :: outcome.subject.course edits

namespace Equivalent

variable [Host η α] {node other third : Node η α}

theorem bisimulation : Bisimulation (Equivalent : Node η α → Node η α → Prop) := by
  rintro node other ⟨related, bisimulation, start⟩ board
  exact (bisimulation node other start board).imp fun _ _ later => ⟨related, bisimulation, later⟩

theorem evaluate (equivalent : Equivalent node other) (board : Board η) :
    Matches Equivalent (node.evaluate board) (other.evaluate board) :=
  bisimulation node other equivalent board

theorem refl (node : Node η α) : Equivalent node node := by
  refine ⟨Eq, ?_, rfl⟩
  rintro node _ rfl board
  exact ⟨rfl, rfl, rfl, rfl⟩

theorem symm (equivalent : Equivalent node other) : Equivalent other node := by
  refine ⟨fun other node => Equivalent node other, ?_, equivalent⟩
  intro other node equivalent board
  exact (equivalent.evaluate board).symm

theorem trans (first : Equivalent node other) (second : Equivalent other third) :
    Equivalent node third := by
  exact ⟨_, bisimulation.comp bisimulation, other, first, second⟩

theorem composite {children others : List (Node η α)}
    (equivalent : List.Forall₂ Equivalent children others) (info info' : Info η)
    (rule : Composite) :
    Equivalent (.composite info rule children) (.composite info' rule others) := by
  refine ⟨fun node other => ∃ info info' children others, List.Forall₂ Equivalent children others ∧
    node = .composite info rule children ∧ other = .composite info' rule others, ?_,
    info, info', children, others, equivalent, rfl, rfl⟩
  rintro _ _ ⟨info, info', children, others, equivalent, rfl, rfl⟩ board
  have alike : List.Forall₂ (fun node other => Equivalent node other ∧
      ∀ board, Matches Equivalent (node.evaluate board) (other.evaluate board)) children others :=
    equivalent.imp fun _ _ same => ⟨same, same.evaluate⟩
  refine ((Matches.evaluateUntil alike board).composite info info').imp ?_
  rintro _ _ ⟨result, children, others, equivalent, rfl, rfl⟩
  exact ⟨_, _, children, others, equivalent, rfl, rfl⟩

theorem decorator {child other : Node η α} (equivalent : Equivalent child other)
    (info info' : Info η) (rule : Decorator) :
    Equivalent (.decorator info rule child) (.decorator info' rule other) := by
  -- The rule changes as a repeater counts, but it is always the same one on both sides.
  refine ⟨fun node other => ∃ info info' rule child child', Equivalent child child' ∧
    node = .decorator info rule child ∧ other = .decorator info' rule child', ?_,
    info, info', rule, child, other, equivalent, rfl, rfl⟩
  rintro _ _ ⟨info, info', rule, child, child', equivalent, rfl, rfl⟩ board
  refine ((equivalent.evaluate board).decorator info info' rule).imp ?_
  rintro _ _ ⟨result, advanced, child, child', equivalent, rfl, rfl⟩
  exact ⟨_, _, advanced, child, child', equivalent, rfl, rfl⟩

theorem fill (equivalent : Equivalent node other) (context : Context η α) :
    Equivalent (context.fill node) (context.fill other) := by
  induction context with
  | hole => exact equivalent
  | composite info rule before inner after ih =>
      have same (nodes : List (Node η α)) : List.Forall₂ Equivalent nodes nodes :=
        List.forall₂_same.2 fun node _ => refl node
      exact composite (List.rel_append (same before) (.cons ih (same after))) info info rule
  | decorator info rule inner ih => exact ih.decorator info info rule

theorem plant (node : Node η α) (path : String) : Equivalent node (node.plant path).subject := by
  refine ⟨fun node other => node.relabel Info.unplaced Leaf.direct id =
    other.relabel Info.unplaced Leaf.direct id, ?_, ?_⟩
  · exact fun node other same => Node.matches_of_relabel_eq keepsValues_unplaced same
  · exact (Node.relabel_plant (fun _ _ => rfl) node path).symm

theorem course_eq {tree tree' : Tree η α} (equivalent : Equivalent tree.root tree'.root)
    (board : tree.board = tree'.board) (edits : List (Board η → Board η)) :
    tree.course edits = tree'.course edits := by
  induction edits generalizing tree tree' with
  | nil => rfl
  | cons edit edits ih =>
      have next := equivalent.evaluate (edit tree.board)
      simp only [Tree.course, Tree.result_tick, Tree.board_tick]
      rw [← board, next.result, next.board]
      congr 1
      exact ih next.subject next.board

end Equivalent

/-- Nodes that are equivalent are so in every place of every tree. Whether the one or the other is
planted there, all ticks come to the same results and leave the same boards. -/
theorem equivalent_fill [Host η α] {node other : Node η α} (equivalent : Equivalent node other)
    (context : Context η α) :
    Equivalent (context.fill node) (context.fill other) ∧
      ∀ (board : Board η) (edits : List (Board η → Board η)),
        (Tree.build (context.fill node) board).1.course edits =
          (Tree.build (context.fill other) board).1.course edits := by
  have filled := equivalent.fill context
  have planted (board : Board η) : Equivalent (Tree.build (context.fill node) board).1.root
      (Tree.build (context.fill other) board).1.root :=
    ((Equivalent.plant _ "root").symm.trans filled).trans (Equivalent.plant _ "root")
  exact ⟨filled, fun board => Equivalent.course_eq (planted board) rfl⟩

theorem Equivalent.inverter_inverter [Host η α] (node : Node η α) :
    Equivalent node.inverter.inverter node := by
  refine ⟨fun double node => ∃ info info',
    double = .decorator info .inverter (.decorator info' .inverter node), ?_, {}, {}, rfl⟩
  rintro _ node ⟨info, info', rfl⟩ board
  simp only [Node.evaluate_decorator_eq]
  cases ended : (node.evaluate board).result with
  | error panic => exact ⟨ended.symm, rfl, by simp, _, _, rfl⟩
  | ok status => exact ⟨by simp [ended, Except.map, Decorator.judge], rfl, by simp, _, _, rfl⟩

def beat : Context Counting Deed :=
  .composite {} .sequence [.action (.recite [.success, .running])]
    (.decorator {} (.repeater (.times 2) 1) .hole) [.constant .success]

theorem equivalent_fill_beat :
    let watch : Node Counting Deed := .action (.recite [.failure, .running])
    Equivalent watch.inverter.inverter watch ∧
      ((Tree.build (beat.fill watch) ∅).1.course [id, id, id]).map (·.1) =
        [.ok .failure, .ok .running, .ok .running] ∧
      Equivalent (beat.fill watch.inverter.inverter) (beat.fill watch) ∧
      ∀ (board : Board Counting) (edits : List (Board Counting → Board Counting)),
        (Tree.build (beat.fill watch.inverter.inverter) board).1.course edits =
          (Tree.build (beat.fill watch) board).1.course edits := by
  intro watch
  have equivalent : Equivalent watch.inverter.inverter watch := .inverter_inverter watch
  exact ⟨equivalent, rfl, equivalent_fill equivalent beat⟩

end Behavior
