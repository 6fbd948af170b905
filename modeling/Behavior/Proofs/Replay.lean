import Behavior.Proofs.Calls
import Behavior.Proofs.Grafting
import Behavior.Proofs.Procedure

namespace Behavior

variable {η : Type} [HostTypes η] {α : Type}

structure Post (η : Type) [HostTypes η] (α : Type) where
  address : List Nat
  info : Info η
  tip : Leaf α

def Visit.post? (visit : Visit η α) : Option (Post η α) :=
  match visit.node with
  | .leaf info tip => if tip.isUnbound then none else some ⟨visit.address, info, tip⟩
  | .composite .. => none
  | .decorator .. => none

section
variable [Host η α]

def runAll : List (Post η α) → Entries η → List (Call η α) × Entries η
  | [], shared => ([], shared)
  | post :: rest, shared =>
      match post.tip.call? ⟨shared, some post.info.scratch⟩ with
      | some (call, _) => (runAll rest call.finish.shared).map (call :: ·) id
      | none => runAll rest shared

namespace Node

def posts (node : Node η α) (board : Board η) : List (Post η α) :=
  (node.visits board).filterMap Visit.post?

def statusAt? (node : Node η α) (board : Board η) (address : List Nat) : Option Status :=
  (node.reach? board address).bind fun (sub, start) => (sub.evaluate start).result.toOption

/-- A leaf that always comes to the same for each that is evaluated, and any other for the rest. -/
def repeating (node : Node η α) (board : Board η) (others : Graft η α) : Graft η α :=
  fun address info tip =>
    match node.statusAt? board address with
    | some status => ({}, .action none (some (.constant status)))
    | none => others address info tip

end Node

end

theorem Visit.of_post? {visit : Visit η α} {post : Post η α} (told : visit.post? = some post) :
    visit.address = post.address ∧ visit.node = .leaf post.info post.tip ∧
      post.tip.isUnbound = false := by
  obtain ⟨address, node, start⟩ := visit
  cases node with
  | leaf info tip =>
      cases unbound : tip.isUnbound with
      | true => simp [post?, unbound] at told
      | false =>
          obtain rfl : ⟨address, info, tip⟩ = post := by simpa [post?, unbound] using told
          exact ⟨rfl, rfl, unbound⟩
  | composite info rule children => cases told
  | decorator info rule child => cases told

theorem EndsBefore.lt {node sub : Node η α} {first second : List Nat} {info : Info η}
    {tip : Leaf α} (before : EndsBefore first second) (one : node.at? first = some sub)
    (two : node.at? second = some (.leaf info tip)) : first < second := by
  induction first generalizing node second with
  | nil => exact before.elim
  | cons index rest ih =>
      cases second with
      | nil =>
          obtain rfl : node = .leaf info tip := Option.some.inj two
          cases one
      | cons index' rest' =>
          rw [List.cons_lt_cons_iff]
          rcases before with less | ⟨rfl, before⟩
          · exact .inl less
          · obtain ⟨child, found, one⟩ := Node.at?_cons_eq_some_iff.1 one
            obtain ⟨child', found', two⟩ := Node.at?_cons_eq_some_iff.1 two
            obtain rfl : child = child' := Option.some.inj (found.symm.trans found')
            exact .inr ⟨rfl, ih before one two⟩

section
variable [Host η α]

theorem Node.mem_posts {node : Node η α} {board : Board η} {post : Post η α}
    (member : post ∈ node.posts board) :
    node.at? post.address = some (.leaf post.info post.tip) ∧ post.tip.isUnbound = false := by
  obtain ⟨visit, visited, told⟩ := List.mem_filterMap.1 member
  obtain ⟨address, leaf, bound⟩ := Visit.of_post? told
  have located := (at?_of_reach? (mem_visits.1 visited)).1
  rw [address, leaf] at located
  exact ⟨located, bound⟩

theorem Node.pairwise_posts (node : Node η α) (board : Board η) :
    ((node.posts board).map (·.address)).Pairwise (· < ·) := by
  rw [posts, List.pairwise_map, List.pairwise_filterMap]
  refine (pairwise_visits node board).imp_of_mem ?_
  intro first second visited visited' before post told post' told'
  obtain ⟨address, -, -⟩ := Visit.of_post? told
  obtain ⟨address', leaf, -⟩ := Visit.of_post? told'
  have one := (at?_of_reach? (mem_visits.1 visited)).1
  have two := (at?_of_reach? (mem_visits.1 visited')).1
  rw [leaf] at two
  rw [← address, ← address']
  exact before.lt one two

theorem Threads.runAll {first last : Board η} {visits : List (Visit η α)}
    (threads : Threads first visits last) (leaves : ∀ visit ∈ visits, visit.isLeaf = true) :
    Behavior.runAll (visits.filterMap Visit.post?) first.shared =
      (visits.filterMap Visit.call?, last.shared) := by
  induction visits generalizing first with
  | nil =>
      obtain rfl : first = last := threads
      rfl
  | cons visit rest ih =>
      obtain ⟨rfl, later⟩ := threads
      obtain ⟨leaf, others⟩ := List.forall_mem_cons.1 leaves
      have next := ih later others
      obtain ⟨address, node, start⟩ := visit
      cases node with
      | composite info rule children => cases leaf
      | decorator info rule child => cases leaf
      | leaf info tip =>
          have called := Visit.call?_of_leaf address info tip start
          have post : Visit.post? ⟨address, .leaf info tip, start⟩ =
            if tip.isUnbound then none else some ⟨address, info, tip⟩ := rfl
          cases made : tip.call? { start with scratch := some info.scratch } with
          | none =>
              rw [made] at called
              rw [(Visit.board_of_call?_eq_none leaf called).1] at next
              rw [List.filterMap_cons_none called]
              -- Such a leaf has no callback, or one that always comes to the same.
              cases unbound : tip.isUnbound with
              | true =>
                  rw [unbound] at post
                  rwa [List.filterMap_cons_none post]
              | false =>
                  rw [unbound] at post
                  rw [List.filterMap_cons_some post]
                  simp only [Behavior.runAll, made]
                  exact next
          | some pair =>
              obtain ⟨call, inner⟩ := pair
              rw [made] at called
              rw [Visit.shared_of_call? called] at next
              rw [(Leaf.call?_spec made).1] at post
              rw [List.filterMap_cons_some called, List.filterMap_cons_some post]
              simp only [Behavior.runAll, made, next]
              rfl

theorem Node.runAll_posts (node : Node η α) (board : Board η) :
    runAll (node.posts board) board.shared =
      ((node.evaluate board).events.filterMap Event.call?, (node.evaluate board).board.shared) := by
  have leaves : (node.leafVisits board).filterMap Visit.post? = node.posts board := by
    rw [leafVisits, List.filterMap_filter, posts]
    apply List.filterMap_congr
    intro visit _
    obtain ⟨address, sub, start⟩ := visit
    cases sub <;> rfl
  rw [filterMap_call?_events, ← filterMap_call?_leafVisits, ← leaves]
  exact (node.threads_leafVisits board).runAll fun visit member => (List.mem_filter.1 member).2

def Visit.told (visit : Visit η α) : List Nat × Except Panic Status :=
  (visit.address, visit.outcome.result)

def Repeats (graft : Graft η α) (visits : List (Visit η α)) : Prop :=
  ∀ visit ∈ visits, visit.isLeaf = true → ∀ status, visit.outcome.result = .ok status →
    ∀ info tip, (graft visit.address info tip).2 = .action none (some (.constant status))

theorem Repeats.below {graft : Graft η α} {index : Nat} {visits : List (Visit η α)}
    (repeats : Repeats graft (visits.map (·.under index))) :
    Repeats (graft.below index) visits := by
  intro visit member leaf status ended info tip
  exact repeats (visit.under index) (List.mem_map_of_mem member) leaf status ended info tip

theorem Repeats.append {graft : Graft η α} {first second : List (Visit η α)}
    (repeats : Repeats graft (first ++ second)) : Repeats graft first ∧ Repeats graft second :=
  ⟨fun visit member => repeats visit (List.mem_append_left _ member),
    fun visit member => repeats visit (List.mem_append_right _ member)⟩

structure SameWay (node other : Node η α) (board board' : Board η) : Prop where
  result : (other.evaluate board').result = (node.evaluate board).result
  told : (other.visits board').map Visit.told = (node.visits board).map Visit.told

theorem SameWay.under {node other : Node η α} {board board' : Board η}
    (same : SameWay node other board board') (index : Nat) :
    ((other.visits board').map (·.under index)).map Visit.told =
      ((node.visits board).map (·.under index)).map Visit.told := by
  have told : (Visit.told : Visit η α → _) ∘ (·.under index) =
    (Prod.map (index :: ·) id) ∘ Visit.told := rfl
  rw [List.map_map, List.map_map, told, ← List.map_map, same.told, List.map_map]

theorem SameWay.of_below {node other : Node η α} {board board' : Board η}
    {below below' : List (Visit η α)} (here : node.visits board = below ++ [⟨[], node, board⟩])
    (there : other.visits board' = below' ++ [⟨[], other, board'⟩])
    (result : (other.evaluate board').result = (node.evaluate board).result)
    (told : below'.map Visit.told = below.map Visit.told) : SameWay node other board board' := by
  refine ⟨result, ?_⟩
  rw [here, there, List.map_append, List.map_append, told]
  congr 1
  show [([], (other.evaluate board').result)] = [([], (node.evaluate board).result)]
  rw [result]

namespace Node

theorem sameWay_graftFrom {stops : Status → Bool} {nodes : List (Node η α)} {graft : Graft η α}
    {index : Nat} {board : Board η} {statuses : List Status}
    (each : ∀ child ∈ nodes, ∀ (graft : Graft η α) (board : Board η) (status : Status),
      (child.evaluate board).result = .ok status → Repeats graft (child.visits board) →
        ∀ board', SameWay child (child.graft graft) board board')
    (ended : (evaluateUntil stops nodes board).result = .ok statuses)
    (repeats : Repeats graft (visitsFrom stops index nodes board)) (board' : Board η) :
    (evaluateUntil stops (graftFrom graft index nodes) board').result = .ok statuses ∧
      (visitsFrom stops index (graftFrom graft index nodes) board').map Visit.told =
        (visitsFrom stops index nodes board).map Visit.told := by
  induction nodes generalizing index board board' statuses with
  | nil => exact ⟨ended, rfl⟩
  | cons node rest ih =>
      obtain ⟨here, there⟩ := List.forall_mem_cons.1 each
      rw [graftFrom]
      rcases walk_cases stops node board with
        ⟨panic, first⟩ | ⟨status, first, stop⟩ | ⟨status, first, pass⟩
      · rw [evaluateUntil_cons_of_error first] at ended
        cases ended
      · rw [visitsFrom_cons_of_stops first stop] at repeats ⊢
        rw [evaluateUntil_cons_of_stops first stop] at ended
        have same := here _ _ _ first repeats.below board'
        have first' := same.result.trans first
        rw [visitsFrom_cons_of_stops first' stop, evaluateUntil_cons_of_stops first' stop]
        exact ⟨ended, same.under index⟩
      · rw [visitsFrom_cons_of_passes first pass] at repeats ⊢
        rw [evaluateUntil_cons_of_passes first pass] at ended
        obtain ⟨repeats, later⟩ := repeats.append
        obtain ⟨others, walked, rfl⟩ := map_eq_ok ended
        have same := here _ _ _ first repeats.below board'
        have first' := same.result.trans first
        -- The two walks go on from different boards, so nothing is claimed about these.
        let middle := ((node.graft (graft.below index)).evaluate board').board
        obtain ⟨result, told⟩ := ih there walked later middle
        rw [visitsFrom_cons_of_passes first' pass, evaluateUntil_cons_of_passes first' pass]
        refine ⟨?_, ?_⟩
        · show Except.map _ _ = _
          rw [result]
          rfl
        · rw [List.map_append, List.map_append, told, same.under index]

theorem sameWay_graft {node : Node η α} {graft : Graft η α} {board : Board η} {status : Status}
    (ended : (node.evaluate board).result = .ok status)
    (repeats : Repeats graft (node.visits board)) (board' : Board η) :
    SameWay node (node.graft graft) board board' := by
  induction node generalizing graft board board' status with
  | leaf info tip =>
      have constant := repeats ⟨[], .leaf info tip, board⟩ (by simp [visits]) rfl status ended
      have result : (((Node.leaf info tip).graft graft).evaluate board').result = .ok status := by
        rw [Node.graft, constant, evaluate_leaf, result_conclude]
        rfl
      have alone (node : Node η α) (board : Board η) (leaf : node.children = []) :
          node.visits board = [] ++ [⟨[], node, board⟩] := by
        rw [visits_eq, leaf]
        rfl
      exact .of_below (alone _ _ rfl) (alone _ _ rfl) (result.trans ended.symm) rfl
  | composite info rule children ih =>
      have root := ended
      rw [result_evaluate_composite] at ended
      obtain ⟨statuses, walked, rfl⟩ := map_eq_ok ended
      obtain ⟨repeats, -⟩ := Repeats.append repeats
      obtain ⟨result, told⟩ := sameWay_graftFrom
        (fun child inside _ _ _ ended repeats => ih child inside ended repeats)
        walked repeats board'
      refine .of_below rfl rfl ?_ told
      rw [Node.graft, result_evaluate_composite, result, root]
      rfl
  | decorator info rule child ih =>
      have root := ended
      rw [result_evaluate_decorator] at ended
      obtain ⟨status, inner, rfl⟩ := map_eq_ok ended
      obtain ⟨repeats, -⟩ := Repeats.append repeats
      have same := ih inner repeats.below board'
      refine .of_below rfl rfl ?_ (same.under 0)
      rw [Node.graft, result_evaluate_decorator, same.result, inner, root]
      rfl

theorem repeats_repeating (node : Node η α) (board : Board η) (others : Graft η α) :
    Repeats (node.repeating board others) (node.visits board) := by
  intro visit member leaf status ended info tip
  have came : node.statusAt? board visit.address = some status := by
    rw [statusAt?, mem_visits.1 member, Option.bind_some]
    have ended : (visit.node.evaluate visit.start).result = .ok status := ended
    simp only [ended, Except.toOption]
  simp only [repeating, came]

end Node

structure Factors (node : Node η α) (board : Board η) (status : Status) : Prop where
  located : ∀ post ∈ node.posts board,
    node.at? post.address = some (.leaf post.info post.tip) ∧ post.tip.isUnbound = false
  distinct : ((node.posts board).map (·.address)).Nodup
  ordered : ((node.posts board).map (·.address)).Pairwise (· < ·)
  calls : (runAll (node.posts board) board.shared).1 =
    (node.evaluate board).events.filterMap Event.call?
  shared : (runAll (node.posts board) board.shared).2 = (node.evaluate board).board.shared
  repeated : ∀ (others : Graft η α) (board' : Board η),
    ((node.graft (node.repeating board others)).evaluate board').result = .ok status ∧
      ((node.graft (node.repeating board others)).visits board').map (·.address) =
        (node.visits board).map (·.address)

/-- Evaluations that come to an end factor through the leaves that they get to. -/
theorem factors_of_ok {node : Node η α} {board : Board η} {status : Status}
    (ended : (node.evaluate board).result = .ok status) : Factors node board status := by
  have run := node.runAll_posts board
  have ordered := node.pairwise_posts board
  constructor
  case located => exact fun post member => Node.mem_posts member
  case distinct =>
    refine ordered.imp ?_
    rintro first _ less rfl
    exact List.lt_irrefl first less
  case ordered => exact ordered
  case calls => rw [run]
  case shared => rw [run]
  case repeated =>
    intro others board'
    have same := Node.sameWay_graft ended (node.repeats_repeating board others) board'
    refine ⟨same.result.trans ended, ?_⟩
    have addresses := congrArg (List.map Prod.fst) same.told
    rwa [List.map_map, List.map_map] at addresses

end

def rounds : Node Counting Deed :=
  .sequence [.action (.recite [.success]),
    .selector [.condition (.recite [.failure]), .actionSlot "wait", .constant .success],
    .repeater (.action (.recite [.failure])) (.times 2), .action (.stumble "a" 1)]

theorem factors_of_ok_rounds :
    (rounds.evaluate ∅).result = .ok .running ∧
      (rounds.posts ∅).map (·.address) = [[0], [1, 0], [1, 2], [2, 0]] ∧
      Factors rounds ∅ .running := by
  have ended : (rounds.evaluate ∅).result = .ok .running := rfl
  exact ⟨ended, rfl, factors_of_ok ended⟩

end Behavior
