import Behavior.Board.Lemmas
import Behavior.Proofs.Requests

namespace Behavior

variable {η : Type} [HostTypes η]

def Entries.Lists (entries : Entries η) (ledger : Ledger η) : Prop :=
  ∀ key, entries[key]? = (ledger.lookup key).map Stored.ofEntry

namespace Entries.Lists

variable {entries : Entries η} {ledger : Ledger η}

theorem empty : Lists (∅ : Entries η) ∅ := by
  intro key
  simp

theorem insert (lists : Lists entries ledger) (key : String) (entry : Entry η) :
    Lists (entries.insert key entry) (ledger.insert key entry) := by
  intro other
  rw [getElem?_insert]
  by_cases same : key = other
  · subst same
    simp
  · rw [if_neg same, Finmap.lookup_insert_of_ne _ (Ne.symm same)]
    exact lists other

theorem erase (lists : Lists entries ledger) (key : String) :
    Lists (entries.erase key) (ledger.erase key) := by
  intro other
  by_cases same : key = other
  · subst same
    simp
  · rw [Finmap.lookup_erase_ne (Ne.symm same), ← lists other]
    simp [Std.ExtTreeMap.getElem?_erase, same]

theorem contains (lists : Lists entries ledger) (key : String) :
    entries.contains key = decide (key ∈ ledger) := by
  rw [Std.ExtTreeMap.contains_eq_isSome_getElem?, lists, Option.isSome_map]
  apply Bool.eq_iff_iff.2
  simp [Finmap.lookup_isSome]

theorem mem_keys_iff (lists : Lists entries ledger) {key : String} :
    key ∈ entries.keys ↔ key ∈ ledger.keys := by
  rw [Std.ExtTreeMap.mem_keys, Std.ExtTreeMap.mem_iff_contains, lists.contains, Finmap.mem_keys,
    decide_eq_true_iff]

theorem keys (lists : Lists entries ledger) : entries.keys = ledger.keys.sort := by
  have same : entries.keys.toFinset = ledger.keys := by
    ext key
    rw [List.mem_toFinset, lists.mem_keys_iff]
  rw [← same]
  symm
  apply (List.toFinset_sort _ Std.ExtTreeMap.nodup_keys).2
  exact Std.ExtTreeMap.ordered_keys.imp fun before => le_of_lt (compare_lt_iff_lt.1 before)

theorem size (lists : Lists entries ledger) : entries.size = ledger.keys.card := by
  rw [← Std.ExtTreeMap.length_keys, lists.keys, Finset.length_sort]

theorem isEmpty (lists : Lists entries ledger) : entries.isEmpty = decide (ledger.keys = ∅) := by
  apply Bool.eq_iff_iff.2
  rw [← Std.ExtTreeMap.isEmpty_keys, List.isEmpty_iff, lists.keys, decide_eq_true_iff,
    ← List.length_eq_zero_iff, Finset.length_sort, Finset.card_eq_zero]

theorem read? (lists : Lists entries ledger) (key : String) (type : ValueType η) :
    entries.read? key type = Content.typed key type (ledger.lookup key) := by
  have found := lists key
  cases held : ledger.lookup key with
  | none =>
      rw [held] at found
      exact read?_of_getElem?_eq_none found type
  | some entry =>
      obtain ⟨own, value⟩ := entry
      rw [held] at found
      rw [read?_of_getElem?_eq_some found, Content.typed]
      by_cases same : own = type
      · subst same
        simp [Except.map]
      · rw [dif_neg same, Stored.read_of_type_ne key same]
        rfl

end Entries.Lists

/-- Whether the board has the given content, and a view of private values if this has one. -/
structure Board.Holds (board : Board η) (content : Content η) : Prop where
  shared : board.shared.Lists content.shared
  scratch : Option.Rel Entries.Lists board.scratch content.scratch

namespace Board.Holds

variable {board : Board η} {content : Content η}

theorem scratch_cases (holds : board.Holds content) :
    (board.scratch = none ∧ content.scratch = none) ∨
      ∃ entries ledger, board.scratch = some entries ∧ content.scratch = some ledger ∧
        entries.Lists ledger := by
  obtain ⟨shared, scratch⟩ := board
  obtain ⟨ledger, view⟩ := content
  cases holds.scratch with
  | some lists => exact .inr ⟨_, _, rfl, rfl, lists⟩
  | none => exact .inl ⟨rfl, rfl⟩

theorem insert (holds : board.Holds content) (key : String) (entry : Entry η) :
    Holds { board with shared := board.shared.insert key entry }
      { content with shared := content.shared.insert key entry } :=
  ⟨holds.shared.insert key entry, holds.scratch⟩

theorem get? (holds : board.Holds content) (key : String) (type : ValueType η) :
    board.get? key type = Content.typed key type (content.shared.lookup key) :=
  holds.shared.read? key type

theorem getLocal? (holds : board.Holds content) (key : String) (type : ValueType η) :
    board.getLocal? key type =
      Content.typed key type (content.scratch.bind (·.lookup key)) := by
  obtain ⟨absent, none⟩ | ⟨entries, ledger, present, some, lists⟩ := holds.scratch_cases
  · rw [Board.getLocal?, absent, none]
    rfl
  · rw [Board.getLocal?, present, some]
    exact lists.read? key type

theorem typeName? (holds : board.Holds content) (key : String) :
    board.typeName? key = (content.shared.lookup key).map (·.type.name) := by
  rw [Board.typeName?, holds.shared, Option.map_map]
  rfl

theorem modify (holds : board.Holds content) (key : String) (type : ValueType η)
    (change : type.Carrier → type.Carrier) :
    (board.perform (.modify key type change)).2 = (content.perform (.modify key type change)).2 ∧
      (board.perform (.modify key type change)).1.Holds
        (content.perform (.modify key type change)).1 := by
  have found := holds.shared key
  cases held : content.shared.lookup key with
  | none =>
      rw [held] at found
      simp only [Board.perform, Board.modify, found, Content.perform, held, Content.typed]
      exact ⟨rfl, holds⟩
  | some entry =>
      obtain ⟨own, old⟩ := entry
      rw [held] at found
      by_cases same : own = type
      · subst same
        -- The label stays, and it is the one that the new value would get.
        have relabeled : (Stored.ofEntry ⟨own, old⟩).write own (change old) =
            .ofEntry ⟨own, change old⟩ := rfl
        simp only [Board.perform, Board.modify, found, Option.map_some, Stored.read_self,
          Except.map, relabeled, Content.perform, held, Content.typed, dif_pos]
        exact ⟨trivial, holds.insert key ⟨own, change old⟩⟩
      · have other : (Stored.ofEntry ⟨own, old⟩).type ≠ type := same
        simp only [Board.perform, Board.modify, found, Option.map_some,
          Stored.read_of_type_ne key other, Except.map, Content.perform, held, Content.typed,
          dif_neg same]
        exact ⟨rfl, holds⟩

theorem perform (holds : board.Holds content) (request : Request η) :
    (board.perform request).2 = (content.perform request).2 ∧
      (board.perform request).1.Holds (content.perform request).1 := by
  cases request with
  | set key type value => exact ⟨rfl, holds.insert key ⟨type, value⟩⟩
  | get key type =>
      refine ⟨?_, holds⟩
      simp only [Board.perform, Content.perform, holds.get?]
  | tryGet key type =>
      refine ⟨?_, holds⟩
      simp only [Board.perform, Content.perform, holds.get?]
  | getD key type default =>
      refine ⟨?_, holds⟩
      simp only [Board.perform, Board.getD, Content.perform, holds.get?]
      cases Content.typed key type (content.shared.lookup key) <;> rfl
  | modify key type change => exact holds.modify key type change
  | erase key =>
      refine ⟨?_, holds.shared.erase key, holds.scratch⟩
      exact congrArg Answer.truth (holds.shared.contains key)
  | contains key => exact ⟨congrArg Answer.truth (holds.shared.contains key), holds⟩
  | size => exact ⟨congrArg Answer.number holds.shared.size, holds⟩
  | isEmpty => exact ⟨congrArg Answer.truth holds.shared.isEmpty, holds⟩
  | keys => exact ⟨congrArg Answer.texts holds.shared.keys, holds⟩
  | typeName key => exact ⟨congrArg Answer.text (holds.typeName? key), holds⟩
  | getLocal key type =>
      refine ⟨?_, holds⟩
      simp only [Board.perform, Content.perform, holds.getLocal?]
  | getLocalD key type default =>
      refine ⟨?_, holds⟩
      simp only [Board.perform, Board.getLocalD, Content.perform, holds.getLocal?]
      cases Content.typed key type (content.scratch.bind (·.lookup key)) <;> rfl
  | setLocal key type value =>
      obtain ⟨absent, none⟩ | ⟨entries, ledger, present, some, lists⟩ := holds.scratch_cases
      · simp only [Board.perform, Board.setLocal, absent, Content.perform, none]
        exact ⟨trivial, holds⟩
      · simp only [Board.perform, Board.setLocal, present, Content.perform, some]
        exact ⟨trivial, holds.shared, .some (lists.insert key ⟨type, value⟩)⟩
  | eraseLocal key =>
      obtain ⟨absent, none⟩ | ⟨entries, ledger, present, some, lists⟩ := holds.scratch_cases
      · simp only [Board.perform, Board.eraseLocal, absent, Content.perform, none]
        exact ⟨trivial, holds⟩
      · simp only [Board.perform, Board.eraseLocal, present, Content.perform, some]
        exact ⟨congrArg Answer.truth (lists.contains key), holds.shared,
          .some (lists.erase key)⟩

end Board.Holds

theorem Board.performSlot_eq (board : Board η) (request : SlotRequest) :
    board.performSlot request =
      ((board.perform request.request).1, request.answer (board.perform request.request).2) := by
  cases request with
  | setTargetEnemy enemy => cases enemy <;> rfl
  | _ => rfl

theorem Board.Holds.access {board : Board η} {content : Content η} (holds : board.Holds content)
    (access : Access η) :
    (board.access access).2 = (content.access access).2 ∧
      (board.access access).1.Holds (content.access access).1 := by
  cases access with
  | key request => exact holds.perform request
  | slot request =>
      obtain ⟨answer, after⟩ := holds.perform request.request
      simp only [Board.access, Board.performSlot_eq, Content.access, answer]
      exact ⟨trivial, after⟩

theorem Board.Holds.run {board : Board η} {content : Content η} (holds : board.Holds content)
    (accesses : List (Access η)) :
    (board.run accesses).2 = (content.run accesses).2 ∧
      (board.run accesses).1.Holds (content.run accesses).1 := by
  induction accesses generalizing board content with
  | nil => exact ⟨rfl, holds⟩
  | cons first rest step =>
      obtain ⟨answer, after⟩ := holds.access first
      obtain ⟨answers, final⟩ := step after
      simp only [Board.run, Content.run, answer, answers]
      exact ⟨trivial, final⟩

end Behavior
