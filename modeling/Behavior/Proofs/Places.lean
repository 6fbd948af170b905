import Behavior.Proofs.Ledgers
import Behavior.Proofs.Procedure

namespace Behavior

variable {η : Type} [HostTypes η]

inductive Place where
  | shared (key : String)
  | scratch (key : String)
deriving DecidableEq

def Request.place? : Request η → Option Place
  | .set key .. | .get key .. | .tryGet key .. | .getD key .. | .modify key .. | .erase key
  | .contains key | .typeName key => some (.shared key)
  | .getLocal key .. | .getLocalD key .. | .setLocal key .. | .eraseLocal key =>
      some (.scratch key)
  | .size | .isEmpty | .keys => none

def Access.place? : Access η → Option Place
  | .key request => request.place?
  | .slot request => (request.request : Request η).place?

namespace Board

variable {board other : Board η}

def at? (board : Board η) : Place → Option (Stored η)
  | .shared key => board.shared[key]?
  | .scratch key => board.scratch.bind (·[key]?)

theorem at?_put_of_ne {entry : Stored η} {key : String} {place : Place}
    (apart : some (Place.shared key) ≠ some place) :
    Board.at? { board with shared := board.shared.put key entry } place = board.at? place := by
  cases place with
  | shared found =>
      have ne : key ≠ found := fun same => apart (by rw [same])
      simp only [at?, Entries.getElem?_put, if_neg ne]
  | scratch found => rfl

theorem at?_erase_of_ne {key : String} {place : Place}
    (apart : some (Place.shared key) ≠ some place) :
    (board.erase key).2.at? place = board.at? place := by
  cases place with
  | shared found =>
      have ne : key ≠ found := fun same => apart (by rw [same])
      simp only [at?, getElem?_erase, if_neg ne]
  | scratch found => rfl

theorem at?_setLocal_of_ne {key : String} {type : ValueType η} {value : type.Carrier}
    {place : Place} (apart : some (Place.scratch key) ≠ some place) :
    (board.setLocal key type value).1.at? place = board.at? place := by
  cases place with
  | shared found => rw [at?, at?, shared_setLocal]
  | scratch found =>
      have ne : key ≠ found := fun same => apart (by rw [same])
      rw [at?, at?, scratch_setLocal]
      cases board.scratch with
      | none => rfl
      | some entries =>
          simp only [Option.map_some, Option.bind_some, Entries.getElem?_insert, if_neg ne]

theorem at?_eraseLocal_of_ne {key : String} {place : Place}
    (apart : some (Place.scratch key) ≠ some place) :
    (board.eraseLocal key).2.at? place = board.at? place := by
  cases place with
  | shared found => rw [at?, at?, shared_eraseLocal]
  | scratch found =>
      have ne : key ≠ found := fun same => apart (by rw [same])
      rw [at?, at?, scratch_eraseLocal]
      cases board.scratch with
      | none => rfl
      | some entries =>
          simp [Std.ExtTreeMap.getElem?_erase, ne]

theorem perform_modify_cases (board : Board η) (key : String) (type : ValueType η)
    (change : type.Carrier → type.Carrier) :
    (board.perform (.modify key type change)).1 = board ∨
      ∃ stored, (board.perform (.modify key type change)).1 =
        { board with shared := board.shared.put key stored } := by
  simp only [perform, modify]
  cases board.shared[key]? with
  | none => exact .inl rfl
  | some stored =>
      cases read : stored.read key type with
      | error mismatch =>
          simp only [read, Except.map, true_or]
      | ok old =>
          simp only [read, Except.map]
          exact .inr ⟨_, rfl⟩

theorem at?_perform_of_ne {request : Request η} {place : Place}
    (apart : request.place? ≠ some place) :
    (board.perform request).1.at? place = board.at? place := by
  cases request with
  | set key type value => exact at?_put_of_ne apart
  | modify key type change =>
      obtain same | ⟨stored, put⟩ := board.perform_modify_cases key type change
      · rw [same]
      · rw [put]
        exact at?_put_of_ne apart
  | erase key => exact at?_erase_of_ne apart
  | setLocal key type value => exact at?_setLocal_of_ne apart
  | eraseLocal key => exact at?_eraseLocal_of_ne apart
  | _ => rfl

theorem at?_access_of_ne {access : Access η} {place : Place} (apart : access.place? ≠ some place) :
    (board.access access).1.at? place = board.at? place := by
  cases access with
  | key request => exact at?_perform_of_ne apart
  | slot request =>
      rw [access, performSlot_eq]
      exact at?_perform_of_ne apart

theorem isSome_scratch_perform (request : Request η) :
    (board.perform request).1.scratch.isSome = board.scratch.isSome := by
  cases request with
  | modify key type change =>
      obtain same | ⟨stored, put⟩ := board.perform_modify_cases key type change
      · rw [same]
      · rw [put]
  | setLocal key type value => rw [perform, scratch_setLocal, Option.isSome_map]
  | eraseLocal key => rw [perform, scratch_eraseLocal, Option.isSome_map]
  | _ => rfl

theorem isSome_scratch_access (access : Access η) :
    (board.access access).1.scratch.isSome = board.scratch.isSome := by
  cases access with
  | key request => exact isSome_scratch_perform request
  | slot request =>
      rw [Board.access, performSlot_eq]
      exact isSome_scratch_perform request.request

theorem get?_eq (board : Board η) (key : String) (type : ValueType η) :
    board.get? key type =
      (board.at? (.shared key)).elim (.ok none) fun stored => (stored.read key type).map some := by
  rw [get?, Entries.read?, at?]
  cases board.shared[key]? <;> rfl

theorem getLocal?_eq (board : Board η) (key : String) (type : ValueType η) :
    board.getLocal? key type =
      (board.at? (.scratch key)).elim (.ok none) fun stored => (stored.read key type).map some := by
  rw [getLocal?, at?]
  cases board.scratch with
  | none => rfl
  | some entries =>
      simp only [Entries.read?, Option.bind_some]
      cases entries[key]? <;> rfl

theorem modify_answer (board : Board η) (key : String) (type : ValueType η)
    (change : type.Carrier → type.Carrier) :
    (board.perform (.modify key type change)).2 = (board.perform (.get key type)).2 := by
  simp only [perform, modify, get?, Entries.read?]
  cases board.shared[key]? with
  | none => rfl
  | some stored =>
      simp only
      cases stored.read key type <;> rfl

theorem contains_eq (board : Board η) (key : String) :
    board.contains key = (board.at? (.shared key)).isSome :=
  contains_eq_isSome

theorem eraseLocal_fst (board : Board η) (key : String) :
    (board.eraseLocal key).1 = (board.at? (.scratch key)).isSome := by
  cases view : board.scratch with
  | none => simp only [eraseLocal, at?, view, Option.bind_none, Option.isSome_none]
  | some entries =>
      simp only [eraseLocal, at?, view, Option.bind_some,
        Std.ExtTreeMap.contains_eq_isSome_getElem?]

theorem setLocal_snd (board : Board η) (key : String) (type : ValueType η)
    (value : type.Carrier) :
    (board.setLocal key type value).2 = if board.scratch.isSome then [] else [.strayWrite key] := by
  cases view : board.scratch <;> simp [setLocal, view]

theorem perform_congr {request : Request η} {place : Place}
    (own : request.place? = some place) (agree : other.at? place = board.at? place)
    (view : other.scratch.isSome = board.scratch.isSome) :
    (other.perform request).2 = (board.perform request).2 := by
  cases request with
  | set key type value => rfl
  | get key type | tryGet key type =>
      cases own
      simp only [perform, get?_eq, agree]
  | getD key type default =>
      cases own
      simp only [perform, getD, get?_eq, agree]
  | modify key type change =>
      cases own
      rw [modify_answer, modify_answer]
      simp only [perform, get?_eq, agree]
  | erase key =>
      cases own
      simp only [perform, erase, contains_eq, agree]
  | contains key =>
      cases own
      simp only [perform, contains_eq, agree]
  | typeName key =>
      cases own
      have same : other.typeName? key = board.typeName? key := congrArg (·.map (·.label)) agree
      simp only [perform, same]
  | getLocal key type =>
      cases own
      simp only [perform, getLocal?_eq, agree]
  | getLocalD key type default =>
      cases own
      simp only [perform, getLocalD, getLocal?_eq, agree]
  | setLocal key type value => simp only [perform, setLocal_snd, view]
  | eraseLocal key =>
      cases own
      simp only [perform, eraseLocal_fst, agree]
  | size | isEmpty | keys => cases own

theorem access_congr {access : Access η} {place : Place} (own : access.place? = some place)
    (agree : other.at? place = board.at? place)
    (view : other.scratch.isSome = board.scratch.isSome) :
    (other.access access).2 = (board.access access).2 := by
  cases access with
  | key request => exact perform_congr own agree view
  | slot request =>
      rw [Board.access, Board.access, performSlot_eq, performSlot_eq]
      exact congrArg request.answer (perform_congr own agree view)

theorem getLocal?_setLocal_self {board : Board η} (view : board.scratch.isSome) (key : String)
    (type : ValueType η) (value : type.Carrier) :
    (board.setLocal key type value).1.getLocal? key type = .ok (some value) := by
  obtain ⟨entries, present⟩ := Option.isSome_iff_exists.1 view
  rw [setLocal_of_scratch_eq_some present]
  simp [getLocal?, Entries.read?, Entries.getElem?_insert, Except.map]

end Board

def Content.Clash (key : String) (type : ValueType η) (held : Option (Entry η))
    (error : TypeMismatch) : Prop :=
  ∃ entry, held = some entry ∧ entry.type ≠ type ∧ error = ⟨key, type.name, entry.type.name⟩

theorem Content.typed_eq_error_iff {key : String} {type : ValueType η} {held : Option (Entry η)}
    {error : TypeMismatch} : typed key type held = .error error ↔ Clash key type held error := by
  cases held with
  | none => simp [typed, Clash]
  | some entry =>
      by_cases same : entry.type = type
      · simp [typed, Clash, same]
      · simp only [typed, dif_neg same, Except.error.injEq]
        constructor
        · intro raised
          exact ⟨entry, rfl, same, raised.symm⟩
        · rintro ⟨_, held, -, raised⟩
          cases held
          exact raised.symm

namespace Board

structure Refines (board : Board η) (content : Content η) : Prop where
  holds : board.Holds content
  untouched : ∀ (access : Access η) (place : Place), access.place? ≠ some place →
    (board.access access).1.at? place = board.at? place
  unasked : ∀ (other : Board η) (access : Access η) (place : Place), access.place? = some place →
    other.at? place = board.at? place → other.scratch.isSome = board.scratch.isSome →
    (other.access access).2 = (board.access access).2
  kept : ∀ access : Access η,
    (board.access access).1.scratch.isSome = board.scratch.isSome
  retyped : ∀ key type value, (board.set key type value).get? key type = .ok (some value)
  retypedLocal : board.scratch.isSome → ∀ key type value,
    (board.setLocal key type value).1.getLocal? key type = .ok (some value)
  blind : board.scratch = none → ∀ key type (value : type.Carrier),
    board.getLocal? key type = .ok none ∧ board.getLocalD key type value = .ok value ∧
      board.setLocal key type value = (board, [.strayWrite key]) ∧
      board.eraseLocal key = (false, board)
  slots : ∀ request : SlotRequest, board.access (.slot request) =
    ((board.access (.key request.request)).1,
      request.answer (board.access (.key request.request)).2)
  named : ∀ key, board.typeName? key = (board.at? (.shared key)).map (·.type.name)
  clashes : ∀ key type error,
    let clash := Content.Clash key type (content.shared.lookup key) error
    (board.get? key type = .error error ↔ clash) ∧
      (∀ default, board.getD key type default = .error error ↔ clash) ∧
      ∀ change, board.modify key type change = .error error ↔ clash
  clashesLocal : ∀ key type error,
    let clash := Content.Clash key type (content.scratch.bind (·.lookup key)) error
    (board.getLocal? key type = .error error ↔ clash) ∧
      ∀ default, board.getLocalD key type default = .error error ↔ clash

variable {board : Board η} {content : Content η}

theorem map_eq_error_iff {ε ρ σ : Type} {change : ρ → σ} {result : Except ε ρ} {error : ε} :
    result.map change = .error error ↔ result = .error error := by
  cases result <;> simp [Except.map]

theorem modify_eq_error_iff {key : String} {type : ValueType η}
    {change : type.Carrier → type.Carrier} {error : TypeMismatch} :
    board.modify key type change = .error error ↔ board.get? key type = .error error := by
  simp only [modify, get?, Entries.read?]
  cases board.shared[key]? with
  | none => simp
  | some stored => simp only [map_eq_error_iff]

theorem Holds.get?_eq_error_iff (holds : board.Holds content) (key : String)
    (type : ValueType η) (error : TypeMismatch) :
    board.get? key type = .error error ↔
      Content.Clash key type (content.shared.lookup key) error := by
  rw [holds.get?, Content.typed_eq_error_iff]

theorem Holds.getLocal?_eq_error_iff (holds : board.Holds content) (key : String)
    (type : ValueType η) (error : TypeMismatch) :
    board.getLocal? key type = .error error ↔
      Content.Clash key type (content.scratch.bind (·.lookup key)) error := by
  rw [holds.getLocal?, Content.typed_eq_error_iff]

theorem Holds.refines (holds : board.Holds content) : board.Refines content where
  holds
  untouched _ _ := at?_access_of_ne
  unasked _ _ _ := access_congr
  kept := isSome_scratch_access
  retyped _ _ _ := get?_set_self
  retypedLocal := getLocal?_setLocal_self
  blind absent key type value := by
    have read : board.getLocal? key type = .ok none := by
      rw [Board.getLocal?, absent]
    refine ⟨read, ?_, setLocal_of_scratch_eq_none absent, ?_⟩
    · rw [getLocalD, read]
      rfl
    · rw [eraseLocal, absent]
  slots := board.performSlot_eq
  named key := by
    rw [holds.typeName? key, at?, holds.shared key, Option.map_map]
    rfl
  clashes key type error := by
    have clash := holds.get?_eq_error_iff key type error
    exact ⟨clash, fun _ => map_eq_error_iff.trans clash, fun _ => modify_eq_error_iff.trans clash⟩
  clashesLocal key type error := by
    have clash := holds.getLocal?_eq_error_iff key type error
    exact ⟨clash, fun _ => map_eq_error_iff.trans clash⟩

/-- However a board is accessed, it answers as its content does, and it has the same content as this
in the end. -/
theorem refines_of_holds (holds : board.Holds content) (accesses : List (Access η)) :
    (board.run accesses).2 = (content.run accesses).2 ∧
      (board.run accesses).1.Refines (content.run accesses).1 := by
  obtain ⟨answers, final⟩ := holds.run accesses
  exact ⟨answers, final.refines⟩

theorem refines_of_holds_equal_keys :
    let count : Entry Counting := ⟨.host .count, (1 : Nat)⟩
    let board : Board Counting := { scratch := some ((∅ : Entries Counting).insert "a" count) }
    let content : Content Counting := { scratch := some (Finmap.insert "a" count ∅) }
    let accesses : List (Access Counting) :=
      [.key (.set "a" (.host .count) (2 : Nat)), .key (.set "a" .vector Vec3.zero),
        .key (.get "a" (.host .count)), .key (.getLocal "a" (.host .count)),
        .key (.typeName "a"), .slot .timer]
    board.Holds content ∧ (board.run accesses).2 = (content.run accesses).2 ∧
      (board.run accesses).1.Refines (content.run accesses).1 :=
  have holds := ⟨.empty, .some (Entries.Lists.empty.insert "a" _)⟩
  ⟨holds, refines_of_holds holds _⟩

end Board

end Behavior
