import Behavior.Board.Basic

namespace Behavior

variable {η : Type} [HostTypes η]

theorem Entries.read?_of_getElem?_eq_none {entries : Entries η} {key : String}
    (absent : entries[key]? = none) (type : ValueType η) : entries.read? key type = .ok none := by
  simp [read?, absent]

theorem Entries.read?_of_getElem?_eq_some {entries : Entries η} {key : String} {stored : Stored η}
    (present : entries[key]? = some stored) (type : ValueType η) :
    entries.read? key type = (stored.read key type).map some := by
  simp [read?, present]

theorem Entries.getElem?_put {entries : Entries η} {key other : String} {stored : Stored η} :
    (entries.put key stored)[other]? = if key = other then some stored else entries[other]? := by
  simp [put, Std.ExtTreeMap.getElem?_insert]

theorem Entries.getElem?_insert {entries : Entries η} {key other : String} {entry : Entry η} :
    (entries.insert key entry)[other]? =
      if key = other then some (.ofEntry entry) else entries[other]? :=
  getElem?_put

namespace Board

variable {board : Board η} {key other : String} {type : ValueType η} {value : type.Carrier}

theorem getElem?_set :
    (board.set key type value).shared[other]? =
      if key = other then some (.ofEntry ⟨type, value⟩) else board.shared[other]? :=
  Entries.getElem?_insert

@[simp] theorem scratch_set : (board.set key type value).scratch = board.scratch := rfl

@[simp] theorem get?_set_self : (board.set key type value).get? key type = .ok (some value) := by
  simp [get?, Entries.read?, getElem?_set, Except.map]

theorem get?_set_of_ne (ne : key ≠ other) (type' : ValueType η) :
    (board.set key type value).get? other type' = board.get? other type' := by
  simp [get?, Entries.read?, getElem?_set, ne]

theorem getElem?_erase :
    (board.erase key).2.shared[other]? = if key = other then none else board.shared[other]? := by
  simp [erase, Std.ExtTreeMap.getElem?_erase]

@[simp] theorem scratch_erase : (board.erase key).2.scratch = board.scratch := rfl

theorem contains_eq_isSome : board.contains key = board.shared[key]?.isSome :=
  Std.ExtTreeMap.contains_eq_isSome_getElem?

@[simp] theorem shared_setLocal : (board.setLocal key type value).1.shared = board.shared := by
  cases h : board.scratch <;> simp [setLocal, h]

@[simp] theorem shared_eraseLocal : (board.eraseLocal key).2.shared = board.shared := by
  cases h : board.scratch <;> simp [eraseLocal, h]

theorem scratch_setLocal :
    (board.setLocal key type value).1.scratch = board.scratch.map (·.insert key ⟨type, value⟩) := by
  cases h : board.scratch <;> simp [setLocal, h]

theorem scratch_eraseLocal :
    (board.eraseLocal key).2.scratch = board.scratch.map (·.erase key) := by
  cases h : board.scratch <;> simp [eraseLocal, h]

theorem setLocal_of_scratch_eq_none (absent : board.scratch = none) :
    board.setLocal key type value = (board, [.strayWrite key]) := by
  simp [setLocal, absent]

theorem setLocal_of_scratch_eq_some {entries : Entries η} (present : board.scratch = some entries) :
    board.setLocal key type value =
      ({ board with scratch := some (entries.insert key ⟨type, value⟩) }, []) := by
  simp [setLocal, present]

theorem eq_strayWrite_of_mem_setLocal {record : Record}
    (member : record ∈ (board.setLocal key type value).2) : record = .strayWrite key := by
  cases view : board.scratch with
  | none =>
      rw [setLocal_of_scratch_eq_none view] at member
      exact List.mem_singleton.1 member
  | some entries =>
      rw [setLocal_of_scratch_eq_some view] at member
      cases member

end Board

end Behavior
