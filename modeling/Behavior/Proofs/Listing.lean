import Mathlib.Data.List.Sort
import Behavior.Proofs.Places
import Behavior.Proofs.Symbols

namespace Behavior

variable {η : Type} [HostTypes η]

/-- What can happen to a board: somebody accesses it, the private values of a leaf are moved into
view or out of it, or an empty board takes its place. -/
inductive Change (η : Type) [HostTypes η] where
  | access (access : Access η)
  | view (entries : Option (Entries η))
  | renew

namespace Board

def change (board : Board η) : Change η → Board η
  | .access access => (board.access access).1
  | .view entries => { board with scratch := entries }
  | .renew => ∅

def afterAll (changes : List (Change η)) : Board η :=
  changes.foldl change ∅

def typeAt? (board : Board η) (key : String) : Option (ValueType η) :=
  board.shared[key]?.map (·.type)

@[simp] theorem typeAt?_empty (key : String) : (∅ : Board η).typeAt? key = none := by
  have absent : (∅ : Board η).shared[key]? = none := Std.ExtTreeMap.getElem?_empty
  rw [typeAt?, absent, Option.map_none]

theorem typeAt?_set (board : Board η) (key other : String) (type : ValueType η)
    (value : type.Carrier) :
    (board.set key type value).typeAt? other =
      if key = other then some type else board.typeAt? other := by
  rw [typeAt?, getElem?_set]
  split <;> rfl

theorem typeAt?_erase (board : Board η) (key other : String) :
    (board.erase key).2.typeAt? other = if key = other then none else board.typeAt? other := by
  rw [typeAt?, getElem?_erase]
  split <;> rfl

theorem contains_eq_isSome_typeAt? (board : Board η) (key : String) :
    board.contains key = (board.typeAt? key).isSome := by
  rw [contains_eq_isSome, typeAt?, Option.isSome_map]

theorem shared_perform_view (board : Board η) (view : Option (Entries η)) (request : Request η) :
    (Board.perform { board with scratch := view } request).1.shared =
      (board.perform request).1.shared := by
  cases request with
  | modify key type change =>
      simp only [perform, modify]
      cases board.shared[key]? with
      | none => rfl
      | some stored => cases read : stored.read key type <;> simp only [read, Except.map]
  | setLocal key type value => simp only [perform, shared_setLocal]
  | eraseLocal key => simp only [perform, shared_eraseLocal]
  | _ => rfl

theorem shared_access_view (board : Board η) (view : Option (Entries η)) (access : Access η) :
    (Board.access { board with scratch := view } access).1.shared =
      (board.access access).1.shared := by
  cases access with
  | key request => exact shared_perform_view board view request
  | slot request =>
      simp only [Board.access, performSlot_eq]
      exact shared_perform_view board view request.request

theorem exists_lists_change {board : Board η} {ledger : Ledger η}
    (lists : board.shared.Lists ledger) (change : Change η) :
    ∃ later : Ledger η, (board.change change).shared.Lists later := by
  cases change with
  | access access =>
      have holds : Board.Holds { board with scratch := none } ⟨ledger, none⟩ := ⟨lists, .none⟩
      have after := (holds.access access).2.shared
      rw [shared_access_view] at after
      exact ⟨_, after⟩
  | view entries => exact ⟨ledger, lists⟩
  | renew => exact ⟨∅, Entries.Lists.empty⟩

theorem exists_lists_foldl {board : Board η} {ledger : Ledger η}
    (lists : board.shared.Lists ledger) (changes : List (Change η)) :
    ∃ later : Ledger η, (changes.foldl change board).shared.Lists later := by
  induction changes generalizing board ledger with
  | nil => exact ⟨ledger, lists⟩
  | cons first rest ih =>
      obtain ⟨later, after⟩ := exists_lists_change lists first
      exact ih after

structure Listing (board : Board η) : Prop where
  ascending : board.keys.Pairwise (· < ·)
  live : ∀ key, key ∈ board.keys ↔ board.contains key
  size : board.keys.length = board.size
  isEmpty : board.isEmpty = board.keys.isEmpty
  named : ∀ key, board.typeName? key = (board.typeAt? key).map ValueType.name
  shown : ∃ types : List (ValueType η), types.map some = board.keys.map board.typeAt? ∧
    board.form =
      .map (board.keys.zipWith (fun key type => (key, .text type.name)) types) ∧
    board.form.line =
      "\x7b" ++ ", ".intercalate (board.keys.zipWith
        (fun key type => Text.quoted key ++ ": " ++ Text.quoted type.name) types) ++ "\x7d"

end Board

theorem Entries.Lists.label {entries : Entries η} {ledger : Ledger η}
    (lists : entries.Lists ledger) {key : String} {stored : Stored η}
    (present : entries[key]? = some stored) : stored.label = stored.type.name := by
  rw [lists, Option.map_eq_some_iff] at present
  obtain ⟨entry, -, rfl⟩ := present
  rfl

namespace Board

variable {board other : Board η} {ledger : Ledger η}

theorem form_of_lists (lists : board.shared.Lists ledger) :
    ∃ types : List (ValueType η), types.map some = board.keys.map board.typeAt? ∧
      board.form =
        .map (board.keys.zipWith (fun key type => (key, .text type.name)) types) := by
  have keys : board.keys = board.shared.toList.map Prod.fst :=
    Std.ExtTreeMap.map_fst_toList_eq_keys.symm
  have found {pair : String × Stored η} (member : pair ∈ board.shared.toList) :
      board.shared[pair.1]? = some pair.2 :=
    Std.ExtTreeMap.mem_toList_iff_getElem?_eq_some.1 member
  refine ⟨board.shared.toList.map (·.2.type), ?_, ?_⟩
  · rw [keys, List.map_map, List.map_map]
    apply List.map_congr_left
    intro pair member
    simp [typeAt?, found member]
  · rw [keys, List.zipWith_map, List.zipWith_self, form]
    congr 1
    apply List.map_congr_left
    rintro ⟨key, stored⟩ member
    have label : stored.label = stored.type.name := lists.label (found member)
    simp only [label]

theorem listing_of_lists (lists : board.shared.Lists ledger) : board.Listing := by
  constructor
  case ascending =>
    exact Std.ExtTreeMap.ordered_keys.imp compare_lt_iff_lt.1
  case live =>
    intro key
    exact Std.ExtTreeMap.mem_keys.trans Std.ExtTreeMap.mem_iff_contains
  case size => exact Std.ExtTreeMap.length_keys
  case isEmpty => exact Std.ExtTreeMap.isEmpty_keys.symm
  case named =>
    intro key
    rw [typeName?, typeAt?, Option.map_map]
    cases present : board.shared[key]? with
    | none => rfl
    | some stored => exact congrArg some (lists.label present)
  case shown =>
    obtain ⟨types, typed, form⟩ := form_of_lists lists
    refine ⟨types, typed, form, ?_⟩
    rw [form, Text.Form.line_map, List.map_zipWith]
    rfl

theorem Listing.keys_eq (listing : board.Listing) (listing' : other.Listing)
    (types : ∀ key, board.typeAt? key = other.typeAt? key) : board.keys = other.keys := by
  have same : board.keys.Perm other.keys := by
    refine (List.perm_ext_iff_of_nodup ?_ ?_).2 fun key => ?_
    · exact listing.ascending.imp ne_of_lt
    · exact listing'.ascending.imp ne_of_lt
    · rw [listing.live, listing'.live, contains_eq_isSome_typeAt?, types,
        contains_eq_isSome_typeAt?]
  exact same.eq_of_pairwise' (listing.ascending.imp le_of_lt) (listing'.ascending.imp le_of_lt)

theorem Listing.form_eq (listing : board.Listing) (listing' : other.Listing)
    (types : ∀ key, board.typeAt? key = other.typeAt? key) : board.form = other.form := by
  obtain ⟨shown, typed, form, -⟩ := listing.shown
  obtain ⟨shown', typed', form', -⟩ := listing'.shown
  have keys := listing.keys_eq listing' types
  have same : shown = shown' := by
    apply (List.map_injective_iff.2 (Option.some_injective _))
    rw [typed, typed', keys]
    exact List.map_congr_left fun key _ => types key
  rw [form, form', keys, same]

end Board

namespace Symbol

def sorted (symbols : List Symbol) : List Symbol :=
  symbols.mergeSort fun a b => (compare a b).isLE

theorem map_text_sorted {symbols : List Symbol}
    (same : ∀ a ∈ symbols, ∀ b ∈ symbols, a == b ↔ a.text = b.text) :
    (sorted symbols).map text =
      (symbols.map text).mergeSort fun first second => decide (first ≤ second) := by
  apply List.map_mergeSort
  intro a first b second
  rw [compare_eq_compare_text (same a first b second), Bool.eq_iff_iff, decide_eq_true_iff]
  exact Ordering.isLE_iff_ne_gt.trans compare_le_iff_le

end Symbol

namespace Board

/-- Whether the symbols, which were handed out for texts that somebody asked for, are the keys of
the board, each of them once and in any order. -/
structure Enumerates (allocate : Allocator) (asked : List String) (board : Board η)
    (symbols : List Symbol) : Prop where
  interned : ∀ symbol ∈ symbols, symbol ∈ (SymbolTable.internAll allocate {} asked).1
  distinct : symbols.Pairwise fun a b => (a == b) = false
  live : ∀ key, key ∈ symbols.map Symbol.text ↔ board.contains key

theorem Enumerates.map_text_sorted {allocate : Allocator} {asked : List String} {board : Board η}
    {symbols : List Symbol} (enumerates : Enumerates allocate asked board symbols)
    (separates : SymbolTable.Separates allocate asked) (listing : board.Listing) :
    (Symbol.sorted symbols).map Symbol.text = board.keys := by
  have same : ∀ a ∈ symbols, ∀ b ∈ symbols, a == b ↔ a.text = b.text := fun a first b second =>
    separates.beq_iff_text_eq (enumerates.interned a first) (enumerates.interned b second)
  have distinct : (symbols.map Symbol.text).Nodup := by
    rw [List.Nodup, List.pairwise_map]
    refine enumerates.distinct.imp_of_mem fun {a b} first second apart alike => ?_
    rw [(same a first b second).2 alike] at apart
    cases apart
  rw [Symbol.map_text_sorted same]
  have keys : ((symbols.map Symbol.text).mergeSort fun first second =>
      decide (first ≤ second)).Perm board.keys := by
    refine (List.mergeSort_perm _ _).trans ?_
    refine (List.perm_ext_iff_of_nodup distinct (listing.ascending.imp ne_of_lt)).2 fun key => ?_
    exact (enumerates.live key).trans (listing.live key).symm
  exact keys.eq_of_pairwise' (List.pairwise_mergeSort' (· ≤ ·) _) (listing.ascending.imp le_of_lt)

theorem Enumerates.sorted_eq {allocate : Allocator} {asked : List String} {board : Board η}
    {symbols : List Symbol} (enumerates : Enumerates allocate asked board symbols)
    (separates : SymbolTable.Separates allocate asked) (listing : board.Listing) :
    Symbol.sorted symbols = board.keys.map fun key =>
      ((SymbolTable.internAll allocate {} asked).2.intern allocate key).1 := by
  have again : ∀ symbol ∈ Symbol.sorted symbols,
      symbol = ((SymbolTable.internAll allocate {} asked).2.intern allocate symbol.text).1 := by
    intro symbol member
    have present := SymbolTable.getElem?_of_mem_internAll
      (enumerates.interned symbol (List.mem_mergeSort.1 member))
    rw [SymbolTable.intern_of_some present]
  rw [← enumerates.map_text_sorted separates listing, List.map_map]
  exact (List.map_id _).symm.trans (List.map_congr_left again)

/-- However a board has come about, its keys are listed in order, and boards that hold values of the
same types under the same keys are listed and shown alike. -/
theorem keys_canonical (changes : List (Change η)) :
    let board := afterAll changes
    board.Listing ∧
      (∀ (allocate : Allocator) (asked : List String) (symbols : List Symbol),
        SymbolTable.Separates allocate asked → Enumerates allocate asked board symbols →
          (Symbol.sorted symbols).map Symbol.text = board.keys) ∧
      ∀ others : List (Change η),
        (∀ key, board.typeAt? key = (afterAll others).typeAt? key) →
          board.keys = (afterAll others).keys ∧
            (∀ broken, board.form.render broken = (afterAll others).form.render broken) ∧
            ∀ (allocate : Allocator) (asked : List String) (symbols symbols' : List Symbol),
              SymbolTable.Separates allocate asked → Enumerates allocate asked board symbols →
                Enumerates allocate asked (afterAll others) symbols' →
                  Symbol.sorted symbols = Symbol.sorted symbols' := by
  have listing (changes : List (Change η)) : (afterAll changes).Listing := by
    have start : (∅ : Board η).shared.Lists ∅ := Entries.Lists.empty
    obtain ⟨ledger, lists⟩ := exists_lists_foldl start changes
    exact listing_of_lists lists
  intro board
  refine ⟨listing changes, ?_, ?_⟩
  · intro allocate asked symbols separates enumerates
    exact enumerates.map_text_sorted separates (listing changes)
  · intro others types
    have keys := (listing changes).keys_eq (listing others) types
    have form := (listing changes).form_eq (listing others) types
    refine ⟨keys, fun broken => congrArg (Text.Form.render · broken) form, ?_⟩
    intro allocate asked symbols symbols' separates enumerates enumerates'
    rw [enumerates.sorted_eq separates (listing changes),
      enumerates'.sorted_eq separates (listing others), keys]

theorem keys_canonical_replaced :
    let number : (ValueType.number : ValueType Counting).Carrier := (1 : Float32)
    let place : (ValueType.vector : ValueType Counting).Carrier := Vec3.zero
    let changes : List (Change Counting) :=
      [.access (.key (.set "b" .number number)), .access (.key (.set "c" .vector place)),
        .access (.key (.set "b" .vector place)), .access (.key (.erase "c")),
        .access (.key (.set "a" .number number))]
    let others : List (Change Counting) :=
      [.access (.key (.set "a" .number number)), .view (some ∅),
        .access (.key (.setLocal "c" .number number)), .access (.key (.set "b" .vector place))]
    let allocate : Allocator := fun stored _ => 64 * stored.toUInt64
    let asked := ["b", "c", "a"]
    let symbols : List Symbol := [⟨"b", 0⟩, ⟨"a", 128⟩]
    (∀ key, (afterAll changes).typeAt? key = (afterAll others).typeAt? key) ∧
      SymbolTable.Separates allocate asked ∧
      Enumerates allocate asked (afterAll changes) symbols ∧
      Enumerates allocate asked (afterAll others) symbols.reverse ∧
      (afterAll changes).keys = ["a", "b"] ∧
      (afterAll changes).keys = (afterAll others).keys ∧
      Symbol.sorted symbols = Symbol.sorted symbols.reverse := by
  intro number place changes others allocate asked symbols
  let held (key : String) : Option (ValueType Counting) :=
    if "a" = key then some .number else if "b" = key then some .vector else none
  have first (key : String) : (afterAll changes).typeAt? key = held key := by
    simp only [changes, afterAll, List.foldl, change, access, perform, typeAt?_set, typeAt?_erase,
      typeAt?_empty, held]
    grind
  have second (key : String) : (afterAll others).typeAt? key = held key := by
    have shared : (afterAll others).typeAt? key =
        (((∅ : Board Counting).set "a" .number number).set "b" .vector place).typeAt? key := rfl
    rw [shared]
    simp only [typeAt?_set, typeAt?_empty, held]
    grind
  have types (key : String) : (afterAll changes).typeAt? key = (afterAll others).typeAt? key :=
    (first key).trans (second key).symm
  have separates : SymbolTable.Separates allocate asked := by decide
  have enumerates {board : Board Counting} (types : ∀ key, board.typeAt? key = held key)
      (order : List Symbol) (distinct : order.Pairwise fun a b => (a == b) = false)
      (same : ∀ symbol, symbol ∈ order ↔ symbol ∈ symbols) :
      Enumerates allocate asked board order := by
    have handedOut : (SymbolTable.internAll allocate {} asked).1 =
        [⟨"b", 0⟩, ⟨"c", 64⟩, ⟨"a", 128⟩] := rfl
    refine ⟨?_, distinct, ?_⟩
    · rw [handedOut]
      simp [same, symbols]
    · intro key
      have texts : key ∈ order.map Symbol.text ↔ "b" = key ∨ "a" = key := by
        simp [same, symbols]
      rw [texts, contains_eq_isSome_typeAt?, types]
      grind
  have one := enumerates first symbols (by decide) fun _ => Iff.rfl
  have two := enumerates second symbols.reverse (by decide) fun _ => List.mem_reverse
  obtain ⟨-, sorted, alike⟩ := keys_canonical changes
  obtain ⟨keys, -, same⟩ := alike others types
  have sorted' := same allocate asked symbols symbols.reverse separates one two
  refine ⟨types, separates, one, two, ?_, keys, sorted'⟩
  rw [← sorted allocate asked symbols separates one, sorted', Symbol.sorted,
    List.mergeSort_of_pairwise (by decide)]
  rfl

end Board

end Behavior
