import Mathlib.Data.Finset.Card
import Mathlib.Data.List.Pairwise
import Mathlib.Data.String.Basic
import Behavior.Interchange

namespace Behavior

namespace Symbol

variable {a b : Symbol}

theorem beq_iff_address_eq : a == b ↔ a.address = b.address := by
  have unfolded : (a == b) = (a.address == b.address) := rfl
  rw [unfolded, beq_iff_eq]

theorem hash_eq (same : a == b) : hash a = hash b := by
  have addresses : hash a.address = hash b.address := congrArg hash (beq_iff_address_eq.1 same)
  exact addresses

theorem compare_eq_compare_text (same : a == b ↔ a.text = b.text) :
    compare a b = compare a.text b.text := by
  have unfolded : compare a b = if a == b then .eq else compare a.text b.text := rfl
  rw [unfolded]
  split
  · rename_i equal
    rw [same.1 equal]
    exact Std.ReflOrd.compare_self.symm
  · rfl

end Symbol

namespace SymbolTable

def internAll (allocate : Allocator) (table : SymbolTable) :
    List String → List Symbol × SymbolTable
  | [] => ([], table)
  | text :: rest =>
      let (symbol, table) := table.intern allocate text
      let (symbols, table) := table.internAll allocate rest
      (symbol :: symbols, table)

def storedBy (allocate : Allocator) (table : SymbolTable) : List String → List (String × UInt64)
  | [] => []
  | text :: rest =>
      let later := (table.intern allocate text).2.storedBy allocate rest
      match table.addresses[text]? with
      | some _ => later
      | none => (text, allocate table.count text) :: later

/-- Nothing is said about the empty text alone, which takes up no room. -/
def Apart (first second : String × UInt64) : Prop :=
  first.1 ≠ "" ∨ second.1 ≠ "" → first.2 ≠ second.2

instance : Std.Symm Apart :=
  ⟨fun _ _ apart nonempty => (apart nonempty.symm).symm⟩

instance (first second : String × UInt64) : Decidable (Apart first second) :=
  inferInstanceAs (Decidable (_ → _))

/-- Whether the allocator puts no other text where it puts a text that is not empty. -/
def Separates (allocate : Allocator) (texts : List String) : Prop :=
  (storedBy allocate {} texts).Pairwise Apart

instance (allocate : Allocator) (texts : List String) : Decidable (Separates allocate texts) :=
  inferInstanceAs (Decidable (List.Pairwise _ _))

variable {allocate : Allocator} {table : SymbolTable} {text : String}

theorem intern_of_some {address : UInt64} (present : table.addresses[text]? = some address) :
    table.intern allocate text = (⟨text, address⟩, table) := by
  simp only [intern, present]

theorem intern_of_none (absent : table.addresses[text]? = none) :
    table.intern allocate text =
      (⟨text, allocate table.count text⟩,
        ⟨table.addresses.insert text (allocate table.count text)⟩) := by
  simp only [intern, absent]

@[simp] theorem text_intern : (table.intern allocate text).1.text = text := by
  cases present : table.addresses[text]? with
  | none => rw [intern_of_none present]
  | some address => rw [intern_of_some present]

theorem getElem?_intern {other : String} :
    (table.intern allocate text).2.addresses[other]? =
      if text = other then some (table.intern allocate text).1.address
      else table.addresses[other]? := by
  cases present : table.addresses[text]? with
  | none =>
      rw [intern_of_none present]
      simp [Std.ExtTreeMap.getElem?_insert]
  | some address =>
      rw [intern_of_some present]
      split
      · rename_i same
        rw [← same, present]
      · rfl

theorem kept_intern {other : String} {address : UInt64}
    (present : table.addresses[other]? = some address) :
    (table.intern allocate text).2.addresses[other]? = some address := by
  rw [getElem?_intern]
  split
  · rename_i same
    subst same
    rw [intern_of_some present]
  · exact present

theorem kept_internAll {texts : List String} {other : String} {address : UInt64}
    (present : table.addresses[other]? = some address) :
    (table.internAll allocate texts).2.addresses[other]? = some address := by
  induction texts generalizing table with
  | nil => exact present
  | cons text rest ih => exact ih (kept_intern present)

theorem internAll_append (first second : List String) :
    table.internAll allocate (first ++ second) =
      let (symbols, later) := table.internAll allocate first
      let (others, final) := later.internAll allocate second
      (symbols ++ others, final) := by
  induction first generalizing table with
  | nil => rfl
  | cons text rest ih =>
      simp only [List.cons_append, internAll, ih]

theorem map_text_internAll (texts : List String) :
    (table.internAll allocate texts).1.map Symbol.text = texts := by
  induction texts generalizing table with
  | nil => rfl
  | cons text rest ih => simp [internAll, ih]

theorem getElem?_of_mem_internAll {texts : List String} {symbol : Symbol}
    (member : symbol ∈ (table.internAll allocate texts).1) :
    (table.internAll allocate texts).2.addresses[symbol.text]? = some symbol.address := by
  induction texts generalizing table with
  | nil => cases member
  | cons text rest ih =>
      simp only [internAll, List.mem_cons] at member ⊢
      rcases member with rfl | later
      · have here : (table.intern allocate text).2.addresses[text]? =
            some (table.intern allocate text).1.address := by
          rw [getElem?_intern, if_pos rfl]
        rw [text_intern]
        exact kept_internAll here
      · exact ih later

theorem getElem?_internAll {texts : List String} {other : String} {address : UInt64} :
    (table.internAll allocate texts).2.addresses[other]? = some address ↔
      table.addresses[other]? = some address ∨
        (other, address) ∈ table.storedBy allocate texts := by
  induction texts generalizing table with
  | nil => simp [internAll, storedBy]
  | cons text rest ih =>
      -- The allocator is asked only if the text is not in the table.
      simp only [internAll, storedBy, ih]
      cases present : table.addresses[text]? with
      | some known => rw [intern_of_some present]
      | none =>
          rw [getElem?_intern, intern_of_none present]
          by_cases same : text = other
          · subst same
            simp [present, eq_comm]
          · simp [same, Ne.symm same]

theorem mem_internAll {texts : List String} {other : String} :
    other ∈ (table.internAll allocate texts).2.addresses ↔
      other ∈ table.addresses ∨ other ∈ texts := by
  induction texts generalizing table with
  | nil => simp [internAll]
  | cons text rest ih =>
      have here : other ∈ (table.intern allocate text).2.addresses ↔
          other ∈ table.addresses ∨ other = text := by
        rw [Std.ExtTreeMap.mem_iff_isSome_getElem?, getElem?_intern,
          Std.ExtTreeMap.mem_iff_isSome_getElem?]
        by_cases same : text = other
        · simp [same]
        · simp [same, Ne.symm same]
      simp only [internAll, ih, here, List.mem_cons, or_assoc]

section

variable {texts : List String}

theorem Separates.eq_of_getElem? (separates : Separates allocate texts) {first second : String}
    {address : UInt64}
    (one : (internAll allocate {} texts).2.addresses[first]? = some address)
    (two : (internAll allocate {} texts).2.addresses[second]? = some address) :
    first = second := by
  have stored {text : String}
      (found : (internAll allocate {} texts).2.addresses[text]? = some address) :
      (text, address) ∈ storedBy allocate {} texts := by
    simpa using getElem?_internAll.1 found
  by_contra other
  -- Of two different texts, at most one is empty.
  have nonempty : first ≠ "" ∨ second ≠ "" := by
    by_contra both
    push Not at both
    exact other (both.1.trans both.2.symm)
  have different : (first, address) ≠ (second, address) :=
    fun same => other (Prod.mk.inj same).1
  exact List.Pairwise.forall separates (stored one) (stored two) different nonempty rfl

theorem count_internAll : (internAll allocate {} texts).2.count = texts.toFinset.card := by
  rw [count, ← Std.ExtTreeMap.length_keys, ← List.toFinset_card_of_nodup Std.ExtTreeMap.nodup_keys]
  congr 1
  ext text
  simp [mem_internAll]

end

structure Interns (allocate : Allocator) (asked : List String) (symbols : List Symbol)
    (table : SymbolTable) : Prop where
  texts : symbols.map Symbol.text = asked
  same : ∀ a ∈ symbols, ∀ b ∈ symbols, a == b ↔ a.text = b.text
  spelled : ∀ a ∈ symbols, ∀ b ∈ symbols, (a == b) = a.spells b.text
  hashed : ∀ a ∈ symbols, ∀ b ∈ symbols, a == b → hash a = hash b
  compared : ∀ a ∈ symbols, ∀ b ∈ symbols, compare a b = compare a.text b.text
  equal : ∀ a ∈ symbols, ∀ b ∈ symbols, compare a b = .eq ↔ a == b
  less : ∀ a ∈ symbols, ∀ b ∈ symbols, compare a b = .lt ↔ a.text < b.text
  oriented : ∀ a ∈ symbols, ∀ b ∈ symbols, compare b a = (compare a b).swap
  transitive : ∀ a ∈ symbols, ∀ b ∈ symbols, ∀ c ∈ symbols,
    (compare a b).isLE → (compare b c).isLE → (compare a c).isLE
  count : table.count = asked.toFinset.card
  stable : ∀ earlier later, earlier ++ later = asked →
    (internAll allocate {} earlier).1 <+: symbols
  again : ∀ symbol ∈ symbols, table.intern allocate symbol.text = (symbol, table)
  exchanged : ∀ symbol ∈ symbols, ∀ format : Datum → Datum,
    (∀ text, format (.text text) = .text text) →
      table.ofDatum? allocate (format symbol.toDatum) = some (symbol, table)

theorem Separates.beq_iff_text_eq {texts : List String} (separates : Separates allocate texts)
    {a b : Symbol} (first : a ∈ (internAll allocate {} texts).1)
    (second : b ∈ (internAll allocate {} texts).1) : a == b ↔ a.text = b.text := by
  have one := getElem?_of_mem_internAll first
  have two := getElem?_of_mem_internAll second
  rw [Symbol.beq_iff_address_eq]
  constructor
  · intro equal
    rw [← equal] at two
    exact separates.eq_of_getElem? one two
  · intro alike
    rw [alike, two] at one
    exact (Option.some.inj one).symm

/-- However many texts are asked for, symbols are as good as their texts. -/
theorem interns (allocate : Allocator) (texts : List String)
    (separates : Separates allocate texts) :
    Interns allocate texts (internAll allocate {} texts).1 (internAll allocate {} texts).2 := by
  have same : ∀ a ∈ (internAll allocate {} texts).1, ∀ b ∈ (internAll allocate {} texts).1,
      a == b ↔ a.text = b.text :=
    fun _ first _ second => separates.beq_iff_text_eq first second
  have compared : ∀ a ∈ (internAll allocate {} texts).1, ∀ b ∈ (internAll allocate {} texts).1,
      compare a b = compare a.text b.text :=
    fun a first b second => Symbol.compare_eq_compare_text (same a first b second)
  have again : ∀ symbol ∈ (internAll allocate {} texts).1,
      (internAll allocate {} texts).2.intern allocate symbol.text =
        (symbol, (internAll allocate {} texts).2) :=
    fun symbol member => intern_of_some (getElem?_of_mem_internAll member)
  constructor
  case texts => exact map_text_internAll texts
  case same => exact same
  case spelled =>
    intro a first b second
    rw [Bool.eq_iff_iff, same a first b second]
    exact beq_iff_eq.symm
  case hashed =>
    intro a _ b _ equal
    exact Symbol.hash_eq equal
  case compared => exact compared
  case equal =>
    intro a first b second
    rw [compared a first b second, Std.LawfulEqOrd.compare_eq_iff_eq, same a first b second]
  case less =>
    intro a first b second
    rw [compared a first b second]
    exact compare_lt_iff_lt
  case oriented =>
    intro a first b second
    rw [compared b second a first, compared a first b second]
    exact Std.OrientedOrd.eq_swap
  case transitive =>
    intro a first b second c third
    rw [compared a first b second, compared b second c third, compared a first c third]
    exact Std.TransOrd.isLE_trans
  case count => exact count_internAll
  case stable =>
    intro earlier later asked
    rw [← asked, internAll_append]
    exact List.prefix_append _ _
  case again => exact again
  case exchanged =>
    intro symbol member format kept
    rw [Symbol.toDatum, kept, ofDatum?, again symbol member]

theorem interns_room :
    let allocate : Allocator := fun stored text =>
      if text = "" then 1 else 4096 + 64 * stored.toUInt64
    let texts := ["Timer", "", "Tim", "Timer", ""]
    Separates allocate texts ∧
      Interns allocate texts (internAll allocate {} texts).1 (internAll allocate {} texts).2 := by
  intro allocate texts
  have separates : Separates allocate texts := by decide
  exact ⟨separates, interns allocate texts separates⟩

end SymbolTable

end Behavior
