import Std.Data.ExtTreeMap
import Behavior.Text.Quoted

/-!
# Interned texts

Every distinct text is stored once, at an address that the allocator picks when the text is first
asked for, and it stays there for good. Two symbols are the same if they are stored at the same
address; this takes the place of comparing their texts.

The allocator is a parameter. Nothing below depends on where it puts a text, but comparing
addresses is comparing texts only if it keeps different texts apart.
-/

namespace Behavior

structure Symbol where
  text : String
  address : UInt64

namespace Symbol

instance : BEq Symbol where
  beq a b := a.address == b.address

instance : Hashable Symbol where
  hash a := hash a.address

instance : Ord Symbol where
  compare a b := if a == b then .eq else compare a.text b.text

def spells (symbol : Symbol) (text : String) : Bool :=
  symbol.text == text

instance : ToString Symbol where
  toString symbol := symbol.text

def quoted (symbol : Symbol) : String :=
  Text.quoted symbol.text

def byteSize (symbol : Symbol) : Nat :=
  symbol.text.utf8ByteSize

end Symbol

abbrev Allocator := Nat → String → UInt64

structure SymbolTable where
  addresses : Std.ExtTreeMap String UInt64 := ∅

namespace SymbolTable

def count (table : SymbolTable) : Nat :=
  table.addresses.size

def intern (allocate : Allocator) (table : SymbolTable) (text : String) : Symbol × SymbolTable :=
  match table.addresses[text]? with
  | some address => (⟨text, address⟩, table)
  | none =>
      let address := allocate table.count text
      (⟨text, address⟩, ⟨table.addresses.insert text address⟩)

end SymbolTable

end Behavior
