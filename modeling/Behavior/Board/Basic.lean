import Behavior.Board.Value
import Behavior.Record
import Behavior.Text.Form

/-!
# The board

A board is the memory that all nodes of a tree share: typed values under text keys. While a leaf's
callback runs, the board also gives access to the private values of that leaf, the scratch view,
under keys of their own. Reading a key at another type than it holds is an error; an absent key is
not.
-/

namespace Behavior

structure Board (η : Type) [HostTypes η] where
  shared : Entries η := ∅
  scratch : Option (Entries η) := none

namespace Board

variable {η : Type} [HostTypes η]

instance : EmptyCollection (Board η) := ⟨{}⟩

instance : Inhabited (Board η) := ⟨∅⟩

/-! ## Shared values -/

def set (board : Board η) (key : String) (type : ValueType η) (value : type.Carrier) :
    Board η :=
  { board with shared := board.shared.insert key ⟨type, value⟩ }

def get? (board : Board η) (key : String) (type : ValueType η) :
    Except TypeMismatch (Option type.Carrier) :=
  board.shared.read? key type

def getD (board : Board η) (key : String) (type : ValueType η) (default : type.Carrier) :
    Except TypeMismatch type.Carrier :=
  (board.get? key type).map (·.getD default)

def modify (board : Board η) (key : String) (type : ValueType η)
    (change : type.Carrier → type.Carrier) :
    Except TypeMismatch (Option type.Carrier × Board η) :=
  match board.shared[key]? with
  | some stored =>
      (stored.read key type).map fun old =>
        (some old, { board with shared := board.shared.put key (stored.write type (change old)) })
  | none => .ok (none, board)

def contains (board : Board η) (key : String) : Bool :=
  board.shared.contains key

def erase (board : Board η) (key : String) : Bool × Board η :=
  (board.contains key, { board with shared := board.shared.erase key })

def size (board : Board η) : Nat :=
  board.shared.size

def isEmpty (board : Board η) : Bool :=
  board.shared.isEmpty

def keys (board : Board η) : List String :=
  board.shared.keys

def typeName? (board : Board η) (key : String) : Option String :=
  board.shared[key]?.map (·.label)

def ofList (pairs : List (String × Entry η)) : Board η :=
  pairs.foldl (fun board (key, entry) => board.set key entry.type entry.value) ∅

def form (board : Board η) : Text.Form :=
  .map (board.shared.toList.map fun (key, stored) => (key, .text stored.label))

/-! ## Private values

Without a running callback there is nothing to read or erase, and a write is dropped and
reported. -/

def getLocal? (board : Board η) (key : String) (type : ValueType η) :
    Except TypeMismatch (Option type.Carrier) :=
  match board.scratch with
  | some entries => entries.read? key type
  | none => .ok none

def getLocalD (board : Board η) (key : String) (type : ValueType η)
    (default : type.Carrier) : Except TypeMismatch type.Carrier :=
  (board.getLocal? key type).map (·.getD default)

def setLocal (board : Board η) (key : String) (type : ValueType η) (value : type.Carrier) :
    Board η × List Record :=
  match board.scratch with
  | some entries => ({ board with scratch := some (entries.insert key ⟨type, value⟩) }, [])
  | none => (board, [.strayWrite key])

def eraseLocal (board : Board η) (key : String) : Bool × Board η :=
  match board.scratch with
  | some entries => (entries.contains key, { board with scratch := some (entries.erase key) })
  | none => (false, board)

end Board

end Behavior
