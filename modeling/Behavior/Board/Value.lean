import Std.Data.ExtTreeMap
import Behavior.Space
import Behavior.Text.Quoted

namespace Behavior

/-- The codes of the types that a host stores besides the fixed ones. -/
class HostTypes (η : Type) where
  decEq : DecidableEq η
  Carrier : η → Type
  name : η → String

instance (priority := low) {η : Type} [HostTypes η] : DecidableEq η := HostTypes.decEq

inductive ValueType (η : Type) where
  | number
  | vector
  | transform
  | host (code : η)
deriving DecidableEq

namespace ValueType

variable {η : Type} [HostTypes η]

def Carrier : ValueType η → Type
  | number => Float32
  | vector => Vec3
  | transform => Transform
  | host code => HostTypes.Carrier code

def name : ValueType η → String
  | number => "f32"
  | vector => "npc_behavior_tree::math::Vec3"
  | transform => "npc_behavior_tree::math::Transform"
  | host code => HostTypes.name code

end ValueType

structure Entry (η : Type) [HostTypes η] where
  type : ValueType η
  value : type.Carrier

structure Stored (η : Type) [HostTypes η] extends Entry η where
  label : String

abbrev Entries (η : Type) [HostTypes η] := Std.ExtTreeMap String (Stored η)

structure TypeMismatch where
  key : String
  expected : String
  found : String
deriving DecidableEq

def TypeMismatch.message (mismatch : TypeMismatch) : String :=
  "blackboard key " ++ Text.quoted mismatch.key ++ " holds a " ++ mismatch.found ++ ", not a "
    ++ mismatch.expected

namespace Entry

variable {η : Type} [HostTypes η]

def as? (entry : Entry η) (type : ValueType η) : Option type.Carrier :=
  if same : entry.type = type then some (same ▸ entry.value) else none

theorem as?_eq_some_iff {entry : Entry η} {type : ValueType η} {value : type.Carrier} :
    entry.as? type = some value ↔ entry = ⟨type, value⟩ := by
  obtain ⟨own, content⟩ := entry
  by_cases same : own = type
  · subst same
    simp [as?]
  · simp [as?, same]

theorem as?_eq_none_iff {entry : Entry η} {type : ValueType η} :
    entry.as? type = none ↔ entry.type ≠ type := by
  by_cases same : entry.type = type <;> simp [as?, same]

end Entry

namespace Stored

variable {η : Type} [HostTypes η]

def ofEntry (entry : Entry η) : Stored η :=
  ⟨entry, entry.type.name⟩

def read (stored : Stored η) (key : String) (type : ValueType η) :
    Except TypeMismatch type.Carrier :=
  match stored.as? type with
  | some value => .ok value
  | none => .error ⟨key, type.name, stored.label⟩

/-- Puts another value in place of the one that is there, under the same label. -/
def write (stored : Stored η) (type : ValueType η) (value : type.Carrier) : Stored η :=
  { stored with type, value }

@[simp] theorem read_self (key : String) (type : ValueType η) (value : type.Carrier) :
    (ofEntry ⟨type, value⟩).read key type = .ok value := by
  simp [read, ofEntry, Entry.as?]

theorem read_of_type_ne {stored : Stored η} {type : ValueType η} (key : String)
    (other : stored.type ≠ type) :
    stored.read key type = .error ⟨key, type.name, stored.label⟩ := by
  simp [read, Entry.as?_eq_none_iff.2 other]

end Stored

namespace Entries

variable {η : Type} [HostTypes η]

def put (entries : Entries η) (key : String) (stored : Stored η) : Entries η :=
  Std.ExtTreeMap.insert entries key stored

def insert (entries : Entries η) (key : String) (entry : Entry η) : Entries η :=
  entries.put key (.ofEntry entry)

def read? (entries : Entries η) (key : String) (type : ValueType η) :
    Except TypeMismatch (Option type.Carrier) :=
  match entries[key]? with
  | some stored => (stored.read key type).map some
  | none => .ok none

end Entries

end Behavior
