import Behavior.Interning
import Behavior.Snapshot

namespace Behavior

inductive Datum where
  | null
  | bool (value : Bool)
  | natural (value : UInt64)
  | negative (value : Int64)
  | real (value : Float)
  | text (value : String)
  | list (items : List Datum)
  | object (entries : List (String × Datum))

namespace Datum

def number? : Datum → Option Float32
  | natural value => some value.toFloat32
  | negative value => some value.toFloat32
  | real value => some value.toFloat32
  | _ => none

def ofNumber (value : Float32) : Datum :=
  if value.isFinite then real value.toFloat else null

-- A list has exactly the fields, in their order; an object may have others besides.
def fields? (names : List String) : Datum → Option (List Datum)
  | list items => if items.length = names.length then some items else none
  | object entries => names.mapM (entries.lookup ·)
  | _ => none

def ofOptional (value : Option Datum) : Datum :=
  value.getD null

end Datum

namespace Status

def ofDatum? : Datum → Option Status
  | .text label => ofLabel? label
  | .object [(label, .null)] => ofLabel? label
  | _ => none

def toDatum (status : Status) : Datum :=
  .text status.label

theorem ofDatum?_toDatum (status : Status) : ofDatum? status.toDatum = some status :=
  ofLabel?_label status

end Status

namespace Vec3

def ofDatum? (datum : Datum) : Option Vec3 := do
  let [x, y, z] ← datum.fields? ["x", "y", "z"] | none
  return ⟨← x.number?, ← y.number?, ← z.number?⟩

def toDatum (v : Vec3) : Datum :=
  .object [("x", .ofNumber v.x), ("y", .ofNumber v.y), ("z", .ofNumber v.z)]

end Vec3

namespace Transform

def ofDatum? (datum : Datum) : Option Transform := do
  let [position, forward] ← datum.fields? ["position", "forward"] | none
  return ⟨← Vec3.ofDatum? position, ← Vec3.ofDatum? forward⟩

def toDatum (transform : Transform) : Datum :=
  .object [("position", transform.position.toDatum), ("forward", transform.forward.toDatum)]

end Transform

def SymbolTable.ofDatum? (allocate : Allocator) (table : SymbolTable) :
    Datum → Option (Symbol × SymbolTable)
  | .text value => some (table.intern allocate value)
  | _ => none

def Symbol.toDatum (symbol : Symbol) : Datum :=
  .text symbol.text

namespace NodeSnapshot

mutual

def toDatum : NodeSnapshot → Datum
  | mk path kind name status children =>
      .object
        [("path", .text path), ("kind", .text kind.label),
          ("name", .ofOptional (name.map .text)),
          ("state", .ofOptional (status.map Status.toDatum)),
          ("children", .list (toData children))]

def toData : List NodeSnapshot → List Datum
  | [] => []
  | node :: rest => node.toDatum :: toData rest

end

end NodeSnapshot

def TreeSnapshot.toDatum (snapshot : TreeSnapshot) : Datum :=
  .object [("ticks", .natural snapshot.ticks), ("root", snapshot.root.toDatum)]

end Behavior
