import Mathlib.Data.Finmap
import Mathlib.Data.Finset.Sort
import Mathlib.Data.String.Basic
import Behavior.Board.Slots
import Behavior.Host

/-!
# Requests to a board

Everything that hosts and callbacks can ask of a board, and how a board answers. Beside it stands
what is meant by that: two finite maps from texts to typed values, one of them for the leaf whose
callback is running. There are no labels in these maps; what is told of a type is the name of the
type that is there.
-/

namespace Behavior

inductive Request (η : Type) [HostTypes η] where
  | set (key : String) (type : ValueType η) (value : type.Carrier)
  | get (key : String) (type : ValueType η)
  | tryGet (key : String) (type : ValueType η)
  | getD (key : String) (type : ValueType η) (default : type.Carrier)
  | modify (key : String) (type : ValueType η) (change : type.Carrier → type.Carrier)
  | erase (key : String)
  | contains (key : String)
  | size
  | isEmpty
  | keys
  | typeName (key : String)
  | getLocal (key : String) (type : ValueType η)
  | getLocalD (key : String) (type : ValueType η) (default : type.Carrier)
  | setLocal (key : String) (type : ValueType η) (value : type.Carrier)
  | eraseLocal (key : String)

inductive SlotRequest where
  | selfTransform
  | setSelfTransform (transform : Transform)
  | targetEnemy
  | setTargetEnemy (enemy : Option Transform)
  | moveToPosition
  | setMoveToPosition (position : Vec3)
  | timer
  | setTimer (time : Float32)
  | sightRange
  | setSightRange (range : Float32)
  | hearingRange
  | setHearingRange (range : Float32)

inductive Access (η : Type) [HostTypes η] where
  | key (request : Request η)
  | slot (request : SlotRequest)

inductive Answer (η : Type) [HostTypes η] where
  | done
  | truth (value : Bool)
  | number (value : Nat)
  | texts (values : List String)
  | text (value : Option String)
  | found (type : ValueType η) (value : Option type.Carrier)
  | given (type : ValueType η) (value : type.Carrier)
  | mismatch (error : TypeMismatch)
  | panicked (panic : Panic)
  | logged (records : List Record)

namespace Answer

variable {η : Type} [HostTypes η] {ρ : Type}

def orPanic (answer : ρ → Answer η) : Except TypeMismatch ρ → Answer η
  | .ok value => answer value
  | .error error => panicked (.mismatch error)

def orMismatch (answer : ρ → Answer η) : Except TypeMismatch ρ → Answer η
  | .ok value => answer value
  | .error error => mismatch error

end Answer

namespace SlotRequest

variable {η : Type} [HostTypes η]

def request : SlotRequest → Request η
  | selfTransform => .get "SelfTransform" .transform
  | setSelfTransform transform => .set "SelfTransform" .transform transform
  | targetEnemy => .get "TargetEnemy" .transform
  | setTargetEnemy (some transform) => .set "TargetEnemy" .transform transform
  | setTargetEnemy none => .erase "TargetEnemy"
  | moveToPosition => .getD "MoveToPosition" .vector Vec3.zero
  | setMoveToPosition position => .set "MoveToPosition" .vector position
  | timer => .getD "Timer" .number (0 : Float32)
  | setTimer time => .set "Timer" .number time
  | sightRange => .getD "SightRange" .number (15 : Float32)
  | setSightRange range => .set "SightRange" .number range
  | hearingRange => .getD "HearingRange" .number (20 : Float32)
  | setHearingRange range => .set "HearingRange" .number range

def answer : SlotRequest → Answer η → Answer η
  | setTargetEnemy _, _ => .done
  | _, answer => answer

end SlotRequest

/-! ## Boards -/

namespace Board

variable {η : Type} [HostTypes η]

def perform (board : Board η) : Request η → Board η × Answer η
  | .set key type value => (board.set key type value, .done)
  | .get key type => (board, .orPanic (.found type) (board.get? key type))
  | .tryGet key type => (board, .orMismatch (.found type) (board.get? key type))
  | .getD key type default => (board, .orPanic (.given type) (board.getD key type default))
  | .modify key type change =>
      match board.modify key type change with
      | .ok (old, changed) => (changed, .found type old)
      | .error error => (board, .panicked (.mismatch error))
  | .erase key =>
      let (removed, board) := board.erase key
      (board, .truth removed)
  | .contains key => (board, .truth (board.contains key))
  | .size => (board, .number board.size)
  | .isEmpty => (board, .truth board.isEmpty)
  | .keys => (board, .texts board.keys)
  | .typeName key => (board, .text (board.typeName? key))
  | .getLocal key type => (board, .orPanic (.found type) (board.getLocal? key type))
  | .getLocalD key type default =>
      (board, .orPanic (.given type) (board.getLocalD key type default))
  | .setLocal key type value =>
      let (board, records) := board.setLocal key type value
      (board, .logged records)
  | .eraseLocal key =>
      let (removed, board) := board.eraseLocal key
      (board, .truth removed)

def performSlot (board : Board η) : SlotRequest → Board η × Answer η
  | .selfTransform => (board, .orPanic (.found .transform) board.selfTransform?)
  | .setSelfTransform transform => (board.setSelfTransform transform, .done)
  | .targetEnemy => (board, .orPanic (.found .transform) board.targetEnemy?)
  | .setTargetEnemy enemy => (board.setTargetEnemy enemy, .done)
  | .moveToPosition => (board, .orPanic (.given .vector) board.moveToPosition)
  | .setMoveToPosition position => (board.setMoveToPosition position, .done)
  | .timer => (board, .orPanic (.given .number) board.timer)
  | .setTimer time => (board.setTimer time, .done)
  | .sightRange => (board, .orPanic (.given .number) board.sightRange)
  | .setSightRange range => (board.setSightRange range, .done)
  | .hearingRange => (board, .orPanic (.given .number) board.hearingRange)
  | .setHearingRange range => (board.setHearingRange range, .done)

def access (board : Board η) : Access η → Board η × Answer η
  | .key request => board.perform request
  | .slot request => board.performSlot request

def run (board : Board η) : List (Access η) → Board η × List (Answer η)
  | [] => (board, [])
  | first :: rest =>
      let (board, answer) := board.access first
      let (board, answers) := board.run rest
      (board, answer :: answers)

end Board

/-! ## What is meant -/

abbrev Ledger (η : Type) [HostTypes η] := Finmap fun _ : String => Entry η

structure Content (η : Type) [HostTypes η] where
  shared : Ledger η := ∅
  scratch : Option (Ledger η) := none

namespace Content

variable {η : Type} [HostTypes η]

def typed (key : String) (type : ValueType η) :
    Option (Entry η) → Except TypeMismatch (Option type.Carrier)
  | none => .ok none
  | some ⟨own, value⟩ =>
      if same : own = type then .ok (some (same ▸ value))
      else .error ⟨key, type.name, own.name⟩

def perform (content : Content η) : Request η → Content η × Answer η
  | .set key type value =>
      ({ content with shared := content.shared.insert key ⟨type, value⟩ }, .done)
  | .get key type =>
      (content, .orPanic (.found type) (typed key type (content.shared.lookup key)))
  | .tryGet key type =>
      (content, .orMismatch (.found type) (typed key type (content.shared.lookup key)))
  | .getD key type default =>
      (content, .orPanic (fun value => .given type (value.getD default))
        (typed key type (content.shared.lookup key)))
  | .modify key type change =>
      match typed key type (content.shared.lookup key) with
      | .ok (some old) =>
          ({ content with shared := content.shared.insert key ⟨type, change old⟩ },
            .found type (some old))
      | .ok none => (content, .found type none)
      | .error error => (content, .panicked (.mismatch error))
  | .erase key =>
      ({ content with shared := content.shared.erase key }, .truth (key ∈ content.shared))
  | .contains key => (content, .truth (key ∈ content.shared))
  | .size => (content, .number content.shared.keys.card)
  | .isEmpty => (content, .truth (content.shared.keys = ∅))
  | .keys => (content, .texts content.shared.keys.sort)
  | .typeName key => (content, .text ((content.shared.lookup key).map (·.type.name)))
  | .getLocal key type =>
      (content, .orPanic (.found type)
        (typed key type (content.scratch.bind (·.lookup key))))
  | .getLocalD key type default =>
      (content, .orPanic (fun value => .given type (value.getD default))
        (typed key type (content.scratch.bind (·.lookup key))))
  | .setLocal key type value =>
      match content.scratch with
      | some entries =>
          ({ content with scratch := some (entries.insert key ⟨type, value⟩) }, .logged [])
      | none => (content, .logged [.strayWrite key])
  | .eraseLocal key =>
      match content.scratch with
      | some entries =>
          ({ content with scratch := some (entries.erase key) }, .truth (key ∈ entries))
      | none => (content, .truth false)

def access (content : Content η) : Access η → Content η × Answer η
  | .key request => content.perform request
  | .slot request =>
      let (content, answer) := content.perform request.request
      (content, request.answer answer)

def run (content : Content η) : List (Access η) → Content η × List (Answer η)
  | [] => (content, [])
  | first :: rest =>
      let (content, answer) := content.access first
      let (content, answers) := content.run rest
      (content, answer :: answers)

end Content

end Behavior
