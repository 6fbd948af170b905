import Behavior.Board.Basic

namespace Behavior

def defaultSightRange : Float32 := 15

def defaultHearingRange : Float32 := 20

namespace Board

variable {η : Type} [HostTypes η]

def selfTransformKey : String := "SelfTransform"

def targetEnemyKey : String := "TargetEnemy"

def moveToPositionKey : String := "MoveToPosition"

def timerKey : String := "Timer"

def sightRangeKey : String := "SightRange"

def hearingRangeKey : String := "HearingRange"

def selfTransform? (board : Board η) : Except TypeMismatch (Option Transform) :=
  board.get? selfTransformKey .transform

def setSelfTransform (board : Board η) (transform : Transform) : Board η :=
  board.set selfTransformKey .transform transform

def targetEnemy? (board : Board η) : Except TypeMismatch (Option Transform) :=
  board.get? targetEnemyKey .transform

def setTargetEnemy (board : Board η) (enemy : Option Transform) : Board η :=
  match enemy with
  | some transform => board.set targetEnemyKey .transform transform
  | none => (board.erase targetEnemyKey).2

def moveToPosition (board : Board η) : Except TypeMismatch Vec3 :=
  board.getD moveToPositionKey .vector Vec3.zero

def setMoveToPosition (board : Board η) (position : Vec3) : Board η :=
  board.set moveToPositionKey .vector position

def timer (board : Board η) : Except TypeMismatch Float32 :=
  board.getD timerKey .number (0 : Float32)

def setTimer (board : Board η) (time : Float32) : Board η :=
  board.set timerKey .number time

def sightRange (board : Board η) : Except TypeMismatch Float32 :=
  board.getD sightRangeKey .number defaultSightRange

def setSightRange (board : Board η) (range : Float32) : Board η :=
  board.set sightRangeKey .number range

def hearingRange (board : Board η) : Except TypeMismatch Float32 :=
  board.getD hearingRangeKey .number defaultHearingRange

def setHearingRange (board : Board η) (range : Float32) : Board η :=
  board.set hearingRangeKey .number range

end Board

end Behavior
