namespace Behavior

inductive Status where
  | running
  | success
  | failure
deriving DecidableEq

namespace Status

def label : Status → String
  | running => "Running"
  | success => "Success"
  | failure => "Failure"

def ofLabel? (text : String) : Option Status :=
  [running, success, failure].find? (·.label == text)

def invert : Status → Status
  | running => running
  | success => failure
  | failure => success

def isRunning (status : Status) : Bool :=
  status == running

def isSettled (status : Status) : Bool :=
  !status.isRunning

def ofBool (holds : Bool) : Status :=
  if holds then success else failure

@[simp] theorem invert_invert (status : Status) : status.invert.invert = status := by
  cases status <;> rfl

@[simp] theorem ofLabel?_label (status : Status) : ofLabel? status.label = some status := by
  cases status <;> rfl

theorem isSettled_iff {status : Status} : status.isSettled ↔ status ≠ running := by
  cases status <;> decide

end Status

end Behavior
