import Behavior.Node.Basic

namespace Behavior

/-- How many children came to each status. The counts are machine words, and the number of running
children is a short signed one. -/
structure Tally where
  successes : UInt64 := 0
  failures : UInt64 := 0
  running : Int32 := 0

namespace Tally

def add (tally : Tally) : Status → Tally
  | .success => { tally with successes := tally.successes + 1 }
  | .failure => { tally with failures := tally.failures + 1 }
  | .running => { tally with running := tally.running + 1 }

def ofList (statuses : List Status) : Tally :=
  statuses.foldl add {}

end Tally

namespace Composite

def stops : Composite → Status → Bool
  | sequence, status => status != .success
  | selector, status => status != .failure
  | parallel .., _ => false

/-- The status of the composite, given those of the children that were evaluated. If a parallel
composite meets both of its requirements, the successes win; if it meets neither and nothing is
running, it has failed. -/
def verdict (rule : Composite) (statuses : List Status) : Status :=
  match rule with
  | sequence => (statuses.find? (· != .success)).getD .success
  | selector => (statuses.find? (· != .failure)).getD .failure
  | parallel successes failures =>
      let tally := Tally.ofList statuses
      if successes ≤ tally.successes then .success
      else if failures ≤ tally.failures then .failure
      else if 0 < tally.running then .running
      else .failure

end Composite

def succSaturating (n : UInt64) : UInt64 :=
  if n + 1 = 0 then n else n + 1

def RepeatCount.isReached (limit : RepeatCount) (completed : UInt64) : Bool :=
  match limit with
  | times count => count ≤ completed
  | forever => false

/-- The decorator after its child came to the given status, and what it makes of it. A repeater
goes on counting when its limit is reached, and so passes every later settlement on. -/
def Decorator.judge (rule : Decorator) (status : Status) : Decorator × Status :=
  match rule with
  | inverter => (inverter, status.invert)
  | repeater limit completed =>
      if status.isRunning then (repeater limit completed, .running)
      else
        let completed := succSaturating completed
        (repeater limit completed, if limit.isReached completed then status else .running)
  | untilFail => (untilFail, if status = .failure then .success else .running)

end Behavior
