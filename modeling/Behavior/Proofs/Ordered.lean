import Behavior.Node.Verdict

namespace Behavior.Composite

def isOrdered : Composite → Bool
  | sequence => true
  | selector => true
  | parallel .. => false

variable {rule : Composite}

theorem verdict_cons (ordered : rule.isOrdered = true) (status : Status)
    (statuses : List Status) :
    rule.verdict (status :: statuses) =
      if rule.stops status then status else rule.verdict statuses := by
  cases rule with
  | sequence => cases status <;> rfl
  | selector => cases status <;> rfl
  | parallel successes failures => cases ordered

theorem verdict_singleton (ordered : rule.isOrdered = true) (status : Status) :
    rule.verdict [status] = status := by
  cases rule with
  | sequence => cases status <;> rfl
  | selector => cases status <;> rfl
  | parallel successes failures => cases ordered

theorem stops_verdict (ordered : rule.isOrdered = true) (statuses : List Status) :
    rule.stops (rule.verdict statuses) = statuses.any rule.stops := by
  induction statuses with
  | nil =>
      cases rule with
      | sequence => rfl
      | selector => rfl
      | parallel successes failures => cases ordered
  | cons status statuses ih =>
      rw [verdict_cons ordered, List.any_cons, ← ih]
      cases stop : rule.stops status <;> simp [stop]

theorem verdict_append (ordered : rule.isOrdered = true) {statuses : List Status}
    (passed : statuses.any rule.stops = false) (later : List Status) :
    rule.verdict (statuses ++ later) = rule.verdict later := by
  induction statuses with
  | nil => rfl
  | cons status statuses ih =>
      rw [List.any_cons, Bool.or_eq_false_iff] at passed
      rw [List.cons_append, verdict_cons ordered, passed.1]
      exact ih passed.2

end Behavior.Composite
