import Almanac.Civil.WallTime

/-! # Whole days

When a stretch of wall-clock time counts as a whole day.  Times are compared at a chosen
precision, and clocks that are set in steps of several units reach no further than the
last full step.
-/
namespace Almanac

/-- The unit of time down to which times are compared. -/
inductive TimeGranularity where
  | second | minute | hour
  deriving DecidableEq, Repr

/-- The precision of times: a unit and the step in which it is counted. -/
structure Precision where
  granularity : TimeGranularity := .second
  increment : Nat := 1
  deriving DecidableEq, Repr

/-- The largest value below 60 that steps of `increment` reach; steps are taken to lie
between 1 and 59. -/
def maxIncrement (increment : Nat) : Nat :=
  let step := max 1 (min increment 59)
  59 / step * step

/-- Whether a stretch of wall-clock time covers a whole day.  It has to begin at
midnight, and to end at midnight, at 23:59:59 or at the last value the steps reach. -/
def isAllDay (start finish : WallTime) (precision : Precision) : Bool :=
  let (h1, m1, s1) := (start.time.hour, start.time.minute, start.time.secondOfMinute)
  let (h2, m2, s2) := (finish.time.hour, finish.time.minute, finish.time.secondOfMinute)
  let reached := maxIncrement precision.increment
  let lastOf := fun n => n == reached || n == 59
  let endsAtMidnight := h2 == 0 && m2 == 0 && s2 == 0
  match precision.granularity with
  | .second =>
    h1 == 0 && m1 == 0 && s1 == 0 && (endsAtMidnight || h2 == 23 && lastOf m2 && lastOf s2)
  | .minute =>
    h1 == 0 && m1 == 0 && (endsAtMidnight || h2 == 23 && lastOf m2 || h2 == 0 && m2 == 0)
  | .hour => h1 == 0 && (endsAtMidnight || h2 == 23 || h2 == 0)

end Almanac
