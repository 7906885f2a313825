import Almanac.Civil.Week
import Almanac.Recurrence.Rule

/-! # The days a rule chooses

`Rule.allowsDay` says whether a rule chooses a day.  Months, month days, year days and
plain weekdays are read off the date; an `n`-th weekday is counted within its month or
year; a week number is counted in weeks that start on the rule's own first weekday.
-/
namespace Almanac

/-- Whether a date is the `n`-th of its weekday between two dates, counted from the last
one back for negative `n`. -/
def isNthWeekday (first last : Date) (n : Int) (day : Weekday) (d : Date) : Bool :=
  d.weekday = day && first ≤ d && d ≤ last &&
    (if 0 < n then first.daysUntil d / 7 + 1 = n else d.daysUntil last / 7 + 1 = -n)

/-- Weeks of a year that start on a chosen weekday.  Days are counted from January 1 as
day 0; a week belongs to the year if four of its days do. -/
structure YearWeeks where
  /-- The year. -/
  year : Int
  /-- Days from Monday to the first day of a week. -/
  weekStart : Nat

namespace YearWeeks

variable (w : YearWeeks)

/-- Days from Monday to January 1. -/
def newYear : Nat :=
  (Date.ofYMD w.year 1 1).weekday.fromMonday

/-- The first day of the year on which a week starts. -/
def firstStart : Nat :=
  (7 - w.newYear + w.weekStart) % 7

/-- The day on which week 1 begins within the year: January 1 if the week that holds
it has four days of the year. -/
def weekOne : Nat :=
  if 4 ≤ w.firstStart then 0 else w.firstStart

/-- The number of days from the start of week 1, in this year or the last, to the end of
the year. -/
def countedDays : Nat :=
  if 4 ≤ w.firstStart then yearLength w.year + (w.newYear + 7 - w.weekStart) % 7
  else yearLength w.year - w.weekOne

/-- The number of weeks. -/
def weeks : Nat :=
  w.countedDays / 7 + w.countedDays % 7 / 4

/-- The day on which week `n` begins within the year. -/
def weekDay (n : Nat) : Nat :=
  if n ≤ 1 then w.weekOne
  else w.weekOne + 7 * (n - 1) - (if 4 ≤ w.firstStart then 7 - w.firstStart else 0)

/-- Whether a day lies in the week that begins on day `i`: up to the next day on which a
week starts. -/
def sameWeek (i day : Nat) : Bool :=
  let length := if (i + 7 - w.firstStart % 7) % 7 = 0 then 7 else (w.firstStart + 7 - i % 7) % 7
  i ≤ day && day < i + length

/-- The number of the last week of the year before, whose last days are the days before
week 1.  A year before that starts late in its week counts its own days; another one is
taken to end as this year does. -/
def weeksBefore : Nat :=
  let before : YearWeeks := ⟨w.year - 1, w.weekStart⟩
  let days :=
    if 4 ≤ before.firstStart then
      yearLength before.year + (before.newYear + 7 - w.weekStart) % 7
    else yearLength w.year - w.weekOne
  52 + days % 7 / 4

/-- Whether a day of the year lies in a week of the given numbers, which count from the
end when negative.  Number 1 also takes in the days of week 1 of the next year, and the
last number the days of the last week of the year before. -/
def chosen (numbers : List Int) (day : Nat) : Bool :=
  let ofNumber := fun n : Int =>
    let n := if n < 0 then n + w.weeks + 1 else n
    0 < n && n ≤ w.weeks && w.sameWeek (w.weekDay n.toNat) day
  let next := w.weekDay (w.weeks + 1)
  let ofNext := numbers.contains 1 && next < yearLength w.year && w.sameWeek next day
  let ofBefore := day < w.weekOne &&
    (numbers.contains (-1) || numbers.contains (w.weeksBefore : Int))
  numbers.any ofNumber || ofNext || ofBefore

end YearWeeks

namespace Rule

variable (r : Rule)

/-- The weekdays chosen without a number. -/
def plainWeekdays : List Weekday :=
  r.weekdays.filterMap fun
    | .every day => some day
    | .nth _ _ => none

/-- The weekdays chosen by number. -/
def countedWeekdays : List (Int × Weekday) :=
  r.weekdays.filterMap fun
    | .every _ => none
    | .nth n day => some (n, day)

/-- The first and last date among which a numbered weekday is counted: the year, or the
month if the rule is monthly or chooses months.  Shorter periods do not count
weekdays. -/
def countingSpan? (d : Date) : Option (Date × Date) :=
  let month := (Date.ofYMD d.year d.month 1, Date.ofYMD d.year d.month (daysInMonth d.year d.month))
  match r.frequency with
  | .yearly =>
    if r.months = [] then some (Date.ofYMD d.year 1 1, Date.ofYMD d.year 12 31) else some month
  | .monthly => some month
  | _ => none

/-- Whether the numbered weekdays of a rule admit a date. -/
def allowsCounted (d : Date) : Bool :=
  match r.countedWeekdays, r.countingSpan? d with
  | [], _ => true
  | _, none => true
  | counted, some (first, last) => counted.any fun (n, day) => isNthWeekday first last n day d

/-- Whether a rule chooses a date. -/
def allowsDay (d : Date) : Bool :=
  (r.months = [] || r.months.contains d.month) &&
  (r.weekNumbers = [] ||
    YearWeeks.chosen ⟨d.year, r.weekStart.fromMonday⟩ r.weekNumbers d.dayOfYear) &&
  (r.plainWeekdays = [] || r.plainWeekdays.contains d.weekday) &&
  r.allowsCounted d &&
  (r.monthDays = [] || r.monthDays.contains (d.day : Int) ||
    r.monthDays.contains ((d.day : Int) - daysInMonth d.year d.month - 1)) &&
  (r.yearDays = [] || r.yearDays.contains ((d.dayOfYear : Int) + 1) ||
    r.yearDays.contains ((d.dayOfYear : Int) - yearLength d.year))

end Rule
end Almanac
