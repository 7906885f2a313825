import Almanac.Civil.Date

/-! # Weeks

Week rows of the calendar and two counts of weeks.  A week row starts on a chosen
weekday; `Date.weekStart` and `Date.weekColumn` place a date in it.  `isoYear` and
`isoWeek` count weeks by their Thursday, and `weekNumber` is the number shown beside a
week row.
-/
namespace Almanac
namespace Date

/-- The column of a date in a week row that starts on weekday `firstDay`, counted from
Sunday.  The remainder keeps the sign of the difference, so it lies in `0 … 6` for
`firstDay ≤ 6` and may be negative for a larger one. -/
def signedWeekColumn (d : Date) (firstDay : Nat) : Int :=
  ((d.weekday.fromSunday : Int) - firstDay + 7).tmod 7

/-- The column of a date in its week row, as a 64-bit word. -/
def weekColumn (d : Date) (firstDay : Nat) : Nat :=
  (d.signedWeekColumn firstDay % UInt64.size).toNat

/-- The first date of the week row that holds a date. -/
def weekStart (d : Date) (firstDay : Nat) : Date :=
  d.addDays (-d.signedWeekColumn firstDay)

/-- The Thursday of the Monday-to-Sunday week that holds a date. -/
def isoThursday (d : Date) : Date :=
  d.addDays (3 - (d.weekday.fromMonday : Int))

/-- The year a date's ISO week belongs to. -/
def isoYear (d : Date) : Int :=
  d.isoThursday.year

/-- The number of a date's ISO week within its ISO year. -/
def isoWeek (d : Date) : Nat :=
  d.isoThursday.dayOfYear / 7 + 1

/-- The Monday of ISO week 1: the week that holds January 4. -/
def isoYearStart (y : Int) : Date :=
  (ofYMD y 1 4).weekStart 1

/-- The number of ISO weeks of a year: the week of December 28 is the last. -/
def isoWeeks (y : Int) : Nat :=
  (ofYMD y 12 28).isoWeek

/-- The Monday of an ISO week, if that year has that week and the calendar that day. -/
def ofIsoWeek? (y : Int) (week : Nat) : Option Date :=
  let monday := (isoYearStart y).addDays (7 * ((week : Int) - 1))
  if 1 ≤ week ∧ week ≤ isoWeeks y ∧ monday.inCalendar then some monday else none

/-- The number shown beside the week row of a date.  Rows that start on Monday show the
ISO week.  Other rows count from the start of the calendar year: the last days of
December go on counting, the first days of January count as week 0 of an old ISO
year, and a year that does not begin in ISO week 1 is one week ahead. -/
def weekNumber (d : Date) (firstDay : Nat) : Nat :=
  if firstDay = 1 then d.isoWeek
  else
    let counted :=
      if d.year < d.isoYear then (d.addDays (-7)).isoWeek + 1
      else if d.isoYear < d.year then 0
      else d.isoWeek
    if (ofYMD d.year 1 1).isoWeek ≠ 1 then counted + 1 else counted

end Date

/-- Whether `month` comes before the month in focus; December comes before January. -/
def isPastMonth (month current : Nat) : Bool :=
  if current = 1 ∧ month = 12 then true
  else if current = 12 ∧ month = 1 then false
  else month < current

/-- Whether `month` comes after the month in focus; January comes after December. -/
def isFutureMonth (month current : Nat) : Bool :=
  if current = 12 ∧ month = 1 then true
  else if current = 1 ∧ month = 12 then false
  else current < month

end Almanac
