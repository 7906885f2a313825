import Almanac.Civil.Week
import Almanac.Zone

/-! # Visible ranges

The stretch of whole days a calendar shows: a year, a month, a week or a day, or any two
dates.  A range keeps the instants at which its first date begins and its last date ends
on the clocks of the display zone; its dates are read off these.
-/
namespace Almanac

/-- The unit of time a calendar shows. -/
inductive Granularity where
  | year | month | week | day
  deriving DecidableEq, Repr

namespace Granularity

/-- The name in lower case. -/
def name : Granularity → String
  | year => "year"
  | month => "month"
  | week => "week"
  | day => "day"

end Granularity

/-- Why there is no such range. -/
inductive RangeError where
  /-- The last date comes before the first. -/
  | reversed (first last : Date)
  /-- The calendar has no such date. -/
  | noSuchDate (year : Int) (month day : Nat)
  /-- The year has no such week. -/
  | noSuchWeek (year : Int) (week : Nat)
  /-- No argument is given, or a blank one. -/
  | missingArgument
  /-- The argument is not of the form its granularity asks for. -/
  | invalidArgument (text : String) (granularity : Granularity)
  /-- A bound of the range lies outside the calendar.  This ends the run. -/
  | outsideCalendar
  deriving DecidableEq, Repr

/-- The message of an error; one that ends the run has none. -/
def RangeError.message? : RangeError → Option String
  | reversed first last =>
    some ("Range end " ++ last.text ++ " is before range start " ++ first.text)
  | noSuchDate y m d =>
    some ("Invalid date " ++ Text.intText y ++ "-" ++ Text.pad 2 m ++ "-" ++ Text.pad 2 d)
  | noSuchWeek y w =>
    some ("Week " ++ Text.pad 0 w ++ " does not exist in " ++ Text.intText y)
  | missingArgument => some "No calendar date argument value was provided."
  | invalidArgument text granularity =>
    some ("The value " ++ text ++ " is not a valid date argument for " ++ granularity.name)
  | outsideCalendar => none

/-- The whole days a calendar shows, on the clocks of a display zone. -/
structure Range where
  start : Instant
  finish : Instant
  granularity : Granularity
  zone : Zone
  today : Date
  /-- The weekday on which a week row starts, counted from Sunday. -/
  firstDay : Nat
  deriving DecidableEq, Repr

/-- The date of a year, a month and a day. -/
def requireDate (y : Int) (month day : Nat) : Except RangeError Date :=
  match Date.ofYMD? y month day with
  | some d => .ok d
  | none => .error (.noSuchDate y month day)

/-- The year and the month after a month.  Years are 32-bit integers and months 32-bit
words, and the largest of them has no next. -/
def nextMonth? (y : Int) (month : Nat) : Option (Int × Nat) :=
  if month = 12 then if y + 1 < 2147483648 then some (y + 1, 1) else none
  else if month + 1 < UInt32.size then some (y, month + 1) else none

/-- The last date of a month: the day before the first of the next month. -/
def lastDayOfMonth (y : Int) (month : Nat) : Except RangeError Date :=
  match nextMonth? y month with
  | none => .error .outsideCalendar
  | some (y, month) => do return (← requireDate y month 1).addDays (-1)

namespace Range

/-- What a range needs beside its dates. -/
structure Context where
  zone : Zone
  today : Date
  firstDay : Nat

/-- The range from one date through another. -/
def ofDates (context : Context) (granularity : Granularity) (first last : Date) :
    Except RangeError Range :=
  if last < first then .error (.reversed first last)
  else if context.zone.canResolve (.dayStart first) && context.zone.canResolve (.dayEnd last) then
    .ok {
      start := context.zone.startOfDay first
      finish := context.zone.endOfDay last
      granularity := granularity
      zone := context.zone
      today := context.today
      firstDay := context.firstDay }
  else .error .outsideCalendar

/-- The range of a year. -/
def ofYear (context : Context) (y : Int) : Except RangeError Range := do
  let first ← requireDate y 1 1
  let last ← requireDate y 12 31
  ofDates context .year first last

/-- The range of a month. -/
def ofMonth (context : Context) (y : Int) (month : Nat) : Except RangeError Range := do
  let first ← requireDate y month 1
  let last ← lastDayOfMonth y month
  ofDates context .month first last

/-- The range of the week row that holds the Monday of an ISO week. -/
def ofWeek (context : Context) (y : Int) (week : Nat) : Except RangeError Range :=
  match Date.ofIsoWeek? y week with
  | none => .error (.noSuchWeek y week)
  | some monday =>
    let first := monday.weekStart context.firstDay
    let last := first.addDays 6
    if first.inCalendar && last.inCalendar then ofDates context .week first last
    else .error .outsideCalendar

/-- The range of one date. -/
def ofDay (context : Context) (d : Date) : Except RangeError Range :=
  ofDates context .day d d

variable (r : Range)

/-- The first date of the range in the display zone. -/
def firstDate : Date := r.zone.dateAt r.start

/-- The last date of the range in the display zone. -/
def lastDate : Date := r.zone.dateAt r.finish

/-- Whether the calendar has the first and last date in the display zone. -/
def fits : Bool := r.zone.shows r.start && r.zone.shows r.finish

/-- Whether a date lies in the range. -/
def contains (d : Date) : Bool :=
  r.firstDate ≤ d && d ≤ r.lastDate

/-- The year and the month the range begins in. -/
def focalMonth : Int × Nat :=
  (r.firstDate.year, r.firstDate.month)

/-- The dates of the range, in order. -/
def days : List Date :=
  r.firstDate.upTo r.lastDate

end Range
end Almanac
