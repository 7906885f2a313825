import Almanac.Zone

/-! # Recurrence rules

A rule says on which days and at which times of day an event comes back.  Its frequency
and interval cut time into periods; the lists choose days and times within a period, and
an empty list chooses all of them.  `Rule.fillFrom` completes a rule from the start of its
event, and `Rule.check` states when a completed rule is sound.
-/
namespace Almanac

/-- The length of the periods of a rule. -/
inductive Frequency where
  | yearly | monthly | weekly | daily | hourly | minutely | secondly
  deriving DecidableEq, Repr

namespace Frequency

/-- Position in the order from the longest period to the shortest. -/
def rank : Frequency → Nat
  | yearly => 0
  | monthly => 1
  | weekly => 2
  | daily => 3
  | hourly => 4
  | minutely => 5
  | secondly => 6

/-- The number of periods of one unit that begin on one day; periods longer than a day
count as one. -/
def perDay : Frequency → Nat
  | hourly => 24
  | minutely => 1440
  | secondly => 86400
  | _ => 1

end Frequency

/-- A weekday of a rule: every one of a period, or the `n`-th, counted from the end for
negative `n`. -/
inductive WeekdayChoice where
  | every (day : Weekday)
  | nth (n : Int) (day : Weekday)
  deriving DecidableEq, Repr

/-- The property names of a rule. -/
inductive Property where
  | frequency | lastInstant | count | interval | bySecond | byMinute | byHour | byDay
  | byMonthDay | byYearDay | byWeekNumber | byMonth | bySetPosition | weekStart
  deriving DecidableEq, Repr

/-- Why a rule cannot be expanded. -/
inductive RuleError where
  /-- A start that is no single instant of a year with four digits. -/
  | unusableStart
  /-- A line with a name that no property of a rule set has. -/
  | unknownLine (line : String)
  /-- A part that is no name with a value. -/
  | malformedPart (part : String)
  /-- A part with an unknown name. -/
  | unknownProperty (name : String)
  /-- A name that occurs twice. -/
  | repeatedProperty (name : String)
  /-- No frequency is given. -/
  | missingFrequency
  /-- A value its property does not have. -/
  | invalidValue (property : Property) (value : String)
  /-- A date that cannot be read. -/
  | invalidDate (text : String)
  /-- A last instant that is not in universal time. -/
  | lastNotUniversal
  /-- A last instant before the start. -/
  | lastBeforeStart
  /-- A number outside the range of its property. -/
  | outOfRange (property : Property)
  /-- A property that the frequency does not admit. -/
  | unfitFrequency (property : Property) (frequency : Frequency)
  /-- Set positions with nothing to choose from. -/
  | positionsAlone
  /-- A weekday whose last two bytes begin inside a character. -/
  | cutWeekday (text : String)
  /-- A chosen date that the clocks of the zone skip from its first second to its last. -/
  | skippedDate (date : Date)
  deriving DecidableEq, Repr

/-- Whether a fault ends the whole run.  Any other fault only leaves out the occurrence
with the rule. -/
def RuleError.isFatal : RuleError → Bool
  | .cutWeekday _ | .skippedDate _ => true
  | _ => false

/-- A recurrence rule.  Month days, year days, week numbers and set positions count
from the end when negative. -/
structure Rule where
  frequency : Frequency
  interval : Nat := 1
  /-- The number of instances, counted from the start. -/
  count : Option Nat := none
  /-- No instance comes after this instant. -/
  lastInstant : Option Instant := none
  weekStart : Weekday := .monday
  setPositions : List Int := []
  months : List Nat := []
  monthDays : List Int := []
  yearDays : List Int := []
  weekNumbers : List Int := []
  weekdays : List WeekdayChoice := []
  hours : List Nat := []
  minutes : List Nat := []
  seconds : List Nat := []
  deriving DecidableEq, Repr

namespace Rule

/-- A list in ascending order, each number once. -/
def ascending (ns : List Nat) : List Nat :=
  (ns.mergeSort (· ≤ ·)).eraseReps

/-- A rule completed from the start of its event.  The month day 0 chooses nothing and
is dropped.  A rule that chooses no days comes back on the day of its start; a rule that
chooses no times comes back at the time of its start, as far as its periods are longer
than an hour, a minute or a second. -/
def fillFrom (start : WallTime) (r : Rule) : Rule :=
  let monthDays := r.monthDays.filter (· ≠ 0)
  let choosesDays := r.weekNumbers ≠ [] ∨ r.yearDays ≠ [] ∨ monthDays ≠ [] ∨ r.weekdays ≠ []
  let startDay : List Int := [(start.date.day : Int)]
  let r := { r with monthDays := monthDays }
  let r :=
    if choosesDays then r
    else match r.frequency with
      | .yearly =>
        { r with
          months := if r.months = [] then [start.date.month] else r.months
          monthDays := startDay }
      | .monthly => { r with monthDays := startDay }
      | .weekly => { r with weekdays := [.every start.date.weekday] }
      | _ => r
  let longerThan := fun f : Frequency => r.frequency.rank < f.rank
  { r with
    hours := ascending <|
      if r.hours = [] ∧ longerThan .hourly then [start.time.hour] else r.hours
    minutes := ascending <|
      if r.minutes = [] ∧ longerThan .minutely then [start.time.minute] else r.minutes
    seconds := ascending <|
      if r.seconds = [] ∧ longerThan .secondly then [start.time.secondOfMinute]
      else r.seconds }

/-- The largest set position of a frequency, in either direction. -/
def positionLimit : Frequency → Nat
  | .yearly | .daily => 366
  | .monthly => 31
  | .weekly => 53
  | .hourly => 24
  | .minutely | .secondly => 60

/-- Whether every number of a list lies in `-limit … limit` and is not 0. -/
def within (limit : Nat) (ns : List Int) : Bool :=
  ns.all fun n => n ≠ 0 && n.natAbs ≤ limit

/-- Refuses a rule with a fault. -/
def require (sound : Bool) (fault : RuleError) : Except RuleError Unit :=
  if sound then .ok () else .error fault

/-- The month days counted from the first of the month. -/
def forwardMonthDays (r : Rule) : List Int :=
  r.monthDays.filter (0 < ·)

/-- Whether a completed rule chooses anything within a period.  Month days counted from
the end do not count here. -/
def chooses (r : Rule) : Bool :=
  r.months ≠ [] || r.forwardMonthDays ≠ [] || r.yearDays ≠ [] || r.weekNumbers ≠ [] ||
    r.weekdays ≠ [] || r.hours ≠ [] || r.minutes ≠ [] || r.seconds ≠ []

/-- Whether the number of an `n`-th weekday suits the frequency: it may be one more than
the weeks among its set positions, and no less than their number from the end. -/
def weekdayFits (f : Frequency) : WeekdayChoice → Bool
  | .every _ => true
  | .nth n _ =>
    let weeks : Int := positionLimit f / 7
    n ≠ 0 && -weeks ≤ n && n ≤ weeks + 1

/-- The conditions on a completed rule: the last instant is not before the start, every
number is in the range of its property, week numbers belong to yearly rules, month days
not to weekly ones, year days not to daily, weekly or monthly ones, and set positions
have something to choose from.  Month days counted from the end suit every rule. -/
def check (start : Instant) (r : Rule) : Except RuleError Unit := do
  require (r.lastInstant.all fun t => start ≤ t) .lastBeforeStart
  require (within (positionLimit r.frequency) r.setPositions) (.outOfRange .bySetPosition)
  require (r.setPositions = [] || r.chooses) .positionsAlone
  require (r.months.all fun m => 1 ≤ m && m ≤ 12) (.outOfRange .byMonth)
  require (within 31 r.forwardMonthDays) (.outOfRange .byMonthDay)
  require (r.forwardMonthDays = [] || r.frequency ≠ .weekly)
    (.unfitFrequency .byMonthDay r.frequency)
  require (within 366 r.yearDays) (.outOfRange .byYearDay)
  require (r.yearDays = [] || r.frequency = .yearly || 3 < r.frequency.rank)
    (.unfitFrequency .byYearDay r.frequency)
  require (within 53 r.weekNumbers) (.outOfRange .byWeekNumber)
  require (r.weekNumbers = [] || r.frequency = .yearly)
    (.unfitFrequency .byWeekNumber r.frequency)
  require (r.weekdays.all (weekdayFits r.frequency)) (.outOfRange .byDay)
  require (r.hours.all (· < 24)) (.outOfRange .byHour)
  require (r.minutes.all (· < 60)) (.outOfRange .byMinute)
  require (r.seconds.all (· < 60)) (.outOfRange .bySecond)

end Rule

/-- The rules, extra instants and excluded instants of one event, with its start. -/
structure RuleSet where
  zone : Zone
  start : Instant
  rules : List Rule
  extra : List Instant := []
  excluded : List Instant := []

end Almanac
