import Almanac.Civil.Weekday

/-! # Calendar dates

Dates of the proleptic Gregorian calendar.  A date is a day number, so that distances
and weekdays are plain arithmetic; year, month and day of the month are read off it and
`ofYMD` puts them together again.  The calendar itself ends: `Date.first` and
`Date.last` are its two bounds.
-/
namespace Almanac

/-- A calendar date, as the number of days since 1970-01-01. -/
structure Date where
  dayNumber : Int
  deriving DecidableEq, Repr, Inhabited

/-- Every fourth year is a leap year, except the centuries that 400 does not divide. -/
def isLeapYear (y : Int) : Bool :=
  y % 4 == 0 && (y % 100 != 0 || y % 400 == 0)

/-- The day number of January 1 of the year `y`. -/
def yearStart (y : Int) : Int :=
  365 * (y - 1) + (y - 1) / 4 - (y - 1) / 100 + (y - 1) / 400 - 719162

/-- The number of days of the year `y`. -/
def yearLength (y : Int) : Nat :=
  if isLeapYear y then 366 else 365

/-- The number of days before the first of a month, in a common or a leap year. -/
def daysBeforeMonth (leap : Bool) (month : Nat) : Nat :=
  let shift := if leap then 1 else 0
  match month with
  | 0 | 1 => 0
  | 2 => 31
  | 3 => 59 + shift
  | 4 => 90 + shift
  | 5 => 120 + shift
  | 6 => 151 + shift
  | 7 => 181 + shift
  | 8 => 212 + shift
  | 9 => 243 + shift
  | 10 => 273 + shift
  | 11 => 304 + shift
  | 12 => 334 + shift
  | _ => 365 + shift

/-- The number of days of a month. -/
def daysInMonth (y : Int) (month : Nat) : Nat :=
  daysBeforeMonth (isLeapYear y) (month + 1) - daysBeforeMonth (isLeapYear y) month

namespace Date

instance : LE Date := ⟨fun a b => a.dayNumber ≤ b.dayNumber⟩
instance : LT Date := ⟨fun a b => a.dayNumber < b.dayNumber⟩

instance (a b : Date) : Decidable (a ≤ b) :=
  inferInstanceAs (Decidable (a.dayNumber ≤ b.dayNumber))
instance (a b : Date) : Decidable (a < b) :=
  inferInstanceAs (Decidable (a.dayNumber < b.dayNumber))

instance : Max Date := ⟨fun a b => if a ≤ b then b else a⟩
instance : Min Date := ⟨fun a b => if a ≤ b then a else b⟩

theorem le_def {a b : Date} : a ≤ b ↔ a.dayNumber ≤ b.dayNumber := Iff.rfl
theorem lt_def {a b : Date} : a < b ↔ a.dayNumber < b.dayNumber := Iff.rfl

@[ext] theorem ext {a b : Date} (h : a.dayNumber = b.dayNumber) : a = b := by
  cases a; cases b; simp_all

/-- The date `n` days later. -/
def addDays (d : Date) (n : Int) : Date :=
  ⟨d.dayNumber + n⟩

/-- The signed number of days from `a` to `b`. -/
def daysUntil (a b : Date) : Int :=
  b.dayNumber - a.dayNumber

@[simp] theorem addDays_zero (d : Date) : d.addDays 0 = d := by
  ext; simp [addDays]

@[simp] theorem addDays_addDays (d : Date) (m n : Int) :
    (d.addDays m).addDays n = d.addDays (m + n) := by
  ext; simp only [addDays]; omega

@[simp] theorem daysUntil_addDays (d : Date) (n : Int) : d.daysUntil (d.addDays n) = n := by
  simp only [daysUntil, addDays]; omega

@[simp] theorem addDays_daysUntil (a b : Date) : a.addDays (a.daysUntil b) = b := by
  ext; simp only [daysUntil, addDays]; omega

/-- The date of a year, a month and a day of the month. -/
def ofYMD (y : Int) (month day : Nat) : Date :=
  ⟨yearStart y + daysBeforeMonth (isLeapYear y) month + day - 1⟩

/-- The year a day lies in.  The mean length of a year gives a guess that is off by one
at most; the two tests put it right. -/
def year (d : Date) : Int :=
  let guess := 400 * (d.dayNumber + 719162) / 146097 + 1
  if d.dayNumber < yearStart guess then guess - 1
  else if yearStart (guess + 1) ≤ d.dayNumber then guess + 1
  else guess

/-- Days since January 1 of the same year. -/
def dayOfYear (d : Date) : Nat :=
  (d.dayNumber - yearStart d.year).toNat

/-- The month, from 1 to 12: the number of months that have begun. -/
def month (d : Date) : Nat :=
  let leap := isLeapYear d.year
  let day := d.dayOfYear
  ((List.range' 1 12).filter fun m => daysBeforeMonth leap m ≤ day).length

/-- The day of the month, from 1. -/
def day (d : Date) : Nat :=
  d.dayOfYear - daysBeforeMonth (isLeapYear d.year) d.month + 1

/-- The weekday; 1970-01-01 was a Thursday. -/
def weekday (d : Date) : Weekday :=
  Weekday.ofSunday ((d.dayNumber + 4) % 7).toNat

/-- The first date of the calendar. -/
def first : Date := ofYMD (-262143) 1 1

/-- The last date of the calendar. -/
def last : Date := ofYMD 262142 12 31

/-- Whether a date lies within the bounds of the calendar. -/
def inCalendar (d : Date) : Bool :=
  first ≤ d && d ≤ last

/-- The date of a year, a month and a day of the month, if the calendar has it. -/
def ofYMD? (y : Int) (month day : Nat) : Option Date :=
  if -262143 ≤ y ∧ y ≤ 262142 ∧ 1 ≤ month ∧ month ≤ 12 ∧ 1 ≤ day ∧ day ≤ daysInMonth y month
  then some (ofYMD y month day)
  else none

/-- The days from `a` on, in order, up to and including `b`.  A listing of days stops
before the last date of the calendar, which has no successor. -/
def upTo (a b : Date) : List Date :=
  let stop := min (b.dayNumber + 1) last.dayNumber
  (List.range (stop - a.dayNumber).toNat).map fun n : Nat => a.addDays n

end Date
end Almanac
