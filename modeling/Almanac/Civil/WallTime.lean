import Almanac.Civil.Date
import Almanac.Text.Digits

/-! # Wall-clock times

What a clock on the wall shows: a time of day, and a date with a time of day.  Both
count whole seconds and nanoseconds; a nanosecond count of `10^9` or more marks a reading
inside a leap second, which is shown as second 60.
-/
namespace Almanac

/-- The number of seconds of a day. -/
def secondsPerDay : Nat := 86400

/-- The number of nanoseconds of a second. -/
def nanosPerSecond : Nat := 1000000000

/-- A time of day: seconds since midnight and nanoseconds. -/
structure TimeOfDay where
  second : Nat
  nanos : Nat := 0
  deriving DecidableEq, Repr, Inhabited

namespace TimeOfDay

/-- The time of day of an hour, a minute and a second. -/
def ofHMS (h m s : Nat) (nanos : Nat := 0) : TimeOfDay :=
  ⟨3600 * h + 60 * m + s, nanos⟩

/-- The hour, from 0 to 23. -/
def hour (t : TimeOfDay) : Nat := t.second / 3600

/-- The minute of the hour. -/
def minute (t : TimeOfDay) : Nat := t.second / 60 % 60

/-- The whole second of the minute; a leap second counts as 59. -/
def secondOfMinute (t : TimeOfDay) : Nat := t.second % 60

/-- The time of day as `HH:MM:SS`, cut to the whole second. -/
def clockText (t : TimeOfDay) : String :=
  pad 2 t.hour ++ ":" ++ pad 2 t.minute ++ ":" ++ pad 2 t.secondOfMinute
where
  pad := Text.pad

/-- The fraction of a second with 3, 6 or 9 digits, whichever is exact and shortest; a
whole second has none. -/
def fractionText (nanos : Nat) : String :=
  if nanos = 0 then ""
  else if nanos % 1000000 = 0 then "." ++ Text.pad 3 (nanos / 1000000)
  else if nanos % 1000 = 0 then "." ++ Text.pad 6 (nanos / 1000)
  else "." ++ Text.pad 9 nanos

/-- The exact time of day: `HH:MM:SS` and the fraction, with second 60 inside a leap
second. -/
def text (t : TimeOfDay) : String :=
  let leap := nanosPerSecond ≤ t.nanos
  let second := if leap then t.secondOfMinute + 1 else t.secondOfMinute
  let nanos := if leap then t.nanos - nanosPerSecond else t.nanos
  Text.pad 2 t.hour ++ ":" ++ Text.pad 2 t.minute ++ ":" ++ Text.pad 2 second ++
    fractionText nanos

end TimeOfDay

/-- A date and a time of day, as seconds since 1970-01-01T00:00:00 on the same clock and
nanoseconds. -/
structure WallTime where
  seconds : Int
  nanos : Nat := 0
  deriving DecidableEq, Repr, Inhabited

namespace WallTime

instance : LE WallTime :=
  ⟨fun a b => a.seconds < b.seconds ∨ a.seconds = b.seconds ∧ a.nanos ≤ b.nanos⟩
instance : LT WallTime :=
  ⟨fun a b => a.seconds < b.seconds ∨ a.seconds = b.seconds ∧ a.nanos < b.nanos⟩

instance (a b : WallTime) : Decidable (a ≤ b) :=
  inferInstanceAs (Decidable (_ ∨ _))
instance (a b : WallTime) : Decidable (a < b) :=
  inferInstanceAs (Decidable (_ ∨ _))

instance : Max WallTime := ⟨fun a b => if a ≤ b then b else a⟩
instance : Min WallTime := ⟨fun a b => if a ≤ b then a else b⟩

theorem le_def {a b : WallTime} :
    a ≤ b ↔ a.seconds < b.seconds ∨ a.seconds = b.seconds ∧ a.nanos ≤ b.nanos := Iff.rfl
theorem lt_def {a b : WallTime} :
    a < b ↔ a.seconds < b.seconds ∨ a.seconds = b.seconds ∧ a.nanos < b.nanos := Iff.rfl

@[ext] theorem ext {a b : WallTime} (hs : a.seconds = b.seconds) (hn : a.nanos = b.nanos) :
    a = b := by
  cases a; cases b; simp_all

/-- The reading at a time of a date. -/
def ofTime (d : Date) (t : TimeOfDay) : WallTime :=
  ⟨secondsPerDay * d.dayNumber + t.second, t.nanos⟩

/-- Midnight at the start of a date. -/
def dayStart (d : Date) : WallTime :=
  .ofTime d ⟨0, 0⟩

/-- The last displayed second of a date, 23:59:59. -/
def dayEnd (d : Date) : WallTime :=
  .ofTime d (.ofHMS 23 59 59)

/-- The date of a reading. -/
def date (w : WallTime) : Date :=
  ⟨w.seconds / secondsPerDay⟩

/-- The time of day of a reading. -/
def time (w : WallTime) : TimeOfDay :=
  ⟨(w.seconds % secondsPerDay).toNat, w.nanos⟩

/-- The reading a number of whole seconds later, on a clock that is set ahead by as
much. -/
def shift (w : WallTime) (seconds : Int) : WallTime :=
  ⟨w.seconds + seconds, w.nanos⟩

/-- Whether the date of a reading lies within the bounds of the calendar. -/
def inCalendar (w : WallTime) : Bool :=
  w.date.inCalendar

end WallTime

/-- A date as `YYYY-MM-DD`. -/
def Date.text (d : Date) : String :=
  Text.yearText d.year ++ "-" ++ Text.pad 2 d.month ++ "-" ++ Text.pad 2 d.day

/-- A reading as `YYYY-MM-DDTHH:MM:SS` with the fraction of the second. -/
def WallTime.text (w : WallTime) : String :=
  w.date.text ++ "T" ++ w.time.text

end Almanac
