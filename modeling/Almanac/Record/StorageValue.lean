import Almanac.Civil.Fields
import Almanac.Instant.Internet
import Almanac.Zone

/-! # Stored values

Dates are stored as text in one of several forms: seconds since 1970, an Internet
timestamp, a wall-clock time of the storage zone, or a date of the display zone.
`StorageForm.read?` tells which form a text has; `StorageForm.instant` gives its instant.
-/
namespace Almanac

/-- Which end of an interval a value describes. -/
inductive Bound where
  | start | finish
  deriving DecidableEq, Repr

/-- A stored value by its form. -/
inductive StorageForm where
  /-- A point of absolute time. -/
  | absolute (t : Instant)
  /-- A time on the clocks of the storage zone. -/
  | wallTime (w : WallTime)
  /-- A date on the clocks of the display zone. -/
  | date (d : Date)
  deriving DecidableEq, Repr

namespace StorageForm

/-- The largest number of seconds a stored value can hold. -/
def maxSeconds : Nat := 9223372036854775807

/-- The instant of a run of digits as seconds since 1970. -/
def ofDigits? (cs : List Char) : Option StorageForm :=
  let n := Text.digitsValue cs
  if n ≤ maxSeconds then (Instant.ofUnix? n).map absolute else none

/-- The form of a trimmed, non-empty text.  A run of digits counts seconds, unless it
has the eight digits of a date.  Of the other forms the first that fits holds. -/
def ofTrimmed? (s : String) : Option StorageForm :=
  let cs := s.toList
  if cs.all Char.isDigit ∧ cs.length ≠ 8 then ofDigits? cs
  else
    match Instant.read? s with
    | some t => some (absolute t)
    | none =>
      match (WallTime.read? 'T' s).or (WallTime.read? ' ' s) with
      | some w => some (wallTime w)
      | none => ((Date.read? s).or (Date.readCompact? s)).map date

/-- The form of a stored text; blanks around it do not count. -/
def read? (s : String) : Option StorageForm :=
  let s := Text.trim s
  if s = "" then none else ofTrimmed? s

/-- The wall-clock time that a date stands for at an end of an interval. -/
def dayBound : Bound → Date → WallTime
  | .start, d => .dayStart d
  | .finish, d => .dayEnd d

/-- The instant of a stored value. -/
def instant (bound : Bound) (storage display : Zone) : StorageForm → Instant
  | absolute t => t
  | wallTime w => storage.resolve w
  | date d => display.resolve (dayBound bound d)

/-- Whether finding the instant stays within the calendar. -/
def fits (bound : Bound) (storage display : Zone) : StorageForm → Bool
  | absolute _ => true
  | wallTime w => storage.canResolve w
  | date d => display.canResolve (dayBound bound d)

end StorageForm

/-- The instant of a stored text. -/
def storedInstant? (bound : Bound) (storage display : Zone) (s : String) : Option Instant :=
  (StorageForm.read? s).map (StorageForm.instant bound storage display)

/-- Whether reading a stored text stays within the calendar. -/
def storedFits (bound : Bound) (storage display : Zone) (s : String) : Bool :=
  (StorageForm.read? s).all (StorageForm.fits bound storage display)

end Almanac
