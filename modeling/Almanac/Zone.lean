import Almanac.Instant

/-! # Time zones

A time zone is the history of its clocks: the offset from universal time that held
first, and every change of it.  `offsetAt` reads the offset at an instant; `readings` lists
all instants at which the clock shows a given wall-clock time, of which there are none in
a gap and two in a repeated hour; `resolve` picks one instant for every wall-clock time.
-/
namespace Almanac

/-- A change of the clocks: the second of universal time at which it happens, and the
offset from universal time from then on, in seconds. -/
structure ClockChange where
  second : Int
  offset : Int
  deriving DecidableEq, Repr

/-- A time zone: its name, its first offset and its clock changes, earliest first. -/
structure Zone where
  name : String
  firstOffset : Int
  changes : List ClockChange
  deriving DecidableEq, Repr

namespace Zone

/-- The clocks of universal time. -/
def utc : Zone :=
  ⟨"UTC", 0, []⟩

instance : Inhabited Zone := ⟨utc⟩

/-- The offset in force at a second `t`, given the offset before the listed changes. -/
def offsetAfter (t : Int) (offset : Int) : List ClockChange → Int
  | [] => offset
  | c :: rest => if t < c.second then offset else offsetAfter t c.offset rest

/-- The offset in force at a second of universal time. -/
def offsetAt (z : Zone) (t : Int) : Int :=
  offsetAfter t z.firstOffset z.changes

/-- What the clocks of a zone show at an instant. -/
def wall (z : Zone) (t : Instant) : WallTime :=
  t.utc.shift (z.offsetAt t.seconds)

/-- The date the clocks of a zone show at an instant. -/
def dateAt (z : Zone) (t : Instant) : Date :=
  (z.wall t).date

/-- Whether the clocks of a zone show a date of the calendar at an instant. -/
def shows (z : Zone) (t : Instant) : Bool :=
  (z.wall t).inCalendar

/-- The seconds of universal time, from `since` on, at which a clock shows the second
`w`, given the offset before the listed changes. -/
def readingsAfter (w : Int) (since : Option Int) (offset : Int) : List ClockChange → List Int
  | [] => if reached (w - offset) then [w - offset] else []
  | c :: rest =>
    let later := readingsAfter w (some c.second) c.offset rest
    if reached (w - offset) && w - offset < c.second then (w - offset) :: later else later
where
  /-- Whether a second is not before `since`. -/
  reached (t : Int) : Bool :=
    match since with
    | none => true
    | some s => s ≤ t

/-- All seconds of universal time at which the clocks of a zone show the second `w`, in
the order of the clock changes. -/
def readings (z : Zone) (w : Int) : List Int :=
  readingsAfter w none z.firstOffset z.changes

/-- The first instant of the calendar at which the clocks of a zone show a wall-clock
time, if there is one. -/
def earliest? (z : Zone) (w : WallTime) : Option Instant :=
  match z.readings w.seconds with
  | [] => none
  | t :: _ => if Instant.inCalendar ⟨t, w.nanos⟩ then some ⟨t, w.nanos⟩ else none

/-- The only instant of the calendar at which the clocks of a zone show a wall-clock
time, if there is just one. -/
def single? (z : Zone) (w : WallTime) : Option Instant :=
  match z.readings w.seconds with
  | [t] => if Instant.inCalendar ⟨t, w.nanos⟩ then some ⟨t, w.nanos⟩ else none
  | _ => none

/-- Whether the clocks of a zone show neither the first nor the last second of a date. -/
def skips (z : Zone) (d : Date) : Bool :=
  (z.readings (WallTime.dayStart d).seconds).isEmpty &&
    (z.readings (WallTime.dayEnd d).seconds).isEmpty

/-- The last date that the clocks of a zone skip, if they skip any: the date before one on
which they are set ahead by a day. -/
def lastSkipped? (z : Zone) : Option Date :=
  let offsets := z.firstOffset :: z.changes.map (·.offset)
  let candidates := (offsets.zip z.changes).filterMap fun (before, c) =>
    if before + secondsPerDay ≤ c.offset then
      some ((WallTime.mk (c.second + c.offset) 0).date.addDays (-1))
    else none
  (candidates.filter z.skips).getLast?

/-- The step in which a missing wall-clock time is moved forward: half an hour. -/
def probeStep : Int := 1800

/-- The number of times a missing wall-clock time is looked up. -/
def probeCount : Nat := 8

/-- A wall-clock time moved forward by a number of steps.  The first one leaves a leap
second. -/
def probe (w : WallTime) (steps : Nat) : WallTime :=
  ⟨w.seconds + probeStep * steps, if steps = 0 then w.nanos else w.nanos % nanosPerSecond⟩

/-- The instant of a wall-clock time.  A repeated time is its first occurrence.  A
missing time is moved forward by half hours until the clock shows it; where that does not
happen within four hours the reading is taken as universal time. -/
def resolve (z : Zone) (w : WallTime) : Instant :=
  match (List.range probeCount).findSome? fun k => z.earliest? (probe w k) with
  | some t => t
  | none => .ofUtc w

/-- Whether resolving a wall-clock time stays within the calendar: each step forward
from a time not yet found leads to a date of the calendar. -/
def canResolve (z : Zone) (w : WallTime) : Bool :=
  (List.range probeCount).all fun k =>
    ((List.range (k + 1)).any fun j => (z.earliest? (probe w j)).isSome) ||
      (probe w (k + 1)).inCalendar

/-- The instant at which a date starts: its 00:00:00. -/
def startOfDay (z : Zone) (d : Date) : Instant :=
  z.resolve (.dayStart d)

/-- The last displayed instant of a date: its 23:59:59. -/
def endOfDay (z : Zone) (d : Date) : Instant :=
  z.resolve (.dayEnd d)

end Zone

/-- Looks up zones by name. -/
abbrev Zones :=
  String → Option Zone

end Almanac
