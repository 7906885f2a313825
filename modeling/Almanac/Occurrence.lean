import Almanac.Text.Dictionary
import Almanac.Text.Pieces
import Almanac.Zone

/-! # Occurrences

An occurrence is one appearance of an entity in the calendar: an interval of instants,
read on the clocks of a display zone.  Split by day it becomes fragments, each with the
segment of one date.  The slot key names the logical occurrence behind its fragments.
-/
namespace Almanac

/-- A colored mark with its label. -/
structure Stripe where
  label : String
  color : String
  deriving DecidableEq, Repr

/-- The part of an occurrence that falls on one date. -/
structure DaySegment where
  date : Date
  /-- Days since the first date of the occurrence. -/
  position : Nat
  start : WallTime
  finish : WallTime
  deriving DecidableEq, Repr

/-- The identifier of one value of an entity's date field. -/
def dateId (entityId : Int) (field : String) (delta : Nat) : String :=
  "calendar." ++ Text.intText entityId ++ "." ++ field ++ "." ++ Text.pad 0 delta

/-- One appearance of an entity over a contiguous span. -/
structure Occurrence where
  entityId : Int := 0
  entityKind : String := "event"
  /-- The identifier of the value; a fragment has its position behind a dot at the end. -/
  dateId : String
  start : Instant
  finish : Instant
  zone : Zone := Zone.utc
  allDay : Bool := false
  multiDay : Bool := false
  /-- Whether the occurrence began on an earlier date. -/
  continuation : Bool := false
  /-- Whether the occurrence goes on after this date. -/
  continues : Bool := false
  rule : Option String := none
  exceptions : List Instant := []
  fields : Dictionary := ∅
  stripes : List Stripe := []
  segment : Option DaySegment := none
  deriving DecidableEq, Repr

namespace Occurrence

/-- The end of an interval that starts at `start`: the given end, unless it is missing or
lies before the start. -/
def closingInstant (start : Instant) (finish : Option Instant) : Instant :=
  match finish with
  | some t => if start ≤ t then t else start
  | none => start

variable (o : Occurrence)

/-- Whether the occurrence has a recurrence rule. -/
def isRecurring : Bool := o.rule.isSome

/-- The length of the occurrence in nanoseconds. -/
def duration : Int := o.start.nanosUntil o.finish

/-- The start on the clocks of the display zone. -/
def localStart : WallTime := o.zone.wall o.start

/-- The end on the clocks of the display zone. -/
def localFinish : WallTime := o.zone.wall o.finish

/-- Whether the calendar has both ends on the clocks of the display zone. -/
def fits : Bool := o.zone.shows o.start && o.zone.shows o.finish

/-- The date identifier without the position of a fragment. -/
def baseDateId : String :=
  match o.segment with
  | none => o.dateId
  | some _ =>
    match Text.beforeLast? '.' o.dateId.toList with
    | some base => String.ofList base
    | none => o.dateId

/-- The key of the logical occurrence, the same for all its fragments: the date
identifier and the second of the start. -/
def slotKey : String :=
  o.baseDateId ++ "@" ++ Text.intText o.start.seconds

/-- The date of the start. -/
def firstDay : Date := o.localStart.date

/-- The last date the occurrence covers.  An end at midnight only touches its date, so
an occurrence that lasts until a later midnight covers the date before. -/
def lastDay : Date :=
  let finish := o.localFinish
  if o.start < o.finish ∧ finish.time = ⟨0, 0⟩ ∧ o.firstDay < finish.date then
    finish.date.addDays (-1)
  else finish.date

/-- The date a fragment is placed on. -/
def day : Date :=
  match o.segment with
  | some s => s.date
  | none => o.localStart.date

/-- The wall-clock start by which the fragments of a date are ordered. -/
def sortKey : WallTime :=
  match o.segment with
  | some s => s.start
  | none => o.localStart

/-- Whether a fragment is shown as a band across days. -/
def wantsBand (multiDayTheme : Bool) : Bool :=
  multiDayTheme && (o.multiDay || o.allDay)

end Occurrence
end Almanac
