import Almanac.AllDay
import Almanac.Range
import Almanac.Recurrence.Instances

/-! # Splitting by day

An occurrence is shown day by day: each date it covers gets a fragment with the segment
of wall-clock time that falls on it.  `splitSingle` splits one interval, `splitByDay` the
instances of a recurring occurrence, in the order of their days.
-/
namespace Almanac
namespace Occurrence

/-- The segment of a stretch of wall-clock time that falls on a date, from 00:00:00 to
23:59:59 at most; none if the stretch misses these bounds. -/
def segmentOn? (start finish : WallTime) (date : Date) : Option (WallTime × WallTime) :=
  let first := max start (.dayStart date)
  let last := min finish (.dayEnd date)
  if first ≤ last then some (first, last) else none

/-- Whether a segment is only the midnight that ends an occurrence on a later date. -/
def touchesOnly (o : Occurrence) (date : Date) (segment : WallTime × WallTime) : Bool :=
  segment.1 == segment.2 && segment.2 == .dayStart date && o.start != o.finish &&
    date != o.firstDay

/-- The fragment of an occurrence on a date.  `several` says whether more than one date
of the occurrence is visible. -/
def fragmentOn? (o : Occurrence) (precision : Precision) (several : Bool) (date : Date) :
    Option Occurrence :=
  match segmentOn? o.localStart o.localFinish date with
  | none => none
  | some segment =>
    if o.touchesOnly date segment then none
    else
      let position := (o.firstDay.daysUntil date).toNat
      some { o with
        allDay := isAllDay segment.1 segment.2 precision
        multiDay := several
        continuation := o.firstDay < date
        continues := date < o.lastDay
        dateId := o.dateId ++ "." ++ Text.pad 0 position
        segment := some ⟨date, position, segment.1, segment.2⟩ }

/-- The fragments of one interval on the visible dates it covers, in order. -/
def splitSingle (o : Occurrence) (precision : Precision) (range : Range) : List Occurrence :=
  let o := { o with zone := range.zone }
  let first := max o.firstDay range.firstDate
  let last := min o.lastDay range.lastDate
  (first.upTo last).filterMap (o.fragmentOn? precision (first < last))

/-- One instance of a recurring occurrence: an interval without a rule. -/
def instanceAt (o : Occurrence) (interval : Instant × Instant) : Occurrence :=
  { o with
    start := interval.1
    finish := max interval.2 interval.1
    rule := none
    exceptions := [] }

/-- The instances of a recurring occurrence in a range; none if it cannot be expanded. -/
def instances (o : Occurrence) (expander : Expander) (range : Range) : List Occurrence :=
  match expander o range.start range.finish with
  | .ok intervals => intervals.map o.instanceAt
  | .error _ => []

/-- The fragments of an occurrence within a range, in the order of their days; fragments
of one day keep the order of the instances. -/
def splitByDay (o : Occurrence) (expander : Expander) (precision : Precision) (range : Range) :
    List Occurrence :=
  if o.isRecurring then
    ((o.instances expander range).flatMap fun i => i.splitSingle precision range).mergeSort
      fun a b => a.day ≤ b.day
  else o.splitSingle precision range

/-- Whether the calendar has the wall-clock times that splitting an occurrence reads, and
nothing else on the way ends the run. -/
def splitFits (o : Occurrence) (expander : Expander) (range : Range) : Bool :=
  let inZone := fun o : Occurrence => Occurrence.fits { o with zone := range.zone }
  if o.isRecurring then
    match expander o range.start range.finish with
    | .ok intervals => intervals.all fun i => inZone (o.instanceAt i)
    | .error fault => !fault.isFatal
  else inZone o

end Occurrence
end Almanac
