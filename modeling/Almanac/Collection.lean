import Almanac.DaySplit
import Almanac.Legend

/-! # Collecting the items of a calendar

A collector turns records into the items of each day.  It renders an entity once: of the
records with one identifier only the first counts, in one call and over all calls.  A
value that cannot be placed is left out.
-/
namespace Almanac

/-- The items of each day: the days that have items in ascending order, and the items of
a day in the order of their start. -/
structure Agenda where
  days : List (Date × List Occurrence)
  deriving DecidableEq, Repr

namespace Agenda

/-- Fragments in the order of their wall-clock start; equal starts keep their order. -/
def sorted (items : List Occurrence) : List Occurrence :=
  items.mergeSort fun a b => a.sortKey ≤ b.sortKey

/-- The days of fragments in ascending order, each once. -/
def daysOf (fragments : List Occurrence) : List Date :=
  ((fragments.map Occurrence.day).mergeSort (· ≤ ·)).eraseReps

/-- The agenda of a list of fragments. -/
def ofFragments (fragments : List Occurrence) : Agenda :=
  ⟨(daysOf fragments).map fun d => (d, sorted (fragments.filter fun f => f.day = d))⟩

/-- The items of a day. -/
def on (a : Agenda) (d : Date) : List Occurrence :=
  match a.days.find? fun entry => entry.1 = d with
  | some (_, items) => items
  | none => []

end Agenda

/-- What a collector needs: the zones, the expander, the precision of times and the
legend. -/
structure Collector where
  zones : Zones
  expander : Expander
  precision : Precision := {}
  legend : Legend := {}

namespace Collector

/-- The records whose entity is neither among the rendered ones nor that of an earlier
record. -/
def fresh (rendered : List Int) : List Record → List Record
  | [] => []
  | r :: rest =>
    if r.entityId ∈ rendered then fresh rendered rest
    else r :: fresh (r.entityId :: rendered) rest

/-- The rendered entities after a list of records. -/
def renderedAfter (rendered : List Int) (records : List Record) : List Int :=
  ((fresh rendered records).map Record.entityId).reverse ++ rendered

/-- The occurrences of a record's values in the zone of a range; unusable values give
none. -/
def occurrences (zones : Zones) (range : Range) (r : Record) : List Occurrence :=
  (List.range r.values.length).filterMap fun delta =>
    (r.occurrence zones delta range.zone).toOption

variable (c : Collector) (range : Range)

/-- The fragments of a record, with the stripes of the legend. -/
def fragments (r : Record) : List Occurrence :=
  (occurrences c.zones range r).flatMap fun o =>
    (o.splitByDay c.expander c.precision range).map (c.legend.apply r)

/-- The agenda of the records that are not yet rendered, with the entities rendered
after them. -/
def collect (rendered : List Int) (records : List Record) : Agenda × List Int :=
  (.ofFragments ((fresh rendered records).flatMap (c.fragments range)),
    renderedAfter rendered records)

/-- Marks an entity as rendered; the flag says whether it was not yet. -/
def mark (rendered : List Int) (id : Int) : Bool × List Int :=
  if id ∈ rendered then (false, rendered) else (true, id :: rendered)

/-- Whether the calendar has all the wall-clock times that collecting a record reads, and
no rule of the record ends the run. -/
def recordFits (r : Record) : Bool :=
  ((List.range r.values.length).all fun delta => r.valueFits c.zones delta range.zone) &&
    (occurrences c.zones range r).all fun o => o.splitFits c.expander range

/-- Whether the calendar has all the wall-clock times that collecting records reads, and
no rule of theirs ends the run. -/
def fits (rendered : List Int) (records : List Record) : Bool :=
  range.fits && (fresh rendered records).all (c.recordFits range)

end Collector
end Almanac
