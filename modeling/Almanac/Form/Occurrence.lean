import Almanac.Document
import Almanac.Occurrence

/-! # Occurrences in documents

An occurrence with its segment.  A rule, exceptions and a segment are left out when there
are none.
-/
namespace Almanac

/-- A date in a document. -/
def Date.toValue (d : Date) : Value := .string d.text

/-- A reading of a wall clock in a document. -/
def WallTime.toValue (w : WallTime) : Value := .string w.text

/-- An instant in a document. -/
def Instant.toValue (t : Instant) : Value := .string t.text

/-- A stripe in a document. -/
def Stripe.toValue (s : Stripe) : Value :=
  .table [("label", .string s.label), ("color", .string s.color)]

/-- A segment in a document. -/
def DaySegment.toValue (s : DaySegment) : Value :=
  .table [
    ("date", s.date.toValue),
    ("position", .nat s.position),
    ("start", s.start.toValue),
    ("end", s.finish.toValue)]

namespace Occurrence

variable (o : Occurrence)

/-- The rule and the exceptions, as far as there are any. -/
def recurrenceMembers : List (String × Value) :=
  (o.rule.map fun rule => ("recurrence_rule", Value.string rule)).toList ++
    (if o.exceptions = [] then []
    else [("recurrence_exceptions", .array (o.exceptions.map Instant.toValue))])

/-- An occurrence in a document. -/
def toValue : Value :=
  .table (
    [("entity_id", .int o.entityId),
      ("entity_kind", .string o.entityKind),
      ("date_id", .string o.dateId),
      ("start", o.start.toValue),
      ("end", o.finish.toValue),
      ("timezone", .string o.zone.name),
      ("all_day", .bool o.allDay),
      ("multi_day", .bool o.multiDay),
      ("continuation", .bool o.continuation),
      ("continues", .bool o.continues)] ++
    o.recurrenceMembers ++
    [("rendered_fields", .ofDictionary o.fields),
      ("stripes", .array (o.stripes.map Stripe.toValue))] ++
    (o.segment.map fun s => ("segment", s.toValue)).toList)

end Occurrence
end Almanac
