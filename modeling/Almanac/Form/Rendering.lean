import Almanac.Form.Grid
import Almanac.Render

/-! # Renderings in documents

A rendered calendar with its stage, its messages and its range.
-/
namespace Almanac

/-- A range in a document. -/
def Range.toValue (r : Range) : Value :=
  .table [
    ("min", r.start.toValue),
    ("max", r.finish.toValue),
    ("granularity", .string r.granularity.name),
    ("timezone", .string r.zone.name),
    ("today", r.today.toValue),
    ("first_day_of_week", .nat r.firstDay)]

/-- The members of a rendering. -/
def Rendering.members (r : Rendering) : List (String × Value) :=
  [("stage", .string r.stage),
    ("grid", r.grid.toValue),
    ("messages", .ofStrings r.messages),
    ("range", match r.range? with
      | some range => range.toValue
      | none => .null)]

/-- A rendering in a document. -/
def Rendering.toValue (r : Rendering) : Value :=
  .table r.members

end Almanac
