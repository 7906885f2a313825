import Almanac.Form.Occurrence
import Almanac.Grid.Cell

/-! # Grids in documents

Cells, rows, weeks and the views made of them, with one member for each of their fields.
What can take several shapes names its shape under `type`.
-/
namespace Almanac

/-- The name of a kind in documents. -/
def RowKind.name : RowKind → String
  | header => "header"
  | dateBox => "date_box"
  | multiDay => "multi_day"
  | singleDay => "single_day"
  | mini => "mini"

/-- The flags of a cell in a document. -/
def CellState.toValue (s : CellState) : Value :=
  .table [
    ("today", .bool s.today),
    ("past", .bool s.past),
    ("future", .bool s.future),
    ("past_month", .bool s.pastMonth),
    ("future_month", .bool s.futureMonth),
    ("empty", .bool s.empty),
    ("no_entry", .bool s.noEntry),
    ("starts_today", .bool s.startsToday),
    ("ends_today", .bool s.endsToday),
    ("has_events", .bool s.hasEvents),
    ("selected", .bool s.selected)]

/-- A bucket in a document. -/
def TimeBucket.toValue (b : TimeBucket) : Value :=
  .table [("label", .string b.label), ("items", .array (b.items.map Occurrence.toValue))]

/-- A link to hidden items in a document. -/
def MoreLink.toValue (m : MoreLink) : Value :=
  .table [
    ("date", m.date.toValue),
    ("count", .nat m.count),
    ("hidden_ids", .ofStrings m.hiddenIds),
    ("link", .ofString? m.link),
    ("behavior", .string m.behavior)]

/-- A link to hidden items, or null. -/
def MoreLink.ofOption : Option MoreLink → Value
  | some m => m.toValue
  | none => .null

/-- A value that names its shape, with the members of that shape. -/
def Value.shape (name : String) (members : List (String × Value)) : Value :=
  .table (("type", .string name) :: members)

/-- What a cell shows, in a document. -/
def CellContent.toValue : CellContent → Value
  | dayName label fullName =>
    .shape "day_name" [("label", .string label), ("full_name", .string fullName)]
  | weekHeader => .shape "week_header" []
  | weekNumber number link =>
    .shape "week_number" [("number", .nat number), ("link", .ofString? link)]
  | dateBox dayOfMonth link =>
    .shape "date_box" [("day_of_month", .nat dayOfMonth), ("link", .ofString? link)]
  | event o => .shape "event" [("occurrence", o.toValue)]
  | covered dateId => .shape "covered" [("date_id", .string dateId)]
  | blank => .shape "blank" []
  | singleDay buckets more =>
    .shape "single_day" [
      ("buckets", .array (buckets.map TimeBucket.toValue)),
      ("more", MoreLink.ofOption more)]
  | emptyDay => .shape "empty_day" []
  | mini dayOfMonth hasEvents link =>
    .shape "mini" [
      ("day_of_month", .nat dayOfMonth),
      ("has_events", .bool hasEvents),
      ("link", .ofString? link)]

/-- A cell in a document. -/
def Cell.toValue (c : Cell) : Value :=
  .table [
    ("id", .string c.id),
    ("content", c.content.toValue),
    ("colspan", .nat c.colspan),
    ("rowspan", .nat c.rowspan),
    ("state", c.state.toValue),
    ("class", .string c.cssClass),
    ("date", match c.date with
      | some d => d.toValue
      | none => .null),
    ("kind", .string c.kind.name),
    ("header_id", .ofString? c.headerId)]

/-- A row in a document. -/
def Row.toValue (r : Row) : Value :=
  .table [("kind", .string r.kind.name), ("cells", .array (r.cells.map Cell.toValue))]

/-- A week in a document. -/
def WeekBlock.toValue (w : WeekBlock) : Value :=
  .table [
    ("start", w.start.toValue),
    ("week_number", .nat w.weekNumber),
    ("total_rows", .nat w.totalRows),
    ("rows", .array (w.rows.map Row.toValue))]

/-- The members of a month. -/
def MonthGrid.members (m : MonthGrid) : List (String × Value) :=
  [("year", .int m.year),
    ("month", .nat m.month),
    ("mini", .bool m.mini),
    ("header", m.header.toValue),
    ("weeks", .array (m.weeks.map WeekBlock.toValue))]

/-- A month in a document. -/
def MonthGrid.toValue (m : MonthGrid) : Value :=
  .table m.members

/-- The members of a week under its header. -/
def WeekGrid.members (w : WeekGrid) : List (String × Value) :=
  [("header", w.header.toValue), ("week", w.week.toValue)]

/-- The members of a day. -/
def DayGrid.members (d : DayGrid) : List (String × Value) :=
  [("date", d.date.toValue),
    ("all_day", .array (d.allDay.map Occurrence.toValue)),
    ("buckets", .array (d.buckets.map TimeBucket.toValue)),
    ("empty", .bool d.empty),
    ("state", d.state.toValue),
    ("link", .ofString? d.link)]

/-- A day in a document. -/
def DayGrid.toValue (d : DayGrid) : Value :=
  .table d.members

/-- A calendar in a document. -/
def Grid.toValue : Grid → Value
  | year y months =>
    .shape "year" [("year", .int y), ("months", .array (months.map MonthGrid.toValue))]
  | month m => .shape "month" m.members
  | week w => .shape "week" w.members
  | day d => .shape "day" d.members
  | empty => .shape "empty" []

end Almanac
