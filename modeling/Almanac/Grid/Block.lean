import Almanac.Grid.Week

/-! # Week blocks

The rows that show a week: a row of date boxes, one row for every row of bands, and the
row of single-day items.  A column with fewer bands than the week starts its single-day
cell higher up and lets it span the rows left over, so every column is covered once.
-/
namespace Almanac
namespace Layout

variable (l : Layout)

/-- Whether a leading column shows week numbers. -/
def showsWeekNumbers : Bool :=
  l.style.showWeekNumbers &&
    (l.range.granularity == .month || l.range.granularity == .year)

/-- The flags of a date.  Outside the view a cell is empty and is never today's. -/
def dayState (d : Date) (focal : Option Nat) (inView : Bool) : CellState where
  today := d == l.range.today && inView
  past := d < l.range.today
  future := l.range.today < d
  pastMonth := focal.any fun month => isPastMonth d.month month
  futureMonth := focal.any fun month => isFutureMonth d.month month
  empty := !inView

/-- The header of the column of week numbers. -/
def weekHeaderCell : Cell :=
  (Cell.new (l.viewId ++ "-week-header") .header .weekHeader).header "Week"
    |>.styled "days week" {}

/-- The header of a weekday. -/
def dayNameCell (day : Weekday) : Cell :=
  (Cell.new (l.viewId ++ "-header-" ++ day.lowerName) .header
      (.dayName (Weekday.abbreviate day.name l.style.nameSize) day.name)).header day.name
    |>.styled ("days " ++ day.lowerName) {}

/-- The header of a month or week: the weekdays in the order of a week row. -/
def headerRow : Row where
  kind := .header
  cells :=
    (if l.showsWeekNumbers then [l.weekHeaderCell] else []) ++
      (Weekday.ordered l.style.firstDay).map l.dayNameCell

/-- The date argument of a week link: the year the range begins in and the number shown
beside the week row. -/
def weekArgument (start : Date) : String :=
  Text.intText l.range.firstDate.year ++ Text.pad 2 (start.weekNumber l.style.firstDay)

/-- The number beside a week row. -/
def weekNumberCell (start : Date) (rowspan : Nat) : Cell :=
  (Cell.new (l.viewId ++ "-weekno-" ++ start.text) .dateBox
      (.weekNumber (start.weekNumber l.style.firstDay)
        (l.style.links.weekUrl (l.weekArgument start)))).span 1 rowspan
    |>.on start |>.styled "week" {}

/-- The identifier of a cell below the date boxes: its date and its row. -/
def bodyId (d : Date) (index : Nat) : String :=
  l.viewId ++ "-" ++ d.text ++ "-" ++ Text.pad 0 index

/-- The cell of one day of a band row. -/
def bandCell (cell : BandCell) (d : Date) (index : Nat) (inView : Bool) (focal : Option Nat) :
    Cell :=
  let today := l.range.today
  match cell with
  | .entry o colspan =>
    (Cell.new (l.bodyId d index) .multiDay (.event o)).span colspan 1
      |>.on d
      |>.styled "multi-day"
        { startsToday := d == today && inView
          endsToday := d.addDays ((colspan : Int) - 1) == today && inView
          empty := !inView }
  | .covered o =>
    (Cell.new (l.bodyId d index) .multiDay (.covered o.dateId)).span 0 1 |>.on d
  | .blank available =>
    (Cell.new (l.bodyId d index) .multiDay .blank).on d
      |>.styled "multi-day"
        (if available then { l.dayState d focal inView with noEntry := true }
        else { empty := !inView })

/-- The cell of the single-day items of a day, below `bandCount` bands. -/
def singleDayCell (column : SingleDayColumn) (d : Date) (rowspan bandCount : Nat)
    (focal : Option Nat) : Cell :=
  let content := if column.inRange then .singleDay column.buckets column.more else .emptyDay
  (Cell.new (l.bodyId d bandCount) .singleDay content).span 1 rowspan
    |>.on d
    |>.header d.weekday.name
    |>.styled "single-day"
      { l.dayState d focal column.inRange with noEntry := column.isEmpty && bandCount == 0 }

/-- The date box of a day. -/
def dateBoxCell (column : SingleDayColumn) (bands : List BandCell) (d : Date)
    (focal : Option Nat) : Cell :=
  let entries := bands.countP BandCell.isEntry
  let link := if l.style.linkToDate && column.inRange then l.dayLink d else none
  (Cell.new (l.viewId ++ "-" ++ d.text ++ "-date-box") .dateBox (.dateBox d.day link)).on d
    |>.header d.weekday.name
    |>.styled "date-box"
      { l.dayState d focal column.inRange with
        selected := column.inRange && 0 < entries + column.itemCount
        noEntry := column.isEmpty && entries == 0 }

/-- A week's columns from left to right: date, bands and single-day items. -/
def weekColumns (w : WeekBuckets) : List (Date × List BandCell × SingleDayColumn) :=
  (List.range daysPerWeek).map fun column =>
    (w.date column, (w.multiDay[column]?).getD [], (w.singleDay[column]?).getD {})

/-- The row of date boxes. -/
def dateBoxRow (w : WeekBuckets) (focal : Option Nat) : Row where
  kind := .dateBox
  cells :=
    (if l.showsWeekNumbers then [l.weekNumberCell w.start (w.totalRows + 1)] else []) ++
      (weekColumns w).map fun (d, bands, single) => l.dateBoxCell single bands d focal

/-- The number of rows the bands of a column take. -/
def bandCount (bands : List BandCell) : Nat :=
  if l.style.multiDayTheme then bands.length else 0

/-- The cell of a column in a body row, if one begins there. -/
def bodyCell? (w : WeekBuckets) (focal : Option Nat) (index : Nat)
    (column : Date × List BandCell × SingleDayColumn) : Option Cell :=
  let (d, bands, single) := column
  let count := l.bandCount bands
  if index < count then bands[index]?.map fun cell => l.bandCell cell d index single.inRange focal
  else if index = count then
    some (l.singleDayCell single d (w.totalRows - count) count focal)
  else none

/-- A row below the date boxes; the last one holds the single-day items. -/
def bodyRow (w : WeekBuckets) (focal : Option Nat) (index : Nat) : Row where
  kind := if index + 1 = w.totalRows then .singleDay else .multiDay
  cells := (weekColumns w).filterMap (l.bodyCell? w focal index)

/-- The rows of a week. -/
def weekBlock (w : WeekBuckets) (focal : Option Nat) : WeekBlock where
  start := w.start
  weekNumber := w.start.weekNumber l.style.firstDay
  totalRows := w.totalRows
  rows := l.dateBoxRow w focal :: (List.range w.totalRows).map (l.bodyRow w focal)

end Layout
end Almanac
