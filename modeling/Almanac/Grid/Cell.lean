import Almanac.Occurrence

/-! # Grid cells

The tables a calendar is shown as: cells with their content, span and styling, in rows,
weeks and months.
-/
namespace Almanac

/-- The role of a row in a calendar table. -/
inductive RowKind where
  | header | dateBox | multiDay | singleDay | mini
  deriving DecidableEq, Repr

/-- The style class of a row's cells. -/
def RowKind.cssClass : RowKind → String
  | header => "days"
  | dateBox => "date-box"
  | multiDay => "multi-day"
  | singleDay => "single-day"
  | mini => "mini"

/-- The styling flags of a cell. -/
structure CellState where
  today : Bool := false
  past : Bool := false
  future : Bool := false
  pastMonth : Bool := false
  futureMonth : Bool := false
  /-- Outside the month in focus or the visible range. -/
  empty : Bool := false
  noEntry : Bool := false
  startsToday : Bool := false
  endsToday : Bool := false
  hasEvents : Bool := false
  selected : Bool := false
  deriving DecidableEq, Repr

/-- The style classes of the flags that are set. -/
def CellState.classes (s : CellState) : List String :=
  [(s.noEntry, "no-entry"), (s.startsToday, "starts-today"), (s.endsToday, "ends-today"),
    (s.today, "today"), (s.past, "past"), (s.future, "future"), (s.pastMonth, "past-month"),
    (s.futureMonth, "future-month"), (s.hasEvents, "has-events"), (s.selected, "selected"),
    (s.empty, "empty")].filterMap fun (flag, name) => if flag then some name else none

/-- The items under one time of day. -/
structure TimeBucket where
  label : String
  items : List Occurrence
  deriving DecidableEq, Repr

/-- The link that stands for the items a day does not show. -/
structure MoreLink where
  date : Date
  count : Nat
  hiddenIds : List String
  link : Option String
  behavior : String
  deriving DecidableEq, Repr

/-- What a cell shows. -/
inductive CellContent where
  | dayName (label fullName : String)
  | weekHeader
  | weekNumber (number : Nat) (link : Option String)
  | dateBox (dayOfMonth : Nat) (link : Option String)
  /-- The beginning of a band. -/
  | event (occurrence : Occurrence)
  /-- A day under a band that begins further left. -/
  | covered (dateId : String)
  | blank
  | singleDay (buckets : List TimeBucket) (more : Option MoreLink)
  | emptyDay
  | mini (dayOfMonth : Nat) (hasEvents : Bool) (link : Option String)
  deriving DecidableEq, Repr

/-- A cell of a calendar table. -/
structure Cell where
  id : String
  content : CellContent
  colspan : Nat := 1
  rowspan : Nat := 1
  state : CellState := {}
  /-- The base class and the classes of the state. -/
  cssClass : String
  date : Option Date := none
  kind : RowKind
  headerId : Option String := none
  deriving DecidableEq, Repr

namespace Cell

/-- A cell of one row and column, in the class of its kind. -/
def new (id : String) (kind : RowKind) (content : CellContent) : Cell where
  id := id
  content := content
  cssClass := kind.cssClass
  kind := kind

variable (c : Cell)

/-- The cell with its spans set. -/
def span (colspan rowspan : Nat) : Cell :=
  { c with colspan := colspan, rowspan := rowspan }

/-- The cell on a date. -/
def on (d : Date) : Cell :=
  { c with date := some d }

/-- The cell under a header. -/
def header (id : String) : Cell :=
  { c with headerId := some id }

/-- The cell in a state, with the class text of a base class and that state. -/
def styled (base : String) (state : CellState) : Cell :=
  { c with cssClass := " ".intercalate (base :: state.classes), state := state }

/-- Whether the cell lies under a band and has no markup of its own. -/
def isCovered : Bool :=
  match c.content with
  | .covered _ => true
  | _ => false

end Cell

/-- A row of cells. -/
structure Row where
  kind : RowKind
  cells : List Cell := []
  deriving DecidableEq, Repr

/-- The number of columns the cells of a row cover, if it is a 32-bit word. -/
def Row.width? (r : Row) : Option Nat :=
  let width := (r.cells.map Cell.colspan).foldr (· + ·) 0
  if width < UInt32.size then some width else none

/-- One week: the row of date boxes and the rows below it. -/
structure WeekBlock where
  start : Date
  weekNumber : Nat
  /-- Band rows and the single-day row. -/
  totalRows : Nat
  rows : List Row
  deriving DecidableEq, Repr

/-- One month. -/
structure MonthGrid where
  year : Int
  month : Nat
  mini : Bool
  header : Row
  weeks : List WeekBlock
  deriving DecidableEq, Repr

/-- One week under its header. -/
structure WeekGrid where
  header : Row
  week : WeekBlock
  deriving DecidableEq, Repr

/-- One day: the all-day items and the rest by time. -/
structure DayGrid where
  date : Date
  allDay : List Occurrence
  buckets : List TimeBucket
  empty : Bool
  state : CellState
  link : Option String
  deriving DecidableEq, Repr

/-- A calendar of any granularity. -/
inductive Grid where
  | year (year : Int) (months : List MonthGrid)
  | month (grid : MonthGrid)
  | week (grid : WeekGrid)
  | day (grid : DayGrid)
  | empty
  deriving DecidableEq, Repr

/-- Whether a calendar shows nothing. -/
def Grid.isEmpty : Grid → Bool
  | empty => true
  | _ => false

end Almanac
