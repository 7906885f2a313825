import Almanac.Grid.Block

/-! # Calendar views

The four views of a calendar: a month of full or of small days, a week, a day, and a year
of twelve small months.  `Layout.assemble` shows the view of the range's granularity.
-/
namespace Almanac
namespace Layout

variable (l : Layout)

/-- A month of full days, from its weeks. -/
def monthGrid (weeks : List WeekBuckets) : MonthGrid :=
  let (y, month) := l.range.focalMonth
  { year := y
    month := month
    mini := false
    header := l.headerRow
    weeks := weeks.map fun w => l.weekBlock w (some month) }

/-- A day of a small month: only whether it has events. -/
def miniCell (month : Nat) (d : Date) : Cell :=
  let shown := l.inView (some month) d
  let hasEvents := shown && !(l.agenda.on d).isEmpty
  let content := if shown then .mini d.day hasEvents (l.dayLink d) else .emptyDay
  (Cell.new (l.viewId ++ "-" ++ d.text) .mini content).on d
    |>.styled (d.weekday.lowerName ++ " mini")
      { l.dayState d (some month) shown with hasEvents := hasEvents }

/-- A week of a small month: one row. -/
def miniWeek (month : Nat) (start : Date) : WeekBlock where
  start := start
  weekNumber := start.weekNumber l.style.firstDay
  totalRows := 1
  rows := [{
    kind := .mini
    cells :=
      (if l.showsWeekNumbers then [l.weekNumberCell start 1] else []) ++
        (weekDates start).map (l.miniCell month) }]

/-- A month of small days. -/
def miniMonth (y : Int) (month : Nat) : MonthGrid where
  year := y
  month := month
  mini := true
  header := l.headerRow
  weeks := (l.monthWeekStarts y month).map (l.miniWeek month)

/-- The year the range begins in, as twelve small months. -/
def yearGrid : Grid :=
  let (y, _) := l.range.focalMonth
  .year y ((List.range' 1 12).map (l.miniMonth y))

/-- Buckets for all boundaries: an empty one for every label that has no items. -/
def withEmptyBuckets (buckets : List TimeBucket) : List TimeBucket :=
  let missing := l.boundaries.labels.filter fun label => !buckets.any (·.label == label)
  let filled := missing.map fun label => TimeBucket.mk label []
  (buckets ++ filled).mergeSort fun a b => a.label ≤ b.label

/-- One day: the all-day items apart, the rest by time.  A small day lists no items. -/
def dayGrid (d : Date) : DayGrid :=
  let items := l.agenda.on d
  let listed := if l.style.mini then [] else items
  let allDay := listed.filter (·.allDay)
  let grouped := l.groupByBucket (listed.filter fun o => !o.allDay)
  let buckets := if l.style.grouping.showsEmptyTimes then l.withEmptyBuckets grouped else grouped
  { date := d
    allDay := allDay
    buckets := buckets
    empty :=
      if l.style.mini then items.isEmpty
      else allDay.isEmpty && buckets.all fun b => b.items.isEmpty
    state := { l.dayState d none (l.range.contains d) with
      hasEvents := !items.isEmpty
      selected := !items.isEmpty }
    link := l.dayLink d }

/-- The view of the range's granularity, from its weeks. -/
def assemble (weeks : List WeekBuckets) : Grid :=
  match l.range.granularity with
  | .year => l.yearGrid
  | .month =>
    if l.style.mini then
      let (y, month) := l.range.focalMonth
      .month (l.miniMonth y month)
    else .month (l.monthGrid weeks)
  | .week =>
    match weeks with
    | w :: _ => .week ⟨l.headerRow, l.weekBlock w none⟩
    | [] => .empty
  | .day => .day (l.dayGrid l.range.firstDate)

/-! ## Staying within the calendar -/

/-- Whether the calendar has the seven dates of a week row. -/
def weekFits (start : Date) : Bool :=
  start.inCalendar && (start.addDays 6).inCalendar

/-- Whether the calendar has the week rows of a month and the date after the last row. -/
def monthFits (y : Int) (month : Nat) : Bool :=
  (nextMonth? y month).isSome &&
    (l.monthWeekStarts y month).all fun start =>
      start.inCalendar && (start.addDays daysPerWeek).inCalendar

/-- Whether the bands of a week can be laid out: on every date in view with an item that
wants a band, one can be measured. -/
def bandsFit (packerFirstDay : Nat) (focal : Option Nat) (start : Date) : Bool :=
  (weekDates start).all fun d =>
    !(l.inView focal d && (l.agenda.on d).any (·.wantsBand l.style.multiDayTheme)) ||
      columnFits (d.weekColumn packerFirstDay)

/-- Whether the calendar has all dates the weeks of the range show, and their bands can be
laid out. -/
def weeksFit (packerFirstDay : Nat) : Bool :=
  match l.range.granularity with
  | .month =>
    let (y, month) := l.range.focalMonth
    l.style.mini ||
      l.monthFits y month &&
        (l.monthWeekStarts y month).all (l.bandsFit packerFirstDay (some month))
  | .week =>
    let start := l.range.firstDate.weekStart l.style.firstDay
    weekFits start && l.bandsFit packerFirstDay none start
  | _ => true

/-- Whether the calendar has all dates the view of the range shows. -/
def viewFits : Bool :=
  let (y, month) := l.range.focalMonth
  match l.range.granularity with
  | .year => (List.range' 1 12).all (l.monthFits y)
  | .month => l.monthFits y month
  | .week => weekFits (l.range.firstDate.weekStart l.style.firstDay)
  | .day => true

end Layout
end Almanac
