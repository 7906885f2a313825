import Almanac.Bucket
import Almanac.Collection
import Almanac.Grid.Cell
import Almanac.Slots

/-! # Laying out a week

The items of a week go into seven columns.  Items that want a band go through the packer
and get a row; the others are grouped by time under the bands.  `Layout.buildWeek` does
both, and `Layout.packWeeks` does it for every week a calendar shows.
-/
namespace Almanac

/-- One day of a band row. -/
inductive BandCell where
  /-- The first day of a band in this row. -/
  | entry (occurrence : Occurrence) (colspan : Nat)
  /-- A day under a band that begins further left. -/
  | covered (occurrence : Occurrence)
  /-- No band; `available` says whether the slot is free. -/
  | blank (available : Bool)
  deriving DecidableEq, Repr

/-- Whether a band is on this day. -/
def BandCell.isEntry : BandCell → Bool
  | blank _ => false
  | _ => true

/-- The items of one day that are not in bands. -/
structure SingleDayColumn where
  buckets : List TimeBucket := []
  more : Option MoreLink := none
  inRange : Bool := false
  deriving DecidableEq, Repr

namespace SingleDayColumn

variable (c : SingleDayColumn)

/-- The number of visible items. -/
def itemCount : Nat :=
  (c.buckets.map fun b => b.items.length).foldr (· + ·) 0

/-- Whether there is neither a visible item nor a link to hidden ones. -/
def isEmpty : Bool :=
  c.itemCount == 0 && c.more.isNone

end SingleDayColumn

/-- The layout of a week before it is turned into rows: the bands and the single-day
items of each column. -/
structure WeekBuckets where
  start : Date
  multiDay : List (List BandCell)
  singleDay : List SingleDayColumn
  /-- Band rows and the single-day row. -/
  totalRows : Nat
  deriving DecidableEq, Repr

/-- The date of a column. -/
def WeekBuckets.date (w : WeekBuckets) (column : Nat) : Date :=
  w.start.addDays column

/-- What a calendar is laid out from. -/
structure Layout where
  style : Style
  range : Range
  agenda : Agenda
  viewId : String

/-- The items of one column while it is filled: bands by row, the other items in order,
and the packer. -/
structure ColumnFill where
  bands : List (Option BandCell) := []
  singles : List Occurrence := []
  packer : WeekPacker

/-- A list with position `i` set, lengthened with empty places as needed. -/
def setBand (bands : List (Option BandCell)) (i : Nat) (cell : BandCell) :
    List (Option BandCell) :=
  (bands ++ List.replicate (i + 1 - bands.length) none).set i (some cell)

/-- The week rows that begin on `start` and every seventh day after it, up to a date. -/
def weekStartsFrom (start last : Date) : List Date :=
  (List.range ((start.daysUntil last).toNat / daysPerWeek + 1)).map
      (fun n : Nat => start.addDays (daysPerWeek * n))
    |>.filter (· ≤ last)

namespace Layout

variable (l : Layout)

/-- The boundaries of the time buckets. -/
def boundaries : Boundaries :=
  .read l.style.grouping.boundaries

/-- Whether a day is shown: it lies in the range, and in the month in focus if there is
one. -/
def inView (focal : Option Nat) (d : Date) : Bool :=
  l.range.contains d && focal.all fun month => d.month == month

/-- The label of the time bucket of an item: its start, or the start of its segment if it
began on an earlier day. -/
def bucketLabel (b : Boundaries) (o : Occurrence) : String :=
  match o.segment with
  | some s => if o.continuation then b.floorLabel s.start.time else b.floorAt l.range.zone o.start
  | none => b.floorAt l.range.zone o.start

/-- Items by the label of their bucket: the buckets in the order of their labels, the
items of one bucket in their own order. -/
def groupByBucket (items : List Occurrence) : List TimeBucket :=
  let b := l.boundaries
  let labeled := items.map fun o => (l.bucketLabel b o, o)
  let labels := ((labeled.map (·.1)).mergeSort (· ≤ ·)).eraseReps
  labels.map fun label =>
    ⟨label, labeled.filterMap fun (other, o) => if other = label then some o else none⟩

/-- The link to a day. -/
def dayLink (d : Date) : Option String :=
  l.style.links.dayUrl d.text

/-- The first `keep` items of a list of buckets, without the buckets that lose all their
items, and the items left out. -/
def keepFirst : Nat → List TimeBucket → List TimeBucket × List Occurrence
  | _, [] => ([], [])
  | keep, b :: rest =>
    let shown := b.items.take keep
    let (kept, hidden) := keepFirst (keep - shown.length) rest
    let kept := if shown = [] then kept else ⟨b.label, shown⟩ :: kept
    (kept, b.items.drop keep ++ hidden)

/-- The single-day items of a day: in buckets, cut to the allowed number. -/
def singleDayColumn (d : Date) (items : List Occurrence) : SingleDayColumn :=
  let buckets := l.groupByBucket items
  if l.style.truncates items.length then
    let keep := match l.style.overflow with
      | .more => l.style.maxItems
      | .hide => 0
    let (kept, hidden) := keepFirst keep buckets
    { buckets := kept
      more := some {
        date := d
        count := hidden.length
        hiddenIds := hidden.map Occurrence.dateId
        link := l.dayLink d
        behavior := l.style.overflow.name }
      inRange := true }
  else { buckets := buckets, more := none, inRange := true }

/-- One more item of a column on a date. -/
def fillItem (d visibleLast : Date) (f : ColumnFill) (o : Occurrence) : ColumnFill :=
  if o.wantsBand l.style.multiDayTheme then
    let (placement, packer) := f.packer.place o d visibleLast
    let cell := match placement with
      | .band _ colspan continuation continues =>
        .entry { o with continuation := continuation, continues := continues } colspan
      | .covered _ => .covered o
    { f with bands := setBand f.bands placement.row cell, packer := packer }
  else { f with singles := f.singles ++ [o] }

/-- The bands and the single-day items of one date, with the packer after it.  A date
that is not in view has none. -/
def fillColumn (focal : Option Nat) (packer : WeekPacker) (d : Date) :
    (List (Option BandCell) × SingleDayColumn) × WeekPacker :=
  if l.inView focal d then
    let f := (l.agenda.on d).foldl (l.fillItem d l.range.lastDate) { packer := packer }
    ((f.bands, l.singleDayColumn d f.singles), f.packer)
  else (([], {}), packer)

/-- The columns of a list of dates, filled from left to right. -/
def fillColumns (focal : Option Nat) :
    WeekPacker → List Date → List (List (Option BandCell) × SingleDayColumn) × WeekPacker
  | packer, [] => ([], packer)
  | packer, d :: rest =>
    let (column, packer) := l.fillColumn focal packer d
    let (columns, packer) := fillColumns focal packer rest
    (column :: columns, packer)

/-- Bands by row, with the places in between filled by blanks. -/
def closeBands (slots : SlotRows) (column : Nat) (bands : List (Option BandCell)) :
    List BandCell :=
  bands.mapIdx fun row cell => cell.getD (.blank (slots.isFree row column))

/-- The seven dates of a week row. -/
def weekDates (start : Date) : List Date :=
  (List.range daysPerWeek).map fun column : Nat => start.addDays column

/-- Lays out the week that begins on a date, with the packer after it.  Days outside the
month in focus stay empty. -/
def buildWeek (packer : WeekPacker) (start : Date) (focal : Option Nat) :
    WeekBuckets × WeekPacker :=
  let (columns, packer) := l.fillColumns focal packer.startWeek (weekDates start)
  let multiDay := columns.mapIdx fun column c => closeBands packer.slots column c.1
  let bandRows :=
    if l.style.multiDayTheme then (multiDay.map List.length).foldl max 0 else 0
  (⟨start, multiDay, columns.map (·.2), bandRows + 1⟩, packer)

/-- The first days of the week rows that hold a month. -/
def monthWeekStarts (y : Int) (month : Nat) : List Date :=
  match Date.ofYMD? y month 1, (lastDayOfMonth y month).toOption with
  | some first, some last => weekStartsFrom (first.weekStart l.style.firstDay) last
  | _, _ => []

/-- The weeks of a full month or of a week, laid out.  Small months, years and days have
no bands and need none. -/
def packWeeks (packerFirstDay : Nat) : List WeekBuckets :=
  let packer : WeekPacker := { firstDay := packerFirstDay }
  match l.range.granularity with
  | .month =>
    if l.style.mini then []
    else
      let (y, month) := l.range.focalMonth
      (l.monthWeekStarts y month).map fun start => (l.buildWeek packer start (some month)).1
  | .week =>
    [(l.buildWeek packer (l.range.firstDate.weekStart l.style.firstDay) none).1]
  | _ => []

end Layout
end Almanac
