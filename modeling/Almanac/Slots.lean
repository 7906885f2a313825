import Almanac.Civil.Week
import Almanac.Occurrence

/-! # Slot rows

Bands across the days of a week are laid out in rows of slots, so that bands in one row
do not overlap.  A row has a fixed number of slots, each free or held by a key; rows are
added at the end as they are needed.
-/
namespace Almanac

/-- The number of slots of a row.  Columns from this one on hold nothing. -/
def slotColumns : Nat := 31

/-- The number of days of a week row. -/
def daysPerWeek : Nat := 7

/-- Rows of slots, the first row on top. -/
structure SlotRows where
  rows : List (List (Option String)) := []
  deriving DecidableEq, Repr

namespace SlotRows

/-- A row of free slots. -/
def blankRow : List (Option String) :=
  List.replicate slotColumns none

variable (m : SlotRows)

/-- The number of rows. -/
def rowCount : Nat := m.rows.length

/-- Who holds a slot; a slot beyond the rows or columns is free. -/
def holder? (row column : Nat) : Option String :=
  ((m.rows[row]?).bind fun slots => slots[column]?).join

/-- Whether a slot is free. -/
def isFree (row column : Nat) : Bool :=
  (m.holder? row column).isNone

/-- The rows with blank rows added until `row` is one of them. -/
def reachTo (row : Nat) : SlotRows :=
  ⟨m.rows ++ List.replicate (row + 1 - m.rows.length) blankRow⟩

/-- A row with `length` slots from `column` on given to a key. -/
def fillRow (column length : Nat) (key : String) (slots : List (Option String)) :
    List (Option String) :=
  slots.mapIdx fun i slot => if column ≤ i ∧ i < column + length then some key else slot

/-- Gives `length` slots of a row, from `column` on, to a key, whoever held them. -/
def setSpan (row column length : Nat) (key : String) : SlotRows :=
  ⟨(m.reachTo row).rows.modify row (fillRow column length key)⟩

/-- Whether the slots from `column` up to `stop` of a row are free. -/
def freeBetween (column stop row : Nat) : Bool :=
  (List.range slotColumns).all fun i => !(column ≤ i && i < stop) || m.isFree row i

/-- The first row whose slots of a span are free, and the rows with that row among them.
A row is added if there is none, if the span is empty or if `appendOnly` is set. -/
def findRow (column length : Nat) (appendOnly : Bool) : Nat × SlotRows :=
  let found :=
    if appendOnly || length == 0 then none
    else (List.range m.rowCount).find? (m.freeBetween column (column + length))
  match found with
  | some row => (row, m)
  | none => (m.rowCount, ⟨m.rows ++ [blankRow]⟩)

/-- Whether a search for a span can be carried out.  Columns are 64-bit words, and a row is
searched up to the end of the span, which has to be one too. -/
def searchFits (column length : Nat) (appendOnly : Bool) : Bool :=
  appendOnly || length == 0 || m.rows.isEmpty || column + length < UInt64.size

/-- The result of a search for a span, if the search can be carried out. -/
def findRow? (column length : Nat) (appendOnly : Bool) : Option (Nat × SlotRows) :=
  if m.searchFits column length appendOnly then some (m.findRow column length appendOnly)
  else none

/-- The first row in which a key holds the slot of a column. -/
def rowOf? (column : Nat) (key : String) : Option Nat :=
  (List.range m.rowCount).find? fun row => m.holder? row column = some key

/-- The slots of a row that are held, with their columns. -/
def held (slots : List (Option String)) : List (Nat × String) :=
  (List.range slots.length).filterMap fun i => ((slots[i]?).join).map fun key => (i, key)

end SlotRows

/-- The number of columns a band covers from a date on: up to the last date of the
event, the end of the week row and the last visible date, one at least. -/
def colspanFor (date : Date) (column : Nat) (eventLast visibleLast : Date) : Nat :=
  let toEnd := date.daysUntil eventLast
  let inRow : Int := (daysPerWeek - (column + 1) : Nat)
  let inRange := date.daysUntil visibleLast
  (max 0 (min (min toEnd inRow) inRange)).toNat + 1

/-- Whether a band can be measured from a column on: the column after it is a 64-bit
word. -/
def columnFits (column : Nat) : Bool :=
  column + 1 < UInt64.size

/-- Where a fragment lands in the rows of a week. -/
inductive Placement where
  /-- A band begins: its row, the columns it covers, and whether the event began before
  or goes on after it. -/
  | band (row colspan : Nat) (continuation continues : Bool)
  /-- A band that began further left covers the day. -/
  | covered (row : Nat)
  deriving DecidableEq, Repr

/-- The row of a placement. -/
def Placement.row : Placement → Nat
  | band row _ _ _ => row
  | covered row => row

/-- Lays out the bands of one week, each in the first row with room. -/
structure WeekPacker where
  slots : SlotRows := {}
  firstDay : Nat
  deriving DecidableEq, Repr

namespace WeekPacker

variable (p : WeekPacker)

/-- A packer for the next week. -/
def startWeek : WeekPacker :=
  { p with slots := {} }

/-- Takes the first row with room for an occurrence. -/
def placeMultiDay (o : Occurrence) (column colspan : Nat) : Nat × WeekPacker :=
  let (row, slots) := p.slots.findRow column colspan false
  (row, { p with slots := slots.setSpan row column colspan o.slotKey })

/-- The band that already covers a fragment on a date: it can only be one that began on
an earlier day of the same week. -/
def coveringRow? (o : Occurrence) (date : Date) : Option Nat :=
  let column := date.weekColumn p.firstDay
  if o.firstDay ≠ date ∧ column ≠ 0 then p.slots.rowOf? column o.slotKey else none

/-- Lays out the fragment of an occurrence on a date: under the band that covers it, or
as the beginning of a band. -/
def place (o : Occurrence) (date visibleLast : Date) : Placement × WeekPacker :=
  match p.coveringRow? o date with
  | some row => (.covered row, p)
  | none =>
    let column := date.weekColumn p.firstDay
    let colspan := colspanFor date column o.lastDay visibleLast
    let (row, p) := p.placeMultiDay o column colspan
    (.band row colspan (o.firstDay < date) (colspan ≤ date.daysUntil o.lastDay), p)

/-- Whether a fragment can be laid out on a date: a band that begins there can be measured,
and a row can be searched for it. -/
def placeFits (o : Occurrence) (date visibleLast : Date) : Bool :=
  let column := date.weekColumn p.firstDay
  (p.coveringRow? o date).isSome ||
    columnFits column &&
      p.slots.searchFits column (colspanFor date column o.lastDay visibleLast) false

end WeekPacker
end Almanac
