import Almanac.Grid.View
import Almanac.Proofs.Period
import Almanac.Proofs.Week.Links
import Almanac.Proofs.Week.MaxItems
import Almanac.Proofs.Week.Rows
import Mathlib.Algebra.GroupWithZero.Nat

/-! # The day cells of a calendar

A date box and a small day stand for a date (`Cell.isDay`); those that are not empty are the
dates a calendar shows (`Grid.shownDates`).  In a week row they are the dates in view, in order
(`Layout.shownDates_weekBlock`, `Layout.shownDates_miniWeek`).

A header and the rows under it begin with the same number of cells for the weeks, and then have
one cell for each column.  Both the header and the dates of a row start on the first day of the
week, so every day stands under the name of its weekday (`Layout.namesDaysOf_headerRow`).
-/
namespace Almanac

namespace Cell

/-- Whether a cell stands for a day: a date box or a small day. -/
def isDay (c : Cell) : Bool :=
  match c.kind, c.content with
  | .mini, _ => true
  | .dateBox, .dateBox _ _ => true
  | _, _ => false

/-- The date of a day cell that is not empty. -/
def shownDate? (c : Cell) : Option Date :=
  if c.isDay && !c.state.empty then c.date else none

/-- Whether a cell is the header of one column with the name of a weekday. -/
def Names (c : Cell) (day : Weekday) : Prop :=
  c.colspan = 1 ∧ ∃ label, c.content = .dayName label day.name

end Cell

namespace Row

/-- The column in which the cell at a position of a row begins. -/
def column (r : Row) (i : Nat) : Nat :=
  ((r.cells.take i).map Cell.colspan).sum

/-- Whether every day cell of a row stands in a column whose header names the weekday of its
date. -/
def NamesDaysOf (header row : Row) : Prop :=
  ∀ i cell, row.cells[i]? = some cell → cell.isDay = true →
    ∃ d, cell.date = some d ∧ cell.colspan = 1 ∧
      ∃ j head, header.cells[j]? = some head ∧ header.column j = row.column i ∧
        head.Names d.weekday

/-- In a row of cells of one column each, the position of a cell is its column. -/
theorem column_eq {r : Row} (h : ∀ c ∈ r.cells, c.colspan = 1) {i : Nat}
    (hi : i < r.cells.length) : r.column i = i := by
  have hones : (r.cells.take i).map Cell.colspan = List.replicate i 1 := by
    refine List.eq_replicate_iff.mpr ⟨?_, fun n hn => ?_⟩
    · rw [List.length_map, List.length_take, Nat.min_eq_left hi.le]
    · obtain ⟨c, hc, rfl⟩ := List.mem_map.mp hn
      exact h c (List.mem_of_mem_take hc)
  rw [column, hones, List.sum_replicate_nat, Nat.mul_one]

end Row

/-- The dates that the day cells of a week show. -/
def WeekBlock.shownDates (b : WeekBlock) : List Date :=
  b.rows.flatMap fun r => r.cells.filterMap Cell.shownDate?

namespace Grid

/-- The dates that the day cells of a calendar show. -/
def shownDates : Grid → List Date
  | day grid => if grid.state.empty then [] else [grid.date]
  | grid => grid.weekBlocks.flatMap WeekBlock.shownDates

/-- The tables of a calendar: the weeks under each header. -/
def tables : Grid → List (Row × List WeekBlock)
  | year _ months => months.map fun grid => (grid.header, grid.weeks)
  | month grid => [(grid.header, grid.weeks)]
  | week grid => [(grid.header, [grid.week])]
  | day _ => []
  | empty => []

/-- The granularity of a calendar that is not empty. -/
def granularity? : Grid → Option Granularity
  | year _ _ => some .year
  | month _ => some .month
  | week _ => some .week
  | day _ => some .day
  | empty => none

/-- Whether every day cell stands under the name of its weekday. -/
def Aligned (grid : Grid) : Prop :=
  ∀ table ∈ grid.tables, ∀ block ∈ table.2, ∀ row ∈ block.rows, table.1.NamesDaysOf row

end Grid

theorem Date.weekday_addDays {start : Date} {firstDay : Nat}
    (h : start.weekday.fromSunday = firstDay) (n : Nat) :
    (start.addDays n).weekday = .ofSunday (firstDay + n) := by
  have hstart := start.fromSunday_weekday
  rw [Date.weekday, Weekday.ofSunday, Weekday.ofSunday, dayNumber_addDays]
  rw [show ((start.dayNumber + n + 4) % 7).toNat % 7 = (firstDay + n) % 7 by omega]

namespace Layout

variable {l : Layout} {start : Date}

/-! ## Headers -/

theorem colspan_headerRow {c : Cell} (h : c ∈ l.headerRow.cells) : c.colspan = 1 := by
  rcases List.mem_append.mp h with hweek | hday
  · split at hweek
    · rw [List.mem_singleton.mp hweek]
      rfl
    · exact absurd hweek List.not_mem_nil
  · obtain ⟨day, -, rfl⟩ := List.mem_map.mp hday
    rfl

/-- The names of the weekdays stand behind the cell over the numbers of the weeks. -/
theorem getElem?_headerRow {width column : Nat}
    (hwidth : width = if l.showsWeekNumbers then 1 else 0) (hcolumn : column < daysPerWeek) :
    l.headerRow.cells[width + column]? =
      some (l.dayNameCell (.ofSunday (l.style.firstDay + column))) := by
  have hweek : (if l.showsWeekNumbers then [l.weekHeaderCell] else []).length = width := by
    rw [hwidth]
    split <;> rfl
  rw [headerRow, List.getElem?_append_right (by rw [hweek]; omega), hweek,
    Nat.add_sub_cancel_left, List.getElem?_map, Weekday.ordered, List.getElem?_map,
    List.getElem?_range (show column < 7 from hcolumn)]
  rfl

/-- **Days stand under their names** in a row whose days start on the first day of the week,
behind as many cells as the header has before its weekdays. -/
theorem namesDaysOf_headerRow (hstart : start.weekday.fromSunday = l.style.firstDay) {row : Row}
    {lead : List Cell} {days : Nat → Cell}
    (hrow : row.cells = lead ++ (List.range daysPerWeek).map days)
    (hlead : ∀ c ∈ lead, c.isDay = false ∧ c.colspan = 1)
    (hlength : lead.length = if l.showsWeekNumbers then 1 else 0)
    (hdays : ∀ column, (days column).colspan = 1 ∧
      (days column).date = some (start.addDays column)) :
    l.headerRow.NamesDaysOf row := by
  intro i cell hcell hday
  obtain ⟨hi, -⟩ := List.getElem?_eq_some_iff.mp hcell
  have hspans : ∀ c ∈ row.cells, c.colspan = 1 := by
    intro c hc
    rw [hrow] at hc
    rcases List.mem_append.mp hc with hc | hc
    · exact (hlead c hc).2
    · obtain ⟨column, -, rfl⟩ := List.mem_map.mp hc
      exact (hdays column).1
  have hbehind : lead.length ≤ i := by
    by_contra hbefore
    rw [hrow, List.getElem?_append_left (not_le.mp hbefore)] at hcell
    rw [(hlead cell (List.mem_of_getElem? hcell)).1] at hday
    cases hday
  obtain ⟨column, rfl⟩ := Nat.exists_eq_add_of_le hbehind
  have hcolumn : column < daysPerWeek := by
    rw [hrow, List.length_append, List.length_map, List.length_range] at hi
    omega
  have hname := l.getElem?_headerRow hlength hcolumn
  have hcellDay : days column = cell := by
    rw [hrow, List.getElem?_append_right (Nat.le_add_right _ _), Nat.add_sub_cancel_left,
      List.getElem?_map, List.getElem?_range hcolumn] at hcell
    exact Option.some.inj hcell
  subst hcellDay
  refine ⟨start.addDays column, (hdays column).2, (hdays column).1, _, _, hname, ?_, rfl, ?_⟩
  · obtain ⟨hj, -⟩ := List.getElem?_eq_some_iff.mp hname
    rw [Row.column_eq (fun c hc => colspan_headerRow hc) hj, Row.column_eq hspans hi]
  · rw [Date.weekday_addDays hstart]
    exact ⟨_, rfl⟩

/-! ## The rows of a week -/

/-- The cells in front of the days of a row. -/
def leadCells (l : Layout) (start : Date) (rowspan : Nat) : List Cell :=
  if l.showsWeekNumbers then [l.weekNumberCell start rowspan] else []

theorem spec_of_mem_leadCells {rowspan : Nat} {c : Cell} (h : c ∈ l.leadCells start rowspan) :
    (c.isDay = false ∧ c.colspan = 1) ∧ c.shownDate? = none := by
  unfold leadCells at h
  split at h
  · rw [List.mem_singleton.mp h]
    exact ⟨⟨rfl, rfl⟩, rfl⟩
  · exact absurd h List.not_mem_nil

theorem length_leadCells (l : Layout) (start : Date) (rowspan : Nat) :
    (l.leadCells start rowspan).length = if l.showsWeekNumbers then 1 else 0 := by
  unfold leadCells
  split <;> rfl

/-- The cell of a day in the row of date boxes of a week. -/
def boxCell (l : Layout) (w : WeekBuckets) (focal : Option Nat) (column : Nat) : Cell :=
  l.dateBoxCell (w.single column) ((w.multiDay[column]?).getD []) (w.date column) focal

theorem cells_dateBoxRow (w : WeekBuckets) (focal : Option Nat) :
    (l.dateBoxRow w focal).cells =
      l.leadCells w.start (w.totalRows + 1) ++
        (List.range daysPerWeek).map (l.boxCell w focal) := by
  rw [dateBoxRow, weekColumns, List.map_map]
  rfl

/-- Below the date boxes no cell stands for a day. -/
theorem isDay_bodyRow {w : WeekBuckets} {focal : Option Nat} {index : Nat} {c : Cell}
    (h : c ∈ (l.bodyRow w focal index).cells) : c.isDay = false := by
  obtain ⟨⟨d, bands, single⟩, -, hcell⟩ := List.mem_filterMap.mp h
  unfold bodyCell? at hcell
  dsimp only at hcell
  split at hcell
  · obtain ⟨band, -, rfl⟩ := Option.map_eq_some_iff.mp hcell
    cases band <;> rfl
  · split at hcell
    · obtain rfl := Option.some.inj hcell
      rfl
    · cases hcell

/-- The cell of a day in the row of a small week. -/
theorem cells_miniWeek (month : Nat) (start : Date) :
    (l.miniWeek month start).rows =
      [{ kind := .mini
         cells := l.leadCells start 1 ++
          (List.range daysPerWeek).map fun column : Nat =>
            l.miniCell month (start.addDays column) }] := by
  rw [miniWeek, weekDates, List.map_map]
  rfl

/-! ## Weekdays -/

theorem namesDaysOf_weekBlock {w : WeekBuckets} (focal : Option Nat)
    (hstart : w.start.weekday.fromSunday = l.style.firstDay) :
    ∀ row ∈ (l.weekBlock w focal).rows, l.headerRow.NamesDaysOf row := by
  intro row hrow
  rcases List.mem_cons.mp hrow with rfl | hbody
  · exact namesDaysOf_headerRow hstart (cells_dateBoxRow w focal)
      (fun c hc => (spec_of_mem_leadCells hc).1) (length_leadCells _ _ _)
      fun column => ⟨rfl, rfl⟩
  · obtain ⟨index, -, rfl⟩ := List.mem_map.mp hbody
    intro i cell hcell hday
    rw [isDay_bodyRow (List.mem_of_getElem? hcell)] at hday
    cases hday

theorem namesDaysOf_miniWeek (month : Nat)
    (hstart : start.weekday.fromSunday = l.style.firstDay) :
    ∀ row ∈ (l.miniWeek month start).rows, l.headerRow.NamesDaysOf row := by
  intro row hrow
  rw [cells_miniWeek] at hrow
  obtain rfl := List.mem_singleton.mp hrow
  exact namesDaysOf_headerRow hstart rfl (fun c hc => (spec_of_mem_leadCells hc).1)
    (length_leadCells _ _ _) fun column => ⟨rfl, rfl⟩

/-! ## The dates of a week -/

/-- The dates of a row of day cells that are shown. -/
theorem filterMap_shownDate? {lead : List Cell} {days : Nat → Cell} {shown : Date → Bool}
    (hlead : ∀ c ∈ lead, c.shownDate? = none)
    (hdays : ∀ column < daysPerWeek, (days column).shownDate? =
      if shown (start.addDays column) then some (start.addDays column) else none) :
    (lead ++ (List.range daysPerWeek).map days).filterMap Cell.shownDate? =
      (weekDates start).filter shown := by
  rw [List.filterMap_append, List.filterMap_eq_nil_iff.mpr hlead, List.nil_append,
    List.filterMap_map, weekDates, ← List.filterMap_eq_filter, List.filterMap_map]
  refine List.filterMap_congr fun column hcolumn => ?_
  rw [Function.comp_apply, Function.comp_apply, hdays column (List.mem_range.mp hcolumn)]
  rfl

theorem shownDate?_miniCell (month : Nat) (d : Date) :
    (l.miniCell month d).shownDate? = if l.inView (some month) d then some d else none := by
  rw [Cell.shownDate?, miniCell]
  cases l.inView (some month) d <;> rfl

/-- **A week of small days** shows the dates in view. -/
theorem shownDates_miniWeek (month : Nat) (start : Date) :
    (l.miniWeek month start).shownDates = (weekDates start).filter (l.inView (some month)) := by
  rw [WeekBlock.shownDates, cells_miniWeek, List.flatMap_singleton]
  exact filterMap_shownDate? (fun c hc => (spec_of_mem_leadCells hc).2)
    fun column _ => shownDate?_miniCell month _

theorem inRange_singleColumn (start : Date) (focal : Option Nat) (column : Nat) :
    (l.singleColumn start focal column).inRange = l.inView focal (start.addDays column) := by
  unfold singleColumn
  split
  · rename_i hview
    rw [hview]
    unfold singleDayColumn
    dsimp only
    split <;> rfl
  · rename_i hview
    exact (Bool.eq_false_iff.mpr hview).symm

theorem shownDate?_boxCell (packer : WeekPacker) (start : Date) (focal : Option Nat)
    {column : Nat} (hcolumn : column < daysPerWeek) :
    (l.boxCell (l.buildWeek packer start focal).1 focal column).shownDate? =
      if l.inView focal (start.addDays column) then some (start.addDays column) else none := by
  have hview : ((l.buildWeek packer start focal).1.single column).inRange =
      l.inView focal (start.addDays column) := by
    rw [single_buildWeek packer start focal hcolumn]
    exact inRange_singleColumn start focal column
  show (if !(!((l.buildWeek packer start focal).1.single column).inRange) then
    some (start.addDays column) else none) = _
  rw [hview, Bool.not_not]

/-- **A week of full days** shows the dates in view. -/
theorem shownDates_weekBlock (packer : WeekPacker) (start : Date) (focal : Option Nat) :
    (l.weekBlock (l.buildWeek packer start focal).1 focal).shownDates =
      (weekDates start).filter (l.inView focal) := by
  have hbody : (((List.range (l.buildWeek packer start focal).1.totalRows).map
      (l.bodyRow (l.buildWeek packer start focal).1 focal)).flatMap fun r =>
        r.cells.filterMap Cell.shownDate?) = [] := by
    refine List.flatMap_eq_nil_iff.mpr fun r hr => List.filterMap_eq_nil_iff.mpr fun c hc => ?_
    obtain ⟨index, -, rfl⟩ := List.mem_map.mp hr
    rw [Cell.shownDate?, isDay_bodyRow hc, Bool.false_and]
    rfl
  rw [WeekBlock.shownDates, weekBlock, List.flatMap_cons, hbody, List.append_nil,
    cells_dateBoxRow]
  exact filterMap_shownDate? (fun c hc => (spec_of_mem_leadCells hc).2)
    fun column hcolumn => shownDate?_boxCell packer start focal hcolumn

end Layout
end Almanac
