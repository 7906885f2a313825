import Almanac.Grid.View
import Almanac.Proofs.Week.Tiling
import Almanac.Proofs.Week.Argument

/-! # Links to weeks

The cell with the number of a week links to the week by an argument: the year that the range
begins in and the number that the cell shows.  The reader of arguments takes it for an ISO
year and an ISO week.  The two agree exactly for the rows that `Layout.NamesWeek` describes,
and then the link leads to the row (`Layout.weekLinks_assemble`).

Rows that start on Monday show the ISO week of the row, so their link is right unless the ISO
year is not the year of the range, at the turn of the year.  Other rows show the ISO week of
their Monday only if January 1 is not in ISO week 1; in the other years they show the week
before (`Layout.not_leadsTo_aprilLinks`).
-/
namespace Almanac

/-- The link of a cell with the number of a week. -/
def Cell.weekLink? (c : Cell) : Option (Option String) :=
  match c.content with
  | .weekNumber _ link => some link
  | _ => none

/-- The links of the cells with the number of a week. -/
def WeekBlock.weekLinks (b : WeekBlock) : List (Option String) :=
  b.rows.flatMap fun r => r.cells.filterMap Cell.weekLink?

/-- The weeks that a calendar shows. -/
def Grid.weekBlocks : Grid → List WeekBlock
  | year _ months => months.flatMap MonthGrid.weeks
  | month grid => grid.weeks
  | week grid => [grid.week]
  | day _ => []
  | empty => []

namespace Layout

variable {l : Layout} {block : WeekBlock}

/-- Whether the week link beside the row that starts on a date leads to that row: the range
its argument asks for begins there. -/
def LeadsTo (l : Layout) (today start : Date) : Prop :=
  ∃ r, Range.ofArgument ⟨l.range.zone, today, l.style.firstDay⟩ (some (l.weekArgument start))
    .week = .ok r ∧ r.firstDate = start

/-- Whether the argument beside a row is the ISO week of its Monday in a year of four digits,
and the clocks show the start of the row. -/
def NamesWeek (l : Layout) (start : Date) : Prop :=
  (1000 ≤ l.range.firstDate.year ∧ l.range.firstDate.year ≤ 9999) ∧
    start.mondayFrom.isoYear = l.range.firstDate.year ∧
    (l.style.firstDay = 1 ∨ start.year = l.range.firstDate.year ∧
      (Date.ofYMD l.range.firstDate.year 1 1).isoWeek ≠ 1) ∧
    l.range.zone.dateAt (l.range.zone.startOfDay start) = start

instance (l : Layout) (start : Date) : Decidable (l.NamesWeek start) :=
  inferInstanceAs (Decidable (_ ∧ _ ∧ _ ∧ _))

/-- **A link leads to its row if its argument names the week of the row.** -/
theorem leadsTo_iff (hfirst : l.style.firstDay ≤ 6) (hz : l.range.zone.WithinDay) (today : Date)
    {start : Date} (hstart : start.weekday.fromSunday = l.style.firstDay) :
    l.LeadsTo today start ↔ l.NamesWeek start := by
  rw [LeadsTo, weekArgument, Range.ofArgument_week_iff hfirst hz hstart
    (start.weekNumber_lt _), NamesWeek]
  refine and_congr_right fun _ => and_congr_right fun hyear => and_congr_left fun _ => ?_
  rw [Date.isoWeek_mondayFrom_eq_iff hstart, hyear]

/-! ## The cells with the number of a week -/

/-- A row that begins with the number of a week and shows no other has one link. -/
theorem filterMap_weekLink? {start : Date} {rowspan : Nat} {rest : List Cell}
    (hrest : ∀ cell ∈ rest, cell.weekLink? = none) :
    ([l.weekNumberCell start rowspan] ++ rest).filterMap Cell.weekLink? =
      [l.style.links.weekUrl (l.weekArgument start)] := by
  rw [List.filterMap_append, List.filterMap_eq_nil_iff.mpr hrest]
  rfl

theorem weekLinks_weekBlock (hshown : l.showsWeekNumbers = true) (w : WeekBuckets)
    (focal : Option Nat) :
    (l.weekBlock w focal).weekLinks = [l.style.links.weekUrl (l.weekArgument w.start)] := by
  have hboxes : (l.dateBoxRow w focal).cells.filterMap Cell.weekLink? =
      [l.style.links.weekUrl (l.weekArgument w.start)] := by
    rw [dateBoxRow, if_pos hshown]
    refine filterMap_weekLink? fun cell hcell => ?_
    obtain ⟨column, -, rfl⟩ := List.mem_map.mp hcell
    rfl
  have hbody : (((List.range w.totalRows).map (l.bodyRow w focal)).flatMap fun r =>
      r.cells.filterMap Cell.weekLink?) = [] := by
    refine List.flatMap_eq_nil_iff.mpr fun r hr => List.filterMap_eq_nil_iff.mpr fun c hc => ?_
    unfold Cell.weekLink?
    split
    · rename_i hcontent
      obtain ⟨rfl, -⟩ := eq_weekNumberCell (List.mem_cons_of_mem _ hr) hc hcontent
      obtain ⟨i, -, hrow⟩ := List.mem_map.mp hr
      have hkind : (if i + 1 = w.totalRows then RowKind.singleDay else .multiDay) = .dateBox :=
        congrArg Row.kind hrow
      split at hkind <;> cases hkind
    · rfl
  rw [WeekBlock.weekLinks, weekBlock, List.flatMap_cons, hboxes, hbody]
  rfl

theorem weekLinks_miniWeek (hshown : l.showsWeekNumbers = true) (month : Nat) (start : Date) :
    (l.miniWeek month start).weekLinks = [l.style.links.weekUrl (l.weekArgument start)] := by
  rw [WeekBlock.weekLinks, miniWeek, List.flatMap_singleton, if_pos hshown]
  refine filterMap_weekLink? fun cell hcell => ?_
  obtain ⟨d, -, rfl⟩ := List.mem_map.mp hcell
  rw [Cell.weekLink?, miniCell]
  cases l.inView (some month) d <;> rfl

/-! ## The weeks of a month or a year -/

theorem granularity_of_showsWeekNumbers (h : l.showsWeekNumbers = true) :
    l.range.granularity = .month ∨ l.range.granularity = .year := by
  rw [showsWeekNumbers, Bool.and_eq_true, Bool.or_eq_true, beq_iff_eq, beq_iff_eq] at h
  exact h.2

/-- A week of a calendar with week numbers starts on the first day of the week and has one
link, that of its start. -/
theorem spec_of_mem_miniMonth (hfirst : l.style.firstDay ≤ 6) (hshown : l.showsWeekNumbers = true)
    {y : Int} {m : Nat} (h : block ∈ (l.miniMonth y m).weeks) :
    block.start.weekday.fromSunday = l.style.firstDay ∧
      block.weekLinks = [l.style.links.weekUrl (l.weekArgument block.start)] := by
  obtain ⟨start, hstart, rfl⟩ := List.mem_map.mp h
  exact ⟨fromSunday_of_mem_monthWeekStarts hfirst hstart, weekLinks_miniWeek hshown m start⟩

theorem spec_of_mem_weekBlocks (hfirst : l.style.firstDay ≤ 6)
    (hshown : l.showsWeekNumbers = true) {packerFirstDay : Nat}
    (h : block ∈ (l.assemble (l.packWeeks packerFirstDay)).weekBlocks) :
    block.start.weekday.fromSunday = l.style.firstDay ∧
      block.weekLinks = [l.style.links.weekUrl (l.weekArgument block.start)] := by
  unfold assemble at h
  rcases granularity_of_showsWeekNumbers hshown with hmonth | hyear
  · rw [hmonth] at h
    dsimp only at h
    split at h
    · exact spec_of_mem_miniMonth hfirst hshown h
    · obtain ⟨w, hw, rfl⟩ := List.mem_map.mp h
      obtain ⟨start, hstart, rfl⟩ := mem_packWeeks hfirst hw
      exact ⟨hstart, weekLinks_weekBlock hshown _ _⟩
  · rw [hyear] at h
    obtain ⟨grid, hgrid, hblock⟩ := List.mem_flatMap.mp h
    obtain ⟨m, -, rfl⟩ := List.mem_map.mp hgrid
    exact spec_of_mem_miniMonth hfirst hshown hblock

/-- **Links to weeks.**  Every week of a calendar with week numbers has one link, and the
link leads to the row if and only if its argument names the week of the row. -/
theorem weekLinks_assemble (l : Layout) (packerFirstDay : Nat) (today : Date)
    (hfirst : l.style.firstDay ≤ 6) (hz : l.range.zone.WithinDay)
    (hshown : l.showsWeekNumbers = true) :
    ∀ block ∈ (l.assemble (l.packWeeks packerFirstDay)).weekBlocks,
      block.weekLinks = [l.style.links.weekUrl (l.weekArgument block.start)] ∧
        (l.LeadsTo today block.start ↔ l.NamesWeek block.start) := by
  intro block hblock
  obtain ⟨hstart, hlinks⟩ := spec_of_mem_weekBlocks hfirst hshown hblock
  exact ⟨hlinks, leadsTo_iff hfirst hz today hstart⟩

/-- A calendar with week numbers and links to weeks. -/
def linkedLayout (firstDay : Nat) (range : Range) : Layout where
  style :=
    { showWeekNumbers := true
      firstDay := firstDay
      links := { week := some "/week/\x7barg\x7d" } }
  range := range
  agenda := ⟨[]⟩
  viewId := "calendar"

theorem weekLinks_assemble_april :
    ((linkedLayout 1 Occurrence.april).style.firstDay ≤ 6 ∧ Occurrence.april.zone.WithinDay ∧
        (linkedLayout 1 Occurrence.april).showsWeekNumbers = true) ∧
      ∀ block ∈ ((linkedLayout 1 Occurrence.april).assemble
          ((linkedLayout 1 Occurrence.april).packWeeks 1)).weekBlocks,
        block.weekLinks = [(linkedLayout 1 Occurrence.april).style.links.weekUrl
            ((linkedLayout 1 Occurrence.april).weekArgument block.start)] ∧
          ((linkedLayout 1 Occurrence.april).LeadsTo Occurrence.april.today block.start ↔
            (linkedLayout 1 Occurrence.april).NamesWeek block.start) :=
  ⟨by decide, weekLinks_assemble (linkedLayout 1 Occurrence.april) 1 Occurrence.april.today
    (by decide) (by decide) (by decide)⟩

example : (linkedLayout 1 Occurrence.april).weekArgument ⟨20178⟩ = "202514" ∧
    (linkedLayout 1 Occurrence.april).NamesWeek ⟨20178⟩ := by
  decide +kernel

/-- January 2027, in the first row of which 2026 has its last ISO week. -/
def january : Range :=
  { Occurrence.april with
    start := ⟨1798761600, 0⟩
    finish := ⟨1801439999, 0⟩ }

/-- In April 2025 the link beside the row of Sunday, March 30 does not lead to the row, nor
does in January 2027 the one beside the row of Monday, December 28. -/
theorem not_leadsTo_aprilLinks :
    ((linkedLayout 0 Occurrence.april).style.firstDay ≤ 6 ∧
        (linkedLayout 0 Occurrence.april).showsWeekNumbers = true ∧
        ∃ block ∈ ((linkedLayout 0 Occurrence.april).assemble
            ((linkedLayout 0 Occurrence.april).packWeeks 0)).weekBlocks,
          ¬(linkedLayout 0 Occurrence.april).LeadsTo Occurrence.april.today block.start) ∧
      (linkedLayout 1 january).style.firstDay ≤ 6 ∧
        (linkedLayout 1 january).showsWeekNumbers = true ∧
        ∃ block ∈ ((linkedLayout 1 january).assemble
            ((linkedLayout 1 january).packWeeks 1)).weekBlocks,
          ¬(linkedLayout 1 january).LeadsTo january.today block.start := by
  have hmarch : ∃ block ∈ ((linkedLayout 0 Occurrence.april).assemble
      ((linkedLayout 0 Occurrence.april).packWeeks 0)).weekBlocks,
      block.start = ⟨20177⟩ := by decide +kernel
  have hdecember : ∃ block ∈ ((linkedLayout 1 january).assemble
      ((linkedLayout 1 january).packWeeks 1)).weekBlocks,
      block.start = ⟨20815⟩ := by decide +kernel
  refine ⟨⟨by decide, by decide, ?_⟩, by decide, by decide, ?_⟩
  · obtain ⟨block, hblock, hstart⟩ := hmarch
    refine ⟨block, hblock, ?_⟩
    rw [hstart, leadsTo_iff (by decide) (by decide) _ (by decide)]
    decide +kernel
  · obtain ⟨block, hblock, hstart⟩ := hdecember
    refine ⟨block, hblock, ?_⟩
    rw [hstart, leadsTo_iff (by decide) (by decide) _ (by decide)]
    decide +kernel

end Layout
end Almanac
