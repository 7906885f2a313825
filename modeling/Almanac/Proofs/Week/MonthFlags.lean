import Almanac.Proofs.Week.DateBoxes
import Almanac.Proofs.Week.Shown

/-! # The sides of a month

The rows of a month reach at most six days beyond it (`Layout.nearMonth_of_mem_weekDates`).  Every
month has more days than that, so a date of the rows that is not in the month is in the one before
or after it, and the number of its month tells which, also at the turn of the year
(`Date.isPastMonth_iff`, `Date.isFutureMonth_iff`).

The cells of a day are flagged by that number, apart from bands and blanks that are not free, which
have no flags.  But these are only on days in view (`Layout.cells_eq_nil`), and such days are in the
month.  So the flags of every cell tell on which side of the month its date lies
(`Layout.tellsSides_months`).
-/
namespace Almanac

/-! ## Dates near a month -/

theorem twentyEight_le_daysInMonth (y : Int) {m : Nat} (hm : 1 ≤ m ∧ m ≤ 12) :
    28 ≤ daysInMonth y m := by
  have hall : ∀ leap, ∀ m ≤ 12, 1 ≤ m →
      28 ≤ daysBeforeMonth leap (m + 1) - daysBeforeMonth leap m := by
    decide
  exact hall _ m hm.2 hm.1

namespace Date

variable {y : Int} {m : Nat} {d : Date}

/-- Whether a date lies in a month or at most six days outside it. -/
def NearMonth (y : Int) (m : Nat) (d : Date) : Prop :=
  (ofYMD y m 1).addDays (-6) ≤ d ∧ d ≤ (ofYMD y m (daysInMonth y m)).addDays 6

/-- The day after a month is the first of the next one. -/
theorem dayNumber_nextMonth (y : Int) {m : Nat} (hm : m < 12) :
    (ofYMD y (m + 1) 1).dayNumber = (ofYMD y m (daysInMonth y m)).dayNumber + 1 := by
  have hsucc := daysBeforeMonth_succ y (m := m) (by omega)
  rw [dayNumber_ofYMD, dayNumber_ofYMD]
  omega

/-- The day after December is January 1. -/
theorem dayNumber_nextYear (y : Int) :
    (ofYMD (y + 1) 1 1).dayNumber = (ofYMD y 12 (daysInMonth y 12)).dayNumber + 1 := by
  have hdecember : daysBeforeMonth (isLeapYear y) 13 =
      daysBeforeMonth (isLeapYear y) 12 + daysInMonth y 12 := daysBeforeMonth_succ y le_rfl
  have hlength := daysBeforeMonth_thirteen y
  have hnext := yearStart_succ y
  rw [dayNumber_newYear, dayNumber_ofYMD]
  omega

/-- The days just before a month are in the month before it. -/
theorem month_of_lt (hm : 1 ≤ m ∧ m ≤ 12) (hnear : NearMonth y m d) (h : d < ofYMD y m 1) :
    d.month = if m = 1 then 12 else m - 1 := by
  obtain ⟨hlow, -⟩ := hnear
  rw [le_def, dayNumber_addDays] at hlow
  rw [lt_def] at h
  split
  · rename_i hjanuary
    subst hjanuary
    have hday := dayNumber_nextYear (y - 1)
    have hlong := twentyEight_le_daysInMonth (y - 1) (m := 12) (by decide)
    rw [Int.sub_add_cancel] at hday
    have hfirst := dayNumber_ofYMD (y - 1) 12 1
    have hlast := dayNumber_ofYMD (y - 1) 12 (daysInMonth (y - 1) 12)
    exact month_eq (y := y - 1) (by decide) (le_def.mpr (by omega)) (le_def.mpr (by omega))
  · obtain ⟨k, rfl⟩ := Nat.exists_eq_add_of_le' hm.1
    have hday := dayNumber_nextMonth y (m := k) (by omega)
    have hlong := twentyEight_le_daysInMonth y (m := k) (by omega)
    have hfirst := dayNumber_ofYMD y k 1
    have hlast := dayNumber_ofYMD y k (daysInMonth y k)
    rw [Nat.add_sub_cancel]
    exact month_eq (y := y) (by omega) (le_def.mpr (by omega)) (le_def.mpr (by omega))

/-- The days just after a month are in the month after it. -/
theorem month_of_gt (hm : 1 ≤ m ∧ m ≤ 12) (hnear : NearMonth y m d)
    (h : ofYMD y m (daysInMonth y m) < d) : d.month = if m = 12 then 1 else m + 1 := by
  obtain ⟨-, hhigh⟩ := hnear
  rw [le_def, dayNumber_addDays] at hhigh
  rw [lt_def] at h
  split
  · rename_i hdecember
    subst hdecember
    have hday := dayNumber_nextYear y
    have hlong := twentyEight_le_daysInMonth (y + 1) (m := 1) (by decide)
    have hfirst := dayNumber_ofYMD (y + 1) 1 1
    have hlast := dayNumber_ofYMD (y + 1) 1 (daysInMonth (y + 1) 1)
    exact month_eq (y := y + 1) (by decide) (le_def.mpr (by omega)) (le_def.mpr (by omega))
  · have hday := dayNumber_nextMonth y (m := m) (by omega)
    have hlong := twentyEight_le_daysInMonth y (m := m + 1) (by omega)
    have hfirst := dayNumber_ofYMD y (m + 1) 1
    have hlast := dayNumber_ofYMD y (m + 1) (daysInMonth y (m + 1))
    exact month_eq (y := y) (by omega) (le_def.mpr (by omega)) (le_def.mpr (by omega))

/-- A date near a month is before it, in it or after it, and its month tells which. -/
theorem month_cases (hm : 1 ≤ m ∧ m ≤ 12) (hnear : NearMonth y m d) :
    (d < ofYMD y m 1 ∧ d.month = if m = 1 then 12 else m - 1) ∨
      ((ofYMD y m 1 ≤ d ∧ d ≤ ofYMD y m (daysInMonth y m)) ∧ d.month = m) ∨
      ofYMD y m (daysInMonth y m) < d ∧ d.month = if m = 12 then 1 else m + 1 := by
  rcases lt_or_ge d (ofYMD y m 1) with hbefore | hfirst
  · exact .inl ⟨hbefore, month_of_lt hm hnear hbefore⟩
  · rcases lt_or_ge (ofYMD y m (daysInMonth y m)) d with hafter | hlast
    · exact .inr (.inr ⟨hafter, month_of_gt hm hnear hafter⟩)
    · exact .inr (.inl ⟨⟨hfirst, hlast⟩, month_eq hm hfirst hlast⟩)

/-- **The month before**, by the numbers of the months. -/
theorem isPastMonth_iff (hm : 1 ≤ m ∧ m ≤ 12) (hnear : NearMonth y m d) :
    isPastMonth d.month m = true ↔ d < ofYMD y m 1 := by
  have hdays := ofYMD_le_ofYMD y m (one_le_daysInMonth y hm)
  rw [isPastMonth]
  rcases month_cases hm hnear with ⟨hside, hmonth⟩ | ⟨hside, hmonth⟩ | ⟨hside, hmonth⟩
  · refine iff_of_true ?_ hside
    grind
  · refine iff_of_false ?_ (not_lt.mpr hside.1)
    grind
  · refine iff_of_false ?_ (not_lt.mpr (hdays.trans hside.le))
    grind

/-- **The month after**, by the numbers of the months. -/
theorem isFutureMonth_iff (hm : 1 ≤ m ∧ m ≤ 12) (hnear : NearMonth y m d) :
    isFutureMonth d.month m = true ↔ ofYMD y m (daysInMonth y m) < d := by
  have hdays := ofYMD_le_ofYMD y m (one_le_daysInMonth y hm)
  rw [isFutureMonth]
  rcases month_cases hm hnear with ⟨hside, hmonth⟩ | ⟨hside, hmonth⟩ | ⟨hside, hmonth⟩
  · refine iff_of_false ?_ (not_lt.mpr (hside.le.trans hdays))
    grind
  · refine iff_of_false ?_ (not_lt.mpr hside.2)
    grind
  · refine iff_of_true ?_ hside
    grind

end Date

/-! ## The rows of a month -/

/-- A month has a last date only if the calendar goes on behind it. -/
theorem lastDayOfMonth_eq_of_ok {y : Int} {m : Nat} {first last : Date}
    (hfirst : Date.ofYMD? y m 1 = some first) (hlast : lastDayOfMonth y m = .ok last) :
    (1 ≤ m ∧ m ≤ 12) ∧ first = .ofYMD y m 1 ∧ last = .ofYMD y m (daysInMonth y m) := by
  obtain ⟨⟨rfl, rfl, hday⟩, hlow, hhigh⟩ := Date.ofYMD?_eq_some.mp hfirst
  obtain ⟨hm, -, heq⟩ := first.parts_mem
  rw [hday] at heq
  obtain ⟨-, hyear⟩ := year_mem_of_inCalendar hlow hhigh
  -- Behind December of the last year there is no date.
  have hbehind : ¬(first.year = 262142 ∧ first.month = 12) := by
    rintro ⟨hy, hdecember⟩
    rw [hy, hdecember] at hlast
    have herror : lastDayOfMonth 262142 12 = .error (.noSuchDate 262143 1 1) := by decide
    rw [herror] at hlast
    cases hlast
  have hend : (Date.ofYMD first.year first.month (daysInMonth first.year first.month)) <
      Date.last := by
    have hcalendar : Date.last.dayNumber + 1 = yearStart 262143 := by decide
    have hsucc := daysBeforeMonth_succ first.year hm.2
    have hlength := yearStart_succ first.year
    have hnext : yearStart (first.year + 1) ≤ yearStart 262143 := yearStart_mono (by omega)
    rw [Date.lt_def, Date.dayNumber_ofYMD]
    by_cases hdecember : first.month = 12
    · have hlater : yearStart (first.year + 1 + 1) ≤ yearStart 262143 :=
        yearStart_mono (by omega)
      have hfull := daysBeforeMonth_le_yearLength first.year (m := first.month + 1) (by omega)
      have hyears := yearStart_succ (first.year + 1)
      have hdays := yearLength_eq (first.year + 1)
      omega
    · have hmonth := twentyEight_le_daysInMonth first.year (m := first.month + 1) (by omega)
      have hsucc' := daysBeforeMonth_succ first.year (m := first.month + 1) (by omega)
      have hfull := daysBeforeMonth_le_yearLength first.year (m := first.month + 1 + 1)
        (by omega)
      omega
  refine ⟨hm, heq.symm, ?_⟩
  rw [lastDayOfMonth_eq hm (heq.symm ▸ hlow) hend] at hlast
  exact (Except.ok.inj hlast).symm

namespace Layout

variable {l : Layout} {y : Int} {m column : Nat} {start d : Date}

/-- The rows of a month start between six days before its first date and its last date. -/
theorem spec_of_mem_monthWeekStarts (hfirstDay : l.style.firstDay ≤ 6)
    (hstart : start ∈ l.monthWeekStarts y m) :
    (1 ≤ m ∧ m ≤ 12) ∧ (Date.ofYMD y m 1).addDays (-6) ≤ start ∧
      start ≤ Date.ofYMD y m (daysInMonth y m) := by
  unfold monthWeekStarts at hstart
  split at hstart
  · rename_i first last hfirst hlast
    have hok : lastDayOfMonth y m = .ok last := by
      cases hmonth : lastDayOfMonth y m with
      | error e =>
        rw [hmonth] at hlast
        cases hlast
      | ok date =>
        rw [hmonth] at hlast
        exact congrArg Except.ok (Option.some.inj hlast)
    obtain ⟨hm, rfl, rfl⟩ := lastDayOfMonth_eq_of_ok hfirst hok
    obtain ⟨⟨n, rfl⟩, hle⟩ := mem_weekStartsFrom.mp hstart
    have hrow := Date.dayNumber_weekStart hfirstDay (Date.ofYMD y m 1)
    refine ⟨hm, ?_, hle⟩
    rw [Date.le_def, Date.dayNumber_addDays, Date.dayNumber_addDays, daysPerWeek]
    omega
  · exact absurd hstart List.not_mem_nil

/-- **The dates of the rows of a month** are near it. -/
theorem nearMonth_of_mem_weekDates (hfirstDay : l.style.firstDay ≤ 6)
    (hstart : start ∈ l.monthWeekStarts y m) (hd : d ∈ weekDates start) : d.NearMonth y m := by
  obtain ⟨-, hlow, hhigh⟩ := spec_of_mem_monthWeekStarts hfirstDay hstart
  obtain ⟨column, hcolumn, rfl⟩ := List.mem_map.mp hd
  rw [List.mem_range, daysPerWeek] at hcolumn
  rw [Date.le_def] at hlow hhigh
  constructor
  · rw [Date.le_def, Date.dayNumber_addDays start]
    omega
  · rw [Date.le_def, Date.dayNumber_addDays, Date.dayNumber_addDays]
    omega

/-! ## Cells -/

/-- A date that is not in view has no bands. -/
theorem cells_eq_nil (packer : WeekPacker) {focal : Option Nat} (hcolumn : column < daysPerWeek)
    (hview : ¬ l.inView focal (start.addDays column) = true) :
    (l.buildWeek packer start focal).1.cells column = [] := by
  have hdate : (weekDates start)[column]? = some (start.addDays column) := by
    rw [weekDates, List.getElem?_map, List.getElem?_range hcolumn]
    rfl
  obtain ⟨packer', hfill⟩ := getElem?_fillColumns (l := l) focal packer.startWeek hdate
  rw [fillColumn, if_neg hview] at hfill
  rw [buildWeek, WeekBuckets.cells, List.getElem?_mapIdx, hfill]
  rfl

end Layout

/-- Whether a cell that is not the number of a week stands on a date near a month, and its
flags tell the side of the month on which the date is. -/
def Cell.TellsSide (y : Int) (m : Nat) (c : Cell) : Prop :=
  c.weekLink? = none → ∃ d, c.date = some d ∧ d.NearMonth y m ∧
    (c.state.pastMonth = true ↔ d < .ofYMD y m 1) ∧
    (c.state.futureMonth = true ↔ .ofYMD y m (daysInMonth y m) < d)

/-- Whether the flags of all cells of a week tell the sides of a month. -/
def WeekBlock.TellsSides (y : Int) (m : Nat) (b : WeekBlock) : Prop :=
  ∀ row ∈ b.rows, ∀ c ∈ row.cells, c.TellsSide y m

/-- Whether the flags of all cells of a month tell its sides. -/
def MonthGrid.TellsSides (grid : MonthGrid) : Prop :=
  ∀ block ∈ grid.weeks, block.TellsSides grid.year grid.month

/-- The months that a calendar shows. -/
def Grid.months : Grid → List MonthGrid
  | year _ months => months
  | month grid => [grid]
  | _ => []

namespace Layout

variable {l : Layout} {y : Int} {m column : Nat} {start d : Date} {c : Cell}

theorem tellsSide_weekNumberCell {rowspan : Nat} (h : c ∈ l.leadCells start rowspan) :
    c.TellsSide y m := by
  intro hlink
  unfold leadCells at h
  split at h
  · rw [List.mem_singleton.mp h] at hlink
    cases hlink
  · exact absurd h List.not_mem_nil

/-- The flags of the month of a date near a month tell its side. -/
theorem tellsSide_of_month (hm : 1 ≤ m ∧ m ≤ 12) (hnear : d.NearMonth y m)
    (hdate : c.date = some d) (hpast : c.state.pastMonth = isPastMonth d.month m)
    (hfuture : c.state.futureMonth = isFutureMonth d.month m) : c.TellsSide y m := by
  intro _
  refine ⟨d, hdate, hnear, ?_, ?_⟩
  · rw [hpast]
    exact Date.isPastMonth_iff hm hnear
  · rw [hfuture]
    exact Date.isFutureMonth_iff hm hnear

/-- A date in view is in the month and needs no flag. -/
theorem tellsSide_of_inView (hm : 1 ≤ m ∧ m ≤ 12) (hnear : d.NearMonth y m)
    (hview : l.inView (some m) d = true) (hdate : c.date = some d)
    (hpast : c.state.pastMonth = false) (hfuture : c.state.futureMonth = false) :
    c.TellsSide y m := by
  obtain ⟨-, hmonth⟩ := inView_some_iff.mp hview
  refine tellsSide_of_month hm hnear hdate ?_ ?_
  · rw [hpast, hmonth, isPastMonth]
    grind
  · rw [hfuture, hmonth, isFutureMonth]
    grind

/-- **A week of full days** tells the sides of a month that its dates are near. -/
theorem tellsSides_weekBlock (packer : WeekPacker) (hm : 1 ≤ m ∧ m ≤ 12)
    (hnear : ∀ d ∈ weekDates start, d.NearMonth y m) :
    (l.weekBlock (l.buildWeek packer start (some m)).1 (some m)).TellsSides y m := by
  have hcolumns : ∀ column < daysPerWeek, (start.addDays column).NearMonth y m :=
    fun column hcolumn => hnear _ (List.mem_map_of_mem (List.mem_range.mpr hcolumn))
  intro row hrow c hc
  rcases List.mem_cons.mp hrow with rfl | hbody
  · -- A date box
    rw [cells_dateBoxRow] at hc
    rcases List.mem_append.mp hc with hlead | hday
    · exact tellsSide_weekNumberCell hlead
    · obtain ⟨column, hcolumn, rfl⟩ := List.mem_map.mp hday
      exact tellsSide_of_month hm (hcolumns column (List.mem_range.mp hcolumn)) rfl rfl rfl
  · obtain ⟨index, -, rfl⟩ := List.mem_map.mp hbody
    obtain ⟨parts, hparts, hcell⟩ := List.mem_filterMap.mp hc
    obtain ⟨column, hcolumn, rfl⟩ := List.mem_map.mp hparts
    rw [List.mem_range] at hcolumn
    have hday := hcolumns column hcolumn
    unfold bodyCell? at hcell
    dsimp only at hcell
    split at hcell
    · -- A band, which is on a date in view
      obtain ⟨band, hband, rfl⟩ := Option.map_eq_some_iff.mp hcell
      have hview : l.inView (some m) (start.addDays column) = true := by
        by_contra hout
        have hnil := cells_eq_nil packer hcolumn hout
        rw [WeekBuckets.cells] at hnil
        rw [hnil] at hband
        cases hband
      cases band with
      | entry o colspan => exact tellsSide_of_inView hm hday hview rfl rfl rfl
      | covered o => exact tellsSide_of_inView hm hday hview rfl rfl rfl
      | blank available =>
        cases available with
        | true => exact tellsSide_of_month hm hday rfl rfl rfl
        | false => exact tellsSide_of_inView hm hday hview rfl rfl rfl
    · split at hcell
      · -- The single-day items
        obtain rfl := Option.some.inj hcell
        exact tellsSide_of_month hm hday rfl rfl rfl
      · cases hcell

/-- **A week of small days** tells the sides of a month that its dates are near. -/
theorem tellsSides_miniWeek (hm : 1 ≤ m ∧ m ≤ 12)
    (hnear : ∀ d ∈ weekDates start, d.NearMonth y m) :
    (l.miniWeek m start).TellsSides y m := by
  intro row hrow c hc
  rw [cells_miniWeek] at hrow
  obtain rfl := List.mem_singleton.mp hrow
  rcases List.mem_append.mp hc with hlead | hday
  · exact tellsSide_weekNumberCell hlead
  · obtain ⟨column, hcolumn, rfl⟩ := List.mem_map.mp hday
    exact tellsSide_of_month hm (hnear _ (List.mem_map_of_mem hcolumn)) rfl rfl rfl

/-! ## Months -/

/-- The weeks of a month of full days tell its sides. -/
theorem tellsSides_monthGrid (hfirstDay : l.style.firstDay ≤ 6)
    (hgranularity : l.range.granularity = .month) (hmini : l.style.mini = false)
    (packerFirstDay : Nat) : (l.monthGrid (l.packWeeks packerFirstDay)).TellsSides := by
  intro block hblock
  obtain ⟨w, hw, rfl⟩ := List.mem_map.mp hblock
  rw [packWeeks, hgranularity] at hw
  dsimp only at hw
  rw [if_neg (by simp [hmini])] at hw
  obtain ⟨start, hstart, rfl⟩ := List.mem_map.mp hw
  exact tellsSides_weekBlock _ (spec_of_mem_monthWeekStarts hfirstDay hstart).1
    fun d hd => nearMonth_of_mem_weekDates hfirstDay hstart hd

theorem tellsSides_miniMonth (hfirstDay : l.style.firstDay ≤ 6) (y : Int) (m : Nat) :
    (l.miniMonth y m).TellsSides := by
  intro block hblock
  obtain ⟨start, hstart, rfl⟩ := List.mem_map.mp hblock
  exact tellsSides_miniWeek (spec_of_mem_monthWeekStarts hfirstDay hstart).1
    fun d hd => nearMonth_of_mem_weekDates hfirstDay hstart hd

/-- **The sides of a month.**  In every small month, and in every month that a calendar shows,
the flags of a cell tell whether its date is before the first date of the month or after the last
one, and the date is at most six days outside the month. -/
theorem tellsSides_months (l : Layout) (hfirstDay : l.style.firstDay ≤ 6) :
    (∀ y m, (l.miniMonth y m).TellsSides) ∧
      ∀ packerFirstDay, ∀ grid ∈ (l.assemble (l.packWeeks packerFirstDay)).months,
        grid.TellsSides := by
  refine ⟨tellsSides_miniMonth hfirstDay, fun packerFirstDay grid hgrid => ?_⟩
  unfold assemble at hgrid
  cases hgranularity : l.range.granularity with
  | year =>
    rw [hgranularity] at hgrid
    obtain ⟨m, -, rfl⟩ := List.mem_map.mp hgrid
    exact tellsSides_miniMonth hfirstDay _ m
  | month =>
    rw [hgranularity] at hgrid
    dsimp only at hgrid
    split at hgrid
    · obtain rfl := List.mem_singleton.mp hgrid
      exact tellsSides_miniMonth hfirstDay _ _
    · rename_i hmini
      obtain rfl := List.mem_singleton.mp hgrid
      exact tellsSides_monthGrid hfirstDay hgranularity (Bool.eq_false_iff.mpr hmini)
        packerFirstDay
  | week =>
    rw [hgranularity] at hgrid
    dsimp only at hgrid
    split at hgrid <;> exact absurd hgrid List.not_mem_nil
  | day =>
    rw [hgranularity] at hgrid
    exact absurd hgrid List.not_mem_nil

theorem tellsSides_months_april :
    aprilLayout.style.firstDay ≤ 6 ∧
      (∀ y m, (aprilLayout.miniMonth y m).TellsSides) ∧
        ∀ packerFirstDay, ∀ grid ∈ (aprilLayout.assemble
          (aprilLayout.packWeeks packerFirstDay)).months, grid.TellsSides :=
  ⟨by decide, tellsSides_months aprilLayout (by decide)⟩

/-- At the turn of the year. -/
example : (aprilLayout.miniCell 1 (.ofYMD 2024 12 29)).state.pastMonth = true ∧
    (aprilLayout.miniCell 12 (.ofYMD 2026 1 3)).state.futureMonth = true := by
  decide +kernel

end Layout
end Almanac
