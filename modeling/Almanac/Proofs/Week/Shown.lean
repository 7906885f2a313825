import Almanac.Proofs.Week.DayCells
import Almanac.Render
import Mathlib.Order.Bounds.Basic

/-! # A calendar shows the period its argument names

If the dates of a range are those of a year, a month, a week row or one day, then its calendar
shows these dates, in order and each once (`Layout.shownDates_assemble`): the rows of a month
hold its dates one after another, and of the other dates of a row none is in view.  Every day
stands under the name of its weekday, whatever the range (`Layout.aligned_assemble`).

The range of an argument has the dates the argument names unless the clocks skip a bound of the
period too far, so a render shows just what was asked for (`Settings.render_shows`).
-/
namespace Almanac
namespace Layout

variable {l : Layout} {y : Int} {m : Nat} {first last : Date}

/-! ## The dates of week rows -/

theorem mem_weekDates {firstDay : Nat} (h : firstDay ≤ 6) {start d : Date}
    (hstart : start.weekday.fromSunday = firstDay) :
    d ∈ weekDates start ↔ d.weekStart firstDay = start := by
  rw [Date.weekStart_eq_iff h hstart, weekDates, List.mem_map]
  exact exists_congr fun column => and_congr_left fun _ => List.mem_range

theorem pairwise_weekDates (start : Date) : (weekDates start).Pairwise (· < ·) := by
  refine List.pairwise_map.mpr (List.pairwise_lt_range.imp ?_)
  intro m n hmn
  rw [Date.lt_def, Date.dayNumber_addDays, Date.dayNumber_addDays]
  omega

/-- The shown dates of the rows of a stretch are the stretch. -/
theorem flatMap_weekDates (hfirst : l.style.firstDay ≤ 6) {shown : Date → Bool}
    (hshown : ∀ d, shown d = true ↔ first ≤ d ∧ d ≤ last) :
    ((weekStartsFrom (first.weekStart l.style.firstDay) last).flatMap fun start =>
      (weekDates start).filter shown) = first.through last := by
  have hin : ∀ d ∈ first.through last, first ≤ d ∧ d ≤ last := fun d hd => Date.mem_through.mp hd
  -- Row by row, the shown dates are those of the stretch whose week starts there.
  rw [← flatMap_weekStartsFrom hfirst (Date.pairwise_through first last) hin]
  refine List.flatMap_congr fun start hstart => ?_
  have hday : start.weekday.fromSunday = l.style.firstDay := by
    rw [fromSunday_of_mem_weekStartsFrom hstart, Date.fromSunday_weekStart hfirst]
  refine Sorted.eq_of_pairwise_lt ((pairwise_weekDates start).filter _)
    ((Date.pairwise_through first last).filter _) fun d => ?_
  rw [List.mem_filter, List.mem_filter, mem_weekDates hfirst hday, hshown, Date.mem_through,
    decide_eq_true_iff]
  exact and_comm

/-! ## Months -/

/-- The dates in view in the rows of a month are the month. -/
theorem flatMap_monthWeekStarts (hfirst : l.style.firstDay ≤ 6) (hm : 1 ≤ m ∧ m ≤ 12)
    (hbegin : Date.first ≤ Date.ofYMD y m 1)
    (hend : Date.ofYMD y m (daysInMonth y m) < Date.last)
    (hview : ∀ d, l.inView (some m) d = true ↔
      Date.ofYMD y m 1 ≤ d ∧ d ≤ Date.ofYMD y m (daysInMonth y m)) :
    ((l.monthWeekStarts y m).flatMap fun start =>
      (weekDates start).filter (l.inView (some m))) =
        (Date.ofYMD y m 1).through (Date.ofYMD y m (daysInMonth y m)) := by
  rw [monthWeekStarts_eq_weekStartsFrom hm hbegin hend]
  exact flatMap_weekDates hfirst hview

/-- A month of small days shows the dates in view in its rows. -/
theorem shownDates_miniMonth (l : Layout) (y : Int) (m : Nat) :
    ((l.miniMonth y m).weeks.flatMap WeekBlock.shownDates) =
      (l.monthWeekStarts y m).flatMap fun start =>
        (weekDates start).filter (l.inView (some m)) := by
  rw [miniMonth, List.flatMap_map]
  exact List.flatMap_congr fun start _ => shownDates_miniWeek m start

theorem inView_some_iff {d : Date} :
    l.inView (some m) d = true ↔
      (l.range.firstDate ≤ d ∧ d ≤ l.range.lastDate) ∧ d.month = m := by
  rw [inView, Bool.and_eq_true, Range.contains_iff, Option.all_some, beq_iff_eq]

theorem inView_none_iff {d : Date} :
    l.inView none d = true ↔ l.range.firstDate ≤ d ∧ d ≤ l.range.lastDate := by
  rw [inView, Bool.and_eq_true, Range.contains_iff, Option.all_none]
  exact and_iff_left rfl

theorem mem_months : m ∈ List.range' 1 12 ↔ 1 ≤ m ∧ m ≤ 12 := by
  rw [List.mem_range'_1]
  omega

/-- The months of a year follow one another. -/
theorem flatMap_months (y : Int) :
    ((List.range' 1 12).flatMap fun m =>
      (Date.ofYMD y m 1).through (Date.ofYMD y m (daysInMonth y m))) =
        (Date.ofYMD y 1 1).through (Date.ofYMD y 12 31) := by
  -- Both lists are in order, so it is enough that they have the same dates.
  refine Sorted.eq_of_pairwise_lt ?_ (Date.pairwise_through _ _) fun d => ?_
  · refine List.pairwise_flatMap.mpr ⟨fun m _ => Date.pairwise_through _ _, ?_⟩
    refine (List.pairwise_lt_range' 1).imp_of_mem fun {m n} _ hn hmn d hd e he => ?_
    calc d ≤ Date.ofYMD y m (daysInMonth y m) := (Date.mem_through.mp hd).2
      _ < Date.ofYMD y n 1 := Date.lastOfMonth_lt_ofYMD y hmn (mem_months.mp hn).2
      _ ≤ e := (Date.mem_through.mp he).1
  · rw [List.mem_flatMap, Date.mem_through, ← Date.year_eq_iff]
    constructor
    · rintro ⟨m, hm, hd⟩
      exact ((Date.year_month_eq_iff (mem_months.mp hm)).mpr (Date.mem_through.mp hd)).1
    · rintro rfl
      obtain ⟨hm, -, -⟩ := d.parts_mem
      refine ⟨d.month, mem_months.mpr hm, Date.mem_through.mpr ?_⟩
      exact (Date.year_month_eq_iff hm).mp ⟨rfl, rfl⟩

/-! ## The four views -/

/-- A year shows its dates. -/
theorem shownDates_yearGrid (hfirstDay : l.style.firstDay ≤ 6)
    (hfirst : l.range.firstDate = .ofYMD y 1 1) (hlast : l.range.lastDate = .ofYMD y 12 31)
    (hbegin : Date.first ≤ l.range.firstDate) (hend : l.range.lastDate < Date.last) :
    l.yearGrid.shownDates = l.range.firstDate.through l.range.lastDate := by
  have hyear : l.range.focalMonth.1 = y := by
    rw [Range.focalMonth, hfirst, Date.year_newYear]
  have hmonth : ∀ m ∈ List.range' 1 12,
      ((l.miniMonth y m).weeks.flatMap WeekBlock.shownDates) =
        (Date.ofYMD y m 1).through (Date.ofYMD y m (daysInMonth y m)) := by
    intro m hm
    have hm := mem_months.mp hm
    obtain ⟨hopens, hcloses⟩ := Date.year_of_month y hm
    rw [hfirst] at hbegin
    rw [hlast] at hend
    rw [shownDates_miniMonth]
    refine flatMap_monthWeekStarts hfirstDay hm (hbegin.trans hopens) (hcloses.trans_lt hend)
      fun d => ?_
    rw [inView_some_iff, hfirst, hlast, ← Date.year_eq_iff, Date.year_month_eq_iff hm]
  show (((List.range' 1 12).map (l.miniMonth l.range.focalMonth.1)).flatMap
    MonthGrid.weeks).flatMap WeekBlock.shownDates = _
  rw [hyear, List.flatMap_assoc, List.flatMap_map, List.flatMap_congr hmonth, flatMap_months,
    hfirst, hlast]

/-- In a month, the dates in view are those of the month. -/
theorem inView_iff_of_isMonth (hmonth : l.range.IsMonth y m) {d : Date} :
    l.inView (some m) d = true ↔ l.range.firstDate ≤ d ∧ d ≤ l.range.lastDate := by
  rw [inView_some_iff]
  exact and_iff_left_of_imp fun hd => hmonth.month_eq hd.1 hd.2

/-- A month of small days shows its dates. -/
theorem shownDates_miniMonth_of_isMonth (hfirstDay : l.style.firstDay ≤ 6)
    (hmonth : l.range.IsMonth y m) (hbegin : Date.first ≤ l.range.firstDate)
    (hend : l.range.lastDate < Date.last) :
    (Grid.month (l.miniMonth y m)).shownDates = l.range.firstDate.through l.range.lastDate := by
  show ((l.miniMonth y m).weeks.flatMap WeekBlock.shownDates) = _
  rw [shownDates_miniMonth, monthWeekStarts_eq hmonth hbegin hend]
  exact flatMap_weekDates hfirstDay fun d => inView_iff_of_isMonth hmonth

/-- A month of full days shows its dates. -/
theorem shownDates_monthGrid (hgranularity : l.range.granularity = .month)
    (hmini : l.style.mini = false) (hfirstDay : l.style.firstDay ≤ 6)
    (hmonth : l.range.IsMonth y m) (hbegin : Date.first ≤ l.range.firstDate)
    (hend : l.range.lastDate < Date.last) (packerFirstDay : Nat) :
    (Grid.month (l.monthGrid (l.packWeeks packerFirstDay))).shownDates =
      l.range.firstDate.through l.range.lastDate := by
  rw [packWeeks_eq hgranularity hmini hmonth hbegin hend]
  have hfocal : l.range.firstDate.month = m := congrArg Prod.snd hmonth.focalMonth_eq
  show ((List.map _ (List.map _ _)).flatMap WeekBlock.shownDates) = _
  rw [List.flatMap_map, List.flatMap_map, hfocal]
  refine Eq.trans (List.flatMap_congr fun start _ => ?_)
    (flatMap_weekDates hfirstDay fun d => inView_iff_of_isMonth hmonth)
  exact shownDates_weekBlock _ start (some m)

/-- A week shows its dates. -/
theorem shownDates_weekGrid (hfirstDay : l.style.firstDay ≤ 6)
    (hstart : l.range.firstDate.weekday.fromSunday = l.style.firstDay)
    (hlast : l.range.lastDate = l.range.firstDate.addDays 6) (packer : WeekPacker)
    (header : Row) :
    (Grid.week ⟨header, l.weekBlock (l.buildWeek packer
      (l.range.firstDate.weekStart l.style.firstDay) none).1 none⟩).shownDates =
        l.range.firstDate.through l.range.lastDate := by
  show [_].flatMap WeekBlock.shownDates = _
  rw [List.flatMap_singleton, shownDates_weekBlock, Date.weekStart_eq_self hfirstDay hstart]
  refine Sorted.eq_of_pairwise_lt ((pairwise_weekDates _).filter _)
    (Date.pairwise_through _ _) fun d => ?_
  rw [List.mem_filter, mem_weekDates hfirstDay hstart, inView_none_iff, Date.mem_through,
    Date.weekStart_eq_iff_between hfirstDay hstart, hlast, and_self_iff]

/-- A day shows its date. -/
theorem shownDates_dayGrid (h : l.range.firstDate = l.range.lastDate) :
    (Grid.day (l.dayGrid l.range.firstDate)).shownDates =
      l.range.firstDate.through l.range.lastDate := by
  have hin : l.range.contains l.range.firstDate = true := by
    rw [Range.contains, ← h, Bool.and_self]
    exact decide_eq_true le_rfl
  have hstate : (l.dayGrid l.range.firstDate).state.empty = false := by
    show (!l.range.contains l.range.firstDate) = false
    rw [hin]
    rfl
  rw [Grid.shownDates, hstate, ← h]
  refine Sorted.eq_of_pairwise_lt (List.pairwise_singleton _ _) (Date.pairwise_through _ _)
    fun d => ?_
  rw [Date.mem_through]
  exact List.mem_singleton.trans
    ⟨fun heq => heq ▸ ⟨le_rfl, le_rfl⟩, fun hd => le_antisymm hd.2 hd.1⟩

/-- **A calendar shows the dates of its range** if they are those of a period. -/
theorem shownDates_assemble (hfirstDay : l.style.firstDay ≤ 6)
    (hperiod : Period l.style.firstDay l.range.granularity l.range.firstDate l.range.lastDate)
    (hbegin : Date.first ≤ l.range.firstDate) (hend : l.range.lastDate < Date.last)
    (packerFirstDay : Nat) :
    (l.assemble (l.packWeeks packerFirstDay)).granularity? = some l.range.granularity ∧
      (l.assemble (l.packWeeks packerFirstDay)).shownDates =
        l.range.firstDate.through l.range.lastDate := by
  generalize hgranularity : l.range.granularity = granularity at hperiod
  generalize hfirst : l.range.firstDate = first at hperiod
  generalize hlast : l.range.lastDate = last at hperiod
  rw [← hfirst, ← hlast]
  unfold assemble
  rw [hgranularity]
  cases hperiod with
  | year y => exact ⟨rfl, shownDates_yearGrid hfirstDay hfirst hlast hbegin hend⟩
  | @month y m hm =>
    have hmonth : l.range.IsMonth y m := ⟨hm, hfirst, hlast⟩
    dsimp only
    split
    · rw [hmonth.focalMonth_eq]
      exact ⟨rfl, shownDates_miniMonth_of_isMonth hfirstDay hmonth hbegin hend⟩
    · rename_i hmini
      exact ⟨rfl, shownDates_monthGrid hgranularity (Bool.eq_false_iff.mpr hmini) hfirstDay
        hmonth hbegin hend packerFirstDay⟩
  | week hstart =>
    rw [packWeeks, hgranularity]
    exact ⟨rfl, shownDates_weekGrid hfirstDay (hfirst ▸ hstart) (hfirst ▸ hlast) _ _⟩
  | day d => exact ⟨rfl, shownDates_dayGrid (hfirst.trans hlast.symm)⟩

/-! ## The names of weekdays -/

theorem namesDaysOf_miniMonth (hfirstDay : l.style.firstDay ≤ 6) (y : Int) (m : Nat) :
    ∀ block ∈ (l.miniMonth y m).weeks, ∀ row ∈ block.rows, l.headerRow.NamesDaysOf row := by
  intro block hblock
  obtain ⟨start, hstart, rfl⟩ := List.mem_map.mp hblock
  exact namesDaysOf_miniWeek m (fromSunday_of_mem_monthWeekStarts hfirstDay hstart)

/-- **Every day stands under the name of its weekday**, whatever the range. -/
theorem aligned_assemble (hfirstDay : l.style.firstDay ≤ 6) (packerFirstDay : Nat) :
    (l.assemble (l.packWeeks packerFirstDay)).Aligned := by
  have hfull : ∀ focal, ∀ w ∈ l.packWeeks packerFirstDay, ∀ row ∈ (l.weekBlock w focal).rows,
      l.headerRow.NamesDaysOf row := by
    intro focal w hw
    obtain ⟨start, hstart, rfl⟩ := mem_packWeeks hfirstDay hw
    exact namesDaysOf_weekBlock focal hstart
  intro table htable block hblock
  unfold assemble at htable
  split at htable
  · obtain ⟨grid, hgrid, rfl⟩ := List.mem_map.mp htable
    obtain ⟨m, -, rfl⟩ := List.mem_map.mp hgrid
    exact namesDaysOf_miniMonth hfirstDay _ m block hblock
  · split at htable
    · obtain rfl := List.mem_singleton.mp htable
      exact namesDaysOf_miniMonth hfirstDay _ _ block hblock
    · obtain rfl := List.mem_singleton.mp htable
      obtain ⟨w, hw, rfl⟩ := List.mem_map.mp hblock
      exact hfull _ w hw
  · split at htable
    · rename_i w rest hweeks
      obtain rfl := List.mem_singleton.mp htable
      obtain rfl := List.mem_singleton.mp hblock
      exact hfull none w (hweeks ▸ List.mem_cons_self)
    · exact absurd htable List.not_mem_nil
  · exact absurd htable List.not_mem_nil

/-! ## Staying within the calendar -/

theorem monthFits_of_margin (hfirstDay : l.style.firstDay ≤ 6) (hm : 1 ≤ m ∧ m ≤ 12)
    (hbegin : Date.first.dayNumber + 7 ≤ (Date.ofYMD y m 1).dayNumber)
    (hend : (Date.ofYMD y m (daysInMonth y m)).dayNumber + 7 ≤ Date.last.dayNumber) :
    l.monthFits y m = true := by
  have hfirst : Date.first ≤ Date.ofYMD y m 1 := by
    rw [Date.le_def]
    omega
  have hlast : Date.ofYMD y m (daysInMonth y m) < Date.last := by
    rw [Date.lt_def]
    omega
  have hrows := monthWeekStarts_eq_weekStartsFrom (l := l) hm hfirst hlast
  have hnext := isSome_nextMonth? hm.2
    ((year_mem_of_month hm hfirst hlast.le).2.trans_lt (by decide))
  rw [monthFits, hnext, Bool.true_and, List.all_eq_true, hrows]
  intro start hstart
  obtain ⟨⟨n, rfl⟩, hle⟩ := mem_weekStartsFrom.mp hstart
  have hrow := Date.dayNumber_weekStart hfirstDay (Date.ofYMD y m 1)
  rw [Bool.and_eq_true, Date.inCalendar_iff, Date.inCalendar_iff]
  simp only [Date.le_def, Date.dayNumber_addDays, daysPerWeek] at hle ⊢
  omega

/-- Bands can be laid out in week rows that begin on a weekday. -/
theorem bandsFit_of_le {packerFirstDay : Nat} (h : packerFirstDay ≤ 6) (focal : Option Nat)
    (start : Date) : l.bandsFit packerFirstDay focal start = true := by
  exact List.all_eq_true.mpr fun d _ => Bool.or_eq_true_iff.mpr (.inr (columnFits_weekColumn h d))

/-- **The calendar has all dates** that a period a week or more from its bounds shows. -/
theorem fits_of_period (hfirstDay : l.style.firstDay ≤ 6)
    (hperiod : Period l.style.firstDay l.range.granularity l.range.firstDate l.range.lastDate)
    (hbegin : Date.first.dayNumber + 7 ≤ l.range.firstDate.dayNumber)
    (hend : l.range.lastDate.dayNumber + 7 ≤ Date.last.dayNumber) :
    l.weeksFit l.style.firstDay = true ∧ l.viewFits = true := by
  generalize hgranularity : l.range.granularity = granularity at hperiod
  generalize hfirst : l.range.firstDate = first at hperiod hbegin
  generalize hlast : l.range.lastDate = last at hperiod hend
  unfold weeksFit viewFits
  rw [hgranularity]
  cases hperiod with
  | year y =>
    refine ⟨rfl, List.all_eq_true.mpr fun m hm => ?_⟩
    have hm := mem_months.mp hm
    obtain ⟨hopens, hcloses⟩ := Date.year_of_month y hm
    rw [Date.le_def] at hopens hcloses
    rw [hfirst, Date.year_newYear]
    exact monthFits_of_margin hfirstDay hm (by omega) (by omega)
  | @month y m hm =>
    have hmonth : l.range.IsMonth y m := ⟨hm, hfirst, hlast⟩
    have hfits := monthFits_of_margin hfirstDay hm hbegin hend
    rw [hmonth.focalMonth_eq]
    refine ⟨Bool.or_eq_true_iff.mpr (.inr (Bool.and_eq_true_iff.mpr ⟨hfits, ?_⟩)), hfits⟩
    exact List.all_eq_true.mpr fun start _ => bandsFit_of_le hfirstDay _ start
  | week hstart =>
    have hfits : weekFits first = true := by
      rw [weekFits, Bool.and_eq_true, Date.inCalendar_iff, Date.inCalendar_iff]
      simp only [Date.le_def, Date.dayNumber_addDays] at hend ⊢
      omega
    dsimp only
    rw [hfirst, Date.weekStart_eq_self hfirstDay hstart, hfits,
      bandsFit_of_le hfirstDay]
    exact ⟨rfl, rfl⟩
  | day d => exact ⟨rfl, rfl⟩

end Layout

/-! ## Rendering -/

namespace Settings

variable (s : Settings)

/-- Whether a date argument names a date. -/
def Names (argument : Option String) (d : Date) : Prop :=
  Argument.Names s.style.firstDay (Text.trim (argument.getD "")) s.calendarType d

/-- The calendar of a range. -/
def gridOf (zones : Zones) (expander : Expander) (records : List Record) (range : Range) : Grid :=
  let layout := s.layout zones expander records range
  layout.assemble (layout.packWeeks s.style.firstDay)

variable {s}

theorem firstDay_le_of_fault? (h : s.style.fault? = none) : s.style.firstDay ≤ 6 := by
  unfold Style.fault? at h
  split at h
  · cases h
  · omega

theorem render_eq {zones : Zones} {expander : Expander} {records : List Record}
    {argument : Option String} {today : Date} {zone : Zone} {range : Range}
    (hvalid : s.fault? zones = none) (hzone : s.zone zones = .ok zone)
    (h : Range.ofArgument ⟨zone, today, s.style.firstDay⟩ argument s.calendarType = .ok range) :
    s.render zones expander records argument today =
      .rendered (s.gridOf zones expander records range) range := by
  rw [render, rangeOf, hvalid, hzone]
  dsimp only
  rw [h]
  rfl

/-- **The calendar of an argument shows the dates it names**, each once and in order, and every
day under the name of its weekday.  The clocks may skip the first midnight by three hours; they
have to show the last second. -/
theorem render_shows (s : Settings) (zones : Zones) (expander : Expander)
    (records : List Record) (argument : Option String) (today : Date) {zone : Zone}
    {range : Range} (hvalid : s.style.fault? = none) (hz : zone.Regular)
    (h : Range.ofArgument ⟨zone, today, s.style.firstDay⟩ argument s.calendarType = .ok range)
    (hyear : s.calendarType = .day → ∀ d, s.Names argument d → 0 ≤ d.year ∧ d.year ≤ 9999)
    (hopens : ∀ first, IsLeast {d | s.Names argument d} first →
      ¬zone.SkipsFar (WallTime.dayStart first).seconds)
    (hcloses : ∀ last, IsGreatest {d | s.Names argument d} last →
      zone.readings (WallTime.dayEnd last).seconds ≠ []) :
    (s.fault? zones = none → s.zone zones = .ok zone →
        s.render zones expander records argument today =
          .rendered (s.gridOf zones expander records range) range) ∧
      ((s.layout zones expander records range).weeksFit s.style.firstDay = true ∧
        (s.layout zones expander records range).viewFits = true) ∧
      (s.gridOf zones expander records range).granularity? = some s.calendarType ∧
      (s.gridOf zones expander records range).shownDates.Pairwise (· < ·) ∧
      (∀ d, d ∈ (s.gridOf zones expander records range).shownDates ↔ s.Names argument d) ∧
      (s.gridOf zones expander records range).Aligned := by
  have hfirstDay := firstDay_le_of_fault? hvalid
  obtain ⟨first, last, hperiod, hmade, hmargin, hnames⟩ :=
    Range.isPeriod_ofArgument hfirstDay h fun hday d hd => hyear hday d (by rwa [Names, hday])
  obtain ⟨hle, -⟩ := Range.eq_of_ofDates hmade
  -- The bounds of the period are what the clocks have to show of it.
  have hleast : IsLeast {d | s.Names argument d} first :=
    ⟨(hnames first).mpr ⟨le_rfl, hle⟩, fun d hd => ((hnames d).mp hd).1⟩
  have hgreatest : IsGreatest {d | s.Names argument d} last :=
    ⟨(hnames last).mpr ⟨hle, le_rfl⟩, fun d hd => ((hnames d).mp hd).2⟩
  obtain ⟨hgranularity, hfirst, hlast⟩ := Range.dates_of_ofDates hz hmade (by omega)
    (hopens first hleast) (hcloses last hgreatest)
  rw [← hgranularity, ← hfirst, ← hlast] at hperiod
  rw [← hfirst, ← hlast] at hmargin hnames
  have hin : Date.first ≤ range.firstDate ∧ range.lastDate < Date.last :=
    ⟨Date.le_def.mpr (by omega), Date.lt_def.mpr (by omega)⟩
  obtain ⟨hview, hdates⟩ := Layout.shownDates_assemble (l := s.layout zones expander records range)
    hfirstDay hperiod hin.1 hin.2 s.style.firstDay
  change (s.gridOf zones expander records range).granularity? = _ at hview
  change (s.gridOf zones expander records range).shownDates = _ at hdates
  refine ⟨fun hfault hzone => render_eq hfault hzone h,
    Layout.fits_of_period (l := s.layout zones expander records range) hfirstDay hperiod hmargin.1
      hmargin.2,
    hview.trans (congrArg some hgranularity), ?_, fun d => ?_,
    Layout.aligned_assemble (l := s.layout zones expander records range) hfirstDay s.style.firstDay⟩
  · rw [hdates]
    exact Date.pairwise_through _ _
  · rw [hdates, Date.mem_through]
    exact (hnames d).symm

/-- A calendar of months on the clocks of New York. -/
def newYorkMonths : Settings where
  zoneName := "America/New_York"

theorem names_november {d : Date} :
    newYorkMonths.Names (some "2024-11") d ↔
      Date.ofYMD 2024 11 1 ≤ d ∧ d ≤ Date.ofYMD 2024 11 30 := by
  have hread : Argument.yearMonth? (Text.trim "2024-11").toList = some (2024, 11) := by
    decide +kernel
  have hparts : newYorkMonths.Names (some "2024-11") d ↔ d.year = 2024 ∧ d.month = 11 := by
    show Argument.yearMonth? (Text.trim "2024-11").toList = some (d.year, d.month) ↔ _
    rw [hread, Option.some.injEq, Prod.mk.injEq]
    exact and_congr eq_comm eq_comm
  exact hparts.trans (Date.year_month_eq_iff (by decide))

/-- November 2024, in which the clocks of New York are set back, is shown in full. -/
theorem render_shows_november :
    (newYorkMonths.style.fault? = none ∧ Zone.newYork.Regular ∧
        Range.ofArgument ⟨.newYork, ⟨20042⟩, newYorkMonths.style.firstDay⟩ (some "2024-11")
          newYorkMonths.calendarType = .ok Occurrence.november) ∧
      newYorkMonths.render .listed (ruleExpander .listed) [] (some "2024-11") ⟨20042⟩ =
        .rendered (newYorkMonths.gridOf .listed (ruleExpander .listed) [] Occurrence.november)
          Occurrence.november ∧
      (∀ d,
        d ∈ (newYorkMonths.gridOf .listed (ruleExpander .listed) []
          Occurrence.november).shownDates ↔
        Date.ofYMD 2024 11 1 ≤ d ∧ d ≤ Date.ofYMD 2024 11 30) ∧
      (newYorkMonths.gridOf .listed (ruleExpander .listed) [] Occurrence.november).Aligned := by
  have hvalid : newYorkMonths.style.fault? = none := by decide +kernel
  have hz : Zone.newYork.Regular := by decide +kernel
  have hmade : Range.ofArgument ⟨.newYork, ⟨20042⟩, newYorkMonths.style.firstDay⟩
      (some "2024-11") newYorkMonths.calendarType = .ok Occurrence.november := by
    decide +kernel
  have hopens : ∀ first, IsLeast {d | newYorkMonths.Names (some "2024-11") d} first →
      ¬Zone.newYork.SkipsFar (WallTime.dayStart first).seconds := by
    intro first hleast
    obtain rfl : first = .ofYMD 2024 11 1 :=
      le_antisymm (hleast.2 (names_november.mpr ⟨le_rfl, by decide⟩))
        (names_november.mp hleast.1).1
    decide +kernel
  have hcloses : ∀ last, IsGreatest {d | newYorkMonths.Names (some "2024-11") d} last →
      Zone.newYork.readings (WallTime.dayEnd last).seconds ≠ [] := by
    intro last hgreatest
    obtain rfl : last = .ofYMD 2024 11 30 :=
      le_antisymm (names_november.mp hgreatest.1).2
        (hgreatest.2 (names_november.mpr ⟨by decide, le_rfl⟩))
    decide +kernel
  obtain ⟨hrender, -, -, -, hdates, haligned⟩ := render_shows newYorkMonths .listed
    (ruleExpander .listed) [] (some "2024-11") ⟨20042⟩ hvalid hz hmade
    (fun hday => by cases hday) hopens hcloses
  exact ⟨⟨hvalid, hz, hmade⟩, hrender (by decide +kernel) (by decide +kernel),
    fun d => (hdates d).trans names_november, haligned⟩

end Settings
end Almanac
