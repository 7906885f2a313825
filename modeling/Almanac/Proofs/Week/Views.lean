import Almanac.Proofs.RangeOfArgument
import Almanac.Proofs.Week.DateBoxes
import Almanac.Proofs.Week.Shown

/-! # The views of one calendar agree

The calendars of a year, a month and a day are made from the same records, each for its own
range.  Without rules the appearances of the records do not depend on the range
(`Collector.collected_congr`), so where two ranges overlap a day has items for both or for none
(`Collector.on_eq_nil_congr`).

A small month depends on the range only by the days in view, by which of them have items and by
the year in which the range begins (`Layout.miniMonth_congr`): a year and the small calendar of
one of its months show the same month (`Settings.getElem?_monthsOf`).  A year flags a date
exactly if the date has items (`Layout.flags_yearGrid`).  The calendar of a day is empty exactly
if the day has none (`Layout.empty_dayGrid`), and exactly then its date box in a full month is
without an entry (`Layout.cellsOn_monthGrid`).  `Settings.render_views` says this of the renders
of settings that differ in the view only.
-/
namespace Almanac

/-! ## Records without rules -/

/-- Whether no value of a record has a rule. -/
def Record.Plain (r : Record) : Prop :=
  ∀ v ∈ r.values, v.rule? = none

instance (r : Record) : Decidable r.Plain :=
  inferInstanceAs (Decidable (∀ v ∈ r.values, v.rule? = none))

namespace Collector

variable {c : Collector} {range range' : Range} {rendered : List Int} {records : List Record}

theorem rule_eq_none_of_mem_occurrences {r : Record} (hplain : r.Plain) {o : Occurrence}
    (ho : o ∈ occurrences c.zones range r) : o.rule = none := by
  obtain ⟨delta, -, hsome⟩ := List.mem_filterMap.mp ho
  obtain ⟨v, storage, start, hv, rfl⟩ := Record.exists_of_occurrence hsome
  exact hplain v (List.mem_of_getElem? hv)

/-- The appearances of records without rules depend on the zone only. -/
theorem collected_congr (hplain : ∀ r ∈ records, r.Plain) (hzone : range'.zone = range.zone) :
    c.collected range' rendered records = c.collected range rendered records := by
  refine List.flatMap_congr fun r hr => ?_
  have hvalues : occurrences c.zones range' r = occurrences c.zones range r := by
    rw [occurrences, occurrences, hzone]
  rw [appearances, appearances, hvalues]
  refine List.flatMap_congr fun o ho => ?_
  have hrule := rule_eq_none_of_mem_occurrences
    (hplain r ((fresh_sublist _ _).subset hr)) ho
  have hsingle : o.isRecurring = false := by rw [Occurrence.isRecurring, hrule]; rfl
  rw [Occurrence.intervals, Occurrence.intervals, hsingle]
  rfl

theorem on_ne_nil_iff {d : Date} :
    (c.collect range rendered records).1.on d ≠ [] ↔
      ∃ a ∈ c.collected range rendered records, d ∈ a.interval.shownDays range := by
  constructor
  · intro hne
    obtain ⟨f, hf⟩ := List.exists_mem_of_ne_nil _ hne
    obtain ⟨a, ha, hd, -⟩ := mem_collect_on.mp hf
    exact ⟨a, ha, hd⟩
  · rintro ⟨a, ha, hd⟩
    exact List.ne_nil_of_mem (mem_collect_on.mpr ⟨a, ha, hd, rfl⟩)

/-- **A day that two ranges share** has items for both or for none. -/
theorem on_eq_nil_congr (hplain : ∀ r ∈ records, r.Plain) (hzone : range'.zone = range.zone)
    {d : Date} (hd : range.contains d = true) (hd' : range'.contains d = true) :
    (c.collect range' rendered records).1.on d = [] ↔
      (c.collect range rendered records).1.on d = [] := by
  have hshown (o : Occurrence) : d ∈ o.shownDays range' ↔ d ∈ o.shownDays range := by
    rw [Range.contains_iff] at hd hd'
    rw [Occurrence.mem_shownDays, Occurrence.mem_shownDays, Occurrence.mem_coveredDays,
      Occurrence.mem_coveredDays, and_iff_left hd, and_iff_left hd', hzone]
  rw [← not_iff_not, ← Ne, ← Ne, on_ne_nil_iff, on_ne_nil_iff, collected_congr hplain hzone]
  simp only [hshown]

end Collector

/-! ## Small months -/

namespace Layout

variable {l l' : Layout} {y : Int} {m : Nat}

/-- Whether two calendars differ in their ranges and in the size of their days only, and have
items on the same days. -/
structure Alike (l l' : Layout) : Prop where
  style : ∃ mini, l'.style = { l.style with mini := mini }
  viewId : l'.viewId = l.viewId
  today : l'.range.today = l.range.today
  items : ∀ d, l.range.contains d = true → l'.range.contains d = true →
    (l'.agenda.on d = [] ↔ l.agenda.on d = [])

/-- A small day is marked by whether it is in view and has items. -/
theorem Alike.miniCell (h : l.Alike l')
    (hview : ∀ d, l'.inView (some m) d = l.inView (some m) d) (d : Date) :
    l'.miniCell m d = l.miniCell m d := by
  obtain ⟨⟨mini, hstyle⟩, hid, htoday, hitems⟩ := h
  have hevents : (l'.inView (some m) d && !(l'.agenda.on d).isEmpty) =
      (l.inView (some m) d && !(l.agenda.on d).isEmpty) := by
    rw [hview d]
    cases hd : l.inView (some m) d with
    | false => rfl
    | true =>
      have hd' := (hview d).trans hd
      rw [inView, Bool.and_eq_true] at hd hd'
      rw [Bool.true_and, Bool.true_and, Bool.not_inj_iff, Bool.eq_iff_iff, List.isEmpty_iff,
        List.isEmpty_iff]
      exact hitems d hd.1 hd'.1
  unfold Layout.miniCell dayState dayLink
  dsimp only
  rw [hevents, hview d, hstyle, hid, htoday]

theorem Alike.headerRow (h : l.Alike l') (hnumbers : l'.showsWeekNumbers = l.showsWeekNumbers) :
    l'.headerRow = l.headerRow := by
  obtain ⟨⟨mini, hstyle⟩, hid, -, -⟩ := h
  have hname : l'.dayNameCell = l.dayNameCell := by
    funext day
    unfold dayNameCell
    rw [hstyle, hid]
  unfold Layout.headerRow weekHeaderCell
  rw [hnumbers, hid, hname, hstyle]

/-- A small week has a link to the week too, with the year in which the range begins. -/
theorem Alike.miniWeek (h : l.Alike l') (hnumbers : l'.showsWeekNumbers = l.showsWeekNumbers)
    (hyear : l'.range.firstDate.year = l.range.firstDate.year)
    (hview : ∀ d, l'.inView (some m) d = l.inView (some m) d) (start : Date) :
    l'.miniWeek m start = l.miniWeek m start := by
  have hcells := funext (h.miniCell hview)
  obtain ⟨⟨mini, hstyle⟩, hid, -, -⟩ := h
  have hnumber : l'.weekNumberCell start 1 = l.weekNumberCell start 1 := by
    unfold weekNumberCell weekArgument
    rw [hyear, hstyle, hid]
  unfold Layout.miniWeek
  rw [hnumbers, hnumber, hstyle, hcells]

/-- **A small month** depends on the range by the days in view, those of them that have items,
and the year of its links to weeks. -/
theorem miniMonth_congr (h : l.Alike l') (hnumbers : l'.showsWeekNumbers = l.showsWeekNumbers)
    (hyear : l'.range.firstDate.year = l.range.firstDate.year)
    (hview : ∀ d, l'.inView (some m) d = l.inView (some m) d) :
    l'.miniMonth y m = l.miniMonth y m := by
  have hweeks := funext (h.miniWeek hnumbers hyear hview)
  have hheader := h.headerRow hnumbers
  obtain ⟨⟨mini, hstyle⟩, -, -, -⟩ := h
  unfold miniMonth monthWeekStarts
  rw [hheader, hweeks, hstyle]

/-! ## Days with items -/

theorem all_isEmpty_withEmptyBuckets (buckets : List TimeBucket) :
    ((l.withEmptyBuckets buckets).all fun b => b.items.isEmpty) =
      buckets.all fun b => b.items.isEmpty := by
  have hperm := List.mergeSort_perm (buckets ++ (l.boundaries.labels.filter fun label =>
    !buckets.any (·.label == label)).map fun label => TimeBucket.mk label [])
      fun a b => a.label ≤ b.label
  rw [withEmptyBuckets, hperm.all_eq, List.all_append, List.all_map]
  simp

theorem all_isEmpty_groupByBucket (items : List Occurrence) :
    ((l.groupByBucket items).all fun b => b.items.isEmpty) = items.isEmpty := by
  rw [← (l.groupByBucket_perm items).isEmpty_eq, Bool.eq_iff_iff, List.all_eq_true,
    List.isEmpty_iff, List.flatMap_eq_nil_iff]
  simp only [List.isEmpty_iff]

/-- **A full day is empty** exactly if it has no items. -/
theorem empty_dayGrid (hmini : l.style.mini = false) (d : Date) :
    (l.dayGrid d).empty = (l.agenda.on d).isEmpty := by
  have hparts : (((l.agenda.on d).filter fun o => o.allDay).isEmpty &&
      ((l.agenda.on d).filter fun o => !o.allDay).isEmpty) = (l.agenda.on d).isEmpty := by
    rw [← (List.filter_append_perm (fun o => o.allDay) (l.agenda.on d)).isEmpty_eq]
    cases (l.agenda.on d).filter fun o => o.allDay <;> rfl
  unfold dayGrid
  dsimp only
  rw [hmini, if_neg Bool.false_ne_true, if_neg Bool.false_ne_true, ← hparts]
  congr 1
  split
  · rw [all_isEmpty_withEmptyBuckets, all_isEmpty_groupByBucket]
  · rw [all_isEmpty_groupByBucket]

end Layout

/-! ## Flags and boxes of a date -/

/-- Whether a week flags a date as one with events. -/
def WeekBlock.Flags (b : WeekBlock) (d : Date) : Prop :=
  ∃ row ∈ b.rows, ∃ cell ∈ row.cells, cell.date = some d ∧ cell.state.hasEvents = true

namespace Grid

/-- Whether a calendar flags a date as one with events. -/
def Flags (grid : Grid) (d : Date) : Prop :=
  ∃ block ∈ grid.weekBlocks, block.Flags d

/-- The cells of a calendar that show a date. -/
def cellsOn (grid : Grid) (d : Date) : List Cell :=
  grid.weekBlocks.flatMap fun block => block.cellsOn d

end Grid

theorem WeekBlock.cellsOn_eq_nil {b : WeekBlock} {d : Date} (h : d ∉ b.shownDates) :
    b.cellsOn d = [] := by
  refine List.flatMap_eq_nil_iff.mpr fun row hrow => List.filter_eq_nil_iff.mpr ?_
  intro cell hcell hdate
  exact h (List.mem_flatMap.mpr ⟨row, hrow,
    List.mem_filterMap.mpr ⟨cell, hcell, of_decide_eq_true hdate⟩⟩)

/-- A list of parts, of which only one is not empty. -/
theorem flatMap_eq_of_unique {α β : Type} {l : List α} (hnodup : l.Nodup) {a : α} (ha : a ∈ l)
    {f : α → List β} (hnone : ∀ b ∈ l, b ≠ a → f b = []) : l.flatMap f = f a := by
  obtain ⟨before, after, rfl⟩ := List.append_of_mem ha
  obtain ⟨-, hafter, hbefore⟩ := List.nodup_append.mp hnodup
  have hfirst : before.flatMap f = [] := by
    refine List.flatMap_eq_nil_iff.mpr fun b hb => hnone b (List.mem_append_left _ hb) ?_
    exact hbefore b hb a List.mem_cons_self
  have hlast : after.flatMap f = [] := by
    refine List.flatMap_eq_nil_iff.mpr fun b hb => hnone b (by simp [hb]) ?_
    exact fun heq => (List.nodup_cons.mp hafter).1 (heq ▸ hb)
  rw [List.flatMap_append, List.flatMap_cons, hfirst, hlast, List.nil_append, List.append_nil]

namespace Layout

variable {l : Layout} {y : Int} {m : Nat} {d : Date}

/-- A week of small days flags the dates in view that have items. -/
theorem flags_miniWeek {start : Date} :
    (l.miniWeek m start).Flags d ↔
      d ∈ weekDates start ∧ l.inView (some m) d = true ∧ l.agenda.on d ≠ [] := by
  rw [WeekBlock.Flags, cells_miniWeek]
  constructor
  · rintro ⟨row, hrow, cell, hcell, hdate, hflag⟩
    obtain rfl := List.mem_singleton.mp hrow
    rcases List.mem_append.mp hcell with hlead | hday
    · -- The cell with the number of the week flags nothing.
      unfold leadCells at hlead
      split at hlead
      · rw [List.mem_singleton.mp hlead] at hflag
        cases hflag
      · exact absurd hlead List.not_mem_nil
    · obtain ⟨x, hx, rfl⟩ := List.mem_map.mp hday
      obtain rfl := Option.some.inj hdate
      exact ⟨List.mem_map_of_mem hx, (hasEvents_miniCell m _).mp hflag⟩
  · rintro ⟨hd, hshown⟩
    obtain ⟨x, hx, rfl⟩ := List.mem_map.mp hd
    refine ⟨_, List.mem_singleton_self _, l.miniCell m (start.addDays x), ?_, rfl,
      (hasEvents_miniCell m _).mpr hshown⟩
    exact List.mem_append_right _ (List.mem_map_of_mem hx)

/-- **A year flags its dates that have items.** -/
theorem flags_yearGrid (hfirstDay : l.style.firstDay ≤ 6)
    (hfirst : l.range.firstDate = .ofYMD y 1 1) (hlast : l.range.lastDate = .ofYMD y 12 31)
    (hy : 0 ≤ y ∧ y ≤ 9999) (hd : d.year = y) :
    l.yearGrid.Flags d ↔ l.agenda.on d ≠ [] := by
  have hyear : l.range.focalMonth.1 = y := by
    rw [Range.focalMonth, hfirst, Date.year_newYear]
  have hblocks : l.yearGrid.weekBlocks =
      (List.range' 1 12).flatMap fun m => (l.monthWeekStarts y m).map (l.miniWeek m) := by
    show ((List.range' 1 12).map (l.miniMonth l.range.focalMonth.1)).flatMap MonthGrid.weeks = _
    rw [hyear, List.flatMap_map]
    rfl
  rw [Grid.Flags, hblocks]
  constructor
  · rintro ⟨block, hblock, hflags⟩
    obtain ⟨m, -, hblock⟩ := List.mem_flatMap.mp hblock
    obtain ⟨start, -, rfl⟩ := List.mem_map.mp hblock
    exact (flags_miniWeek.mp hflags).2.2
  · intro hitems
    obtain ⟨hm, -, -⟩ := d.parts_mem
    have hmonth := (Date.year_month_eq_iff hm).mp ⟨hd, rfl⟩
    have hmargin := Range.margin_of_month hy hm
    have hstart : d.weekStart l.style.firstDay ∈ l.monthWeekStarts y d.month := by
      rw [monthWeekStarts_eq_weekStartsFrom hm (by rw [Date.le_def]; omega)
        (by rw [Date.lt_def]; omega)]
      exact weekStart_mem_weekStartsFrom hfirstDay hmonth.1 hmonth.2
    refine ⟨l.miniWeek d.month (d.weekStart l.style.firstDay),
      List.mem_flatMap.mpr ⟨d.month, mem_months.mpr hm, List.mem_map_of_mem hstart⟩,
      flags_miniWeek.mpr ⟨?_, ?_, hitems⟩⟩
    · exact (mem_weekDates hfirstDay (Date.fromSunday_weekStart hfirstDay d)).mpr rfl
    · rw [inView_some_iff, hfirst, hlast]
      exact ⟨Date.year_eq_iff.mp hd, rfl⟩

/-- **A full month has one date box for each of its dates.** -/
theorem cellsOn_monthGrid (hgranularity : l.range.granularity = .month)
    (hmini : l.style.mini = false) (hfirstDay : l.style.firstDay ≤ 6)
    (hmonth : l.range.IsMonth y m) (hbegin : Date.first ≤ l.range.firstDate)
    (hend : l.range.lastDate < Date.last) (packerFirstDay : Nat)
    (hd : l.range.firstDate ≤ d ∧ d ≤ l.range.lastDate) :
    ∃ box, (Grid.month (l.monthGrid (l.packWeeks packerFirstDay))).cellsOn d = [box] ∧
      l.BoxOf d box := by
  have hrow := Date.fromSunday_weekStart hfirstDay d
  have hview := (inView_iff_of_isMonth hmonth).mpr hd
  have hfocal : l.range.firstDate.month = m := congrArg Prod.snd hmonth.focalMonth_eq
  have hcells : (Grid.month (l.monthGrid (l.packWeeks packerFirstDay))).cellsOn d =
      (weekStartsFrom (l.range.firstDate.weekStart l.style.firstDay) l.range.lastDate).flatMap
        fun start => (l.weekBlock (l.buildWeek { firstDay := packerFirstDay } start
          (some m)).1 (some m)).cellsOn d := by
    rw [packWeeks_eq hgranularity hmini hmonth hbegin hend]
    show ((List.map _ (List.map _ _)).flatMap fun block : WeekBlock => block.cellsOn d) = _
    rw [List.flatMap_map, List.flatMap_map, hfocal]
  -- The date is in its own row only, in the column that counts from the start of the row.
  obtain ⟨column, hcolumn, hdate⟩ := List.mem_map.mp ((mem_weekDates hfirstDay hrow).mpr rfl)
  rw [List.mem_range] at hcolumn
  have honly : ∀ start ∈ weekStartsFrom (l.range.firstDate.weekStart l.style.firstDay)
      l.range.lastDate, start ≠ d.weekStart l.style.firstDay →
        (l.weekBlock (l.buildWeek { firstDay := packerFirstDay } start (some m)).1
          (some m)).cellsOn d = [] := by
    intro start hstart hne
    refine WeekBlock.cellsOn_eq_nil fun hmem => hne ?_
    rw [shownDates_weekBlock] at hmem
    refine ((mem_weekDates hfirstDay ?_).mp (List.mem_filter.mp hmem).1).symm
    rw [fromSunday_of_mem_weekStartsFrom hstart, Date.fromSunday_weekStart hfirstDay]
  rw [hcells, flatMap_eq_of_unique ((pairwise_weekStartsFrom _ _).imp ne_of_lt)
    (weekStart_mem_weekStartsFrom hfirstDay hd.1 hd.2) honly]
  rw [← hdate] at hview
  refine ⟨l.boxCell (l.buildWeek { firstDay := packerFirstDay } (d.weekStart l.style.firstDay)
    (some m)).1 (some m) column, ?_, ?_⟩
  · have hbox := cellsOn_weekBlock { firstDay := packerFirstDay } hcolumn hview
    rwa [hdate] at hbox
  · have hbox := boxOf_boxCell { firstDay := packerFirstDay } hcolumn hview
    rwa [hdate] at hbox

end Layout

/-! ## The renders of one view and another -/

namespace Settings

/-- The settings with another view: of a granularity, with small or full days. -/
def view (s : Settings) (granularity : Granularity) (mini : Bool) : Settings :=
  { s with calendarType := granularity, style := { s.style with mini := mini } }

/-- Whether settings render records for an argument as a calendar, of dates that the calendar
has. -/
def Renders (s : Settings) (zones : Zones) (expander : Expander) (records : List Record)
    (text : String) (today : Date) (grid : Grid) : Prop :=
  ∃ range, s.render zones expander records (some text) today = .rendered grid range ∧
    (s.layout zones expander records range).weeksFit s.style.firstDay = true ∧
      (s.layout zones expander records range).viewFits = true

variable {s : Settings} {zones : Zones} {zone : Zone} {y : Int} {m : Nat} {d : Date} {text : String}

theorem firstDay_le (hvalid : s.fault? zones = none) : s.style.firstDay ≤ 6 := by
  refine firstDay_le_of_fault? ?_
  unfold fault? at hvalid
  split at hvalid
  · cases hvalid
  · split at hvalid
    · cases hvalid
    · exact (Option.or_eq_none_iff.mp hvalid).1

/-- The calendar of a view on a range of its granularity, from a text that is read as its dates.
The range is that of the text whatever the records and the size of the days. -/
theorem exists_renders (hvalid : s.fault? zones = none) (hzone : s.zone zones = .ok zone)
    (hz : zone.Regular) (today : Date) {granularity : Granularity} {first last : Date}
    (hperiod : Period s.style.firstDay granularity first last) (hle : first ≤ last)
    (hread : Range.ofArgument ⟨zone, today, s.style.firstDay⟩ (some text) granularity =
      Range.ofDates ⟨zone, today, s.style.firstDay⟩ granularity first last)
    (hbegin : 0 ≤ first.year ∧ first.year ≤ 9999) (hend : 0 ≤ last.year ∧ last.year ≤ 9999)
    (hopens : zone.readings (WallTime.dayStart first).seconds ≠ [])
    (hcloses : zone.readings (WallTime.dayEnd last).seconds ≠ []) :
    ∃ range, range.Keeps ⟨zone, today, s.style.firstDay⟩ granularity first last ∧
      ∀ mini expander records, (s.view granularity mini).Renders zones expander records text today
        ((s.view granularity mini).gridOf zones expander records range) := by
  have hrange : ∃ range,
      Range.ofDates ⟨zone, today, s.style.firstDay⟩ granularity first last = .ok range ∧
        range.Keeps ⟨zone, today, s.style.firstDay⟩ granularity first last :=
    Range.exists_keeps hz granularity hle hbegin hend hopens hcloses
  obtain ⟨range, hmade, hkeeps⟩ := hrange
  refine ⟨range, hkeeps, fun mini expander records => ⟨range, ?_, ?_⟩⟩
  · exact render_eq (s := s.view granularity mini) hvalid hzone (hread.trans hmade)
  · have hfirst := Date.margin_of_year hbegin
    have hlast := Date.margin_of_year hend
    rw [← hkeeps.firstDate] at hfirst hperiod
    rw [← hkeeps.lastDate] at hlast hperiod
    rw [← hkeeps.granularity] at hperiod
    have hmargin : Date.first.dayNumber + 7 ≤ range.firstDate.dayNumber ∧
        range.lastDate.dayNumber + 7 ≤ Date.last.dayNumber := by omega
    exact Layout.fits_of_period (l := (s.view granularity mini).layout zones expander records range)
      (firstDay_le hvalid) hperiod hmargin.1 hmargin.2

section
variable (zones : Zones) (expander : Expander) {records : List Record}
  (hplain : ∀ r ∈ records, r.Plain)
include hplain

/-- Two views have the same items, as far as their ranges overlap. -/
theorem alike_view {range range' : Range} (hzone : range'.zone = range.zone)
    (htoday : range'.today = range.today) (granularity granularity' : Granularity)
    (mini mini' : Bool) :
    ((s.view granularity mini).layout zones expander records range).Alike
      ((s.view granularity' mini').layout zones expander records range') where
  style := ⟨mini', rfl⟩
  viewId := rfl
  today := htoday
  items := fun _ hd hd' =>
    Collector.on_eq_nil_congr (c := s.collector zones expander) hplain hzone hd hd'

end

/-! ### Years -/

/-- The small months of a year. -/
def monthsOf (s : Settings) (zones : Zones) (expander : Expander) (records : List Record)
    (range : Range) (y : Int) : List MonthGrid :=
  (List.range' 1 12).map (((s.view .year false).layout zones expander records range).miniMonth y)

/-- A year has the same months in either size. -/
theorem yearGrid_view (expander : Expander) {records : List Record}
    (hplain : ∀ r ∈ records, r.Plain) {range : Range} (hfirst : range.firstDate.year = y)
    (mini : Bool) :
    ((s.view .year mini).layout zones expander records range).yearGrid =
      .year y (s.monthsOf zones expander records range y) := by
  have hmonths : ∀ m, ((s.view .year mini).layout zones expander records range).miniMonth y m =
      ((s.view .year false).layout zones expander records range).miniMonth y m := fun m =>
    Layout.miniMonth_congr (alike_view zones expander hplain rfl rfl .year .year false mini) rfl rfl
      fun _ => rfl
  show Grid.year range.firstDate.year ((List.range' 1 12).map
    (((s.view .year mini).layout zones expander records range).miniMonth range.firstDate.year)) = _
  rw [hfirst, funext hmonths]
  rfl

/-- A year is rendered as its small months. -/
theorem exists_year (hvalid : s.fault? zones = none) (hzone : s.zone zones = .ok zone)
    (hz : zone.Regular) (hread : Argument.year? (Text.trim text).toList = some y)
    (hclocks : ∀ d : Date, d.year = y → zone.readings (WallTime.dayStart d).seconds ≠ [] ∧
      zone.readings (WallTime.dayEnd d).seconds ≠ [])
    (expander : Expander) {records : List Record} (hplain : ∀ r ∈ records, r.Plain)
    (today : Date) :
    ∃ range, range.Keeps ⟨zone, today, s.style.firstDay⟩ .year (.ofYMD y 1 1) (.ofYMD y 12 31) ∧
      ∀ mini, (s.view .year mini).Renders zones expander records text today
        (.year y (s.monthsOf zones expander records range y)) := by
  have hy := Argument.mem_of_year? hread
  have hfirst : (Date.ofYMD y 1 1).year = y := Date.year_newYear y
  have hle := (Date.year_eq_iff.mp hfirst).2
  have hlast : (Date.ofYMD y 12 31).year = y := Date.year_eq_iff.mpr ⟨hle, le_rfl⟩
  obtain ⟨range, hkeeps, hrenders⟩ := exists_renders hvalid hzone hz today (.year y) hle
    (Range.ofArgument_year hread) (by omega) (by omega) (hclocks _ hfirst).1 (hclocks _ hlast).2
  refine ⟨range, hkeeps, fun mini => ?_⟩
  have hgrid : (s.view .year mini).gridOf zones expander records range =
      .year y (s.monthsOf zones expander records range y) := by
    rw [← yearGrid_view expander hplain (by rw [hkeeps.firstDate, hfirst]) mini]
    unfold gridOf Layout.assemble
    dsimp only
    rw [show ((s.view .year mini).layout zones expander records range).range.granularity =
      .year from hkeeps.granularity]
  exact hgrid ▸ hrenders mini expander records

/-! ### Months and days -/

/-- A month is rendered as a month of small days or of full ones. -/
theorem exists_month (hvalid : s.fault? zones = none) (hzone : s.zone zones = .ok zone)
    (hz : zone.Regular) (hread : Argument.yearMonth? (Text.trim text).toList = some (y, m))
    (hclocks : ∀ d : Date, d.year = y → zone.readings (WallTime.dayStart d).seconds ≠ [] ∧
      zone.readings (WallTime.dayEnd d).seconds ≠ [])
    (expander : Expander) (records : List Record) (today : Date) :
    ∃ range, range.Keeps ⟨zone, today, s.style.firstDay⟩ .month (.ofYMD y m 1)
        (.ofYMD y m (daysInMonth y m)) ∧
      (s.view .month true).Renders zones expander records text today
        (.month (((s.view .month true).layout zones expander records range).miniMonth y m)) ∧
      (s.view .month false).Renders zones expander records text today
        (.month (((s.view .month false).layout zones expander records range).monthGrid
          (((s.view .month false).layout zones expander records range).packWeeks
            s.style.firstDay))) := by
  obtain ⟨hy, hm⟩ := Argument.mem_of_yearMonth? hread
  have hle := Date.ofYMD_le_ofYMD y m (one_le_daysInMonth y hm)
  have hfirst := ((Date.year_month_eq_iff hm).mpr ⟨le_rfl, hle⟩).1
  have hlast := ((Date.year_month_eq_iff hm).mpr ⟨hle, le_rfl⟩).1
  obtain ⟨range, hkeeps, hrenders⟩ := exists_renders hvalid hzone hz today (.month y hm) hle
    (Range.ofArgument_month hread) (by omega) (by omega) (hclocks _ hfirst).1 (hclocks _ hlast).2
  have hmonth : range.IsMonth y m := ⟨hm, hkeeps.firstDate, hkeeps.lastDate⟩
  have hgranularity (mini : Bool) : ((s.view .month mini).layout zones expander records
      range).range.granularity = .month := hkeeps.granularity
  have hsmall : (s.view .month true).gridOf zones expander records range =
      .month (((s.view .month true).layout zones expander records range).miniMonth y m) := by
    unfold gridOf Layout.assemble
    dsimp only
    rw [hgranularity true]
    show Grid.month (((s.view .month true).layout zones expander records range).miniMonth
      range.focalMonth.1 range.focalMonth.2) = _
    rw [hmonth.focalMonth_eq]
  have hfull : (s.view .month false).gridOf zones expander records range =
      .month (((s.view .month false).layout zones expander records range).monthGrid
        (((s.view .month false).layout zones expander records range).packWeeks
          s.style.firstDay)) := by
    unfold gridOf Layout.assemble
    dsimp only
    rw [hgranularity false]
    rfl
  exact ⟨range, hkeeps, hsmall ▸ hrenders true expander records,
    hfull ▸ hrenders false expander records⟩

/-- A day is rendered as its items. -/
theorem exists_day (hvalid : s.fault? zones = none) (hzone : s.zone zones = .ok zone)
    (hz : zone.Regular) (hread : Argument.day? (Text.trim text) = some d)
    (hy : 0 ≤ d.year ∧ d.year ≤ 9999)
    (hopens : zone.readings (WallTime.dayStart d).seconds ≠ [])
    (hcloses : zone.readings (WallTime.dayEnd d).seconds ≠ [])
    (expander : Expander) (records : List Record) (today : Date) :
    ∃ range, range.Keeps ⟨zone, today, s.style.firstDay⟩ .day d d ∧
      (s.view .day false).Renders zones expander records text today
        (.day (((s.view .day false).layout zones expander records range).dayGrid d)) := by
  obtain ⟨range, hkeeps, hrenders⟩ := exists_renders hvalid hzone hz today (.day d) le_rfl
    (Range.ofArgument_day hread) hy hy hopens hcloses
  have hgrid : (s.view .day false).gridOf zones expander records range =
      .day (((s.view .day false).layout zones expander records range).dayGrid d) := by
    unfold gridOf Layout.assemble
    dsimp only
    rw [show ((s.view .day false).layout zones expander records range).range.granularity = .day from
      hkeeps.granularity]
    show Grid.day (((s.view .day false).layout zones expander records range).dayGrid
      range.firstDate) = _
    rw [hkeeps.firstDate]
  exact ⟨range, hkeeps, hgrid ▸ hrenders false expander records⟩

/-! ### All views -/

section
variable {context : Range.Context} {year month day : Range} (expander : Expander)
  {records : List Record} (hplain : ∀ r ∈ records, r.Plain)
  (hyear : year.Keeps context .year (.ofYMD y 1 1) (.ofYMD y 12 31))
include hplain hyear

/-- A month of a year is the small calendar of that month. -/
theorem getElem?_monthsOf (hm : 1 ≤ m ∧ m ≤ 12)
    (hmonth : month.Keeps context .month (.ofYMD y m 1) (.ofYMD y m (daysInMonth y m))) :
    (s.monthsOf zones expander records year y)[m - 1]? =
      some (((s.view .month true).layout zones expander records month).miniMonth y m) := by
  have hisMonth : month.IsMonth y m := ⟨hm, hmonth.firstDate, hmonth.lastDate⟩
  -- In the year and in the month, the dates in view are those of the month.
  have hview : ∀ d, ((s.view .month true).layout zones expander records month).inView (some m) d =
      ((s.view .year false).layout zones expander records year).inView (some m) d := by
    intro d
    rw [Bool.eq_iff_iff, Layout.inView_iff_of_isMonth hisMonth, Layout.inView_some_iff]
    show (month.firstDate ≤ d ∧ d ≤ month.lastDate) ↔
      (year.firstDate ≤ d ∧ d ≤ year.lastDate) ∧ d.month = m
    rw [hmonth.firstDate, hmonth.lastDate, hyear.firstDate, hyear.lastDate,
      ← Date.year_month_eq_iff hm, ← Date.year_eq_iff]
  have hnumbers : ((s.view .month true).layout zones expander records month).showsWeekNumbers =
      ((s.view .year false).layout zones expander records year).showsWeekNumbers := by
    show (s.style.showWeekNumbers && (month.granularity == .month ||
        month.granularity == .year)) =
      (s.style.showWeekNumbers && (year.granularity == .month || year.granularity == .year))
    rw [hmonth.granularity, hyear.granularity]
    rfl
  have hbegin : month.firstDate.year = year.firstDate.year := by
    rw [hyear.firstDate, Date.year_newYear]
    exact congrArg Prod.fst hisMonth.focalMonth_eq
  have hsame := Layout.miniMonth_congr (y := y)
    (alike_view (s := s) zones expander hplain (hmonth.zone.trans hyear.zone.symm)
      (hmonth.today.trans hyear.today.symm) .year .month false true)
    hnumbers hbegin hview
  rw [hsame, monthsOf, List.getElem?_map, List.getElem?_range' (by omega),
    show 1 + 1 * (m - 1) = m by omega]
  rfl

/-- A year flags a date exactly if another view that shows the date has items on it. -/
theorem flags_year_iff (hfirstDay : s.style.firstDay ≤ 6) (hy : 0 ≤ y ∧ y ≤ 9999)
    (hd : d.year = y) {range : Range} {granularity : Granularity} {first last : Date}
    (hrange : range.Keeps context granularity first last) (hin : first ≤ d ∧ d ≤ last)
    (mini : Bool) :
    (Grid.year y (s.monthsOf zones expander records year y)).Flags d ↔
      ((s.view granularity mini).layout zones expander records range).agenda.on d ≠ [] := by
  have hflags := Layout.flags_yearGrid
    (l := (s.view .year false).layout zones expander records year) hfirstDay hyear.firstDate
    hyear.lastDate hy hd
  rw [yearGrid_view expander hplain (by rw [hyear.firstDate, Date.year_newYear])] at hflags
  have hitems := (alike_view (s := s) zones expander hplain (hrange.zone.trans hyear.zone.symm)
    (hrange.today.trans hyear.today.symm) .year granularity false mini).items d
    (hyear.contains_iff.mpr (Date.year_eq_iff.mp hd)) (hrange.contains_iff.mpr hin)
  exact hflags.trans (not_congr hitems).symm

/-- A year flags a date exactly if the calendar of the day is not empty. -/
theorem flags_year_iff_day (hfirstDay : s.style.firstDay ≤ 6) (hy : 0 ≤ y ∧ y ≤ 9999)
    (hd : d.year = y) (hday : day.Keeps context .day d d) :
    (Grid.year y (s.monthsOf zones expander records year y)).Flags d ↔
      (((s.view .day false).layout zones expander records day).dayGrid d).empty = false := by
  rw [Layout.empty_dayGrid rfl, List.isEmpty_eq_false_iff]
  exact flags_year_iff expander hplain hyear hfirstDay hy hd hday ⟨le_rfl, le_rfl⟩ false

/-- A year flags a date exactly if the box of the date in the full month has an entry. -/
theorem flags_year_iff_box (hfirstDay : s.style.firstDay ≤ 6) (hy : 0 ≤ y ∧ y ≤ 9999)
    (hm : 1 ≤ m ∧ m ≤ 12) (hd : d.year = y ∧ d.month = m)
    (hmonth : month.Keeps context .month (.ofYMD y m 1) (.ofYMD y m (daysInMonth y m)))
    (packerFirstDay : Nat) :
    ∃ box, (Grid.month (((s.view .month false).layout zones expander records month).monthGrid
        (((s.view .month false).layout zones expander records month).packWeeks
          packerFirstDay))).cellsOn d = [box] ∧
      ((Grid.year y (s.monthsOf zones expander records year y)).Flags d ↔
        box.state.noEntry = false) := by
  have hin := (Date.year_month_eq_iff hm).mp hd
  have hmargin := Range.margin_of_month hy hm
  obtain ⟨box, hbox, hboxOf⟩ := Layout.cellsOn_monthGrid
    (l := (s.view .month false).layout zones expander records month) hmonth.granularity rfl
    hfirstDay ⟨hm, hmonth.firstDate, hmonth.lastDate⟩
    (show Date.first ≤ month.firstDate by rw [hmonth.firstDate, Date.le_def]; omega)
    (show month.lastDate < Date.last by rw [hmonth.lastDate, Date.lt_def]; omega)
    packerFirstDay (show month.firstDate ≤ d ∧ d ≤ month.lastDate by
      rwa [hmonth.firstDate, hmonth.lastDate])
  refine ⟨box, hbox, ?_⟩
  rw [hboxOf.noEntry]
  exact flags_year_iff expander hplain hyear hfirstDay hy hd.1 hmonth hin false

end

/-- **The views of a calendar agree.**  Take valid settings with a regular zone, records without
rules, and a year on every day of which the clocks show midnight and 23:59:59.  The small months of
the year are the small calendars of its months.  The year flags a date exactly if the calendar of
the day is not empty, and exactly if the one date box of the full month is not without an entry. -/
theorem render_views (s : Settings) (zones : Zones) (expander : Expander)
    (records : List Record) (today : Date) {zone : Zone} {y : Int} {yearText : String}
    (hvalid : s.fault? zones = none) (hzone : s.zone zones = .ok zone) (hz : zone.Regular)
    (hplain : ∀ r ∈ records, r.Plain)
    (hread : Argument.year? (Text.trim yearText).toList = some y)
    (hclocks : ∀ d : Date, d.year = y → zone.readings (WallTime.dayStart d).seconds ≠ [] ∧
      zone.readings (WallTime.dayEnd d).seconds ≠ []) :
    ∃ months : List MonthGrid, months.length = 12 ∧
      (∀ mini, (s.view .year mini).Renders zones expander records yearText today (.year y months)) ∧
      ∀ m monthText, Argument.yearMonth? (Text.trim monthText).toList = some (y, m) →
        ∃ small full, months[m - 1]? = some small ∧
          (s.view .month true).Renders zones expander records monthText today (.month small) ∧
          (s.view .month false).Renders zones expander records monthText today (.month full) ∧
          ∀ d dayText, d.year = y → d.month = m →
            Argument.day? (Text.trim dayText) = some d →
              ∃ day box,
                (s.view .day false).Renders zones expander records dayText today (.day day) ∧
                (Grid.month full).cellsOn d = [box] ∧
                ((Grid.year y months).Flags d ↔ day.empty = false) ∧
                ((Grid.year y months).Flags d ↔ box.state.noEntry = false) := by
  have hy := Argument.mem_of_year? hread
  have hfirstDay := firstDay_le hvalid
  obtain ⟨year, hyear, hyearRenders⟩ := exists_year hvalid hzone hz hread hclocks expander hplain
    today
  refine ⟨s.monthsOf zones expander records year y, by rw [monthsOf]; simp, hyearRenders,
    fun m monthText hmonthText => ?_⟩
  obtain ⟨-, hm⟩ := Argument.mem_of_yearMonth? hmonthText
  obtain ⟨month, hmonth, hsmall, hfull⟩ := exists_month hvalid hzone hz hmonthText hclocks expander
    records today
  refine ⟨_, _, getElem?_monthsOf expander hplain hyear hm hmonth, hsmall, hfull,
    fun d dayText hdy hdm hdayText => ?_⟩
  obtain ⟨hopens, hcloses⟩ := hclocks d hdy
  obtain ⟨day, hday, hdayRenders⟩ := exists_day hvalid hzone hz hdayText (hdy ▸ hy) hopens hcloses
    expander records today
  obtain ⟨box, hbox, hentry⟩ := flags_year_iff_box expander hplain hyear hfirstDay hy hm
    ⟨hdy, hdm⟩ hmonth s.style.firstDay
  exact ⟨_, box, hdayRenders, hbox,
    flags_year_iff_day expander hplain hyear hfirstDay hy hdy hday, hentry⟩

/-- A record of the days from November 2 through November 4, 2024. -/
def novemberRecords : List Record :=
  [{ entityId := 1
     values := [{ value := some "2024-11-02", endValue := some "2024-11-04" }] }]

/-- The views of November 3, 2024, when the clocks of New York are set back at two o'clock. -/
theorem render_views_november :
    (newYorkMonths.fault? .listed = none ∧ newYorkMonths.zone .listed = .ok .newYork ∧
        Zone.newYork.Regular ∧
        (∀ r ∈ novemberRecords, r.Plain) ∧
        Argument.year? (Text.trim "2024").toList = some 2024 ∧
        ∀ d : Date, d.year = 2024 →
          Zone.newYork.readings (WallTime.dayStart d).seconds ≠ [] ∧
            Zone.newYork.readings (WallTime.dayEnd d).seconds ≠ []) ∧
      ∃ months small full day box,
        (newYorkMonths.view .year false).Renders .listed (ruleExpander .listed) novemberRecords
          "2024" ⟨20042⟩ (.year 2024 months) ∧
        months[10]? = some small ∧
        (newYorkMonths.view .month true).Renders .listed (ruleExpander .listed) novemberRecords
          "2024-11" ⟨20042⟩ (.month small) ∧
        (newYorkMonths.view .month false).Renders .listed (ruleExpander .listed) novemberRecords
          "2024-11" ⟨20042⟩ (.month full) ∧
        (newYorkMonths.view .day false).Renders .listed (ruleExpander .listed) novemberRecords
          "2024-11-03" ⟨20042⟩ (.day day) ∧
        (Grid.month full).cellsOn ⟨20030⟩ = [box] ∧
        ((Grid.year 2024 months).Flags ⟨20030⟩ ↔ day.empty = false) ∧
        ((Grid.year 2024 months).Flags ⟨20030⟩ ↔ box.state.noEntry = false) := by
  have hvalid : newYorkMonths.fault? .listed = none := by decide +kernel
  have hzone : newYorkMonths.zone .listed = .ok .newYork := by decide +kernel
  have hz : Zone.newYork.Regular := by decide +kernel
  have hplain : ∀ r ∈ novemberRecords, r.Plain := by decide +kernel
  have hread : Argument.year? (Text.trim "2024").toList = some 2024 := by decide +kernel
  have hclocks : ∀ d : Date, d.year = 2024 →
      Zone.newYork.readings (WallTime.dayStart d).seconds ≠ [] ∧
        Zone.newYork.readings (WallTime.dayEnd d).seconds ≠ [] := by
    intro d hd
    have hmargin := Date.margin_of_year (d := d) (by omega)
    exact (show Zone.newYork.KeepsBounds by decide +kernel).readings (by decide +kernel)
      (by omega)
  obtain ⟨months, -, hyear, hmonths⟩ := render_views newYorkMonths .listed
    (ruleExpander .listed) novemberRecords ⟨20042⟩ hvalid hzone hz hplain hread hclocks
  obtain ⟨small, full, hget, hsmall, hfull, hdays⟩ := hmonths 11 "2024-11" (by decide +kernel)
  obtain ⟨day, box, hday, hbox, hempty, hentry⟩ := hdays ⟨20030⟩ "2024-11-03"
    (by decide +kernel) (by decide +kernel) (by decide +kernel)
  exact ⟨⟨hvalid, hzone, hz, hplain, hread, hclocks⟩, months, small, full, day, box, hyear false,
    hget, hsmall, hfull, hday, hbox, hempty, hentry⟩

end Settings
end Almanac
