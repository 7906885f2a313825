import Almanac.Proofs.ArgumentReaders
import Almanac.Proofs.Civil.IsoWeek
import Almanac.Proofs.Civil.Parts
import Almanac.Proofs.RangeInstants

/-! # The period an argument names

An argument names the dates of a year, of a month, of a week or of one day
(`Argument.Names`), and these are the dates from a first one through a last one
(`Range.isPeriod_ofArgument`).

The range of the period keeps them as two instants.  It shows the first date again if the clocks
show its midnight or skip it by no more than three hours (`Zone.dateAt_startOfDay_eq`): the half
hours of the look-up then meet the first half hour behind the gap.  It shows the last date again
if the clocks show 23:59:59 of it (`Zone.dateAt_endOfDay_eq`).
-/
namespace Almanac

namespace Argument

/-- The dates that an argument of a granularity names, in a calendar whose week rows start on
`firstDay`. -/
def Names (firstDay : Nat) (text : String) : Granularity → Date → Prop
  | .year, d => year? text.toList = some d.year
  | .month, d => yearMonth? text.toList = some (d.year, d.month)
  | .week, d => ∃ monday : Date, monday.weekday.fromSunday = 1 ∧
      yearWeek? text.toList = some (monday.isoYear, monday.isoWeek) ∧
      d.weekStart firstDay = monday.weekStart firstDay
  | .day, d => day? text = some d

end Argument

namespace Zone

variable {z : Zone}

/-- A time that the clocks show somewhere inside the calendar has an earliest instant. -/
theorem exists_earliest? (hz : z.Regular) {w : WallTime} {t : Int} (ht : z.clock t = w.seconds)
    (hin : Instant.firstSecond + 86400 ≤ w.seconds ∧ w.seconds + 86400 ≤ Instant.lastSecond) :
    ∃ s, z.earliest? w = some s := by
  have hmem := (mem_readings hz).mpr ht
  unfold earliest?
  cases hreadings : z.readings w.seconds with
  | nil =>
    rw [hreadings] at hmem
    exact absurd hmem List.not_mem_nil
  | cons u rest =>
    have hu : z.clock u = w.seconds := by
      rw [← mem_readings hz, hreadings]
      exact List.mem_cons_self
    have hnear := clock_near hz u
    exact ⟨_, if_pos (Instant.inCalendar_iff.mpr ⟨by dsimp only; omega, by dsimp only; omega⟩)⟩

/-- Whether the clocks skip a second by more than three hours. -/
def SkipsFar (z : Zone) (w : Int) : Prop :=
  ∃ step ∈ z.steps, step.2.second + step.1 ≤ w ∧ w < step.2.second + step.2.offset ∧
    3 * 3600 < step.2.offset - step.1

instance (z : Zone) (w : Int) : Decidable (z.SkipsFar w) :=
  inferInstanceAs (Decidable (∃ step ∈ z.steps, _))

/-- A time that the clocks do not skip by more than three hours is found within these. -/
theorem exists_earliest?_probe (hz : z.Regular) {w : WallTime} (hfar : ¬z.SkipsFar w.seconds)
    (hin : Instant.firstSecond + 86400 < w.seconds ∧ w.seconds + 2 * 86400 ≤ Instant.lastSecond) :
    ∃ k < probeCount, ∃ s, z.earliest? (probe w k) = some s := by
  obtain ⟨e, hfe, hle, hreached, hbefore⟩ := exists_first_reached hz Instant.firstSecond w.seconds
  have hlong := Instant.firstSecond_add_le
  rcases hreached.eq_or_lt with heq | hlt
  · refine ⟨0, by decide, ?_⟩
    rw [probe_zero]
    exact exists_earliest? hz heq.symm (by omega)
  · have hnear := (clock_near hz e).2
    have hprev := hbefore (e - 1) (by omega) (by omega)
    obtain ⟨step, hstep, rfl, hold, hnew⟩ := exists_step_of_skipped hz hprev hlt
    have hshort : step.2.offset - step.1 ≤ 3 * 3600 := by
      by_contra hfarther
      exact hfar ⟨step, hstep, hold, hnew, not_le.mp hfarther⟩
    -- The first half hour of the look-up that is behind the gap is shown right behind it.
    have hafter := (clock_of_mem_steps hz hstep).2
    obtain ⟨k, hk⟩ : ∃ k : Nat, (k : Int) =
        (step.2.second + step.2.offset - w.seconds + 1799) / 1800 :=
      ⟨_, Int.toNat_of_nonneg (by omega)⟩
    rw [probeStep] at hafter
    refine ⟨k, by rw [probeCount]; omega, ?_⟩
    refine exists_earliest? hz (t := w.seconds + 1800 * k - step.2.offset) ?_ ?_
    · rw [hafter _ (by omega) (by omega), seconds_probe]
      omega
    · rw [seconds_probe]
      omega

/-- **The start of a date** is on the date, unless the clocks skip its midnight by more than
three hours. -/
theorem dateAt_startOfDay_eq (hz : z.Regular) {d : Date}
    (hin : Date.first.dayNumber + 2 ≤ d.dayNumber ∧ d.dayNumber + 2 ≤ Date.last.dayNumber)
    (hfar : ¬z.SkipsFar (WallTime.dayStart d).seconds) : z.dateAt (z.startOfDay d) = d := by
  have hcalendar : Instant.firstSecond = 86400 * Date.first.dayNumber ∧
      Instant.lastSecond = 86400 * Date.last.dayNumber + 86399 :=
    ⟨WallTime.seconds_dayStart _, WallTime.seconds_dayEnd _⟩
  have hmidnight := WallTime.seconds_dayStart d
  obtain ⟨k, hk, s, hs⟩ := exists_earliest?_probe hz hfar (by omega)
  rcases z.resolve_cases (.dayStart d) with ⟨j, hj, hfound⟩ | ⟨-, hnone⟩
  · have hshown := congrArg WallTime.seconds ((earliest?_eq_some hz).mp hfound).1
    rw [seconds_wall, seconds_probe] at hshown
    rw [probeCount] at hj
    refine Date.ext ?_
    rw [dayNumber_dateAt, startOfDay]
    omega
  · rw [hnone k hk] at hs
    cases hs

/-- A time that the clocks show is resolved to an instant on its date. -/
theorem dateAt_resolve_eq (hz : z.Regular) {w : WallTime}
    (hin : Date.first.dayNumber + 2 ≤ w.date.dayNumber ∧
      w.date.dayNumber + 2 ≤ Date.last.dayNumber)
    (hshown : z.readings w.seconds ≠ []) : z.dateAt (z.resolve w) = w.date := by
  have hcalendar : Instant.firstSecond = 86400 * Date.first.dayNumber ∧
      Instant.lastSecond = 86400 * Date.last.dayNumber + 86399 :=
    ⟨WallTime.seconds_dayStart _, WallTime.seconds_dayEnd _⟩
  rw [WallTime.dayNumber_date] at hin
  obtain ⟨t, ht⟩ := List.exists_mem_of_ne_nil _ hshown
  obtain ⟨s, hs⟩ := exists_earliest? hz ((mem_readings hz).mp ht) (by omega)
  rw [dateAt, resolve_of_earliest? hs, ((earliest?_eq_some hz).mp hs).1]

/-- **The end of a date** is on the date if the clocks show its 23:59:59. -/
theorem dateAt_endOfDay_eq (hz : z.Regular) {d : Date}
    (hin : Date.first.dayNumber + 2 ≤ d.dayNumber ∧ d.dayNumber + 2 ≤ Date.last.dayNumber)
    (hshown : z.readings (WallTime.dayEnd d).seconds ≠ []) : z.dateAt (z.endOfDay d) = d := by
  have hend := dateAt_resolve_eq hz (w := .dayEnd d) (by rwa [WallTime.date_dayEnd]) hshown
  rwa [WallTime.date_dayEnd] at hend

end Zone

/-- The stretches of dates that a calendar shows, whose week rows start on `firstDay`. -/
inductive Period (firstDay : Nat) : Granularity → Date → Date → Prop
  | year (y : Int) : Period firstDay .year (.ofYMD y 1 1) (.ofYMD y 12 31)
  | month (y : Int) {m : Nat} (hm : 1 ≤ m ∧ m ≤ 12) :
      Period firstDay .month (.ofYMD y m 1) (.ofYMD y m (daysInMonth y m))
  | week {start : Date} (hstart : start.weekday.fromSunday = firstDay) :
      Period firstDay .week start (start.addDays 6)
  | day (d : Date) : Period firstDay .day d d

namespace Range

variable {context : Context} {argument : Option String} {r : Range}

theorem bind_eq_ok {ε α β : Type} {x : Except ε α} {f : α → Except ε β} {b : β}
    (h : (x >>= f) = .ok b) : ∃ a, x = .ok a ∧ f a = .ok b := by
  cases x with
  | error e => cases h
  | ok a => exact ⟨a, rfl, h⟩

theorem some_of_require {α : Type} {text : String} {granularity : Granularity} {o : Option α}
    {a : α} (h : Argument.require text granularity o = .ok a) : o = some a := by
  cases o with
  | none => cases h
  | some b => rw [Except.ok.inj h]

theorem eq_of_requireDate {y : Int} {m day : Nat} {d : Date} (h : requireDate y m day = .ok d) :
    Date.ofYMD? y m day = some d := by
  unfold requireDate at h
  split at h
  · rename_i hfound
    rw [hfound, Except.ok.inj h]
  · cases h

/-- Years of four digits are far from the bounds of the calendar. -/
theorem calendar_margin {y : Int} (hy : 0 ≤ y ∧ y ≤ 9999) :
    Date.first.dayNumber + 20 ≤ yearStart y ∧ yearStart (y + 1) + 20 ≤ Date.last.dayNumber := by
  have hbegin : Date.first.dayNumber + 20 ≤ yearStart 0 := by decide
  have hend : yearStart 10000 + 20 ≤ Date.last.dayNumber := by decide
  have hfirst := yearStart_mono hy.1
  have hlast : yearStart (y + 1) ≤ yearStart 10000 := yearStart_mono (by omega)
  omega

/-- Whether a range of a granularity was made for the period of the dates with a property, a
week or more from the bounds of the calendar. -/
def IsPeriod (context : Context) (granularity : Granularity) (r : Range) (named : Date → Prop) :
    Prop :=
  ∃ first last, Period context.firstDay granularity first last ∧
    ofDates context granularity first last = .ok r ∧
    (Date.first.dayNumber + 7 ≤ first.dayNumber ∧ last.dayNumber + 7 ≤ Date.last.dayNumber) ∧
    ∀ d, named d ↔ first ≤ d ∧ d ≤ last

theorem IsPeriod.congr {granularity : Granularity} {named named' : Date → Prop}
    (h : IsPeriod context granularity r named) (heq : ∀ d, named' d ↔ named d) :
    IsPeriod context granularity r named' := by
  obtain ⟨first, last, hperiod, hrange, hmargin, hdates⟩ := h
  exact ⟨first, last, hperiod, hrange, hmargin, fun d => (heq d).trans (hdates d)⟩

theorem isPeriod_ofYear {y : Int} (hy : 0 ≤ y ∧ y ≤ 9999) (h : ofYear context y = .ok r) :
    IsPeriod context .year r fun d => d.year = y := by
  obtain ⟨first, hfirst, h⟩ := bind_eq_ok h
  obtain ⟨last, hlast, h⟩ := bind_eq_ok h
  obtain ⟨hfirstParts, -⟩ := Date.ofYMD?_eq_some.mp (eq_of_requireDate hfirst)
  obtain ⟨hlastParts, -⟩ := Date.ofYMD?_eq_some.mp (eq_of_requireDate hlast)
  obtain rfl : Date.ofYMD y 1 1 = first := by
    rw [← first.parts_mem.2.2, hfirstParts.1, hfirstParts.2.1, hfirstParts.2.2]
  obtain rfl : Date.ofYMD y 12 31 = last := by
    rw [← last.parts_mem.2.2, hlastParts.1, hlastParts.2.1, hlastParts.2.2]
  have hmargin := calendar_margin hy
  have hbegin := (Date.year_spec _).1.trans_eq (rfl : (Date.ofYMD y 1 1).dayNumber = _)
  have hend := (Date.ofYMD y 12 31).year_spec.2
  rw [hfirstParts.1] at hbegin
  rw [hlastParts.1] at hend
  exact ⟨_, _, .year y, h, by omega, fun d => Date.year_eq_iff⟩

theorem isPeriod_ofMonth {y : Int} {m : Nat} (hy : 0 ≤ y ∧ y ≤ 9999) (hm : 1 ≤ m ∧ m ≤ 12)
    (h : ofMonth context y m = .ok r) :
    IsPeriod context .month r fun d => d.year = y ∧ d.month = m := by
  obtain ⟨first, hfirst, h⟩ := bind_eq_ok h
  obtain ⟨last, hlast, h⟩ := bind_eq_ok h
  obtain ⟨hfirstParts, -⟩ := Date.ofYMD?_eq_some.mp (eq_of_requireDate hfirst)
  obtain rfl : Date.ofYMD y m 1 = first := by
    rw [← first.parts_mem.2.2, hfirstParts.1, hfirstParts.2.1, hfirstParts.2.2]
  have hdays := one_le_daysInMonth y hm
  have hmonth := Date.year_month_eq_iff hm (d := Date.ofYMD y m (daysInMonth y m)) (y := y)
  have hmargin := calendar_margin hy
  have hbegin := (Date.ofYMD y m 1).year_spec.1
  have hend := (Date.ofYMD y m (daysInMonth y m)).year_spec.2
  rw [hfirstParts.1] at hbegin
  rw [(hmonth.mpr ⟨Date.ofYMD_le_ofYMD y m hdays, le_rfl⟩).1] at hend
  rw [lastDayOfMonth_eq hm (by rw [Date.le_def]; omega) (by rw [Date.lt_def]; omega)] at hlast
  obtain rfl := Except.ok.inj hlast
  exact ⟨_, _, .month y hm, h, by omega, fun d => Date.year_month_eq_iff hm⟩

theorem isPeriod_ofWeek (hfirst : context.firstDay ≤ 6) {y : Int} {n : Nat}
    (hy : 0 ≤ y ∧ y ≤ 9999) (h : ofWeek context y n = .ok r) :
    IsPeriod context .week r fun d => ∃ monday : Date, monday.weekday.fromSunday = 1 ∧
      (monday.isoYear = y ∧ monday.isoWeek = n) ∧
      d.weekStart context.firstDay = monday.weekStart context.firstDay := by
  unfold ofWeek at h
  split at h
  · cases h
  · rename_i monday hmonday
    dsimp only at h
    split at h
    · obtain ⟨hday, hisoYear, hisoWeek, -⟩ := Date.ofIsoWeek?_eq_some.mp hmonday
      have hstart := Date.fromSunday_weekStart hfirst monday
      have hmargin := calendar_margin hy
      obtain ⟨hbegin, hend⟩ := Date.isoYear_eq_iff.mp hisoYear
      rw [Date.dayNumber_isoYearStart] at hbegin hend
      have hrow := Date.dayNumber_weekStart hfirst monday
      refine ⟨_, _, .week hstart, h, ?_, fun d => ?_⟩
      · rw [Date.dayNumber_addDays]
        omega
      · have hsame : (∃ other : Date, other.weekday.fromSunday = 1 ∧
            (other.isoYear = y ∧ other.isoWeek = n) ∧
              d.weekStart context.firstDay = other.weekStart context.firstDay) ↔
            d.weekStart context.firstDay = monday.weekStart context.firstDay := by
          constructor
          · rintro ⟨other, hother, ⟨hotherYear, hotherWeek⟩, heq⟩
            have hin := Date.inCalendar_of_isoYear (d := other) (by omega) (by omega)
            have hfound : Date.ofIsoWeek? y n = some other :=
              Date.ofIsoWeek?_eq_some.mpr ⟨hother, hotherYear, hotherWeek,
                Date.inCalendar_of_dayNumber (by omega) (by omega)⟩
            rw [heq, Option.some.inj (hmonday.symm.trans hfound)]
          · exact fun heq => ⟨monday, hday, ⟨hisoYear, hisoWeek⟩, heq⟩
        exact hsame.trans (Date.weekStart_eq_iff_between hfirst hstart)
    · cases h

/-- **The dates that an argument names** are those of a period, and the range is made of its
first and last date. -/
theorem isPeriod_ofArgument (hfirst : context.firstDay ≤ 6) {granularity : Granularity}
    (h : ofArgument context argument granularity = .ok r)
    (hyear : granularity = .day → ∀ d,
      Argument.Names context.firstDay (Text.trim (argument.getD "")) .day d →
        0 ≤ d.year ∧ d.year ≤ 9999) :
    IsPeriod context granularity r
      (Argument.Names context.firstDay (Text.trim (argument.getD "")) granularity) := by
  unfold ofArgument at h
  dsimp only at h
  split at h
  · cases h
  · generalize Text.trim (argument.getD "") = text at *
    cases granularity with
    | year =>
      obtain ⟨y, hread, h⟩ := bind_eq_ok h
      have hread := some_of_require hread
      refine (isPeriod_ofYear (Argument.mem_of_year? hread) h).congr fun d => ?_
      rw [Argument.Names, hread, Option.some.injEq]
      exact eq_comm
    | month =>
      obtain ⟨⟨y, m⟩, hread, h⟩ := bind_eq_ok h
      have hread := some_of_require hread
      obtain ⟨hy, hm⟩ := Argument.mem_of_yearMonth? hread
      refine (isPeriod_ofMonth hy hm h).congr fun d => ?_
      rw [Argument.Names, hread, Option.some.injEq, Prod.mk.injEq, eq_comm (a := y),
        eq_comm (a := m)]
    | week =>
      obtain ⟨⟨y, n⟩, hread, h⟩ := bind_eq_ok h
      have hread := some_of_require hread
      have hweek : ofWeek context y n = .ok r := by
        dsimp only at h
        split at h
        · cases h
        · cases h
        · rename_i hok
          rw [hok, Except.ok.inj h]
      refine (isPeriod_ofWeek hfirst (Argument.mem_of_yearWeek? hread) hweek).congr fun d => ?_
      rw [Argument.Names, hread]
      refine exists_congr fun monday => and_congr_right fun _ => and_congr_left fun _ => ?_
      rw [Option.some.injEq, Prod.mk.injEq, eq_comm (a := y), eq_comm (a := n)]
    | day =>
      obtain ⟨date, hread, h⟩ := bind_eq_ok h
      have hread := some_of_require hread
      have hmargin := calendar_margin (hyear rfl date hread)
      obtain ⟨hbegin, hend⟩ := date.year_spec
      refine ⟨date, date, .day date, h, by omega, fun d => ?_⟩
      rw [Argument.Names, hread, Option.some.injEq]
      exact ⟨fun heq => heq ▸ ⟨le_rfl, le_rfl⟩, fun ⟨hle, hge⟩ => le_antisymm hle hge⟩

/-- **The dates of a range** are those it was made of, unless the clocks skip a bound of them
too far. -/
theorem dates_of_ofDates (hz : context.zone.Regular) {granularity : Granularity}
    {first last : Date} (h : ofDates context granularity first last = .ok r)
    (hmargin : Date.first.dayNumber + 2 ≤ first.dayNumber ∧
      last.dayNumber + 2 ≤ Date.last.dayNumber)
    (hopens : ¬context.zone.SkipsFar (WallTime.dayStart first).seconds)
    (hcloses : context.zone.readings (WallTime.dayEnd last).seconds ≠ []) :
    r.granularity = granularity ∧ r.firstDate = first ∧ r.lastDate = last := by
  obtain ⟨hle, rfl⟩ := eq_of_ofDates h
  rw [Date.le_def] at hle
  exact ⟨rfl, Zone.dateAt_startOfDay_eq hz (by omega) hopens,
    Zone.dateAt_endOfDay_eq hz (by omega) hcloses⟩

end Range
end Almanac
