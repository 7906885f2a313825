import Almanac.Proofs.Period
import Almanac.Proofs.Week.Argument

/-! # The range of an argument

Clocks that are not changed around midnight show the first and the last second of every date
(`Zone.KeepsBounds.readings`).

An argument of a year, a month or a day is read as the dates of that period
(`Range.ofArgument_year`, `Range.ofArgument_month`, `Range.ofArgument_day`).  The calendar goes on
around the years of four digits, so there is a range of these dates, and it keeps them if the
clocks show the midnight of the first and the last second of the last (`Range.exists_keeps`).
-/
namespace Almanac

/-- A date whose year has four digits is far from the bounds of the calendar. -/
theorem Date.margin_of_year {d : Date} (hy : 0 ≤ d.year ∧ d.year ≤ 9999) :
    Date.first.dayNumber + 20 ≤ d.dayNumber ∧ d.dayNumber + 20 ≤ Date.last.dayNumber := by
  have hmargin := Range.calendar_margin hy
  obtain ⟨hbegin, hend⟩ := d.year_spec
  omega

theorem Date.inCalendar_of_year {d : Date} (hy : 0 ≤ d.year ∧ d.year ≤ 9999) :
    d.inCalendar = true := by
  have hmargin := margin_of_year hy
  exact inCalendar_of_dayNumber (by omega) (by omega)

namespace Zone

variable {z : Zone}

/-- Whether no change of the clocks skips the first or the last second of a date. -/
def KeepsBounds (z : Zone) : Prop :=
  ∀ step ∈ z.steps, step.2.offset ≤ step.1 ∨
    0 < (step.2.second + step.1) % 86400 ∧
      (step.2.second + step.1) % 86400 + (step.2.offset - step.1) ≤ 86399

instance (z : Zone) : Decidable z.KeepsBounds :=
  inferInstanceAs (Decidable (∀ step ∈ z.steps, _))

/-- The clocks show a second that no change skips. -/
theorem readings_ne_nil (hz : z.Regular) {w : Int} (hw : Instant.firstSecond + 86400 < w)
    (hnone : ∀ step ∈ z.steps,
      ¬(step.2.second + step.1 ≤ w ∧ w < step.2.second + step.2.offset)) :
    z.readings w ≠ [] := by
  obtain ⟨e, hfe, hle, hreached, hbefore⟩ := exists_first_reached hz Instant.firstSecond w
  rcases hreached.eq_or_lt with heq | hlt
  · exact List.ne_nil_of_mem ((mem_readings hz).mpr heq.symm)
  · have hnear := (clock_near hz e).2
    obtain ⟨step, hstep, -, hold, hnew⟩ :=
      exists_step_of_skipped hz (hbefore (e - 1) (by omega) (by omega)) hlt
    exact absurd ⟨hold, hnew⟩ (hnone step hstep)

/-- Clocks that keep the bounds of dates show those of every date. -/
theorem KeepsBounds.readings (h : z.KeepsBounds) (hz : z.Regular) {d : Date}
    (hd : Date.first.dayNumber + 2 ≤ d.dayNumber) :
    z.readings (WallTime.dayStart d).seconds ≠ [] ∧
      z.readings (WallTime.dayEnd d).seconds ≠ [] := by
  have hfirst : Instant.firstSecond = 86400 * Date.first.dayNumber := WallTime.seconds_dayStart _
  have hstart := WallTime.seconds_dayStart d
  have hend := WallTime.seconds_dayEnd d
  refine ⟨readings_ne_nil hz (by omega) fun step hstep hskip => ?_,
    readings_ne_nil hz (by omega) fun step hstep hskip => ?_⟩
  · have hkeep := h step hstep
    omega
  · have hkeep := h step hstep
    omega

end Zone

namespace Range

variable {context : Context} {text : String} {y : Int} {m : Nat}

/-! ## Reading -/

/-- The first and the last date of a month of a year of four digits. -/
theorem margin_of_month (hy : 0 ≤ y ∧ y ≤ 9999) (hm : 1 ≤ m ∧ m ≤ 12) :
    Date.first.dayNumber + 20 ≤ (Date.ofYMD y m 1).dayNumber ∧
      (Date.ofYMD y m (daysInMonth y m)).dayNumber + 20 ≤ Date.last.dayNumber := by
  have hle := Date.ofYMD_le_ofYMD y m (one_le_daysInMonth y hm)
  have hopens := (Date.year_month_eq_iff hm).mpr ⟨le_rfl, hle⟩
  have hcloses := (Date.year_month_eq_iff hm).mpr ⟨hle, le_rfl⟩
  exact ⟨(Date.margin_of_year (by rwa [hopens.1])).1, (Date.margin_of_year (by rwa [hcloses.1])).2⟩

theorem requireDate_ofYMD (hy : 0 ≤ y ∧ y ≤ 9999) (hm : 1 ≤ m ∧ m ≤ 12) {day : Nat}
    (hday : 1 ≤ day ∧ day ≤ daysInMonth y m) :
    requireDate y m day = .ok (.ofYMD y m day) := by
  have hfound : Date.ofYMD? y m day = some (.ofYMD y m day) :=
    if_pos ⟨by omega, by omega, hm.1, hm.2, hday.1, hday.2⟩
  rw [requireDate, hfound]

theorem ofArgument_getD (context : Context) (argument : Option String)
    (granularity : Granularity) :
    ofArgument context argument granularity =
      ofArgument context (some (argument.getD "")) granularity := by
  cases argument <;> rfl

theorem ofArgument_of_blank (h : Text.trim text = "") (granularity : Granularity) :
    ofArgument context (some text) granularity = .error .missingArgument := by
  unfold ofArgument
  dsimp only [Option.getD_some]
  rw [if_pos h]

/-- What is done with a text that is not blank. -/
theorem ofArgument_some (hne : Text.trim text ≠ "") (granularity : Granularity) :
    ofArgument context (some text) granularity =
      (match granularity with
      | .year => do
        ofYear context
          (← Argument.require (Text.trim text) .year (Argument.year? (Text.trim text).toList))
      | .month => do
        let (y, m) ←
          Argument.require (Text.trim text) .month (Argument.yearMonth? (Text.trim text).toList)
        ofMonth context y m
      | .week => do
        let (y, w) ←
          Argument.require (Text.trim text) .week (Argument.yearWeek? (Text.trim text).toList)
        match ofWeek context y w with
        | .error .outsideCalendar => .error .outsideCalendar
        | .error _ => .error (.invalidArgument (Text.trim text) .week)
        | .ok range => .ok range
      | .day => do
        ofDay context
          (← Argument.require (Text.trim text) .day (Argument.day? (Text.trim text)))) := by
  unfold ofArgument
  dsimp only [Option.getD_some]
  refine (if_neg hne).trans ?_
  cases granularity <;> rfl

/-- A text of a year is read as the range of its dates. -/
theorem ofArgument_year (h : Argument.year? (Text.trim text).toList = some y) :
    ofArgument context (some text) .year =
      ofDates context .year (.ofYMD y 1 1) (.ofYMD y 12 31) := by
  have hne : Text.trim text ≠ "" := by
    intro hempty
    rw [hempty, show Argument.year? "".toList = none by decide +kernel] at h
    cases h
  have hy := Argument.mem_of_year? h
  have hfirst : requireDate y 1 1 = .ok (.ofYMD y 1 1) :=
    requireDate_ofYMD hy (by decide) ⟨le_rfl, one_le_daysInMonth y (by decide)⟩
  have hdays := daysInMonth_december y
  have hlast : requireDate y 12 31 = .ok (.ofYMD y 12 31) :=
    requireDate_ofYMD hy (by decide) ⟨by decide, hdays.ge⟩
  rw [ofArgument_some hne, h]
  show ofYear context y = _
  rw [ofYear, hfirst, hlast]
  rfl

/-- A text of a month is read as the range of its dates. -/
theorem ofArgument_month (h : Argument.yearMonth? (Text.trim text).toList = some (y, m)) :
    ofArgument context (some text) .month =
      ofDates context .month (.ofYMD y m 1) (.ofYMD y m (daysInMonth y m)) := by
  have hne : Text.trim text ≠ "" := by
    intro hempty
    rw [hempty, show Argument.yearMonth? "".toList = none by decide +kernel] at h
    cases h
  obtain ⟨hy, hm⟩ := Argument.mem_of_yearMonth? h
  have hmargin := margin_of_month hy hm
  rw [ofArgument_some hne, h]
  show ofMonth context y m = _
  rw [ofMonth, requireDate_ofYMD hy hm ⟨le_rfl, one_le_daysInMonth y hm⟩,
    lastDayOfMonth_eq hm (by rw [Date.le_def]; omega) (by rw [Date.lt_def]; omega)]
  rfl

/-- A text of a week is read as the range of that week, if the year has it. -/
theorem ofArgument_week {n : Nat}
    (h : Argument.yearWeek? (Text.trim text).toList = some (y, n)) :
    ofArgument context (some text) .week =
      match ofWeek context y n with
      | .error .outsideCalendar => .error .outsideCalendar
      | .error _ => .error (.invalidArgument (Text.trim text) .week)
      | .ok range => .ok range := by
  have hne : Text.trim text ≠ "" := by
    intro hempty
    rw [hempty, show Argument.yearWeek? "".toList = none by decide +kernel] at h
    cases h
  rw [ofArgument_some hne, h]
  rfl

/-- A text of a day is read as the range of that date. -/
theorem ofArgument_day {d : Date} (h : Argument.day? (Text.trim text) = some d) :
    ofArgument context (some text) .day = ofDates context .day d d := by
  have hne : Text.trim text ≠ "" := by
    intro hempty
    rw [hempty, show Argument.day? "" = none by decide +kernel] at h
    cases h
  rw [ofArgument_some hne, h]
  rfl

/-- Any other text is refused for a day. -/
theorem ofArgument_of_day?_eq_none (h : Argument.day? (Text.trim text) = none) :
    ofArgument context (some text) .day = .error
      (if Text.trim text = "" then .missingArgument
      else .invalidArgument (Text.trim text) .day) := by
  by_cases hblank : Text.trim text = ""
  · rw [ofArgument_of_blank hblank, if_pos hblank]
  · rw [ofArgument_some hblank, h, if_neg hblank]
    rfl

/-- The range of a year of four digits. -/
theorem ofDates_year (context : Context) (hy : 0 ≤ y ∧ y ≤ 9999) :
    ofDates context .year (.ofYMD y 1 1) (.ofYMD y 12 31) =
      .ok (context.span .year (.ofYMD y 1 1) (.ofYMD y 12 31)) := by
  have hopens := margin_of_month hy (m := 1) (by decide)
  have hcloses := margin_of_month hy (m := 12) (by decide)
  have hjanuary := Date.ofYMD_le_ofYMD y 1 (one_le_daysInMonth y (m := 1) (by decide))
  have hyear := Date.year_of_month y (m := 1) (by decide)
  rw [daysInMonth_december] at hcloses
  exact ofDates_eq_span context .year (hjanuary.trans hyear.2) (by omega) (by omega)

/-- The range of a month of a year of four digits. -/
theorem ofDates_month (context : Context) (hy : 0 ≤ y ∧ y ≤ 9999) (hm : 1 ≤ m ∧ m ≤ 12) :
    ofDates context .month (.ofYMD y m 1) (.ofYMD y m (daysInMonth y m)) =
      .ok (context.span .month (.ofYMD y m 1) (.ofYMD y m (daysInMonth y m))) := by
  have hmargin := margin_of_month hy hm
  exact ofDates_eq_span context .month (Date.ofYMD_le_ofYMD y m (one_le_daysInMonth y hm))
    (by omega) (by omega)

/-! ## The dates of a range -/

/-- **A range that keeps the dates it was made of.** -/
structure Keeps (context : Context) (granularity : Granularity) (first last : Date)
    (r : Range) : Prop where
  granularity : r.granularity = granularity
  zone : r.zone = context.zone
  today : r.today = context.today
  firstDate : r.firstDate = first
  lastDate : r.lastDate = last

/-- There is a range of dates in the years of four digits, and it keeps them if the clocks show
their bounds. -/
theorem exists_keeps (hz : context.zone.Regular) (granularity : Granularity) {first last : Date}
    (hle : first ≤ last) (hbegin : 0 ≤ first.year ∧ first.year ≤ 9999)
    (hend : 0 ≤ last.year ∧ last.year ≤ 9999)
    (hopens : context.zone.readings (WallTime.dayStart first).seconds ≠ [])
    (hcloses : context.zone.readings (WallTime.dayEnd last).seconds ≠ []) :
    ∃ r, ofDates context granularity first last = .ok r ∧
      r.Keeps context granularity first last := by
  have hfirst := Date.margin_of_year hbegin
  have hlast := Date.margin_of_year hend
  have hmade := ofDates_eq_span context granularity hle (by omega) (by omega)
  have hstart := Zone.dateAt_resolve_eq hz (w := .dayStart first)
    (by rw [WallTime.date_dayStart]; omega) hopens
  rw [WallTime.date_dayStart] at hstart
  exact ⟨_, hmade, rfl, rfl, rfl, hstart, Zone.dateAt_endOfDay_eq hz (by omega) hcloses⟩

variable {r : Range} {granularity : Granularity} {first last : Date}

theorem Keeps.contains_iff (h : r.Keeps context granularity first last) {d : Date} :
    r.contains d = true ↔ first ≤ d ∧ d ≤ last := by
  rw [Range.contains_iff, h.firstDate, h.lastDate]

end Range
end Almanac
