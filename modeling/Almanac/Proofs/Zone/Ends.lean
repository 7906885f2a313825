import Almanac.Proofs.Zone.Resolved

/-! # Times at the end of the calendar

A time is looked up half an hour later, an hour later and so on until the clocks show it, and
all these times have to be times of the calendar.  The clocks are not changed in the last two
days, so there they show a time just once (`Zone.isSome_earliest?_iff`), and a time of the last
four hours is found at the first look if the calendar has the instant at which they show it, and
never if not (`Zone.canResolve_iff`).  The start of a date is always found; the end of the last
date only if the clocks are not behind universal time (`Zone.canResolve_dayEnd_iff`).

What the clocks show at the bounds of a day that is found so is a time of the calendar
(`Zone.shows_startOfDay`, `Zone.shows_endOfDay`).  At any other instant they do unless it is so
near the bounds of the calendar that their offset leads over them (`Zone.shows_iff`).
-/
namespace Almanac

theorem WallTime.inCalendar_of_date {w : WallTime} {d : Date} (hw : w.date = d)
    (hd : d.inCalendar = true) : w.inCalendar = true := by
  rw [inCalendar, hw]
  exact hd

namespace Zone

variable {z : Zone} {w : WallTime} {d : Date}

/-- The offset from universal time at the end of the calendar. -/
def lastOffset (z : Zone) : Int :=
  z.offsetAt Instant.lastSecond

theorem clock_of_last_days (hz : z.Regular) {t : Int}
    (h : Instant.lastSecond - 2 * 86400 ≤ t) : z.clock t = t + z.lastOffset := by
  have hsame : z.offsetAt t = z.offsetAt Instant.lastSecond := by
    refine offsetAt_congr fun c hc => ?_
    have hin := (hz.inCalendar c hc).2
    rw [secondsPerDay] at hin
    omega
  rw [clock, hsame, lastOffset]

theorem clock_of_first_days (hz : z.Regular) {t : Int}
    (h : t < Instant.firstSecond + 2 * 86400) : z.clock t = t + z.firstOffset := by
  rw [clock, offsetAt, offsetAfter_of_forall_lt]
  intro c hc
  have hin := (hz.inCalendar c hc).1
  rw [secondsPerDay] at hin
  omega

theorem firstOffset_near (hz : z.Regular) : -86400 < z.firstOffset ∧ z.firstOffset < 86400 := by
  have hoffset := hz.withinDay _ List.mem_cons_self
  rwa [secondsPerDay] at hoffset

theorem lastOffset_near (hz : z.Regular) : -86400 < z.lastOffset ∧ z.lastOffset < 86400 := by
  have hoffset := hz.withinDay _ (z.offsetAt_mem Instant.lastSecond)
  rwa [secondsPerDay] at hoffset

/-- Whether the clocks of a zone show an instant of the calendar before or after it. -/
def ShowsOutside (z : Zone) (t : Instant) : Prop :=
  t.seconds + z.firstOffset < Instant.firstSecond ∨ Instant.lastSecond < t.seconds + z.lastOffset

instance (z : Zone) (t : Instant) : Decidable (z.ShowsOutside t) :=
  inferInstanceAs (Decidable (_ ∨ _))

/-- **At which instants the clocks show a time of the calendar.** -/
theorem shows_iff (hz : z.Regular) {t : Instant} (ht : t.inCalendar = true) :
    z.shows t = true ↔ ¬z.ShowsOutside t := by
  obtain ⟨hfirst, hlast⟩ := Instant.inCalendar_iff.mp ht
  have hnear := clock_near hz t.seconds
  have hlong := Instant.firstSecond_add_le
  have hbegin := firstOffset_near hz
  have hend := lastOffset_near hz
  rw [shows, WallTime.inCalendar_iff, seconds_wall, ShowsOutside, not_or, not_lt, not_lt]
  by_cases hearly : t.seconds < Instant.firstSecond + 2 * 86400
  · rw [clock_of_first_days hz hearly]
    omega
  · by_cases hlate : Instant.lastSecond - 2 * 86400 ≤ t.seconds
    · rw [clock_of_last_days hz hlate]
      omega
    · omega

/-! ## Looking up a time -/

/-- A time of the last day is shown once, perhaps after the calendar. -/
theorem clock_eq_iff (hz : z.Regular) (hw : Instant.lastSecond - 86400 < w.seconds) {t : Int} :
    z.clock t = w.seconds ↔ t = w.seconds - z.lastOffset := by
  have hoffset := lastOffset_near hz
  constructor
  · intro h
    have hnear := clock_near hz t
    rw [clock_of_last_days hz (by omega)] at h
    omega
  · rintro rfl
    rw [clock_of_last_days hz (by omega)]
    omega

theorem isSome_earliest?_iff (hz : z.Regular) (hw : Instant.lastSecond - 86400 < w.seconds) :
    (z.earliest? w).isSome = true ↔ w.seconds - z.lastOffset ≤ Instant.lastSecond := by
  have hoffset := lastOffset_near hz
  have hlong := Instant.firstSecond_add_le
  rw [Option.isSome_iff_exists]
  constructor
  · rintro ⟨t, ht⟩
    obtain ⟨rfl, hin, -⟩ := (earliest?_eq_some hz).mp ht
    have hat := (clock_eq_iff hz hw (t := t.seconds)).mp (seconds_wall z t).symm
    rw [← hat]
    exact (Instant.inCalendar_iff.mp hin).2
  · intro h
    refine ⟨⟨w.seconds - z.lastOffset, w.nanos⟩, (earliest?_eq_some hz).mpr ⟨?_, ?_, ?_⟩⟩
    · exact WallTime.ext ((clock_eq_iff hz hw).mpr rfl) rfl
    · rw [Instant.inCalendar_iff]
      dsimp only
      omega
    · intro s hs
      exact ((clock_eq_iff hz hw).mp hs).ge

/-- **Which times are resolved** within the calendar: those at least four hours before its end,
and those at which the calendar has an instant. -/
theorem canResolve_iff (hz : z.Regular) (hw : w.inCalendar = true) :
    z.canResolve w = true ↔ w.seconds + 14400 ≤ Instant.lastSecond ∨
      w.seconds - z.lastOffset ≤ Instant.lastSecond := by
  obtain ⟨hfirst, hlast⟩ := WallTime.inCalendar_iff.mp hw
  have hin : ∀ k, (probe w k).inCalendar = true ↔
      w.seconds + 1800 * k ≤ Instant.lastSecond := by
    intro k
    rw [WallTime.inCalendar_iff, seconds_probe]
    omega
  rw [canResolve, List.all_eq_true]
  constructor
  · intro h
    by_contra hnot
    rw [not_or, not_le, not_le] at hnot
    -- The look after the last one that stays in the calendar.
    have hk : ((Instant.lastSecond - w.seconds) / 1800).toNat < probeCount := by
      rw [probeCount]
      omega
    rcases Bool.or_eq_true_iff.mp (h _ (List.mem_range.mpr hk)) with hfound | hstays
    · obtain ⟨j, hj, hsome⟩ := List.any_eq_true.mp hfound
      have hlate := (isSome_earliest?_iff hz (w := probe w j) (by
        rw [seconds_probe]
        omega)).mp hsome
      rw [seconds_probe] at hlate
      omega
    · rw [hin] at hstays
      omega
  · rintro h k hk
    rw [List.mem_range, probeCount] at hk
    by_cases hearly : w.seconds + 14400 ≤ Instant.lastSecond
    · refine Bool.or_eq_true_iff.mpr (.inr ?_)
      rw [hin]
      omega
    · -- The time is found at the first look.
      have hsome := (isSome_earliest?_iff hz (w := w) (by omega)).mpr (h.resolve_left hearly)
      refine Bool.or_eq_true_iff.mpr (.inl (List.any_eq_true.mpr ⟨0, by simp, ?_⟩))
      rwa [probe_zero]

/-! ## The bounds of a day -/

theorem lastSecond_eq : Instant.lastSecond = 86400 * Date.last.dayNumber + 86399 :=
  WallTime.seconds_dayEnd _

theorem canResolve_dayStart (hz : z.Regular) (hd : d.inCalendar = true) :
    z.canResolve (.dayStart d) = true := by
  have hle := Date.le_def.mp (Date.inCalendar_iff.mp hd).2
  rw [canResolve_iff hz (WallTime.inCalendar_of_date (WallTime.date_dayStart d) hd),
    WallTime.seconds_dayStart, lastSecond_eq]
  omega

/-- **The end of a date is resolved** unless the date is the last of the calendar and the clocks
are behind universal time. -/
theorem canResolve_dayEnd_iff (hz : z.Regular) (hd : d.inCalendar = true) :
    z.canResolve (.dayEnd d) = true ↔ ¬(d = Date.last ∧ z.lastOffset < 0) := by
  have hoffset := lastOffset_near hz
  have hle := Date.le_def.mp (Date.inCalendar_iff.mp hd).2
  rw [canResolve_iff hz (WallTime.inCalendar_of_date (WallTime.date_dayEnd d) hd),
    WallTime.seconds_dayEnd, lastSecond_eq, Date.ext_iff]
  omega

/-- The start of a date is shown on the date before it at the earliest. -/
theorem le_dateAt_startOfDay (hz : z.Regular) (d : Date) :
    d.addDays (-1) ≤ z.dateAt (z.startOfDay d) := by
  have hnear := (clock_near hz (z.startOfDay d).seconds).1
  rw [startOfDay] at hnear
  rw [Date.le_def, Date.dayNumber_addDays, dayNumber_dateAt, startOfDay]
  rcases clock_resolve_cases hz (.dayStart d) with ⟨k, -, hshown⟩ | ⟨hutc, -⟩
  · rw [WallTime.seconds_dayStart, probeStep] at hshown
    omega
  · rw [WallTime.seconds_dayStart] at hutc
    omega

theorem shows_startOfDay (hz : z.Regular) (hd : d.inCalendar = true) :
    z.shows (z.startOfDay d) = true := by
  obtain ⟨hfirst, hlast⟩ := Date.inCalendar_iff.mp hd
  refine Date.inCalendar_iff.mpr ⟨first_le_dateAt_startOfDay hz hfirst, ?_⟩
  exact (dateAt_startOfDay_le hz d).trans hlast

theorem shows_endOfDay (hz : z.Regular) (hd : d.inCalendar = true)
    (h : z.canResolve (.dayEnd d) = true) : z.shows (z.endOfDay d) = true := by
  obtain ⟨hfirst, hlast⟩ := Date.inCalendar_iff.mp hd
  obtain ⟨hle, hnext⟩ := dateAt_endOfDay_near hz d
  refine Date.inCalendar_iff.mpr ⟨hfirst.trans hle, ?_⟩
  change z.dateAt (z.endOfDay d) ≤ Date.last
  by_cases hend : d = Date.last
  · -- The clocks show the last second of the calendar when it is looked up.
    have hahead : 0 ≤ z.lastOffset := by
      by_contra hbehind
      exact (canResolve_dayEnd_iff hz hd).mp h ⟨hend, not_le.mp hbehind⟩
    have hsome := (isSome_earliest?_iff hz (w := .dayEnd d) (by
      rw [WallTime.seconds_dayEnd, lastSecond_eq, hend]
      omega)).mpr (by
        rw [WallTime.seconds_dayEnd, lastSecond_eq, hend]
        omega)
    obtain ⟨t, ht⟩ := Option.isSome_iff_exists.mp hsome
    rw [endOfDay, resolve_of_earliest? ht, dateAt, ((earliest?_eq_some hz).mp ht).1,
      WallTime.date_dayEnd, hend]
  · rw [Date.le_def, Date.dayNumber_addDays] at hnext
    rw [Date.le_def] at hlast ⊢
    rw [Date.ext_iff] at hend
    omega

end Zone
end Almanac
