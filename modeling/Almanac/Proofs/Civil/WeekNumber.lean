import Almanac.Proofs.Civil.IsoWeek
import Almanac.Proofs.Civil.Parts
import Almanac.Proofs.Sorted

/-! # Week numbers count Mondays

The Mondays after a date are a week apart, and the first of them comes a week after the Monday of
the date's own week (`Date.mondaysAfter_eq`).  So the number beside a week row that does not start
on Monday is one more than the number of Mondays after January 1, and the number beside a row that
does is one more than the number of Mondays after the start of the ISO year
(`Date.weekNumber_counts`).  Both counts begin with 1 and go on with every Monday; they differ in
the day from which they count.
-/
namespace Almanac
namespace Date

/-- The Mondays after a date, through another one. -/
def mondaysAfter (a b : Date) : List Date :=
  (a.through b).filter fun m => a < m ∧ m.weekday = .monday

theorem weekday_eq_monday_iff {d : Date} :
    d.weekday = .monday ↔ (d.dayNumber + 4) % 7 = 1 := by
  have hday := d.fromSunday_weekday
  constructor
  · intro hmonday
    rw [hmonday, Weekday.fromSunday] at hday
    exact hday.symm
  · intro hmonday
    have hone : d.weekday.fromSunday = 1 := by omega
    rw [← Weekday.ofSunday_fromSunday d.weekday, hone]
    rfl

/-- The number of weeks from the Monday of the week of a date through another date. -/
def weeksSince (a b : Date) : Nat :=
  ((a.weekStart 1).daysUntil b / 7).toNat

theorem weeksSince_eq {a b : Date} (h : a ≤ b) :
    (a.weeksSince b : Int) = (b.dayNumber - (a.weekStart 1).dayNumber) / 7 := by
  have hmonday := dayNumber_weekStart (show 1 ≤ 6 by decide) a
  rw [le_def] at h
  rw [weeksSince, daysUntil]
  omega

/-- **The Mondays after a date** follow the Monday of its week in steps of a week. -/
theorem mondaysAfter_eq (a b : Date) :
    a.mondaysAfter b =
      (List.range (a.weeksSince b)).map fun n : Nat => (a.weekStart 1).addDays (7 * (n + 1)) := by
  have hmonday := dayNumber_weekStart (show 1 ≤ 6 by decide) a
  -- Both lists are in order, so it is enough that they have the same dates.
  refine Sorted.eq_of_pairwise_lt ((pairwise_through a b).filter _) ?_ fun m => ?_
  · refine List.pairwise_map.mpr (List.pairwise_lt_range.imp ?_)
    intro k n hkn
    rw [lt_def, dayNumber_addDays, dayNumber_addDays]
    omega
  · rw [mondaysAfter, List.mem_filter, mem_through, decide_eq_true_iff, weekday_eq_monday_iff,
      le_def, le_def, lt_def, List.mem_map]
    simp only [List.mem_range, weeksSince, daysUntil]
    constructor
    · rintro ⟨⟨-, hlast⟩, hafter, hday⟩
      refine ⟨((m.dayNumber - (a.weekStart 1).dayNumber) / 7 - 1).toNat, by omega, Date.ext ?_⟩
      rw [dayNumber_addDays]
      omega
    · rintro ⟨n, hn, rfl⟩
      rw [dayNumber_addDays]
      omega

theorem length_mondaysAfter {a b : Date} (h : a ≤ b) :
    ((a.mondaysAfter b).length : Int) = (b.dayNumber - (a.weekStart 1).dayNumber) / 7 := by
  rw [mondaysAfter_eq, List.length_map, List.length_range, weeksSince_eq h]

theorem newYear_le (d : Date) : ofYMD d.year 1 1 ≤ d :=
  (year_eq_iff.mp rfl).1

/-- The count of a week row that does not start on Monday. -/
theorem weekNumber_eq_mondaysAfter {firstDay : Nat} (h : firstDay ≠ 1) (d : Date) :
    d.weekNumber firstDay = 1 + ((ofYMD d.year 1 1).mondaysAfter d).length := by
  have hnumber := weekNumber_eq h d
  have hcount := length_mondaysAfter d.newYear_le
  omega

/-- Whether a number is that of a date's week in an ISO year.  The year begins with the Monday
of the week of January 4, on which its first week begins, and every Monday begins the next one. -/
structure IsIsoWeek (d : Date) (y : Int) (n : Nat) : Prop where
  started : (ofYMD y 1 4).weekStart 1 ≤ d
  lasting : d < (ofYMD (y + 1) 1 4).weekStart 1
  number : n = 1 + (((ofYMD y 1 4).weekStart 1).mondaysAfter d).length

theorem isIsoWeek_isoWeek (d : Date) : d.IsIsoWeek d.isoYear d.isoWeek := by
  obtain ⟨hbegin, hend⟩ := isoYear_eq_iff.mp (Eq.refl d.isoYear)
  have hweek := d.isoWeek_eq
  rw [isoYearStart] at hbegin hend hweek
  refine ⟨hbegin, hend, ?_⟩
  have hcount := length_mondaysAfter (le_def.mpr hbegin)
  rw [weekStart_eq_self (by decide) (fromSunday_weekStart (by decide) _)] at hcount
  omega

/-- **Week numbers.**  Beside a row that does not start on Monday stands the number of Mondays
since January 1, from 1: it is 1 on January 1, does not decrease within a year, and is one more
a week later in the same year.  Beside a row that starts on Monday stands the ISO week. -/
theorem weekNumber_counts (firstDay : Nat) :
    (firstDay ≠ 1 →
      (∀ d : Date,
        d.weekNumber firstDay = 1 + ((ofYMD d.year 1 1).mondaysAfter d).length) ∧
      (∀ y, (ofYMD y 1 1).weekNumber firstDay = 1) ∧
      (∀ d e : Date, d.year = e.year → d ≤ e → d.weekNumber firstDay ≤ e.weekNumber firstDay) ∧
      ∀ d : Date, (d.addDays 7).year = d.year →
        (d.addDays 7).weekNumber firstDay = d.weekNumber firstDay + 1) ∧
    (firstDay = 1 → ∀ d : Date, ∃ y, d.IsIsoWeek y (d.weekNumber firstDay)) := by
  refine ⟨fun h => ⟨weekNumber_eq_mondaysAfter h, fun y => ?_, fun d e hyear hle => ?_,
    fun d hyear => ?_⟩, fun h d => ?_⟩
  · have hnumber := weekNumber_eq h (ofYMD y 1 1)
    rw [year_newYear, dayNumber_newYearMonday, dayNumber_newYear] at hnumber
    omega
  · have hnumber := weekNumber_eq h d
    have hlater := weekNumber_eq h e
    rw [← hyear] at hlater
    rw [le_def] at hle
    omega
  · have hnumber := weekNumber_eq h d
    have hlater := weekNumber_eq h (d.addDays 7)
    rw [hyear, dayNumber_addDays] at hlater
    omega
  · refine ⟨d.isoYear, ?_⟩
    rw [weekNumber, if_pos h]
    exact d.isIsoWeek_isoWeek

/-- 2012 began on a Sunday and ended on a Monday, so its last date stands in week 54.  It is a day
of the first ISO week of 2013. -/
theorem weekNumber_counts_december :
    (0 ≠ 1 ∧ (ofYMD 2012 12 31).weekNumber 0 = 1 + ((ofYMD 2012 1 1).mondaysAfter
        (ofYMD 2012 12 31)).length ∧ (ofYMD 2012 12 31).weekNumber 0 = 54) ∧
      ((ofYMD 2012 12 24).year = (ofYMD 2012 12 31).year ∧ ofYMD 2012 12 24 ≤ ofYMD 2012 12 31 ∧
        (ofYMD 2012 12 24).weekNumber 0 ≤ (ofYMD 2012 12 31).weekNumber 0) ∧
      (((ofYMD 2012 12 24).addDays 7).year = (ofYMD 2012 12 24).year ∧
        ((ofYMD 2012 12 24).addDays 7).weekNumber 0 = (ofYMD 2012 12 24).weekNumber 0 + 1) ∧
      (ofYMD 2012 12 31).weekNumber 1 = 1 ∧
        ∃ y, (ofYMD 2012 12 31).IsIsoWeek y ((ofYMD 2012 12 31).weekNumber 1) := by
  obtain ⟨hcounts, -, hmono, hstep⟩ := (weekNumber_counts 0).1 (by decide)
  have hcount := hcounts (ofYMD 2012 12 31)
  rw [show (ofYMD 2012 12 31).year = 2012 by decide] at hcount
  exact ⟨⟨by decide, hcount, by decide⟩, ⟨by decide, by decide, hmono _ _ (by decide) (by decide)⟩,
    ⟨by decide, hstep _ (by decide)⟩, by decide, (weekNumber_counts 1).2 rfl _⟩

end Date
end Almanac
