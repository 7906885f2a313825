import Almanac.Proofs.Civil.Order
import Almanac.Slots

/-! # Week rows

In a week row that starts on a weekday, a date has the column that counts its days from the
start of the row (`Date.weekColumn_addDays`), and the dates whose row starts there are those
of the seven columns (`Date.weekStart_eq_iff`).
-/
namespace Almanac

theorem Weekday.fromSunday_ofSunday (n : Nat) : (ofSunday n).fromSunday = n % 7 := by
  have hmod : ofSunday n = ofSunday (n % 7) := by
    unfold ofSunday
    rw [Nat.mod_mod]
  have hsmall : ∀ k < 7, (ofSunday k).fromSunday = k := by decide
  rw [hmod, hsmall _ (Nat.mod_lt n (by decide))]

namespace Date

theorem fromSunday_weekday (d : Date) :
    (d.weekday.fromSunday : Int) = (d.dayNumber + 4) % 7 := by
  rw [weekday, Weekday.fromSunday_ofSunday]
  omega

theorem signedWeekColumn_eq {firstDay : Nat} (h : firstDay ≤ 6) (d : Date) :
    d.signedWeekColumn firstDay = (d.dayNumber + 4 - firstDay) % 7 := by
  have hlt := d.weekday.fromSunday_lt
  have hday := d.fromSunday_weekday
  rw [signedWeekColumn, Int.tmod_eq_emod_of_nonneg (by omega), hday]
  omega

/-- A week row starts on its weekday. -/
theorem fromSunday_weekStart {firstDay : Nat} (h : firstDay ≤ 6) (d : Date) :
    (d.weekStart firstDay).weekday.fromSunday = firstDay := by
  have hday := (d.weekStart firstDay).fromSunday_weekday
  rw [weekStart, signedWeekColumn_eq h, dayNumber_addDays] at hday
  rw [weekStart, signedWeekColumn_eq h]
  omega

/-- Whole weeks later it is the same weekday. -/
theorem fromSunday_addDays_weeks (d : Date) (n : Nat) :
    (d.addDays (daysPerWeek * n)).weekday.fromSunday = d.weekday.fromSunday := by
  have hday := d.fromSunday_weekday
  have hlater := (d.addDays (daysPerWeek * n)).fromSunday_weekday
  rw [dayNumber_addDays, daysPerWeek] at hlater
  rw [daysPerWeek]
  omega

/-- The column of a date counts its days from the start of the row. -/
theorem weekColumn_addDays {start : Date} {firstDay column : Nat}
    (hstart : start.weekday.fromSunday = firstDay) (hcolumn : column < daysPerWeek) :
    (start.addDays column).weekColumn firstDay = column := by
  have hlt := start.weekday.fromSunday_lt
  have hday := start.fromSunday_weekday
  rw [daysPerWeek] at hcolumn
  rw [weekColumn, signedWeekColumn_eq (by omega), dayNumber_addDays, UInt64.size]
  omega

theorem dayNumber_weekStart {firstDay : Nat} (h : firstDay ≤ 6) (d : Date) :
    (d.weekStart firstDay).dayNumber =
      d.dayNumber - (d.dayNumber + 4 - firstDay) % 7 := by
  rw [weekStart, signedWeekColumn_eq h, dayNumber_addDays]
  omega

theorem weekStart_mono {firstDay : Nat} (h : firstDay ≤ 6) {d e : Date} (hde : d ≤ e) :
    d.weekStart firstDay ≤ e.weekStart firstDay := by
  rw [le_def] at hde
  rw [le_def, dayNumber_weekStart h, dayNumber_weekStart h]
  omega

/-- The dates of a week row are those of its seven columns. -/
theorem weekStart_eq_iff {firstDay : Nat} (h : firstDay ≤ 6) {start d : Date}
    (hstart : start.weekday.fromSunday = firstDay) :
    d.weekStart firstDay = start ↔ ∃ column < daysPerWeek, start.addDays column = d := by
  have hday := start.fromSunday_weekday
  rw [hstart] at hday
  constructor
  · intro heq
    have hrow := congrArg dayNumber heq
    rw [dayNumber_weekStart h] at hrow
    refine ⟨(start.daysUntil d).toNat, ?_, ?_⟩
    · rw [daysUntil, daysPerWeek]
      omega
    · refine Date.ext ?_
      rw [dayNumber_addDays, daysUntil]
      omega
  · rintro ⟨column, hcolumn, rfl⟩
    refine Date.ext ?_
    rw [daysPerWeek] at hcolumn
    rw [dayNumber_weekStart h, dayNumber_addDays]
    omega

theorem weekStart_eq_self {firstDay : Nat} (h : firstDay ≤ 6) {start : Date}
    (hstart : start.weekday.fromSunday = firstDay) : start.weekStart firstDay = start :=
  (weekStart_eq_iff h hstart).mpr ⟨0, by decide, start.addDays_zero⟩

/-- The dates of a week row are those from its start through the sixth day after it. -/
theorem weekStart_eq_iff_between {firstDay : Nat} (h : firstDay ≤ 6) {start d : Date}
    (hstart : start.weekday.fromSunday = firstDay) :
    d.weekStart firstDay = start ↔ start ≤ d ∧ d ≤ start.addDays 6 := by
  have hday := start.fromSunday_weekday
  rw [hstart] at hday
  rw [Date.ext_iff, dayNumber_weekStart h, le_def, le_def, dayNumber_addDays]
  omega

end Date
end Almanac
