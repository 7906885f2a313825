import Almanac.Range
import Mathlib.Order.MinMax
import Mathlib.Order.Lattice

/-! # The order of dates, readings and instants

Dates, wall-clock times and instants are linearly ordered, so the bounds of a stretch of
days or of a segment are handled by the laws of `min` and `max`.  A reading is compared
with the first and the last second of a date through its own date: `dayStart_le_iff` and
`lt_dayStart_iff` say how.  `Date.through` lists all days between two dates; the listing
`Date.upTo` of the calendar is that list without the calendar's last date
(`Date.upTo_eq_filter`).
-/
namespace Almanac

namespace Date

instance : LinearOrder Date where
  le_refl a := Int.le_refl a.dayNumber
  le_trans _ _ _ hab hbc := Int.le_trans hab hbc
  le_antisymm _ _ hab hba := Date.ext (Int.le_antisymm hab hba)
  le_total a b := Int.le_total a.dayNumber b.dayNumber
  lt_iff_le_not_ge _ _ := Int.lt_iff_le_and_not_ge
  toDecidableLE := inferInstance
  toDecidableLT := inferInstance
  toDecidableEq := inferInstance

@[simp] theorem dayNumber_addDays (d : Date) (n : Int) :
    (d.addDays n).dayNumber = d.dayNumber + n := rfl

theorem dayNumber_min (a b : Date) : (min a b).dayNumber = min a.dayNumber b.dayNumber := by
  rcases le_total a b with h | h
  · rw [min_eq_left h, min_eq_left (le_def.mp h)]
  · rw [min_eq_right h, min_eq_right (le_def.mp h)]

theorem inCalendar_iff {d : Date} : d.inCalendar = true ↔ first ≤ d ∧ d ≤ last := by
  rw [inCalendar, Bool.and_eq_true, decide_eq_true_iff, decide_eq_true_iff]

theorem inCalendar_of_dayNumber {d : Date} (hlow : first.dayNumber ≤ d.dayNumber)
    (hhigh : d.dayNumber ≤ last.dayNumber) : d.inCalendar = true :=
  inCalendar_iff.mpr ⟨le_def.mpr hlow, le_def.mpr hhigh⟩

/-! ## Lists of days -/

/-- All dates from `a` through `b`, in order, each once. -/
def through (a b : Date) : List Date :=
  (List.range (b.dayNumber + 1 - a.dayNumber).toNat).map fun n : Nat => a.addDays n

theorem mem_through {a b d : Date} : d ∈ a.through b ↔ a ≤ d ∧ d ≤ b := by
  simp only [through, List.mem_map, List.mem_range, le_def]
  constructor
  · rintro ⟨n, hn, rfl⟩
    rw [dayNumber_addDays]
    omega
  · rintro ⟨had, hdb⟩
    refine ⟨(d.dayNumber - a.dayNumber).toNat, by omega, Date.ext ?_⟩
    rw [dayNumber_addDays]
    omega

/-- A list of consecutive days is in strictly ascending order. -/
theorem pairwise_through (a b : Date) : (a.through b).Pairwise (· < ·) := by
  refine List.pairwise_map.mpr (List.pairwise_lt_range.imp ?_)
  intro m n hmn
  rw [lt_def, dayNumber_addDays, dayNumber_addDays]
  omega

/-- The numbers below two bounds. -/
theorem filter_lt_range (m k : Nat) : (List.range m).filter (· < k) = List.range (min m k) := by
  induction m with
  | zero => simp
  | succ m ih =>
    rw [List.range_succ, List.filter_append, ih]
    by_cases hk : m < k
    · rw [List.filter_cons_of_pos (by simpa using hk), List.filter_nil,
        show min (m + 1) k = min m k + 1 by omega, List.range_succ, show min m k = m by omega]
    · rw [List.filter_cons_of_neg (by simpa using hk), List.filter_nil, List.append_nil,
        show min (m + 1) k = min m k by omega]

/-- The listing of days leaves out the last date of the calendar, and nothing else. -/
theorem upTo_eq_filter (a b : Date) : a.upTo b = (a.through b).filter (· < last) := by
  have hlt : ((fun d : Date => decide (d < last)) ∘ fun n : Nat => a.addDays n) =
      fun n : Nat => decide (n < (last.dayNumber - a.dayNumber).toNat) := by
    funext n
    refine decide_eq_decide.mpr ?_
    rw [lt_def, dayNumber_addDays]
    omega
  rw [upTo, through, List.filter_map, hlt, filter_lt_range]
  congr 2
  omega

end Date

/-! ## Readings and the days they fall on -/

namespace WallTime

instance : LinearOrder WallTime where
  le_refl a := by rw [le_def]; omega
  le_trans a b c hab hbc := by rw [le_def] at *; omega
  le_antisymm a b hab hba := by
    rw [le_def] at hab hba
    exact WallTime.ext (by omega) (by omega)
  le_total a b := by rw [le_def, le_def]; omega
  lt_iff_le_not_ge a b := by rw [lt_def, le_def, le_def]; omega
  toDecidableLE := inferInstance
  toDecidableLT := inferInstance
  toDecidableEq := inferInstance

theorem seconds_dayStart (d : Date) : (dayStart d).seconds = 86400 * d.dayNumber := by
  simp [dayStart, ofTime, secondsPerDay]

theorem seconds_dayEnd (d : Date) : (dayEnd d).seconds = 86400 * d.dayNumber + 86399 := by
  simp [dayEnd, ofTime, TimeOfDay.ofHMS, secondsPerDay]

@[simp] theorem nanos_dayStart (d : Date) : (dayStart d).nanos = 0 := rfl

theorem dayNumber_date (w : WallTime) : w.date.dayNumber = w.seconds / 86400 := rfl

theorem second_time_lt (w : WallTime) : w.time.second < secondsPerDay := by
  simp only [time, secondsPerDay]
  omega

@[simp] theorem date_dayStart (d : Date) : (dayStart d).date = d := by
  refine Date.ext ?_
  rw [dayNumber_date, seconds_dayStart]
  omega

@[simp] theorem date_dayEnd (d : Date) : (dayEnd d).date = d := by
  refine Date.ext ?_
  rw [dayNumber_date, seconds_dayEnd]
  omega

theorem dayStart_le_iff {d : Date} {w : WallTime} : dayStart d ≤ w ↔ d ≤ w.date := by
  rw [le_def, Date.le_def, seconds_dayStart, nanos_dayStart, dayNumber_date]
  omega

theorem lt_dayStart_iff {d : Date} {w : WallTime} : w < dayStart d ↔ w.date < d := by
  rw [← not_le, dayStart_le_iff, not_le]

theorem dayStart_lt_dayEnd (d : Date) : dayStart d < dayEnd d := by
  rw [lt_def, seconds_dayStart, seconds_dayEnd]
  omega

theorem date_mono {a b : WallTime} (h : a ≤ b) : a.date ≤ b.date := by
  rw [le_def] at h
  rw [Date.le_def, dayNumber_date, dayNumber_date]
  omega

/-- Only the first second of a day, and none of its fractions, is at midnight. -/
theorem eq_dayStart_iff {w : WallTime} : w.time = ⟨0, 0⟩ ↔ w = dayStart w.date := by
  constructor
  · intro h
    have hs := congrArg TimeOfDay.second h
    have hn := congrArg TimeOfDay.nanos h
    simp only [time, secondsPerDay] at hs hn
    refine WallTime.ext ?_ hn
    rw [seconds_dayStart, dayNumber_date]
    omega
  · intro h
    rw [h, time, seconds_dayStart, secondsPerDay, nanos_dayStart,
      show (86400 * w.date.dayNumber % ((86400 : Nat) : Int)).toNat = 0 by omega]

end WallTime

namespace Instant

instance : LinearOrder Instant where
  le_refl a := by rw [le_def]; omega
  le_trans a b c hab hbc := by rw [le_def] at *; omega
  le_antisymm a b hab hba := by
    rw [le_def] at hab hba
    exact Instant.ext (by omega) (by omega)
  le_total a b := by rw [le_def, le_def]; omega
  lt_iff_le_not_ge a b := by rw [lt_def, le_def, le_def]; omega
  toDecidableLE := inferInstance
  toDecidableLT := inferInstance
  toDecidableEq := inferInstance

end Instant
end Almanac
