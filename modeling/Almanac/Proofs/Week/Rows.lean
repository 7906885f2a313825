import Almanac.Proofs.Civil.Month
import Almanac.Proofs.Sorted
import Almanac.Proofs.Week.Columns

/-! # The week rows of a month

The rows of a month start on its first date's row and end with the last row that has begun
by its last date; so every date of the month is in just one of them, and the dates of a list
in order are those of the rows one after another (`flatMap_weekStartsFrom`).

A calendar lays out the rows of its month, if its days are not small and the calendar has
a date behind the month (`Layout.packWeeks_eq`).
-/
namespace Almanac

theorem mem_weekStartsFrom {start last d : Date} :
    d ∈ weekStartsFrom start last ↔
      (∃ n : Nat, start.addDays (daysPerWeek * n) = d) ∧ d ≤ last := by
  rw [weekStartsFrom, List.mem_filter, decide_eq_true_iff, List.mem_map]
  refine and_congr_left fun hle => ⟨?_, ?_⟩
  · rintro ⟨n, -, heq⟩
    exact ⟨n, heq⟩
  · rintro ⟨n, rfl⟩
    refine ⟨n, List.mem_range.mpr ?_, rfl⟩
    rw [Date.le_def, Date.dayNumber_addDays, daysPerWeek] at hle
    rw [Date.daysUntil, daysPerWeek]
    omega

/-- A row starts behind the last date of the rows before it. -/
theorem apart_weekStartsFrom (start last : Date) :
    (weekStartsFrom start last).Pairwise fun a b => a.addDays daysPerWeek ≤ b := by
  refine List.Pairwise.filter _ (List.pairwise_map.mpr (List.pairwise_lt_range.imp ?_))
  intro m n hmn
  rw [Date.le_def, Date.dayNumber_addDays, Date.dayNumber_addDays, Date.dayNumber_addDays,
    daysPerWeek]
  omega

theorem pairwise_weekStartsFrom (start last : Date) :
    (weekStartsFrom start last).Pairwise (· < ·) := by
  refine (apart_weekStartsFrom start last).imp fun {a b} hapart => ?_
  rw [Date.le_def, Date.dayNumber_addDays, daysPerWeek] at hapart
  rw [Date.lt_def]
  omega

/-- The row of a date of a stretch is one of the rows of the stretch. -/
theorem weekStart_mem_weekStartsFrom {firstDay : Nat} (h : firstDay ≤ 6) {first last d : Date}
    (hfirst : first ≤ d) (hlast : d ≤ last) :
    d.weekStart firstDay ∈ weekStartsFrom (first.weekStart firstDay) last := by
  rw [Date.le_def] at hfirst hlast
  refine mem_weekStartsFrom.mpr ⟨⟨((d.weekStart firstDay).dayNumber -
    (first.weekStart firstDay).dayNumber).toNat / 7, Date.ext ?_⟩, ?_⟩
  · rw [Date.dayNumber_addDays, Date.dayNumber_weekStart h, Date.dayNumber_weekStart h,
      daysPerWeek]
    omega
  · rw [Date.le_def, Date.dayNumber_weekStart h]
    omega

/-- **The dates of a stretch row by row.** -/
theorem flatMap_weekStartsFrom {firstDay : Nat} (h : firstDay ≤ 6) {first last : Date}
    {days : List Date} (hdays : days.Pairwise (· < ·))
    (hin : ∀ d ∈ days, first ≤ d ∧ d ≤ last) :
    ((weekStartsFrom (first.weekStart firstDay) last).flatMap fun start =>
      days.filter fun d => d.weekStart firstDay = start) = days := by
  refine Sorted.flatMap_filter_eq_self (pairwise_weekStartsFrom _ _) (fun d hd => ?_) ?_
  · exact weekStart_mem_weekStartsFrom h (hin d hd).1 (hin d hd).2
  · exact List.pairwise_map.mpr (hdays.imp fun hlt => Date.weekStart_mono h hlt.le)

/-! ## The weeks of a month -/

namespace Layout

variable {l : Layout} {y : Int} {m : Nat}

/-- The rows of a month, if the calendar goes on behind it. -/
theorem monthWeekStarts_eq_weekStartsFrom (hm : 1 ≤ m ∧ m ≤ 12)
    (hfirst : Date.first ≤ Date.ofYMD y m 1)
    (hlast : Date.ofYMD y m (daysInMonth y m) < Date.last) :
    l.monthWeekStarts y m =
      weekStartsFrom ((Date.ofYMD y m 1).weekStart l.style.firstDay)
        (Date.ofYMD y m (daysInMonth y m)) := by
  have hdays := one_le_daysInMonth y hm
  have hyear := year_mem_of_inCalendar hfirst ((Date.ofYMD_le_ofYMD y m hdays).trans hlast.le)
  rw [Date.year_eq_of_month hm.2 le_rfl (Date.ofYMD_le_ofYMD y m hdays)] at hyear
  have hbegin : Date.ofYMD? y m 1 = some (Date.ofYMD y m 1) :=
    if_pos ⟨hyear.1, hyear.2, hm.1, hm.2, le_rfl, hdays⟩
  rw [monthWeekStarts, hbegin, lastDayOfMonth_eq hm hfirst hlast]
  rfl

theorem monthWeekStarts_eq (hmonth : l.range.IsMonth y m)
    (hfirst : Date.first ≤ l.range.firstDate) (hlast : l.range.lastDate < Date.last) :
    l.monthWeekStarts y m =
      weekStartsFrom (l.range.firstDate.weekStart l.style.firstDay) l.range.lastDate := by
  rw [hmonth.first] at hfirst ⊢
  rw [hmonth.last] at hlast ⊢
  exact monthWeekStarts_eq_weekStartsFrom hmonth.month hfirst hlast

/-- **The weeks of a month of full days**, if the calendar goes on behind it. -/
theorem packWeeks_eq (hgranularity : l.range.granularity = .month)
    (hmini : l.style.mini = false) (hmonth : l.range.IsMonth y m)
    (hfirst : Date.first ≤ l.range.firstDate) (hlast : l.range.lastDate < Date.last)
    (packerFirstDay : Nat) :
    l.packWeeks packerFirstDay =
      (weekStartsFrom (l.range.firstDate.weekStart l.style.firstDay) l.range.lastDate).map
        fun start => (l.buildWeek { firstDay := packerFirstDay } start (some m)).1 := by
  rw [packWeeks, hgranularity]
  dsimp only
  rw [if_neg (by simp [hmini]), hmonth.focalMonth_eq]
  dsimp only
  rw [monthWeekStarts_eq hmonth hfirst hlast]

end Layout
end Almanac
