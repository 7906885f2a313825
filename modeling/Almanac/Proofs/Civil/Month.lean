import Almanac.Proofs.Civil.Order

/-! # The dates of a month

The year of a day is read off a guess (`Date.year`); it is the year whose first day is the
last one not after the day (`Date.year_spec`, `Date.year_eq`).  Then the months that have
begun give the month (`Date.month_eq`), so all dates of a range that is a month are in that
month (`Range.IsMonth.month_eq`).  The calendar finds the last date of every month but its
own last one, behind which it has no date (`lastDayOfMonth_eq`).
-/
namespace Almanac

theorem yearStart_succ (y : Int) : yearStart (y + 1) = yearStart y + yearLength y := by
  have hquarter : (y + 1 - 1) / 4 = (y - 1) / 4 + if y % 4 = 0 then 1 else 0 := by
    split <;> omega
  have hcentury : (y + 1 - 1) / 100 = (y - 1) / 100 + if y % 100 = 0 then 1 else 0 := by
    split <;> omega
  have hcycle : (y + 1 - 1) / 400 = (y - 1) / 400 + if y % 400 = 0 then 1 else 0 := by
    split <;> omega
  rw [yearStart, yearStart, hquarter, hcentury, hcycle, yearLength, isLeapYear]
  by_cases h4 : y % 4 = 0 <;> by_cases h100 : y % 100 = 0 <;> by_cases h400 : y % 400 = 0 <;>
    simp [h4, h100, h400] <;> omega

theorem yearLength_eq (y : Int) : yearLength y = 365 ∨ yearLength y = 366 := by
  unfold yearLength
  split
  · exact .inr rfl
  · exact .inl rfl

theorem daysBeforeMonth_mono (leap : Bool) {m n : Nat} (hmn : m ≤ n) (hn : n ≤ 13) :
    daysBeforeMonth leap m ≤ daysBeforeMonth leap n := by
  have hall : ∀ leap, ∀ n ≤ 13, ∀ m ≤ n, daysBeforeMonth leap m ≤ daysBeforeMonth leap n := by
    decide
  exact hall leap n hn m hmn

theorem daysBeforeMonth_succ (y : Int) {m : Nat} (hm : m ≤ 12) :
    daysBeforeMonth (isLeapYear y) (m + 1) =
      daysBeforeMonth (isLeapYear y) m + daysInMonth y m := by
  have hle : daysBeforeMonth (isLeapYear y) m ≤ daysBeforeMonth (isLeapYear y) (m + 1) :=
    daysBeforeMonth_mono _ (Nat.le_succ m) (by omega)
  rw [daysInMonth]
  omega

theorem daysBeforeMonth_thirteen (y : Int) :
    daysBeforeMonth (isLeapYear y) 13 = yearLength y := by
  unfold yearLength
  split <;> rename_i h
  · rw [h]; rfl
  · rw [Bool.eq_false_iff.mpr h]; rfl

/-- No month begins after the end of its year. -/
theorem daysBeforeMonth_le_yearLength (y : Int) {m : Nat} (hm : m ≤ 13) :
    daysBeforeMonth (isLeapYear y) m ≤ yearLength y := by
  rw [← daysBeforeMonth_thirteen]
  exact daysBeforeMonth_mono _ hm le_rfl

theorem yearStart_mono {y z : Int} (h : y ≤ z) : yearStart y ≤ yearStart z := by
  simp only [yearStart]
  omega

theorem one_le_daysInMonth (y : Int) {m : Nat} (hm : 1 ≤ m ∧ m ≤ 12) :
    1 ≤ daysInMonth y m := by
  have hall : ∀ leap, ∀ m ≤ 12, 1 ≤ m →
      1 ≤ daysBeforeMonth leap (m + 1) - daysBeforeMonth leap m := by
    decide
  exact hall _ m hm.2 hm.1

namespace Date

theorem dayNumber_ofYMD (y : Int) (m day : Nat) :
    (ofYMD y m day).dayNumber =
      yearStart y + daysBeforeMonth (isLeapYear y) m + day - 1 := rfl

theorem dayNumber_newYear (y : Int) : (ofYMD y 1 1).dayNumber = yearStart y := by
  have hdays : daysBeforeMonth (isLeapYear y) 1 = 0 := rfl
  rw [dayNumber_ofYMD, hdays]
  omega

theorem ofYMD_le_ofYMD (y : Int) (m : Nat) {day day' : Nat} (h : day ≤ day') :
    ofYMD y m day ≤ ofYMD y m day' := by
  simp only [le_def, ofYMD]
  omega

/-- The year of a day has begun, and the next one has not. -/
theorem year_spec (d : Date) :
    yearStart d.year ≤ d.dayNumber ∧ d.dayNumber < yearStart (d.year + 1) := by
  obtain ⟨n⟩ := d
  -- The guess is off by one year at most.
  have hguess : yearStart (400 * (n + 719162) / 146097 + 1 - 1) ≤ n ∧
      n < yearStart (400 * (n + 719162) / 146097 + 1 + 1 + 1) := by
    simp only [yearStart]
    omega
  simp only [year]
  generalize 400 * (n + 719162) / 146097 + 1 = guess at hguess ⊢
  split
  · rw [Int.sub_add_cancel]
    exact ⟨hguess.1, ‹_›⟩
  · split
    · exact ⟨‹_›, hguess.2⟩
    · exact ⟨Int.not_lt.mp ‹_›, Int.not_le.mp ‹_›⟩

/-- The year of a day is the one in which it lies. -/
theorem year_eq {d : Date} {y : Int} (hstart : yearStart y ≤ d.dayNumber)
    (hend : d.dayNumber < yearStart (y + 1)) : d.year = y := by
  obtain ⟨hlow, hhigh⟩ := d.year_spec
  rcases Int.lt_trichotomy d.year y with hlt | heq | hlt
  · have hle : yearStart (d.year + 1) ≤ yearStart y := yearStart_mono (by omega)
    omega
  · exact heq
  · have hle : yearStart (y + 1) ≤ yearStart d.year := yearStart_mono (by omega)
    omega

/-- A date of a month is in the year of the month. -/
theorem year_eq_of_month {d : Date} {y : Int} {m : Nat} (hm : m ≤ 12)
    (hfirst : ofYMD y m 1 ≤ d) (hlast : d ≤ ofYMD y m (daysInMonth y m)) : d.year = y := by
  have hmonth := daysBeforeMonth_succ y hm
  have hafter := daysBeforeMonth_le_yearLength y (m := m + 1) (by omega)
  have hnext := yearStart_succ y
  simp only [le_def, ofYMD] at hfirst hlast
  exact year_eq (by omega) (by omega)

theorem year_newYear (y : Int) : (ofYMD y 1 1).year = y :=
  year_eq_of_month (by decide) le_rfl
    (ofYMD_le_ofYMD y 1 (one_le_daysInMonth y ⟨le_rfl, by decide⟩))

/-- The month of a day is the last one that has begun. -/
theorem month_eq {d : Date} {y : Int} {m : Nat} (hm : 1 ≤ m ∧ m ≤ 12)
    (hfirst : ofYMD y m 1 ≤ d) (hlast : d ≤ ofYMD y m (daysInMonth y m)) : d.month = m := by
  have hyear : d.year = y := year_eq_of_month hm.2 hfirst hlast
  have hmonth := daysBeforeMonth_succ y hm.2
  simp only [le_def, ofYMD] at hfirst hlast
  have hday : daysBeforeMonth (isLeapYear y) m ≤ d.dayOfYear ∧
      d.dayOfYear < daysBeforeMonth (isLeapYear y) (m + 1) := by
    rw [dayOfYear, hyear]
    omega
  -- The months that have begun are those up to `m`, and their number is the month.
  have hbegun : (List.range' 1 12).filter
        (fun k => daysBeforeMonth (isLeapYear y) k ≤ d.dayOfYear) =
      (List.range' 1 12).filter (· ≤ m) := by
    refine List.filter_congr fun k hk => decide_eq_decide.mpr ⟨fun hle => ?_, fun hle => ?_⟩
    · by_contra hlt
      have hk13 := List.mem_range'_1.mp hk
      have hnext : daysBeforeMonth (isLeapYear y) (m + 1) ≤ daysBeforeMonth (isLeapYear y) k :=
        daysBeforeMonth_mono _ (Nat.lt_of_not_le hlt) (by omega)
      omega
    · exact (daysBeforeMonth_mono _ hle (by omega)).trans hday.1
  have hcount : ∀ m ≤ 12, ((List.range' 1 12).filter (· ≤ m)).length = m := by decide
  rw [month, hyear, hbegun, hcount m hm.2]

end Date

/-- Whether a range is exactly one month. -/
structure Range.IsMonth (r : Range) (y : Int) (m : Nat) : Prop where
  month : 1 ≤ m ∧ m ≤ 12
  first : r.firstDate = Date.ofYMD y m 1
  last : r.lastDate = Date.ofYMD y m (daysInMonth y m)

/-- The dates of a range that is a month are in that month. -/
theorem Range.IsMonth.month_eq {r : Range} {y : Int} {m : Nat} (h : r.IsMonth y m) {d : Date}
    (hfirst : r.firstDate ≤ d) (hlast : d ≤ r.lastDate) : d.month = m :=
  Date.month_eq h.month (h.first ▸ hfirst) (h.last ▸ hlast)

/-- A range that is a month begins in it. -/
theorem Range.IsMonth.focalMonth_eq {r : Range} {y : Int} {m : Nat} (h : r.IsMonth y m) :
    r.focalMonth = (y, m) := by
  have hdays := one_le_daysInMonth y h.month
  have hfirst : Date.ofYMD y m 1 ≤ r.firstDate := h.first.ge
  have hlast : r.firstDate ≤ Date.ofYMD y m (daysInMonth y m) := by
    rw [h.first]
    exact Date.ofYMD_le_ofYMD y m hdays
  rw [focalMonth, Date.year_eq_of_month h.month.2 hfirst hlast,
    Date.month_eq h.month hfirst hlast]

/-! ## The last date of a month -/

/-- The year of a date of the calendar has six digits at most. -/
theorem year_mem_of_inCalendar {d : Date} (hfirst : Date.first ≤ d) (hlast : d ≤ Date.last) :
    -262143 ≤ d.year ∧ d.year ≤ 262142 := by
  obtain ⟨hstart, hend⟩ := d.year_spec
  have hbegin : Date.first.dayNumber = yearStart (-262143) := by decide
  have hstop : Date.last.dayNumber < yearStart 262143 := by decide
  rw [Date.le_def] at hfirst hlast
  constructor
  · by_contra hlt
    have hle : yearStart (d.year + 1) ≤ yearStart (-262143) := yearStart_mono (by omega)
    omega
  · by_contra hlt
    have hle : yearStart 262143 ≤ yearStart d.year := yearStart_mono (by omega)
    omega

/-- January of the next year comes after December. -/
theorem nextMonth?_december {y : Int} (hy : y < 2147483647) :
    nextMonth? y 12 = some (y + 1, 1) := by
  rw [nextMonth?, if_pos rfl, if_pos (by omega)]

/-- Any other month is followed by one of the same year. -/
theorem nextMonth?_of_ne {y : Int} {m : Nat} (hdecember : m ≠ 12) (hm : m ≤ 12) :
    nextMonth? y m = some (y, m + 1) := by
  rw [nextMonth?, if_neg hdecember, if_pos (by rw [UInt32.size]; omega)]

/-- So every month is followed by one, but the last one that 32 bits can name. -/
theorem isSome_nextMonth? {y : Int} {m : Nat} (hm : m ≤ 12) (hy : y < 2147483647) :
    (nextMonth? y m).isSome = true := by
  by_cases hdecember : m = 12
  · rw [hdecember, nextMonth?_december hy]
    rfl
  · rw [nextMonth?_of_ne hdecember hm]
    rfl

/-- The year of a month that the calendar has. -/
theorem year_mem_of_month {y : Int} {m : Nat} (hm : 1 ≤ m ∧ m ≤ 12)
    (hfirst : Date.first ≤ Date.ofYMD y m 1)
    (hlast : Date.ofYMD y m (daysInMonth y m) ≤ Date.last) : -262143 ≤ y ∧ y ≤ 262142 := by
  have hdays := Date.ofYMD_le_ofYMD y m (one_le_daysInMonth y hm)
  have hyear := year_mem_of_inCalendar hfirst (hdays.trans hlast)
  rwa [Date.year_eq_of_month hm.2 le_rfl hdays] at hyear

/-- **The last date of a month**, unless it is the last date of the calendar. -/
theorem lastDayOfMonth_eq {y : Int} {m : Nat} (hm : 1 ≤ m ∧ m ≤ 12)
    (hfirst : Date.first ≤ Date.ofYMD y m 1)
    (hlast : Date.ofYMD y m (daysInMonth y m) < Date.last) :
    lastDayOfMonth y m = .ok (Date.ofYMD y m (daysInMonth y m)) := by
  have hdays := one_le_daysInMonth y hm
  have hmonth := daysBeforeMonth_succ y hm.2
  have hyear := year_mem_of_month hm hfirst hlast.le
  by_cases hdecember : m = 12
  · subst hdecember
    have hbefore : y ≠ 262142 := by
      rintro rfl
      exact absurd hlast (by decide)
    have hmonths : nextMonth? y 12 = some (y + 1, 1) := nextMonth?_december (by omega)
    have hnext : Date.ofYMD? (y + 1) 1 1 = some (Date.ofYMD (y + 1) 1 1) :=
      if_pos ⟨by omega, by omega, le_rfl, by omega, le_rfl,
        one_le_daysInMonth _ ⟨le_rfl, by omega⟩⟩
    have hday : (Date.ofYMD (y + 1) 1 1).addDays (-1) =
        Date.ofYMD y 12 (daysInMonth y 12) := by
      have hlength := daysBeforeMonth_thirteen y
      have hstart := yearStart_succ y
      refine Date.ext ?_
      simp only [Date.addDays, Date.ofYMD, daysBeforeMonth] at hmonth hlength ⊢
      omega
    rw [lastDayOfMonth, hmonths]
    dsimp only
    rw [requireDate, hnext, ← hday]
    rfl
  · have hmonths : nextMonth? y m = some (y, m + 1) := nextMonth?_of_ne hdecember hm.2
    have hnext : Date.ofYMD? y (m + 1) 1 = some (Date.ofYMD y (m + 1) 1) :=
      if_pos ⟨by omega, by omega, by omega, by omega, le_rfl,
        one_le_daysInMonth _ ⟨by omega, by omega⟩⟩
    have hday : (Date.ofYMD y (m + 1) 1).addDays (-1) = Date.ofYMD y m (daysInMonth y m) := by
      refine Date.ext ?_
      simp only [Date.addDays, Date.ofYMD]
      omega
    rw [lastDayOfMonth, hmonths]
    dsimp only
    rw [requireDate, hnext, ← hday]
    rfl

end Almanac
