import Almanac.Proofs.Civil.Month

/-! # Year, month and day

A date lies in just one month, on one day of it, so the calendar finds a date by its year, its
month and its day, and no other date (`Date.ofYMD?_eq_some`).
-/
namespace Almanac

theorem daysInMonth_le (y : Int) {m : Nat} (hm : m ≤ 12) : daysInMonth y m ≤ 31 := by
  have hall : ∀ leap, ∀ m ≤ 12,
      daysBeforeMonth leap (m + 1) - daysBeforeMonth leap m ≤ 31 := by
    decide
  exact hall _ m hm

theorem daysInMonth_december (y : Int) : daysInMonth y 12 = 31 := by
  rw [daysInMonth]
  cases isLeapYear y <;> rfl

namespace Date

/-- Every day of a year lies in one of its months. -/
theorem exists_month_of_lt (leap : Bool) {n : Nat} (h : n < daysBeforeMonth leap 13) :
    ∃ m, (1 ≤ m ∧ m ≤ 12) ∧ daysBeforeMonth leap m ≤ n ∧ n < daysBeforeMonth leap (m + 1) := by
  have hrun : ∀ k, n < daysBeforeMonth leap (k + 1) →
      ∃ m, (1 ≤ m ∧ m ≤ k) ∧ daysBeforeMonth leap m ≤ n ∧ n < daysBeforeMonth leap (m + 1) := by
    intro k
    induction k with
    | zero => exact fun hlt => absurd hlt (Nat.not_lt_zero n)
    | succ k ih =>
      intro hlt
      by_cases hbegun : daysBeforeMonth leap (k + 1) ≤ n
      · exact ⟨k + 1, ⟨Nat.le_add_left 1 k, le_rfl⟩, hbegun, hlt⟩
      · obtain ⟨m, ⟨hone, hle⟩, hm⟩ := ih (not_le.mp hbegun)
        exact ⟨m, ⟨hone, Nat.le_succ_of_le hle⟩, hm⟩
  exact hrun 12 h

/-- Every date lies in a month of its year. -/
theorem exists_month (d : Date) :
    ∃ m, (1 ≤ m ∧ m ≤ 12) ∧ ofYMD d.year m 1 ≤ d ∧ d ≤ ofYMD d.year m (daysInMonth d.year m) := by
  obtain ⟨hbegin, hend⟩ := d.year_spec
  have hlength := yearStart_succ d.year
  have hlast := daysBeforeMonth_thirteen d.year
  obtain ⟨m, hm, hlow, hhigh⟩ := exists_month_of_lt (isLeapYear d.year)
    (n := (d.dayNumber - yearStart d.year).toNat) (by omega)
  have hmonth := daysBeforeMonth_succ d.year hm.2
  refine ⟨m, hm, ?_, ?_⟩
  · rw [le_def, dayNumber_ofYMD]
    omega
  · rw [le_def, dayNumber_ofYMD]
    omega

/-- The date of a year, a month and a day of that month has these parts. -/
theorem parts_ofYMD {y : Int} {m day : Nat} (hm : 1 ≤ m ∧ m ≤ 12)
    (hday : 1 ≤ day ∧ day ≤ daysInMonth y m) :
    (ofYMD y m day).year = y ∧ (ofYMD y m day).month = m ∧ (ofYMD y m day).day = day := by
  have hfirst : ofYMD y m 1 ≤ ofYMD y m day := ofYMD_le_ofYMD y m hday.1
  have hlast : ofYMD y m day ≤ ofYMD y m (daysInMonth y m) := ofYMD_le_ofYMD y m hday.2
  have hyear := year_eq_of_month hm.2 hfirst hlast
  have hmonth := month_eq hm hfirst hlast
  refine ⟨hyear, hmonth, ?_⟩
  rw [Date.day, dayOfYear, hyear, hmonth, dayNumber_ofYMD]
  omega

/-- A later month of a year begins after the end of an earlier one. -/
theorem lastOfMonth_lt_ofYMD (y : Int) {m n : Nat} (hmn : m < n) (hn : n ≤ 12) :
    ofYMD y m (daysInMonth y m) < ofYMD y n 1 := by
  have hsucc := daysBeforeMonth_succ y (m := m) (by omega)
  have hmono := daysBeforeMonth_mono (isLeapYear y) (m := m + 1) (n := n) hmn (by omega)
  rw [lt_def, dayNumber_ofYMD, dayNumber_ofYMD]
  omega

/-- The parts of a date name a day of a month. -/
theorem parts_mem (d : Date) :
    (1 ≤ d.month ∧ d.month ≤ 12) ∧ (1 ≤ d.day ∧ d.day ≤ daysInMonth d.year d.month) ∧
      ofYMD d.year d.month d.day = d := by
  obtain ⟨m, hm, hfirst, hlast⟩ := d.exists_month
  have hsucc := daysBeforeMonth_succ d.year hm.2
  rw [month_eq hm hfirst hlast]
  rw [le_def, dayNumber_ofYMD] at hfirst hlast
  have hday : d.day = d.dayOfYear - daysBeforeMonth (isLeapYear d.year) m + 1 := by
    rw [Date.day, month_eq hm (by rw [le_def, dayNumber_ofYMD]; omega)
      (by rw [le_def, dayNumber_ofYMD]; omega)]
  rw [dayOfYear] at hday
  refine ⟨hm, by omega, Date.ext ?_⟩
  rw [dayNumber_ofYMD]
  omega

/-- The dates of a year. -/
theorem year_eq_iff {d : Date} {y : Int} :
    d.year = y ↔ ofYMD y 1 1 ≤ d ∧ d ≤ ofYMD y 12 31 := by
  have hlength := daysBeforeMonth_thirteen y
  have hdecember : daysBeforeMonth (isLeapYear y) 13 =
      daysBeforeMonth (isLeapYear y) 12 + daysInMonth y 12 := daysBeforeMonth_succ y le_rfl
  have hdays := daysInMonth_december y
  have hnext := yearStart_succ y
  rw [le_def, le_def, dayNumber_newYear, dayNumber_ofYMD]
  constructor
  · rintro rfl
    obtain ⟨hbegin, hend⟩ := d.year_spec
    omega
  · rintro ⟨hbegin, hend⟩
    exact year_eq hbegin (by omega)

/-- The dates of a month. -/
theorem year_month_eq_iff {d : Date} {y : Int} {m : Nat} (hm : 1 ≤ m ∧ m ≤ 12) :
    d.year = y ∧ d.month = m ↔ ofYMD y m 1 ≤ d ∧ d ≤ ofYMD y m (daysInMonth y m) := by
  constructor
  · rintro ⟨rfl, rfl⟩
    obtain ⟨m, hm, hfirst, hlast⟩ := d.exists_month
    rw [month_eq hm hfirst hlast]
    exact ⟨hfirst, hlast⟩
  · rintro ⟨hfirst, hlast⟩
    exact ⟨year_eq_of_month hm.2 hfirst hlast, month_eq hm hfirst hlast⟩

/-- A month lies in its year. -/
theorem year_of_month (y : Int) {m : Nat} (hm : 1 ≤ m ∧ m ≤ 12) :
    ofYMD y 1 1 ≤ ofYMD y m 1 ∧ ofYMD y m (daysInMonth y m) ≤ ofYMD y 12 31 := by
  have hdays := ofYMD_le_ofYMD y m (one_le_daysInMonth y hm)
  exact ⟨(year_eq_iff.mp ((year_month_eq_iff hm).mpr ⟨le_rfl, hdays⟩).1).1,
    (year_eq_iff.mp ((year_month_eq_iff hm).mpr ⟨hdays, le_rfl⟩).1).2⟩

/-- **A date is found by its parts**, and by no others. -/
theorem ofYMD?_eq_some {y : Int} {m day : Nat} {d : Date} :
    ofYMD? y m day = some d ↔
      (d.year = y ∧ d.month = m ∧ d.day = day) ∧ first ≤ d ∧ d ≤ last := by
  have hbegin : first.dayNumber = yearStart (-262143) := by decide
  have hend : last.dayNumber + 1 = yearStart 262143 := by decide
  rw [ofYMD?]
  constructor
  · intro h
    split at h
    · rename_i hparts
      obtain ⟨hlow, hhigh, hone, htwelve, hday⟩ := hparts
      obtain rfl := Option.some.inj h
      refine ⟨parts_ofYMD ⟨hone, htwelve⟩ hday, ?_⟩
      have hyears : yearStart (-262143) ≤ yearStart y ∧ yearStart (y + 1) ≤ yearStart 262143 :=
        ⟨yearStart_mono hlow, yearStart_mono (by omega)⟩
      have hsucc := daysBeforeMonth_succ y htwelve
      have hyear := daysBeforeMonth_le_yearLength y (m := m + 1) (by omega)
      have hlength := yearStart_succ y
      rw [le_def, le_def, dayNumber_ofYMD]
      omega
    · cases h
  · rintro ⟨⟨rfl, rfl, rfl⟩, hfirst, hlast⟩
    obtain ⟨⟨hone, htwelve⟩, hday, heq⟩ := d.parts_mem
    obtain ⟨hlow, hhigh⟩ := year_mem_of_inCalendar hfirst hlast
    rw [if_pos ⟨hlow, hhigh, hone, htwelve, hday⟩, heq]

end Date
end Almanac
