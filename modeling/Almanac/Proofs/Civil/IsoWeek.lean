import Almanac.Proofs.Civil.Month
import Almanac.Proofs.Civil.WeekRow

/-! # ISO weeks

The weeks of an ISO year begin on the Monday `Date.isoYearStart` and go on until the next
ISO year starts (`Date.isoYear_eq_iff`); their numbers count the sevens of days from there
(`Date.isoWeek_eq`).  So the Monday of a week of a year is found exactly if the year has
that week (`Date.ofIsoWeek?_eq_some`).

The number beside a week row that does not start on Monday counts the sevens of days from
the Monday of the week that holds January 1, in the year of the date itself
(`Date.weekNumber_eq`).
-/
namespace Almanac
namespace Date

theorem dayNumber_isoThursday (d : Date) :
    d.isoThursday.dayNumber = d.dayNumber + 3 - (d.dayNumber + 3) % 7 := by
  have hday := d.fromSunday_weekday
  rw [isoThursday, dayNumber_addDays, Weekday.fromMonday]
  omega

theorem dayNumber_isoYearStart (y : Int) :
    (isoYearStart y).dayNumber = yearStart y + 3 - (yearStart y + 6) % 7 := by
  have hdays : daysBeforeMonth (isLeapYear y) 1 = 0 := rfl
  rw [isoYearStart, dayNumber_weekStart (by decide), dayNumber_ofYMD, hdays]
  omega

/-- An ISO year has 52 or 53 weeks. -/
theorem isoYearStart_succ (y : Int) :
    ((isoYearStart (y + 1)).dayNumber = (isoYearStart y).dayNumber + 364) ∨
      (isoYearStart (y + 1)).dayNumber = (isoYearStart y).dayNumber + 371 := by
  have hlength := yearLength_eq y
  have hnext := yearStart_succ y
  rw [dayNumber_isoYearStart, dayNumber_isoYearStart]
  omega

/-- The dates of an ISO year. -/
theorem isoYear_eq_iff {d : Date} {y : Int} :
    d.isoYear = y ↔ (isoYearStart y).dayNumber ≤ d.dayNumber ∧
      d.dayNumber < (isoYearStart (y + 1)).dayNumber := by
  have hthursday := d.dayNumber_isoThursday
  rw [dayNumber_isoYearStart, dayNumber_isoYearStart]
  constructor
  · rintro rfl
    obtain ⟨hstart, hend⟩ := d.isoThursday.year_spec
    rw [← isoYear] at hstart hend
    omega
  · rintro ⟨hstart, hend⟩
    exact year_eq (by omega) (by omega)

/-- The first days of January belong to the old ISO year before the new one starts. -/
theorem isoYear_eq_sub_one {d : Date} (h : d.dayNumber < (isoYearStart d.year).dayNumber) :
    d.isoYear = d.year - 1 := by
  obtain ⟨hbegin, -⟩ := d.year_spec
  have hstart := dayNumber_isoYearStart d.year
  have hlength := isoYearStart_succ (d.year - 1)
  rw [Int.sub_add_cancel] at hlength
  refine isoYear_eq_iff.mpr ?_
  rw [Int.sub_add_cancel]
  omega

/-- The last days of December belong to the new ISO year once it has started. -/
theorem isoYear_eq_add_one {d : Date}
    (h : (isoYearStart (d.year + 1)).dayNumber ≤ d.dayNumber) : d.isoYear = d.year + 1 := by
  obtain ⟨-, hend⟩ := d.year_spec
  have hstart := dayNumber_isoYearStart (d.year + 1)
  have hlength := isoYearStart_succ (d.year + 1)
  exact isoYear_eq_iff.mpr (by omega)

/-- The number of a week counts the weeks from the start of its ISO year. -/
theorem isoWeek_eq (d : Date) :
    (d.isoWeek : Int) =
      (d.dayNumber - (isoYearStart d.isoYear).dayNumber) / 7 + 1 := by
  have hthursday := d.dayNumber_isoThursday
  obtain ⟨hstart, -⟩ := d.isoThursday.year_spec
  rw [isoWeek, dayOfYear, dayNumber_isoYearStart, isoYear]
  omega

theorem isoWeek_le (d : Date) : d.isoWeek ≤ 53 := by
  have hweek := d.isoWeek_eq
  obtain ⟨-, hend⟩ := isoYear_eq_iff.mp (Eq.refl d.isoYear)
  rcases isoYearStart_succ d.isoYear with hlength | hlength <;> omega

/-- The number of weeks of an ISO year. -/
theorem isoWeeks_eq (y : Int) :
    (isoWeeks y : Int) =
      ((isoYearStart (y + 1)).dayNumber - (isoYearStart y).dayNumber) / 7 := by
  have hlength := daysBeforeMonth_thirteen y
  have hdecember : ∀ leap, daysBeforeMonth leap 13 = daysBeforeMonth leap 12 + 31 := by decide
  rw [hdecember] at hlength
  have hnext := yearStart_succ y
  have hlast : (ofYMD y 12 28).dayNumber = yearStart (y + 1) - 4 := by
    rw [dayNumber_ofYMD]
    omega
  have hstart := dayNumber_isoYearStart y
  have hend := dayNumber_isoYearStart (y + 1)
  have hyear : (ofYMD y 12 28).isoYear = y := by
    rcases isoYearStart_succ y with h | h
    · exact isoYear_eq_iff.mpr (by omega)
    · exact isoYear_eq_iff.mpr (by omega)
  have hweek := (ofYMD y 12 28).isoWeek_eq
  rw [hyear] at hweek
  rw [isoWeeks, hweek]
  omega

/-- **The Monday of an ISO week** is the Monday with this year and this number. -/
theorem ofIsoWeek?_eq_some {y : Int} {week : Nat} {m : Date} :
    ofIsoWeek? y week = some m ↔
      m.weekday.fromSunday = 1 ∧ m.isoYear = y ∧ m.isoWeek = week ∧ m.inCalendar = true := by
  have hday := m.fromSunday_weekday
  have hweeks := isoWeeks_eq y
  have hstart := dayNumber_isoYearStart y
  have hweek := m.isoWeek_eq
  rw [ofIsoWeek?]
  constructor
  · intro h
    split at h
    · rename_i hcases
      obtain ⟨hpos, hle, hcalendar⟩ := hcases
      obtain rfl := Option.some.inj h
      rw [dayNumber_addDays] at hday hweek
      have hyear : ((isoYearStart y).addDays (7 * ((week : Int) - 1))).isoYear = y := by
        refine isoYear_eq_iff.mpr ?_
        rw [dayNumber_addDays]
        omega
      rw [hyear] at hweek
      exact ⟨by omega, hyear, by omega, hcalendar⟩
    · cases h
  · rintro ⟨hmonday, rfl, rfl, hcalendar⟩
    obtain ⟨hbegin, hend⟩ := isoYear_eq_iff.mp (Eq.refl m.isoYear)
    have hsame : (isoYearStart m.isoYear).addDays (7 * ((m.isoWeek : Int) - 1)) = m := by
      refine Date.ext ?_
      rw [dayNumber_addDays]
      omega
    have hle : m.isoWeek ≤ isoWeeks m.isoYear := by
      rcases isoYearStart_succ m.isoYear with hlength | hlength <;> omega
    rw [hsame]
    exact if_pos ⟨by omega, hle, hcalendar⟩

/-- The calendar has all days around a week of an ISO year that is neither its first nor its
last one. -/
theorem inCalendar_of_isoYear {d : Date} (hlow : -262142 ≤ d.isoYear) (hhigh : d.isoYear ≤ 262141) :
    first.dayNumber + 6 ≤ d.dayNumber ∧ d.dayNumber + 6 < last.dayNumber := by
  obtain ⟨hbegin, hend⟩ := isoYear_eq_iff.mp (Eq.refl d.isoYear)
  have hstart := dayNumber_isoYearStart d.isoYear
  have hnext := dayNumber_isoYearStart (d.isoYear + 1)
  have hearly : first.dayNumber + 365 = yearStart (-262142) := by decide
  have hlate : yearStart 262142 + 364 = last.dayNumber := by decide
  have hle : yearStart (-262142) ≤ yearStart d.isoYear := yearStart_mono hlow
  have hle' : yearStart (d.isoYear + 1) ≤ yearStart 262142 := yearStart_mono (by omega)
  omega

/-! ## The number beside a week row -/

/-- The Monday of the week that holds January 1. -/
theorem dayNumber_newYearMonday (y : Int) :
    ((ofYMD y 1 1).weekStart 1).dayNumber = yearStart y - (yearStart y + 3) % 7 := by
  rw [dayNumber_weekStart (by decide), dayNumber_newYear]
  omega

/-- January 1 is in ISO week 1 exactly if the ISO year starts with its week. -/
theorem isoWeek_newYear_eq_one_iff (y : Int) :
    (ofYMD y 1 1).isoWeek = 1 ↔
      ((ofYMD y 1 1).weekStart 1).dayNumber = (isoYearStart y).dayNumber := by
  have hstart := dayNumber_isoYearStart y
  have hfirst := dayNumber_newYear y
  have hweek := (ofYMD y 1 1).isoWeek_eq
  rw [dayNumber_newYearMonday]
  rcases lt_or_ge (ofYMD y 1 1).dayNumber (isoYearStart y).dayNumber with hlt | hge
  · have hlength := isoYearStart_succ (y - 1)
    have hyear : (ofYMD y 1 1).isoYear = y - 1 := by
      rw [isoYear_eq_sub_one (by rwa [year_newYear]), year_newYear]
    rw [Int.sub_add_cancel] at hlength
    rw [hyear, hfirst] at hweek
    omega
  · have hlength := isoYearStart_succ y
    have hyear : (ofYMD y 1 1).isoYear = y := isoYear_eq_iff.mpr (by omega)
    rw [hyear, hfirst] at hweek
    omega

/-- Without the week of January 1, a date is counted from the ISO year of the number of its
calendar year. -/
theorem counted_eq (d : Date) :
    ((if d.year < d.isoYear then (d.addDays (-7)).isoWeek + 1
      else if d.isoYear < d.year then 0 else d.isoWeek : Nat) : Int) =
        (d.dayNumber - (isoYearStart d.year).dayNumber) / 7 + 1 := by
  obtain ⟨hbegin, hend⟩ := d.year_spec
  have hstart := dayNumber_isoYearStart d.year
  have hnext := dayNumber_isoYearStart (d.year + 1)
  rcases lt_or_ge d.dayNumber (isoYearStart d.year).dayNumber with hlt | hge
  · have hyear := isoYear_eq_sub_one hlt
    rw [if_neg (by omega), if_pos (by omega)]
    omega
  rcases lt_or_ge d.dayNumber (isoYearStart (d.year + 1)).dayNumber with hlt | hlate
  · have hyear : d.isoYear = d.year := isoYear_eq_iff.mpr ⟨hge, hlt⟩
    rw [if_neg (by omega), if_neg (by omega), isoWeek_eq, hyear]
  · have hyear := isoYear_eq_add_one hlate
    have hlength := isoYearStart_succ d.year
    -- A week before it is still the last week of the year.
    have hbefore : (d.addDays (-7)).isoYear = d.year := by
      refine isoYear_eq_iff.mpr ?_
      rw [dayNumber_addDays]
      omega
    have hweek := (d.addDays (-7)).isoWeek_eq
    rw [hbefore, dayNumber_addDays] at hweek
    rw [if_pos (by omega)]
    omega

/-- **The number beside a row that does not start on Monday** counts the weeks from the one
that holds January 1. -/
theorem weekNumber_eq {firstDay : Nat} (h : firstDay ≠ 1) (d : Date) :
    (d.weekNumber firstDay : Int) =
      (d.dayNumber - ((ofYMD d.year 1 1).weekStart 1).dayNumber) / 7 + 1 := by
  obtain ⟨hbegin, -⟩ := d.year_spec
  have hcounted := d.counted_eq
  have hstart := dayNumber_isoYearStart d.year
  have hnewYear := isoWeek_newYear_eq_one_iff d.year
  have hmonday := dayNumber_newYearMonday d.year
  rw [weekNumber, if_neg h]
  dsimp only
  split
  · have hlate := mt hnewYear.mpr ‹_›
    omega
  · have hearly := hnewYear.mp (not_not.mp ‹_›)
    omega

theorem weekNumber_lt (d : Date) (firstDay : Nat) : d.weekNumber firstDay < 100 := by
  by_cases hmonday : firstDay = 1
  · rw [weekNumber, if_pos hmonday]
    exact d.isoWeek_le.trans_lt (by decide)
  · have hnumber := weekNumber_eq hmonday d
    obtain ⟨-, hend⟩ := d.year_spec
    have hnext := yearStart_succ d.year
    have hlength := yearLength_eq d.year
    rw [dayNumber_newYearMonday] at hnumber
    omega

/-- The first Monday from a date on: the Monday of the week row that starts there. -/
def mondayFrom (d : Date) : Date :=
  d.addDays ((8 - d.weekday.fromSunday : Int) % 7)

theorem fromSunday_mondayFrom (d : Date) : d.mondayFrom.weekday.fromSunday = 1 := by
  have hday := d.fromSunday_weekday
  have hmonday := d.mondayFrom.fromSunday_weekday
  rw [mondayFrom, dayNumber_addDays] at hmonday
  rw [mondayFrom]
  omega

/-- The Monday of a week row. -/
theorem weekStart_eq_iff_mondayFrom {firstDay : Nat} (h : firstDay ≤ 6) {start m : Date}
    (hstart : start.weekday.fromSunday = firstDay) (hmonday : m.weekday.fromSunday = 1) :
    m.weekStart firstDay = start ↔ m = start.mondayFrom := by
  have hday := start.fromSunday_weekday
  have hmonday := m.fromSunday_weekday
  rw [Date.ext_iff, Date.ext_iff, dayNumber_weekStart h, mondayFrom, dayNumber_addDays]
  omega

/-- An ISO year that starts a week after the week of a January 1 is the year of that day. -/
theorem isoYearStart_eq_add_seven_iff {y z : Int} :
    (isoYearStart y).dayNumber = ((ofYMD z 1 1).weekStart 1).dayNumber + 7 ↔
      z = y ∧ (ofYMD y 1 1).isoWeek ≠ 1 := by
  have hstart := dayNumber_isoYearStart y
  have hnewYear := isoWeek_newYear_eq_one_iff y
  have hmonday := dayNumber_newYearMonday z
  constructor
  · intro heq
    have hsame : z = y := by
      rcases Int.lt_trichotomy z y with hlt | hsame | hlt
      · have hnext := yearStart_succ z
        have hlength := yearLength_eq z
        have hle : yearStart (z + 1) ≤ yearStart y := yearStart_mono hlt
        omega
      · exact hsame
      · have hnext := yearStart_succ y
        have hlength := yearLength_eq y
        have hle : yearStart (y + 1) ≤ yearStart z := yearStart_mono hlt
        omega
    subst hsame
    refine ⟨rfl, fun hone => ?_⟩
    have hfirst := hnewYear.mp hone
    omega
  · rintro ⟨rfl, hne⟩
    have hlate := mt hnewYear.mpr hne
    omega

/-- **When the number beside a row is the ISO week of its Monday.** -/
theorem isoWeek_mondayFrom_eq_iff {firstDay : Nat} {start : Date}
    (hstart : start.weekday.fromSunday = firstDay) :
    start.mondayFrom.isoWeek = start.weekNumber firstDay ↔
      firstDay = 1 ∨ start.year = start.mondayFrom.isoYear ∧
        (ofYMD start.mondayFrom.isoYear 1 1).isoWeek ≠ 1 := by
  by_cases hrows : firstDay = 1
  · have hsame : start.mondayFrom = start := by
      rw [mondayFrom, hstart, hrows]
      exact start.addDays_zero
    rw [hsame, weekNumber, if_pos hrows]
    exact ⟨fun _ => .inl hrows, fun _ => rfl⟩
  · have hday := start.fromSunday_weekday
    have hweek := start.mondayFrom.isoWeek_eq
    have hnumber := weekNumber_eq hrows start
    have hbegin := dayNumber_isoYearStart start.mondayFrom.isoYear
    have hmonday := dayNumber_newYearMonday start.year
    have hrow : start.mondayFrom.dayNumber =
        start.dayNumber + (8 - start.weekday.fromSunday : Int) % 7 := dayNumber_addDays _ _
    -- The row begins in the week before its Monday.
    have hequal : start.mondayFrom.isoWeek = start.weekNumber firstDay ↔
        (isoYearStart start.mondayFrom.isoYear).dayNumber =
          ((ofYMD start.year 1 1).weekStart 1).dayNumber + 7 := by
      omega
    rw [hequal, isoYearStart_eq_add_seven_iff, or_iff_right hrows]

end Date
end Almanac
