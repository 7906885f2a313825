import Almanac.Proofs.Civil.IsoWeek
import Almanac.Proofs.Numerals
import Almanac.Proofs.ZoneDates
import Almanac.Range.Argument

/-! # Week arguments

The argument of a week is read as a year of four digits and a week of two.  So the text of a
year and a week of two digits is read back if the year has four digits and some ISO year has
such a week, and is refused otherwise (`Argument.yearWeek?_eq`).
-/
namespace Almanac

open Text (natChars padChars)

namespace Argument

/-- Without a hyphen the week begins behind the four digits of the year. -/
theorem yearWeek?_of_digits {cs : List Char} (h : ∀ c ∈ cs, c.isDigit) :
    yearWeek? cs = (year? (cs.take 4)).bind fun y =>
      (numberUpTo? 53 (cs.drop 4)).bind fun n => some (y, n) := by
  have hdigit : ∀ c ∈ cs.drop 4, c.isDigit := fun c hc => h c (List.mem_of_mem_drop hc)
  rw [yearWeek?]
  generalize cs.drop 4 = week at hdigit
  split
  · exact absurd (hdigit '-' List.mem_cons_self) (by decide)
  · exact absurd (hdigit '-' List.mem_cons_self) (by decide)
  · rfl

theorem year?_natChars {k : Nat} (h : (natChars k).length = 4) :
    year? (natChars k) = some (k : Int) := by
  have hread := Text.readNat?_padChars 0 k
  rw [Text.padChars_zero] at hread
  rw [year?, if_pos h, hread]
  rfl

/-- A number with a sign is no year. -/
theorem year?_cons_sign (cs : List Char) : year? ('-' :: cs) = none := by
  have hread : Text.readNat? ('-' :: cs) = none := if_neg fun h => by simp at h
  rw [year?, hread]
  exact ite_self _

theorem numberUpTo?_padChars {max n : Nat} (hn : n < 100) :
    numberUpTo? max (padChars 2 n) = if 1 ≤ n ∧ n ≤ max then some n else none := by
  have hlength : (padChars 2 n).length = 2 := by rw [Text.padChars_two hn]; rfl
  rw [numberUpTo?, if_pos hlength, Text.readNat?_padChars]

/-- **The text of a year and a week of two digits** is read if the year has four digits. -/
theorem yearWeek?_eq (y : Int) {n : Nat} (hn : n < 100) :
    yearWeek? ((Text.intText y).toList ++ padChars 2 n) =
      if (1000 ≤ y ∧ y ≤ 9999) ∧ 1 ≤ n ∧ n ≤ 53 then some (y, n) else none := by
  by_cases hneg : y < 0
  · rw [if_neg (by omega), Text.toList_intText_of_neg hneg, yearWeek?, List.cons_append,
      List.take_succ_cons, year?_cons_sign]
    rfl
  obtain ⟨k, rfl⟩ := Int.eq_ofNat_of_zero_le (Int.not_lt.mp hneg)
  rw [Text.toList_intText_natCast]
  have hdigits : ∀ c ∈ natChars k ++ padChars 2 n, c.isDigit := by
    intro c hc
    rcases List.mem_append.mp hc with hyear | hweek
    · exact Text.isDigit_of_mem_natChars hyear
    · exact Text.isDigit_of_mem_padChars hweek
  rw [yearWeek?_of_digits hdigits]
  by_cases hfour : (natChars k).length = 4
  · have hyear := Text.length_natChars_eq_four.mp hfour
    rw [List.take_left' hfour, List.drop_left' hfour, year?_natChars hfour,
      numberUpTo?_padChars hn]
    by_cases hweek : 1 ≤ n ∧ n ≤ 53
    · rw [if_pos hweek, if_pos ⟨by omega, hweek⟩]
      rfl
    · rw [if_neg hweek, if_neg fun h => hweek h.2]
      rfl
  · -- With more or fewer digits in the year, the rest has no two characters.
    have hrest : ((natChars k ++ padChars 2 n).drop 4).length ≠ 2 := by
      rw [List.length_drop, List.length_append, Text.padChars_two hn, List.length_cons,
        List.length_singleton]
      omega
    have hyear := mt Text.length_natChars_eq_four.mpr hfour
    rw [numberUpTo?, if_neg hrest, if_neg (by omega)]
    exact Option.bind_fun_none _

end Argument

/-! ## The range of a week -/

namespace Range

/-- The whole days from one date through another, on the clocks of the display zone. -/
def Context.span (context : Context) (granularity : Granularity) (first last : Date) : Range where
  start := context.zone.startOfDay first
  finish := context.zone.endOfDay last
  granularity := granularity
  zone := context.zone
  today := context.today
  firstDay := context.firstDay

variable {context : Context} {y : Int} {n : Nat} {r : Range}

theorem firstDate_of_ofDates {granularity : Granularity} {first last : Date}
    (h : ofDates context granularity first last = .ok r) :
    r.firstDate = context.zone.dateAt (context.zone.startOfDay first) := by
  unfold ofDates at h
  split at h
  · cases h
  · split at h
    · cases h
      rfl
    · cases h

/-- The bounds of a range before the last date of the calendar are resolved. -/
theorem ofDates_eq_span (context : Context) (granularity : Granularity) {first last : Date}
    (hle : first ≤ last) (hlow : Date.first.dayNumber ≤ first.dayNumber)
    (hhigh : last.dayNumber < Date.last.dayNumber) :
    ofDates context granularity first last = .ok (context.span granularity first last) := by
  have hfirst : Date.first ≤ first := Date.le_def.mpr hlow
  have hlast : last < Date.last := Date.lt_def.mpr hhigh
  have hstart : context.zone.canResolve (.dayStart first) = true :=
    context.zone.canResolve_of_lt_last (by simpa using hfirst) (by simpa using hle.trans_lt hlast)
  have hfinish : context.zone.canResolve (.dayEnd last) = true :=
    context.zone.canResolve_of_lt_last (by simpa using hfirst.trans hle) (by simpa using hlast)
  rw [ofDates, if_neg (not_lt.mpr hle), hstart, hfinish]
  rfl

theorem exists_of_ofWeek {week : Nat} (h : ofWeek context y week = .ok r) :
    ∃ monday, Date.ofIsoWeek? y week = some monday ∧ r.firstDate =
      context.zone.dateAt (context.zone.startOfDay (monday.weekStart context.firstDay)) := by
  unfold ofWeek at h
  split at h
  · cases h
  · rename_i monday hmonday
    dsimp only at h
    split at h
    · exact ⟨monday, hmonday, firstDate_of_ofDates h⟩
    · cases h

/-- There is a range of every week around which the calendar has dates. -/
theorem ofWeek_eq_span (hfirst : context.firstDay ≤ 6) {monday : Date}
    (hmonday : monday.weekday.fromSunday = 1) (hlow : -262142 ≤ monday.isoYear)
    (hhigh : monday.isoYear ≤ 262141) :
    ofWeek context monday.isoYear monday.isoWeek =
      .ok (context.span .week (monday.weekStart context.firstDay)
        ((monday.weekStart context.firstDay).addDays 6)) := by
  obtain ⟨hbegin, hend⟩ := Date.inCalendar_of_isoYear hlow hhigh
  have hrow := Date.dayNumber_weekStart hfirst monday
  have hlast : ((monday.weekStart context.firstDay).addDays 6).dayNumber =
      (monday.weekStart context.firstDay).dayNumber + 6 := Date.dayNumber_addDays _ _
  have hin : ∀ d : Date, monday.dayNumber - 6 ≤ d.dayNumber → d.dayNumber ≤ monday.dayNumber + 6 →
      d.inCalendar = true :=
    fun d hlow hhigh => Date.inCalendar_of_dayNumber (by omega) (by omega)
  have hweek : Date.ofIsoWeek? monday.isoYear monday.isoWeek = some monday :=
    Date.ofIsoWeek?_eq_some.mpr ⟨hmonday, rfl, rfl, hin monday (by omega) (by omega)⟩
  rw [ofWeek, hweek]
  dsimp only
  rw [hin _ (by omega) (by omega), hin _ (by omega) (by omega)]
  exact ofDates_eq_span context .week (Date.le_def.mpr (by omega)) (by omega) (by omega)

/-- **A week argument is accepted** if it is read as a week of which there is a range. -/
theorem ofArgument_week_eq_ok (context : Context) (y : Int) (hn : n < 100) :
    ofArgument context (some (Text.intText y ++ Text.pad 2 n)) .week = .ok r ↔
      ((1000 ≤ y ∧ y ≤ 9999) ∧ 1 ≤ n ∧ n ≤ 53) ∧ ofWeek context y n = .ok r := by
  have hchars := Text.toList_intText_append_pad y 2 n
  have hne : Text.intText y ++ Text.pad 2 n ≠ "" := by
    intro hempty
    rw [hempty, Text.padChars_two hn] at hchars
    simp at hchars
  rw [ofArgument, Option.getD_some, Text.trim_intText_append_pad]
  dsimp only
  rw [if_neg hne, hchars, Argument.yearWeek?_eq y hn]
  by_cases hread : (1000 ≤ y ∧ y ≤ 9999) ∧ 1 ≤ n ∧ n ≤ 53
  · rw [if_pos hread, and_iff_right hread]
    simp only [Argument.require, bind, Except.bind]
    cases ofWeek context y n with
    | error e => cases e <;> simp
    | ok range => exact Iff.rfl
  · rw [if_neg hread]
    simp [Argument.require, bind, Except.bind, hread]

/-- A range of a week row that begins on the start of a row is the range of that row. -/
theorem weekStart_eq_of_dateAt (hfirst : context.firstDay ≤ 6) (hz : context.zone.WithinDay)
    {monday start : Date} (hstart : start.weekday.fromSunday = context.firstDay)
    (h : context.zone.dateAt (context.zone.startOfDay (monday.weekStart context.firstDay)) =
      start) : monday.weekStart context.firstDay = start := by
  have hnear := Zone.dateAt_startOfDay_near hz (monday.weekStart context.firstDay)
  rw [h] at hnear
  -- Both are on one weekday, so they are weeks apart or the same.
  have hrow := (monday.weekStart context.firstDay).fromSunday_weekday
  have hday := start.fromSunday_weekday
  rw [Date.fromSunday_weekStart hfirst] at hrow
  rw [hstart] at hday
  exact Date.ext (by omega)

/-- **When an argument asks for the week row that starts on a date.**  It has to be the ISO
week of the Monday of the row, in a year of four digits, and the clocks must not skip the
start of the row. -/
theorem ofArgument_week_iff (hfirst : context.firstDay ≤ 6) (hz : context.zone.WithinDay)
    {start : Date} (hstart : start.weekday.fromSunday = context.firstDay) (hn : n < 100) :
    (∃ r, ofArgument context (some (Text.intText y ++ Text.pad 2 n)) .week = .ok r ∧
        r.firstDate = start) ↔
      (1000 ≤ y ∧ y ≤ 9999) ∧ start.mondayFrom.isoYear = y ∧ start.mondayFrom.isoWeek = n ∧
        context.zone.dateAt (context.zone.startOfDay start) = start := by
  constructor
  · rintro ⟨r, hr, hdate⟩
    obtain ⟨⟨hyear, -⟩, hrange⟩ := (ofArgument_week_eq_ok context y hn).mp hr
    obtain ⟨monday, hweek, hshown⟩ := exists_of_ofWeek hrange
    obtain ⟨hmonday, hisoYear, hisoWeek, -⟩ := Date.ofIsoWeek?_eq_some.mp hweek
    rw [hdate] at hshown
    have hrow := weekStart_eq_of_dateAt hfirst hz hstart hshown.symm
    obtain rfl := (Date.weekStart_eq_iff_mondayFrom hfirst hstart hmonday).mp hrow
    rw [hrow] at hshown
    exact ⟨hyear, hisoYear, hisoWeek, hshown.symm⟩
  · rintro ⟨hyear, rfl, rfl, hshown⟩
    have hmonday := start.fromSunday_mondayFrom
    have hrow := (Date.weekStart_eq_iff_mondayFrom hfirst hstart hmonday).mpr rfl
    have hpos : 1 ≤ start.mondayFrom.isoWeek := Nat.le_add_left 1 _
    have hle := start.mondayFrom.isoWeek_le
    have hr := ofWeek_eq_span hfirst hmonday (by omega) (by omega)
    rw [hrow] at hr
    exact ⟨_, (ofArgument_week_eq_ok context _ hn).mpr ⟨⟨hyear, hpos, hle⟩, hr⟩, hshown⟩

end Range
end Almanac
