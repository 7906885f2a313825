import Almanac.Proofs.Civil.ClockText
import Almanac.Proofs.Civil.Parts
import Almanac.Range.Argument

/-! # What is read as a date

The readers of dates put year, month and day together by `Date.ofYMD?`, so what they read is a
date of the calendar, and a wall-clock time is read as such a date with a time of day.
-/
namespace Almanac

namespace Date

theorem inCalendar_of_ofYMD? {y : Int} {m day : Nat} {d : Date} (h : ofYMD? y m day = some d) :
    d.inCalendar = true :=
  inCalendar_iff.mpr (ofYMD?_eq_some.mp h).2

end Date

namespace Fields

variable {cs rest : List Char} {d : Date} {loose : Bool}

theorem inCalendar_of_date? (h : date? loose cs = some (d, rest)) : d.inCalendar = true := by
  simp only [date?, bind, pure, Option.bind_eq_some_iff, Option.some.injEq, Prod.mk.injEq] at h
  obtain ⟨_, -, _, -, _, -, _, -, _, -, d', hd, rfl, -⟩ := h
  exact Date.inCalendar_of_ofYMD? hd

theorem inCalendar_of_compactDate? (h : compactDate? cs = some (d, rest)) :
    d.inCalendar = true := by
  simp only [compactDate?, bind, pure, Option.bind_eq_some_iff, Option.some.injEq,
    Prod.mk.injEq] at h
  obtain ⟨_, -, _, -, _, -, d', hd, rfl, -⟩ := h
  exact Date.inCalendar_of_ofYMD? hd

end Fields

variable {s : String} {d : Date}

theorem Date.inCalendar_of_read? (h : Date.read? s = some d) : d.inCalendar = true :=
  Fields.inCalendar_of_date? (Fields.eq_some_of_whole? h)

theorem Date.inCalendar_of_readCompact? (h : Date.readCompact? s = some d) :
    d.inCalendar = true :=
  Fields.inCalendar_of_compactDate? (Fields.eq_some_of_whole? h)

/-- **The argument of a day** is a date of the calendar. -/
theorem Argument.inCalendar_of_day? (h : Argument.day? s = some d) : d.inCalendar = true := by
  unfold Argument.day? at h
  split at h
  · rename_i hread
    exact Date.inCalendar_of_read? (Option.some.inj h ▸ hread)
  · split at h
    · exact Date.inCalendar_of_readCompact? h
    · cases h

namespace WallTime

/-- A wall-clock time is read as a date and a time of day. -/
theorem exists_of_read? {sep : Char} {w : WallTime} (h : WallTime.read? sep s = some w) :
    ∃ d t cs rest, d.inCalendar = true ∧ Fields.time? false cs = some (t, rest) ∧
      .ofTime d t = w := by
  obtain ⟨⟨d, cs⟩, hd, h⟩ := Option.bind_eq_some_iff.mp (Fields.eq_some_of_whole? h)
  by_cases hsep : Text.isBlank sep = true
  all_goals
    simp only [hsep, if_true, if_false, Bool.false_eq_true, bind, pure,
      Option.bind_eq_some_iff, Option.some.injEq, Prod.mk.injEq] at h
    obtain ⟨cs', -, ⟨t, rest⟩, ht, heq, -⟩ := h
    exact ⟨d, t, cs', rest, Fields.inCalendar_of_date? hd, ht, heq⟩

theorem inCalendar_ofTime {t : TimeOfDay} (hd : d.inCalendar = true)
    (ht : t.second < secondsPerDay) : (ofTime d t).inCalendar = true := by
  have hdate : (ofTime d t).date = d := by
    rw [secondsPerDay] at ht
    refine Date.ext ?_
    rw [dayNumber_date, ofTime, secondsPerDay]
    dsimp only
    omega
  rw [inCalendar, hdate]
  exact hd

end WallTime
end Almanac
