import Almanac.Proofs.RangeOfArgument

/-! # The forms of date arguments

The texts that ask for a year, a month, a week or a day are stated by `Argument.Form`, with the
first and the last date of the period each of them asks for: numbers of four and of two digits,
side by side or with a hyphen between, and with a `W` of either case before the number of a week.

The readers of years, months and weeks accept these texts and no others, so an argument of one of
these granularities, less the blanks around it, has the range of the period it asks for, or it is
refused with a message (`Range.ofArgument_forms`).
-/
namespace Almanac

namespace Argument

open Text (Writes)

/-- **The forms of date arguments**, with the first and the last date of the period that each asks
for in a calendar whose week rows start on `firstDay`. -/
inductive Form (firstDay : Nat) : Granularity → List Char → Date → Date → Prop
  | year {y : Nat} {cs : List Char} (hyear : Writes 4 y cs) :
      Form firstDay .year cs (.ofYMD y 1 1) (.ofYMD y 12 31)
  | month {y m : Nat} {ys ms hyphen : List Char} (hyear : Writes 4 y ys) (hmonth : Writes 2 m ms)
      (hyphen_mem : hyphen = [] ∨ hyphen = ['-']) (hm : 1 ≤ m ∧ m ≤ 12) :
      Form firstDay .month (ys ++ (hyphen ++ ms)) (.ofYMD y m 1) (.ofYMD y m (daysInMonth y m))
  /-- The year has a Monday in the week, and its week row is asked for. -/
  | week {y w : Nat} {ys ws mark : List Char} {monday : Date} (hyear : Writes 4 y ys)
      (hweek : Writes 2 w ws) (mark_mem : mark = [] ∨ mark = ['-', 'W'] ∨ mark = ['-', 'w'])
      (hmonday : monday.weekday.fromSunday = 1 ∧ monday.isoYear = y ∧ monday.isoWeek = w) :
      Form firstDay .week (ys ++ (mark ++ ws)) (monday.weekStart firstDay)
        ((monday.weekStart firstDay).addDays 6)
  | day {y m n : Nat} {ys ms ns hyphen : List Char} {d : Date} (hyear : Writes 4 y ys)
      (hmonth : Writes 2 m ms) (hday : Writes 2 n ns) (hyphen_mem : hyphen = [] ∨ hyphen = ['-'])
      (hd : d.year = y ∧ d.month = m ∧ d.day = n) :
      Form firstDay .day (ys ++ (hyphen ++ (ms ++ (hyphen ++ ns)))) d d

end Argument

namespace Range

open Argument (Form)

variable {context : Context} {argument : Option String} {text : String}
  {granularity : Granularity} {first last : Date} {r : Range}

/-! ## Accepted and refused -/

/-- A week that the year has is asked for with the row of its Monday. -/
theorem ofArgument_week_eq_span (hfirst : context.firstDay ≤ 6) {monday : Date}
    (hread : Argument.yearWeek? (Text.trim text).toList = some (monday.isoYear, monday.isoWeek))
    (hmonday : monday.weekday.fromSunday = 1) :
    ofArgument context (some text) .week =
      .ok (context.span .week (monday.weekStart context.firstDay)
        ((monday.weekStart context.firstDay).addDays 6)) := by
  have hy := Argument.mem_of_yearWeek? hread
  rw [ofArgument_week hread, ofWeek_eq_span hfirst hmonday (by omega) (by omega)]

/-- **An argument of one of the forms** has the range of its period. -/
theorem ofArgument_of_form (hfirst : context.firstDay ≤ 6) (hday : granularity ≠ .day)
    (h : Form context.firstDay granularity (Text.trim text).toList first last) :
    ofArgument context (some text) granularity = .ok (context.span granularity first last) := by
  generalize hcs : (Text.trim text).toList = cs at h
  cases h with
  | @year y _ hyear =>
    have hread : Argument.year? cs = some (y : Int) :=
      Argument.year?_eq_some_iff.mpr ⟨y, rfl, hyear⟩
    rw [ofArgument_year (hcs ▸ hread), ofDates_year context (Argument.mem_of_year? hread)]
  | @month y m ys ms hyphen hyear hmonth hyphen_mem hm =>
    have hread : Argument.yearMonth? (Text.trim text).toList = some ((y : Int), m) := by
      rw [hcs]
      exact Argument.yearMonth?_eq_some_iff.mpr
        ⟨y, ys, ms, hyphen, rfl, rfl, ⟨hyear, hmonth⟩, hyphen_mem, hm⟩
    obtain ⟨hy, -⟩ := Argument.mem_of_yearMonth? hread
    rw [ofArgument_month hread, ofDates_month context hy hm]
  | @week y w ys ws mark monday hyear hweek mark_mem hmonday =>
    obtain ⟨hmonday, hisoYear, rfl⟩ := hmonday
    have hpos : 1 ≤ monday.isoWeek := Nat.le_add_left 1 _
    refine ofArgument_week_eq_span hfirst ?_ hmonday
    rw [hcs, hisoYear]
    exact Argument.yearWeek?_eq_some_iff.mpr
      ⟨y, ys, ws, mark, rfl, rfl, ⟨hyear, hweek⟩, mark_mem, hpos, monday.isoWeek_le⟩
  | day => exact absurd rfl hday

/-- Any other text that is not blank is refused for a year, a month or a week. -/
theorem exists_form (hday : granularity ≠ .day)
    (hne : Text.trim text ≠ "") :
    (∃ first last, Form context.firstDay granularity (Text.trim text).toList first last) ∨
      ofArgument context (some text) granularity =
        .error (.invalidArgument (Text.trim text) granularity) := by
  generalize hcs : (Text.trim text).toList = cs
  cases granularity with
  | day => exact absurd rfl hday
  | year =>
    cases hread : Argument.year? cs with
    | some y =>
      obtain ⟨k, rfl, hyear⟩ := Argument.year?_eq_some_iff.mp hread
      exact .inl ⟨_, _, .year hyear⟩
    | none =>
      refine .inr ?_
      rw [ofArgument_some hne, hcs, hread]
      rfl
  | month =>
    cases hread : Argument.yearMonth? cs with
    | some parts =>
      obtain ⟨k, ys, ms, hyphen, -, rfl, ⟨hyear, hmonth⟩, hyphen_mem, hm⟩ :=
        Argument.yearMonth?_eq_some_iff.mp hread
      exact .inl ⟨_, _, .month hyear hmonth hyphen_mem hm⟩
    | none =>
      refine .inr ?_
      rw [ofArgument_some hne, hcs, hread]
      rfl
  | week =>
    cases hread : Argument.yearWeek? cs with
    | some parts =>
      obtain ⟨y, w⟩ := parts
      obtain ⟨k, ys, ws, mark, hk, hchars, ⟨hyear, hweek⟩, mark_mem, -⟩ :=
        Argument.yearWeek?_eq_some_iff.mp hread
      cases hmonday : Date.ofIsoWeek? y w with
      | some monday =>
        obtain ⟨hday, hisoYear, hisoWeek, -⟩ := Date.ofIsoWeek?_eq_some.mp hmonday
        rw [hchars]
        exact .inl ⟨_, _, .week hyear hweek mark_mem ⟨hday, hisoYear.trans hk, hisoWeek⟩⟩
      | none =>
        refine .inr ?_
        rw [ofArgument_week (hcs ▸ hread), ofWeek, hmonday]
    | none =>
      refine .inr ?_
      rw [ofArgument_some hne, hcs, hread]
      rfl

/-- So the texts that have a range are those of the forms. -/
theorem ofArgument_eq_ok_iff (hfirst : context.firstDay ≤ 6) (hday : granularity ≠ .day) :
    ofArgument context (some text) granularity = .ok r ↔
      ∃ first last, Form context.firstDay granularity (Text.trim text).toList first last ∧
        r = context.span granularity first last := by
  constructor
  · intro h
    by_cases hblank : Text.trim text = ""
    · rw [ofArgument_of_blank hblank] at h
      cases h
    · rcases exists_form hday hblank with ⟨first, last, hform⟩ | hrefused
      · rw [ofArgument_of_form hfirst hday hform] at h
        exact ⟨first, last, hform, (Except.ok.inj h).symm⟩
      · rw [hrefused] at h
        cases h
  · rintro ⟨first, last, hform, rfl⟩
    exact ofArgument_of_form hfirst hday hform

/-- A text of a year, a month or a week has a range, or it is refused. -/
theorem ofArgument_ne_outsideCalendar (hfirst : context.firstDay ≤ 6) (hday : granularity ≠ .day)
    (text : String) : ofArgument context (some text) granularity ≠ .error .outsideCalendar := by
  by_cases hblank : Text.trim text = ""
  · rw [ofArgument_of_blank hblank]
    simp
  · rcases exists_form hday hblank with ⟨first, last, hform⟩ | hrefused
    · rw [ofArgument_of_form hfirst hday hform]
      simp
    · rw [hrefused]
      simp

/-- **The forms of arguments.**  An argument of a year, a month or a week that has one of the forms,
blanks around it aside, has the range of the period it asks for; a missing or a blank one and any
other text are refused, each with its message; and no argument reaches past the calendar. -/
theorem ofArgument_forms (context : Context) (hfirst : context.firstDay ≤ 6)
    (argument : Option String) {granularity : Granularity} (hday : granularity ≠ .day) :
    let text := Text.trim (argument.getD "")
    (∀ r, ofArgument context argument granularity = .ok r ↔
        ∃ first last, Form context.firstDay granularity text.toList first last ∧
          r = context.span granularity first last) ∧
      (text = "" → (ofArgument context argument granularity).mapError RangeError.message? =
        .error (some "No calendar date argument value was provided.")) ∧
      (text ≠ "" → (¬∃ first last, Form context.firstDay granularity text.toList first last) →
        (ofArgument context argument granularity).mapError RangeError.message? =
          .error (some ("The value " ++ text ++ " is not a valid date argument for " ++
            granularity.name))) ∧
      ofArgument context argument granularity ≠ .error .outsideCalendar := by
  intro text
  rw [ofArgument_getD]
  refine ⟨fun r => ofArgument_eq_ok_iff hfirst hday, fun hblank => ?_, fun hne hnone => ?_,
    ofArgument_ne_outsideCalendar hfirst hday _⟩
  · rw [ofArgument_of_blank hblank]
    rfl
  · rw [(exists_form hday hne).resolve_left hnone]
    rfl

theorem ofArgument_forms_week :
    ((⟨.newYork, ⟨20042⟩, 0⟩ : Context).firstDay ≤ 6 ∧ Granularity.week ≠ .day) ∧
      ofArgument ⟨.newYork, ⟨20042⟩, 0⟩ (some " 2025-w14 ") .week =
        .ok (Context.span ⟨.newYork, ⟨20042⟩, 0⟩ .week ⟨20177⟩ ⟨20183⟩) := by
  have htext : (Text.trim " 2025-w14 ").toList =
      ['2', '0', '2', '5'] ++ (['-', 'w'] ++ ['1', '4']) := by decide +kernel
  have hyear : Text.Writes 4 2025 ['2', '0', '2', '5'] := ⟨rfl, List.all_eq_true.mp rfl, rfl⟩
  have hweek : Text.Writes 2 14 ['1', '4'] := ⟨rfl, List.all_eq_true.mp rfl, rfl⟩
  have hmonday : (⟨20178⟩ : Date).weekday.fromSunday = 1 ∧ (⟨20178⟩ : Date).isoYear = (2025 : Nat) ∧
      (⟨20178⟩ : Date).isoWeek = 14 := by decide +kernel
  have hform : Form 0 .week (Text.trim " 2025-w14 ").toList
      (Date.weekStart ⟨20178⟩ 0) ((Date.weekStart ⟨20178⟩ 0).addDays 6) := by
    rw [htext]
    exact .week hyear hweek (.inr (.inr rfl)) hmonday
  exact ⟨by decide, ((ofArgument_forms ⟨.newYork, ⟨20042⟩, 0⟩ (by decide) (some " 2025-w14 ")
    (by decide)).1 _).mpr ⟨_, _, hform, rfl⟩⟩

end Range
end Almanac
