import Almanac.Proofs.ArgumentForms
import Almanac.Proofs.Civil.DateText

/-! # Day arguments

The forms of a day are a date with hyphens and one of eight digits, both with four digits in the
year and two in the month and the day.  Eight digits are read as such a date and as nothing else,
but with hyphens every text of a date is taken (`Argument.day?_eq_some_iff`): one digit will do for
a month, a year may have a sign or fewer digits, and there may be blanks in front of a number.

So an argument of one of the forms has the range of its date, and a text of no date is refused; but
the forms say what is accepted only of the arguments that are no such loose text
(`Range.ofArgument_day_forms`), and `2025-4-1` is one (`Range.not_dayExact_oneDigit`).
-/
namespace Almanac

namespace Argument

open Fields (CompactText DateText)

variable {firstDay : Nat} {s : String} {cs : List Char} {d : Date}

/-! ## Texts of a day -/

/-- A day that is asked for in one of the forms is far from the bounds of the calendar. -/
theorem Form.margin (h : Form firstDay .day cs d d) :
    Date.first.dayNumber + 20 ≤ d.dayNumber ∧ d.dayNumber + 20 ≤ Date.last.dayNumber := by
  cases h with
  | day hyear hmonth hday hyphen_mem hd =>
    have hlt := hyear.lt
    exact Date.margin_of_year (by omega)

theorem Form.inCalendar (h : Form firstDay .day cs d d) : d.inCalendar = true := by
  have hmargin := h.margin
  exact Date.inCalendar_of_dayNumber (by omega) (by omega)

/-- A form of a day is a text of eight digits, or a text of the date in ten characters. -/
theorem Form.day_cases (h : Form firstDay .day cs d d) :
    CompactText d cs ∨ cs.length = 10 ∧ DateText d cs := by
  cases h with
  | day hyear hmonth hday hyphen_mem hd =>
    obtain ⟨hy, rfl, rfl⟩ := hd
    rcases hyphen_mem with rfl | rfl
    · rw [List.nil_append, List.nil_append]
      exact .inl (.mk hyear hmonth hday hy)
    · refine .inr ⟨by simp [hyear.length, hmonth.length, hday.length], ?_⟩
      have hplain := Fields.YearText.plain (.of_writes (by decide) hyear)
      rw [← hy] at hplain
      exact .mk hplain (.of_writes (by decide) hmonth) (.of_writes (by decide) hday)

theorem form_of_compactText (h : CompactText d cs) : Form firstDay .day cs d d := by
  obtain ⟨hyear, hmonth, hday, hy⟩ := h
  exact .day hyear hmonth hday (.inl rfl) ⟨hy, rfl, rfl⟩

/-- **What is read as a day**: its forms, and the texts of dates. -/
theorem day?_eq_some_iff (firstDay : Nat) :
    day? s = some d ↔
      Form firstDay .day s.toList d d ∨ DateText d s.toList ∧ d.inCalendar = true := by
  rw [← Date.read?_eq_some_iff]
  constructor
  · intro h
    unfold day? at h
    split at h
    · rename_i hread
      exact .inr (Option.some.inj h ▸ hread)
    · split at h
      · rename_i hdigits
        obtain ⟨n, hn⟩ := Option.isSome_iff_exists.mp hdigits.2
        have hall := (Text.readNat?_eq_some_iff.mp hn).2.1
        exact .inl (form_of_compactText ((Date.readCompact?_eq_some_iff hdigits.1 hall).mp h).1)
      · cases h
  · rintro (hform | hread)
    · have hin := hform.inCalendar
      rcases hform.day_cases with hcompact | ⟨-, hdate⟩
      · have hnone : Date.read? s = none := by
          refine Option.eq_none_iff_forall_ne_some.mpr fun d' hread => ?_
          have hhyphen := (Date.read?_eq_some_iff.mp hread).1.hyphen_mem
          exact absurd (hcompact.digits '-' hhyphen) (by decide)
        have hnat : Text.readNat? s.toList = some (Text.digitsValue s.toList) :=
          Text.readNat?_eq_some_iff.mpr
            ⟨List.ne_nil_of_length_pos (by rw [hcompact.length]; decide), hcompact.digits, rfl⟩
        rw [day?, hnone]
        dsimp only
        rw [if_pos ⟨hcompact.length, by rw [hnat]; rfl⟩]
        exact (Date.readCompact?_eq_some_iff hcompact.length hcompact.digits).mpr ⟨hcompact, hin⟩
      · rw [day?, Date.read?_eq_some_iff.mpr ⟨hdate, hin⟩]
    · rw [day?, hread]

/-- **A loose text of a day**: a text of a date that is none of the forms. -/
def Loose (firstDay : Nat) (cs : List Char) : Prop :=
  ∃ d, (DateText d cs ∧ d.inCalendar = true) ∧ ¬Form firstDay .day cs d d

end Argument

namespace Range

open Argument (Form Loose)
open Fields (DateText)

variable {context : Context} {text : String} {d : Date}

/-! ## Accepted and refused -/

/-- An argument of one of the forms of a day has the range of its date. -/
theorem ofArgument_of_form_day (h : Form context.firstDay .day (Text.trim text).toList d d) :
    ofArgument context (some text) .day = .ok (context.span .day d d) := by
  have hmargin := h.margin
  rw [ofArgument_day ((Argument.day?_eq_some_iff context.firstDay).mpr (.inl h))]
  exact ofDates_eq_span context .day le_rfl (by omega) (by omega)

/-- A text that is no date and not blank is refused. -/
theorem ofArgument_of_forall_not (hne : Text.trim text ≠ "")
    (hnone : ∀ d, ¬(Form context.firstDay .day (Text.trim text).toList d d ∨
      DateText d (Text.trim text).toList ∧ d.inCalendar = true)) :
    ofArgument context (some text) .day =
      .error (.invalidArgument (Text.trim text) .day) := by
  have hread : Argument.day? (Text.trim text) = none :=
    Option.eq_none_iff_forall_ne_some.mpr fun d hd =>
      hnone d ((Argument.day?_eq_some_iff context.firstDay).mp hd)
  rw [ofArgument_of_day?_eq_none hread, if_neg hne]

/-- **What the forms say of a day argument**: one of the forms has the range of its date, and any
other text that is not blank is refused with a message. -/
def DayExact (context : Context) (argument : Option String) : Prop :=
  (∀ r, ofArgument context argument .day = .ok r ↔
      ∃ d, Form context.firstDay .day (Text.trim (argument.getD "")).toList d d ∧
        r = context.span .day d d) ∧
    (Text.trim (argument.getD "") ≠ "" →
      (¬∃ d, Form context.firstDay .day (Text.trim (argument.getD "")).toList d d) →
        (ofArgument context argument .day).mapError RangeError.message? =
          .error (some ("The value " ++ Text.trim (argument.getD "") ++
            " is not a valid date argument for day")))

theorem message?_invalidArgument_day (text : String) :
    RangeError.message? (.invalidArgument text .day) =
      some ("The value " ++ text ++ " is not a valid date argument for day") := by
  show some ("The value " ++ text ++ " is not a valid date argument for " ++ "day") = _
  rw [String.append_assoc]
  exact congrArg (fun tail => some ("The value " ++ text ++ tail)) (by decide)

/-- A text of a date is not blank. -/
theorem trim_ne_of_dateText (h : DateText d (Text.trim text).toList) : Text.trim text ≠ "" := by
  intro hblank
  have hhyphen := h.hyphen_mem
  rw [hblank] at hhyphen
  cases hhyphen

/-- A loose text is accepted, or there is no range of its date; it is not refused. -/
theorem not_dayExact (h : Loose context.firstDay (Text.trim text).toList) :
    ¬DayExact context (some text) := by
  obtain ⟨d, hd, hform⟩ := h
  have hread : Argument.day? (Text.trim text) = some d :=
    (Argument.day?_eq_some_iff context.firstDay).mpr (.inr hd)
  have hnone : ¬∃ d, Form context.firstDay .day (Text.trim text).toList d d := by
    rintro ⟨d', hd'⟩
    have hread' := (Argument.day?_eq_some_iff context.firstDay).mpr (.inl hd')
    obtain rfl := Option.some.inj (hread.symm.trans hread')
    exact hform hd'
  rintro ⟨haccepted, hrefused⟩
  rw [Option.getD_some, ofArgument_day hread, ofDates, if_neg (lt_irrefl d)] at haccepted hrefused
  by_cases hresolved : (context.zone.canResolve (.dayStart d) &&
      context.zone.canResolve (.dayEnd d)) = true
  · rw [if_pos hresolved] at haccepted
    obtain ⟨d', hd', -⟩ := (haccepted _).mp rfl
    exact hnone ⟨d', hd'⟩
  · rw [if_neg hresolved] at hrefused
    -- The calendar ends, and that has no message.
    cases Except.error.inj (hrefused (trim_ne_of_dateText hd.1) hnone)

/-- Without loose texts what is read as a day has one of the forms. -/
theorem dayExact_of_not_loose (h : ¬Loose context.firstDay (Text.trim text).toList) :
    DayExact context (some text) := by
  have hform : ∀ d, DateText d (Text.trim text).toList ∧ d.inCalendar = true →
      Form context.firstDay .day (Text.trim text).toList d d :=
    fun d hd => not_not.mp fun hnot => h ⟨d, hd, hnot⟩
  refine ⟨fun r => ⟨fun hmade => ?_, ?_⟩, fun hne hnone => ?_⟩
  · cases hread : Argument.day? (Text.trim text) with
    | none =>
      rw [ofArgument_of_day?_eq_none hread] at hmade
      cases hmade
    | some d =>
      have hd := ((Argument.day?_eq_some_iff context.firstDay).mp hread).elim id (hform d)
      rw [ofArgument_of_form_day hd] at hmade
      exact ⟨d, hd, (Except.ok.inj hmade).symm⟩
  · rintro ⟨d, hd, rfl⟩
    exact ofArgument_of_form_day hd
  · rw [Option.getD_some] at hne hnone
    rw [ofArgument_of_forall_not hne fun d hd => hnone ⟨d, hd.elim id (hform d)⟩]
    exact congrArg Except.error (message?_invalidArgument_day _)

/-- **Day arguments.**  Every argument of one of the forms has the range of its date, blanks around
it aside, and a text of no date is refused; but a text of a date is taken as well, so the forms say
what is accepted exactly of the arguments that are no loose text. -/
theorem ofArgument_day_forms (context : Context) (argument : Option String) :
    let text := Text.trim (argument.getD "")
    (∀ d, Form context.firstDay .day text.toList d d →
        ofArgument context argument .day = .ok (context.span .day d d)) ∧
      (∀ d, DateText d text.toList → d.inCalendar = true →
        ofArgument context argument .day = ofDates context .day d d) ∧
      (text ≠ "" → (∀ d, ¬(Form context.firstDay .day text.toList d d ∨
          DateText d text.toList ∧ d.inCalendar = true)) →
        (ofArgument context argument .day).mapError RangeError.message? =
          .error (some ("The value " ++ text ++ " is not a valid date argument for day"))) ∧
      (DayExact context argument ↔ ¬Loose context.firstDay text.toList) := by
  intro text
  rw [DayExact, ofArgument_getD]
  refine ⟨fun d hd => ofArgument_of_form_day hd, fun d hd hin => ?_, fun hne hnone => ?_, ?_⟩
  · exact ofArgument_day ((Argument.day?_eq_some_iff context.firstDay).mpr (.inr ⟨hd, hin⟩))
  · rw [ofArgument_of_forall_not hne hnone]
    exact congrArg Except.error (message?_invalidArgument_day _)
  · constructor
    · exact fun hexact hloose => not_dayExact hloose hexact
    · exact dayExact_of_not_loose

theorem ofArgument_day_forms_april :
    Form 0 .day (Text.trim " 2025-04-01 ").toList ⟨20179⟩ ⟨20179⟩ ∧
      ofArgument ⟨.newYork, ⟨20193⟩, 0⟩ (some " 2025-04-01 ") .day =
        .ok (Context.span ⟨.newYork, ⟨20193⟩, 0⟩ .day ⟨20179⟩ ⟨20179⟩) ∧
      DayExact ⟨.newYork, ⟨20193⟩, 0⟩ (some " 2025-04-01 ") := by
  have htext : (Text.trim " 2025-04-01 ").toList =
      ['2', '0', '2', '5'] ++ (['-'] ++ (['0', '4'] ++ (['-'] ++ ['0', '1']))) := by decide +kernel
  have hyear : Text.Writes 4 2025 ['2', '0', '2', '5'] := ⟨rfl, List.all_eq_true.mp rfl, rfl⟩
  have hmonth : Text.Writes 2 4 ['0', '4'] := ⟨rfl, List.all_eq_true.mp rfl, rfl⟩
  have hday : Text.Writes 2 1 ['0', '1'] := ⟨rfl, List.all_eq_true.mp rfl, rfl⟩
  have hform : Form 0 .day (Text.trim " 2025-04-01 ").toList ⟨20179⟩ ⟨20179⟩ := by
    rw [htext]
    exact .day hyear hmonth hday (.inr rfl) (by decide +kernel)
  have hread : Date.read? (Text.trim " 2025-04-01 ") = some ⟨20179⟩ := by decide +kernel
  obtain ⟨haccepted, -, -, hexact⟩ :=
    ofArgument_day_forms ⟨.newYork, ⟨20193⟩, 0⟩ (some " 2025-04-01 ")
  refine ⟨hform, haccepted _ hform, hexact.mpr ?_⟩
  rintro ⟨d, hd, hnot⟩
  obtain rfl := Option.some.inj (hread.symm.trans (Date.read?_eq_some_iff.mpr hd))
  exact hnot hform

/-- A month and a day of one digit are accepted, although they are none of the forms. -/
theorem not_dayExact_oneDigit : ¬DayExact ⟨.utc, ⟨20193⟩, 0⟩ (some "2025-4-1") := by
  have hread : Date.read? (Text.trim "2025-4-1") = some ⟨20179⟩ := by decide +kernel
  refine not_dayExact ⟨⟨20179⟩, Date.read?_eq_some_iff.mp hread, fun hform => ?_⟩
  rcases hform.day_cases with hcompact | ⟨hlength, -⟩
  · exact absurd (hcompact.digits '-' (by decide +kernel)) (by decide)
  · exact absurd hlength (by decide +kernel)

end Range
end Almanac
