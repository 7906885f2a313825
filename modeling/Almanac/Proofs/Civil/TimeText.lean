import Almanac.Proofs.Civil.DateText

/-! # Texts of times of day

An hour and a minute, or an hour, a minute and a second, stand with colons between.  Each has one
digit or two, and blanks may stand in front of it (`Fields.HourMinuteText`, `Fields.TimeText`).  The
readers take these texts if a clock shows the numbers, where second 60 is a leap second
(`Fields.timeOfDay?_eq_some_iff`), and nothing else.

A time that is written with two digits for each of its parts is such a text
(`Fields.timeText_clockText`), so it is read back.
-/
namespace Almanac
namespace Fields

open Text (Writes)

/-- **The texts of an hour and a minute**, with a colon between. -/
inductive HourMinuteText (h m : Nat) : List Char → Prop
  | mk {hs ms : List Char} (hhour : NumberText 2 h hs) (hminute : NumberText 2 m ms) :
      HourMinuteText h m (hs ++ ':' :: ms)

/-- **The texts of an hour, a minute and a second**, with colons between. -/
inductive TimeText (h m s : Nat) : List Char → Prop
  | mk {hs ms ss : List Char} (hhour : NumberText 2 h hs) (hminute : NumberText 2 m ms)
      (hsecond : NumberText 2 s ss) : TimeText h m s (hs ++ ':' :: (ms ++ ':' :: ss))

variable {h m s nanos : Nat} {cs : List Char} {t : TimeOfDay}

/-- **The times that a clock shows.**  In a leap second it shows second 60. -/
theorem timeOfDay?_eq_some_iff : timeOfDay? h m s nanos = some t ↔
    (h < 24 ∧ m < 60 ∧ s ≤ 60) ∧
      .ofHMS h m (min s 59) (if s = 60 then nanosPerSecond + nanos else nanos) = t := by
  rw [timeOfDay?]
  split
  · rename_i hout
    refine iff_of_false (by simp) fun hin => ?_
    omega
  · rename_i hin
    rw [and_iff_right (by omega)]
    split
    · rename_i hleap
      rw [Option.some.injEq, hleap]
      exact Iff.rfl
    · rw [Option.some.injEq, Nat.min_eq_left (by omega)]

theorem number?_eq_some_nil_iff {n width : Nat} :
    number? width cs = some (n, []) ↔ NumberText width n cs := by
  constructor
  · intro hread
    obtain ⟨field, hfield, rfl⟩ := exists_of_number? hread
    rwa [List.append_nil]
  · intro hfield
    have hread : number? width (cs ++ []) = some (n, []) := hfield.number?_append (by simp)
    rwa [List.append_nil] at hread

/-- **What is read as an hour and a minute.** -/
theorem hourMinute?_eq_some_iff : hourMinute? cs = some (t, []) ↔
    ∃ h m, HourMinuteText h m cs ∧ timeOfDay? h m 0 0 = some t := by
  constructor
  · intro hread
    simp only [hourMinute?, bind, pure, Option.bind_eq_some_iff, char?_eq_some_iff,
      Option.some.injEq, Prod.mk.injEq] at hread
    obtain ⟨⟨h, _⟩, hhour, _, rfl, ⟨m, _⟩, hminute, _, htime, rfl, rfl⟩ := hread
    obtain ⟨hs, hhs, rfl⟩ := exists_of_number? hhour
    exact ⟨h, m, .mk hhs (number?_eq_some_nil_iff.mp hminute), htime⟩
  · rintro ⟨h, m, ⟨hhour, hminute⟩, htime⟩
    rw [hourMinute?, hhour.number?_append (isDigit_head_eq_false (by decide))]
    simp only [char?, if_true, bind, Option.bind_some, number?_eq_some_nil_iff.mpr hminute, htime,
      pure]

/-- **What is read as an hour, a minute and a second.** -/
theorem time?_eq_some_iff : time? false cs = some (t, []) ↔
    ∃ h m s, TimeText h m s cs ∧ timeOfDay? h m s 0 = some t := by
  constructor
  · intro hread
    simp only [time?, separator?, Bool.false_eq_true, if_false, bind, pure,
      Option.bind_eq_some_iff, char?_eq_some_iff, Option.some.injEq, Prod.mk.injEq] at hread
    obtain ⟨⟨h, _⟩, hhour, _, rfl, ⟨m, _⟩, hminute, _, rfl, ⟨s, _⟩, hsecond, _, ⟨rfl, rfl⟩, _,
      htime, rfl, rfl⟩ := hread
    obtain ⟨hs, hhs, rfl⟩ := exists_of_number? hhour
    obtain ⟨ms, hms, rfl⟩ := exists_of_number? hminute
    exact ⟨h, m, s, .mk hhs hms (number?_eq_some_nil_iff.mp hsecond), htime⟩
  · rintro ⟨h, m, s, ⟨hhour, hminute, hsecond⟩, htime⟩
    rename_i hs ms ss
    have hmiddle : number? 2 (ms ++ ':' :: ss) = some (m, ':' :: ss) :=
      hminute.number?_append (isDigit_head_eq_false (by decide))
    rw [time?, hhour.number?_append (isDigit_head_eq_false (by decide))]
    simp only [separator?, char?, Bool.false_eq_true, if_false, if_true, bind, Option.bind_some,
      hmiddle, number?_eq_some_nil_iff.mpr hsecond, htime, pure]

/-! ## Written times -/

/-- The bounds of the parts of a time of day. -/
theorem parts_lt (ht : t.second < secondsPerDay) :
    t.hour < 24 ∧ t.minute < 60 ∧ t.secondOfMinute < 60 := by
  rw [secondsPerDay] at ht
  rw [TimeOfDay.hour]
  exact ⟨by omega, Nat.mod_lt _ (by decide), Nat.mod_lt _ (by decide)⟩

/-- The parts of a time of day make up the time. -/
theorem ofHMS_parts (t : TimeOfDay) :
    .ofHMS t.hour t.minute t.secondOfMinute = (⟨t.second, 0⟩ : TimeOfDay) := by
  rw [TimeOfDay.ofHMS, TimeOfDay.hour, TimeOfDay.minute, TimeOfDay.secondOfMinute]
  congr 1
  omega

/-- A clock shows the parts of a time of day. -/
theorem timeOfDay?_parts (ht : t.second < secondsPerDay) :
    timeOfDay? t.hour t.minute t.secondOfMinute 0 = some ⟨t.second, 0⟩ := by
  obtain ⟨hhour, hminute, hsecond⟩ := parts_lt ht
  rw [timeOfDay?_eq_some_iff, Nat.min_eq_left (by omega), if_neg (by omega), ofHMS_parts]
  exact ⟨⟨hhour, hminute, by omega⟩, rfl⟩

/-- **A written time is a text of its parts.** -/
theorem timeText_clockText (ht : t.second < secondsPerDay) :
    TimeText t.hour t.minute t.secondOfMinute t.clockText.toList := by
  have hnumber : ∀ n < 100, NumberText 2 n (Text.padChars 2 n) := fun n hn =>
    numberText_padChars (by decide) (Text.length_padChars_two hn)
  obtain ⟨hhour, hminute, hsecond⟩ := parts_lt ht
  rw [TimeOfDay.toList_clockText, List.append_nil]
  exact .mk (hnumber _ (by omega)) (hnumber _ (by omega)) (hnumber _ (by omega))

/-- **A written time is read as the time**, cut to the whole second. -/
theorem time?_clockText (ht : t.second < secondsPerDay) :
    time? false t.clockText.toList = some (⟨t.second, 0⟩, []) :=
  time?_eq_some_iff.mpr ⟨_, _, _, timeText_clockText ht, timeOfDay?_parts ht⟩

end Fields

namespace TimeOfDay

variable {t : TimeOfDay}

theorem length_clockText (ht : t.second < secondsPerDay) : t.clockText.toList.length = 8 := by
  obtain ⟨hhour, hminute, hsecond⟩ := Fields.parts_lt ht
  simp only [toList_clockText, List.length_append, List.length_cons, List.length_nil,
    Text.length_padChars_two (show t.hour < 100 by omega),
    Text.length_padChars_two (show t.minute < 100 by omega),
    Text.length_padChars_two (show t.secondOfMinute < 100 by omega)]

theorem isBlank_eq_false_of_mem_clockText {c : Char} (h : c ∈ t.clockText.toList) :
    Text.isBlank c = false := by
  have hnumber : ∀ n, c ∈ Text.padChars 2 n → Text.isBlank c = false :=
    fun n hc => Text.isBlank_eq_false_of_isDigit (Text.isDigit_of_mem_padChars hc)
  rw [toList_clockText, List.append_nil, List.mem_append, List.mem_cons, List.mem_append,
    List.mem_cons] at h
  rcases h with hhour | rfl | hminute | rfl | hsecond
  · exact hnumber _ hhour
  · decide
  · exact hnumber _ hminute
  · decide
  · exact hnumber _ hsecond

theorem clockText_ne_nil (t : TimeOfDay) : t.clockText.toList ≠ [] := by
  rw [toList_clockText]
  exact List.append_ne_nil_of_right_ne_nil _ (List.cons_ne_nil _ _)

theorem trim_clockText (t : TimeOfDay) : Text.trim t.clockText = t.clockText :=
  Text.trim_eq_self fun _ hc => isBlank_eq_false_of_mem_clockText hc

end TimeOfDay
end Almanac
