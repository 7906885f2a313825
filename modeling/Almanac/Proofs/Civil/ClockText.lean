import Almanac.Bucket
import Almanac.Proofs.Numerals
import Mathlib.Data.String.Basic

/-! # Times of day in text

A time of day is written with two digits for the hour, the minute and the second.  Texts of
this form are in the order of the times they write (`clockText_lt_clockText`), because
numbers of two digits are compared before what follows them.  Every time that is read from
a text is a time of one day (`second_lt_of_readTime?`).
-/
namespace Almanac

namespace Text

theorem digitChar_lt_digitChar {m n : Nat} (h : m < n) (hn : n < 10) :
    m.digitChar < n.digitChar := by
  have hall : ∀ b < 10, ∀ a < b, a.digitChar < b.digitChar := by decide
  exact hall n hn m h

/-- Numbers of two digits are compared before what follows them. -/
theorem padChars_append_lt {m n : Nat} (h : m < n) (hn : n < 100) (x y : List Char) :
    padChars 2 m ++ x < padChars 2 n ++ y := by
  rw [padChars_two (h.trans hn), padChars_two hn]
  simp only [List.cons_append, List.cons_lt_cons_iff]
  rcases (Nat.div_le_div_right (c := 10) h.le).lt_or_eq with htens | htens
  · exact .inl (digitChar_lt_digitChar htens (by omega))
  · exact .inr ⟨congrArg _ htens, .inl (digitChar_lt_digitChar (by omega) (by omega))⟩

end Text

namespace TimeOfDay

theorem toList_clockText (t : TimeOfDay) :
    t.clockText.toList = Text.padChars 2 t.hour ++
      ':' :: (Text.padChars 2 t.minute ++ ':' :: (Text.padChars 2 t.secondOfMinute ++ [])) := by
  simp only [clockText, clockText.pad, Text.pad, String.toList_append, String.toList_ofList,
    List.append_assoc, List.append_nil]
  rfl

/-- The text of a time shows its whole second. -/
theorem clockText_congr {t u : TimeOfDay} (h : t.second = u.second) :
    t.clockText = u.clockText := by
  rw [clockText, clockText, hour, minute, secondOfMinute, h]
  rfl

/-- **Clock texts are in the order of the times.** -/
theorem clockText_lt_clockText {t u : TimeOfDay} (h : t.second < u.second)
    (hu : u.second < secondsPerDay) : t.clockText < u.clockText := by
  rw [secondsPerDay] at hu
  rw [String.lt_iff_toList_lt, toList_clockText, toList_clockText]
  have hhour : t.hour ≤ u.hour := Nat.div_le_div_right h.le
  have hminute : t.hour = u.hour → t.minute ≤ u.minute := by
    simp only [hour, minute]
    omega
  have hsecond : t.hour = u.hour → t.minute = u.minute →
      t.secondOfMinute < u.secondOfMinute := by
    simp only [hour, minute, secondOfMinute]
    omega
  have hbound : u.hour < 100 ∧ u.minute < 100 ∧ u.secondOfMinute < 100 := by
    simp only [hour, minute, secondOfMinute]
    omega
  rcases hhour.lt_or_eq with hlt | heq
  · exact Text.padChars_append_lt hlt hbound.1 _ _
  · rw [heq]
    refine List.append_left_lt (List.cons_lt_cons_self.mpr ?_)
    rcases (hminute heq).lt_or_eq with hlt | heq'
    · exact Text.padChars_append_lt hlt hbound.2.1 _ _
    · rw [heq']
      refine List.append_left_lt (List.cons_lt_cons_self.mpr ?_)
      exact Text.padChars_append_lt (hsecond heq heq') hbound.2.2 _ _

theorem clockText_le_clockText {t u : TimeOfDay} (h : t.second ≤ u.second)
    (hu : u.second < secondsPerDay) : t.clockText ≤ u.clockText := by
  rcases h.lt_or_eq with hlt | heq
  · exact (clockText_lt_clockText hlt hu).le
  · exact (clockText_congr heq).le

end TimeOfDay

/-! ## Times that are read -/

namespace Fields

theorem second_lt_of_timeOfDay? {h m s nanos : Nat} {t : TimeOfDay}
    (ht : timeOfDay? h m s nanos = some t) : t.second < secondsPerDay := by
  unfold timeOfDay? at ht
  rw [secondsPerDay]
  split at ht
  · cases ht
  · rename_i hin
    split at ht
    all_goals
      obtain rfl := Option.some.inj ht
      simp only [TimeOfDay.ofHMS]
      omega

theorem second_lt_of_hourMinute? {cs rest : List Char} {t : TimeOfDay}
    (h : hourMinute? cs = some (t, rest)) : t.second < secondsPerDay := by
  simp only [hourMinute?, bind, pure, Option.bind_eq_some_iff, Option.some.injEq,
    Prod.mk.injEq] at h
  obtain ⟨_, -, _, -, _, -, t', ht, rfl, -⟩ := h
  exact second_lt_of_timeOfDay? ht

theorem second_lt_of_time? {cs rest : List Char} {t : TimeOfDay}
    (h : time? false cs = some (t, rest)) : t.second < secondsPerDay := by
  simp only [time?, bind, pure, Bool.false_eq_true, if_false, Option.bind_eq_some_iff,
    Option.some.injEq, Prod.mk.injEq] at h
  obtain ⟨_, -, _, -, _, -, _, -, _, -, _, -, t', ht, rfl, -⟩ := h
  exact second_lt_of_timeOfDay? ht

/-- What a reader takes of a whole text it takes of some text. -/
theorem eq_some_of_whole? {α : Type} {read : List Char → Option (α × List Char)}
    {cs : List Char} {a : α} (h : whole? read cs = some a) : read cs = some (a, []) := by
  unfold whole? at h
  split at h
  · rename_i hread
    rw [hread, Option.some.inj h]
  · cases h

end Fields

/-- A boundary of the time buckets is a time of one day. -/
theorem Boundaries.second_lt_of_readTime? {s : String} {t : TimeOfDay}
    (h : readTime? s = some t) : t.second < secondsPerDay := by
  unfold readTime? at h
  dsimp only at h
  split at h
  · cases h
  · obtain ⟨u, hu, rfl⟩ := Option.map_eq_some_iff.mp h
    have hlt : u.second < secondsPerDay := by
      split at hu
      · exact Fields.second_lt_of_hourMinute? (Fields.eq_some_of_whole? hu)
      · exact Fields.second_lt_of_time? (Fields.eq_some_of_whole? hu)
    exact hlt

end Almanac
