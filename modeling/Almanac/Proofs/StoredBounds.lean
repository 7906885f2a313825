import Almanac.Proofs.Civil.ReadDates
import Almanac.Proofs.RangeOfArgument
import Almanac.Proofs.Zone.Ends
import Almanac.Record

/-! # Stored times and the calendar

Whatever text is stored, what is read of it is a time of the calendar with a fraction below two
seconds (`StorageForm.proper_of_read?`): seconds since 1970 are read only as far as the calendar
has them, a timestamp has a year of four digits, and dates are dates of the calendar.

Its instant lies in the calendar too, and near the time on the clock
(`StorageForm.instant_near`).  To find it, though, a time of the last four hours may be looked up
past the calendar (`StorageForm.Late`), and then there is none (`StorageForm.fits_iff`).
-/
namespace Almanac

/-! ## Fields -/

namespace Fields

variable {cs rest : List Char} {n nanos : Nat} {t : TimeOfDay}

theorem lt_of_exactly? {width : Nat} (h : exactly? width cs = some (n, rest)) :
    n < 10 ^ width := by
  have hdigits := (Text.digitRun_spec width cs).2
  unfold exactly? at h
  dsimp only at h
  split at h
  · rename_i hlength
    have hlt := Text.digitsValue_lt hdigits
    rwa [hlength, (Prod.mk.inj (Option.some.inj h)).1] at hlt
  · cases h

/-- A fraction is less than a second. -/
theorem lt_of_nanos? (h : nanos? cs = some (nanos, rest)) : nanos < nanosPerSecond := by
  have hdigits := Text.digitRun_spec 9 cs
  unfold nanos? at h
  split at h
  · cases h
  · rename_i ds later _ hrun
    rw [hrun] at hdigits
    rw [← (Prod.mk.inj (Option.some.inj h)).1]
    have hlt := Text.digitsValue_lt hdigits.2
    have hpos : 0 < 10 ^ (9 - ds.length) := Nat.pow_pos (by decide)
    calc Text.digitsValue ds * Nat.pow 10 (9 - ds.length)
        < 10 ^ ds.length * 10 ^ (9 - ds.length) := Nat.mul_lt_mul_of_pos_right hlt hpos
      _ = 10 ^ 9 := by rw [← Nat.pow_add, Nat.add_sub_cancel' hdigits.1]
      _ = nanosPerSecond := rfl

theorem lt_of_fraction? (h : fraction? cs = some (nanos, rest)) : nanos < nanosPerSecond := by
  unfold fraction? at h
  split at h
  · exact lt_of_nanos? h
  · rw [← (Prod.mk.inj (Option.some.inj h)).1]
    decide

theorem nanos_of_timeOfDay? {hour minute second : Nat}
    (h : timeOfDay? hour minute second nanos = some t) : t.nanos < nanosPerSecond + nanos + 1 := by
  unfold timeOfDay? at h
  split at h
  · cases h
  · split at h
    all_goals
      rw [← Option.some.inj h, TimeOfDay.ofHMS]
      dsimp only
      omega

theorem nanos_of_time? (h : time? false cs = some (t, rest)) :
    t.nanos < 2 * nanosPerSecond := by
  simp only [time?, bind, pure, Bool.false_eq_true, if_false, Option.bind_eq_some_iff,
    Option.some.injEq, Prod.mk.injEq] at h
  obtain ⟨_, -, _, -, _, -, _, -, _, -, ⟨nanos, _⟩, hzero, t', ht, rfl, -⟩ := h
  have hlt := nanos_of_timeOfDay? ht
  rw [← (Prod.mk.inj hzero).1, nanosPerSecond] at hlt
  rw [nanosPerSecond]
  omega

end Fields

/-- A time is resolved less than two days from it. -/
theorem Zone.resolve_near {z : Zone} (hz : z.Regular) (w : WallTime) :
    w.seconds - 2 * 86400 < (z.resolve w).seconds ∧
      (z.resolve w).seconds < w.seconds + 2 * 86400 := by
  have hnear := clock_near hz (z.resolve w).seconds
  rcases clock_resolve_cases hz w with ⟨k, hk, hshown⟩ | ⟨hutc, -⟩
  · rw [probeStep] at hshown
    rw [probeCount] at hk
    omega
  · omega

/-! ## Proper times -/

/-- Whether a reading is one of a clock: on a date of the calendar, with a fraction below two
seconds, where a second one marks a leap second. -/
def WallTime.Proper (w : WallTime) : Prop :=
  w.inCalendar = true ∧ w.nanos < 2 * nanosPerSecond

theorem WallTime.proper_dayStart {d : Date} (hd : d.inCalendar = true) :
    (WallTime.dayStart d).Proper :=
  ⟨inCalendar_of_date (date_dayStart d) hd, by rw [nanos_dayStart]; decide⟩

theorem WallTime.proper_of_read? {sep : Char} {s : String} {w : WallTime}
    (h : WallTime.read? sep s = some w) : w.Proper := by
  obtain ⟨d, t, cs, rest, hd, ht, rfl⟩ := exists_of_read? h
  exact ⟨inCalendar_ofTime hd (Fields.second_lt_of_time? ht), Fields.nanos_of_time? ht⟩

namespace Instant

variable {cs rest : List Char} {t : Instant} {offset : Int}

/-- An offset of a clock is less than a day. -/
theorem offset?_near (h : offset? cs = some (offset, rest)) :
    -86400 < offset ∧ offset < 86400 := by
  unfold offset? at h
  split at h
  · cases h
  · split at h
    · rw [← (Prod.mk.inj (Option.some.inj h)).1]
      decide
    · split at h
      · simp only [bind, pure, Option.bind_eq_some_iff] at h
        obtain ⟨⟨hour, _⟩, -, _, -, ⟨minute, _⟩, -, h⟩ := h
        split at h
        · rename_i hin
          rw [← (Prod.mk.inj (Option.some.inj h)).1]
          dsimp only at hin ⊢
          split <;> omega
        · cases h
      · cases h

/-- The parts of a timestamp that is read. -/
theorem exists_of_timestamp? (h : timestamp? cs = some (t, rest)) :
    ∃ (y month day hour minute second nanos : Nat) (offset : Int) (date : Date) (time : TimeOfDay),
      (y < 10 ^ 4 ∧ nanos < nanosPerSecond ∧ -86400 < offset ∧ offset < 86400) ∧
        Date.ofYMD? y month day = some date ∧
        Fields.timeOfDay? hour minute second nanos = some time ∧
        t = .ofUtc ((WallTime.ofTime date time).shift (-offset)) := by
  obtain ⟨⟨y, _⟩, hy, h⟩ := Option.bind_eq_some_iff.mp h
  obtain ⟨_, -, h⟩ := Option.bind_eq_some_iff.mp h
  obtain ⟨_, -, h⟩ := Option.bind_eq_some_iff.mp h
  obtain ⟨_, -, h⟩ := Option.bind_eq_some_iff.mp h
  obtain ⟨_, -, h⟩ := Option.bind_eq_some_iff.mp h
  obtain ⟨_, -, h⟩ := Option.bind_eq_some_iff.mp h
  obtain ⟨_, -, h⟩ := Option.bind_eq_some_iff.mp h
  obtain ⟨_, -, h⟩ := Option.bind_eq_some_iff.mp h
  obtain ⟨_, -, h⟩ := Option.bind_eq_some_iff.mp h
  obtain ⟨_, -, h⟩ := Option.bind_eq_some_iff.mp h
  obtain ⟨_, -, h⟩ := Option.bind_eq_some_iff.mp h
  obtain ⟨⟨nanos, _⟩, hnanos, h⟩ := Option.bind_eq_some_iff.mp h
  obtain ⟨⟨offset, _⟩, hoffset, h⟩ := Option.bind_eq_some_iff.mp h
  obtain ⟨date, hdate, h⟩ := Option.bind_eq_some_iff.mp h
  obtain ⟨time, htime, h⟩ := Option.bind_eq_some_iff.mp h
  obtain ⟨rfl, -⟩ := Prod.mk.inj (Option.some.inj h)
  have hbounds : y < 10 ^ 4 ∧ nanos < nanosPerSecond ∧ -86400 < offset ∧ offset < 86400 :=
    ⟨Fields.lt_of_exactly? hy, Fields.lt_of_fraction? hnanos, offset?_near hoffset⟩
  exact ⟨y, _, _, _, _, _, nanos, offset, date, time, hbounds, hdate, htime, rfl⟩

theorem proper_of_timestamp? (h : timestamp? cs = some (t, rest)) : t.utc.Proper := by
  obtain ⟨y, _, _, _, _, _, nanos, offset, date, time, ⟨hy, hnanos, hoffset⟩, hdate, htime, rfl⟩ :=
    exists_of_timestamp? h
  obtain ⟨⟨hyear, -⟩, -⟩ := Date.ofYMD?_eq_some.mp hdate
  have hmargin := Date.margin_of_year (d := date) (by omega)
  have hsecond := Fields.second_lt_of_timeOfDay? htime
  have hfraction := Fields.nanos_of_timeOfDay? htime
  have hfirst : firstSecond = 86400 * Date.first.dayNumber := WallTime.seconds_dayStart _
  rw [secondsPerDay] at hsecond
  refine ⟨WallTime.inCalendar_iff.mpr ?_, ?_⟩
  · rw [utc_ofUtc, WallTime.shift, WallTime.ofTime, Zone.lastSecond_eq, hfirst, secondsPerDay]
    dsimp only
    omega
  · rw [utc_ofUtc, WallTime.shift, WallTime.ofTime]
    dsimp only
    omega

theorem proper_of_read? {s : String} (h : read? s = some t) : t.utc.Proper :=
  proper_of_timestamp? (Fields.eq_some_of_whole? h)

theorem proper_of_ofUnix? {seconds : Int} (h : ofUnix? seconds = some t) : t.utc.Proper := by
  unfold ofUnix? at h
  dsimp only at h
  split at h
  · rename_i hin
    rw [← Option.some.inj h]
    refine ⟨hin, ?_⟩
    show 0 < 2 * nanosPerSecond
    decide
  · cases h

end Instant

/-! ## Stored forms -/

namespace StorageForm

variable {bound : Bound} {storage display : Zone} {form : StorageForm}

/-- The time that a form names on its clock; the first one of a date. -/
def reading : StorageForm → WallTime
  | absolute t => t.utc
  | wallTime w => w
  | date d => .dayStart d

/-- **What is read of a stored text** is a time of the calendar. -/
theorem proper_of_read? {s : String} (h : read? s = some form) : form.reading.Proper := by
  unfold read? at h
  dsimp only at h
  split at h
  · cases h
  · unfold ofTrimmed? at h
    dsimp only at h
    split at h
    · unfold ofDigits? at h
      dsimp only at h
      split at h
      · obtain ⟨t, ht, rfl⟩ := Option.map_eq_some_iff.mp h
        exact Instant.proper_of_ofUnix? ht
      · cases h
    · split at h
      · rename_i hread
        obtain rfl := Option.some.inj h
        exact Instant.proper_of_read? hread
      · split at h
        · rename_i hread
          obtain rfl := Option.some.inj h
          rcases Option.or_eq_some_iff.mp hread with hread | ⟨-, hread⟩
          · exact WallTime.proper_of_read? hread
          · exact WallTime.proper_of_read? hread
        · obtain ⟨d, hread, rfl⟩ := Option.map_eq_some_iff.mp h
          refine WallTime.proper_dayStart ?_
          rcases Option.or_eq_some_iff.mp hread with hread | ⟨-, hread⟩
          · exact Date.inCalendar_of_read? hread
          · exact Date.inCalendar_of_readCompact? hread

theorem inCalendar_dayBound {d : Date} (bound : Bound) (hd : d.inCalendar = true) :
    (dayBound bound d).inCalendar = true := by
  cases bound with
  | start => exact WallTime.inCalendar_of_date (WallTime.date_dayStart d) hd
  | finish => exact WallTime.inCalendar_of_date (WallTime.date_dayEnd d) hd

theorem seconds_dayBound (bound : Bound) (d : Date) :
    86400 * d.dayNumber ≤ (dayBound bound d).seconds ∧
      (dayBound bound d).seconds < 86400 * d.dayNumber + 86400 := by
  cases bound with
  | start =>
    rw [dayBound, WallTime.seconds_dayStart]
    omega
  | finish =>
    rw [dayBound, WallTime.seconds_dayEnd]
    omega

theorem inCalendar_of_reading {d : Date} (h : (date d).reading.Proper) : d.inCalendar = true := by
  have hin := h.1
  rwa [reading, WallTime.inCalendar, WallTime.date_dayStart] at hin

/-! ## Finding the instant -/

/-- Whether a form is a time of the last four hours of the calendar that its clocks show only
when the calendar is over. -/
def Late (bound : Bound) (storage display : Zone) : StorageForm → Prop
  | absolute _ => False
  | wallTime w => Instant.lastSecond < w.seconds + 14400 ∧
      Instant.lastSecond < w.seconds - storage.lastOffset
  | date d => bound = .finish ∧ d = Date.last ∧ display.lastOffset < 0

instance (bound : Bound) (storage display : Zone) (form : StorageForm) :
    Decidable (form.Late bound storage display) :=
  match form with
  | absolute _ => inferInstanceAs (Decidable False)
  | wallTime _ => inferInstanceAs (Decidable (_ ∧ _))
  | date _ => inferInstanceAs (Decidable (_ ∧ _))

/-- **Which forms have an instant**: all but the late ones. -/
theorem fits_iff (hstorage : storage.Regular) (hdisplay : display.Regular)
    (hproper : form.reading.Proper) :
    form.fits bound storage display = true ↔ ¬form.Late bound storage display := by
  cases form with
  | absolute t => exact iff_of_true rfl id
  | wallTime w =>
    have hin : w.inCalendar = true := hproper.1
    rw [fits, Zone.canResolve_iff hstorage hin, Late]
    omega
  | date d =>
    have hd := inCalendar_of_reading hproper
    cases bound with
    | start => simp [fits, dayBound, Late, Zone.canResolve_dayStart hdisplay hd]
    | finish =>
      rw [fits, dayBound, Zone.canResolve_dayEnd_iff hdisplay hd, Late]
      simp

/-- The instant of a form is a proper one. -/
theorem proper_instant (hstorage : storage.Regular) (hdisplay : display.Regular)
    (hproper : form.reading.Proper) : (form.instant bound storage display).utc.Proper := by
  cases form with
  | absolute t => exact hproper
  | wallTime w =>
    refine ⟨Zone.inCalendar_resolve hstorage hproper.1, ?_⟩
    exact (Zone.nanos_resolve_le hstorage w).trans_lt hproper.2
  | date d =>
    refine ⟨Zone.inCalendar_resolve hdisplay
      (inCalendar_dayBound bound (inCalendar_of_reading hproper)), ?_⟩
    refine (Zone.nanos_resolve_le hdisplay (dayBound bound d)).trans_lt ?_
    rw [show (dayBound bound d).nanos = 0 by cases bound <;> rfl]
    decide

/-- The instant of a form is less than three days from the time on its clock. -/
theorem instant_near (hstorage : storage.Regular) (hdisplay : display.Regular)
    (form : StorageForm) :
    form.reading.seconds - 3 * 86400 < (form.instant bound storage display).seconds ∧
      (form.instant bound storage display).seconds < form.reading.seconds + 3 * 86400 := by
  cases form with
  | absolute t =>
    rw [instant, reading, Instant.utc]
    dsimp only
    omega
  | wallTime w =>
    have hnear := Zone.resolve_near hstorage w
    rw [instant, reading]
    omega
  | date d =>
    have hnear := Zone.resolve_near hdisplay (dayBound bound d)
    have hbound := seconds_dayBound bound d
    rw [instant, reading, WallTime.seconds_dayStart]
    omega

end StorageForm
end Almanac
