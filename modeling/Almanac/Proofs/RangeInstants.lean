import Almanac.Proofs.DayCoverage
import Almanac.Proofs.Zone.Resolved

/-! # The instants and the dates of a range

A range keeps two instants and reads its dates off them.  Events are looked up by the
instants, and laid out by the dates, so both should hold the same stretch of time
(`Range.Agrees`).

They do if the clocks pass each of its two midnights once (`Range.Whole`): before the start
they show earlier dates, after the end later ones, and they are not set back over either
midnight.  In each second of the stretch the clocks then show a date of the range, and in no
other (`Range.agrees_of_whole`).  If the clocks are not changed by as much as the length of
the range, all this is also necessary (`Range.whole_of_agrees`), since they cannot pass over
the range without showing one of its dates.

The clocks of São Paulo are set back at midnight, from 24:00 to 23:00.  The end of a day that
ends so is taken to be the first 23:59:59, and the repeated hour is left out.
-/
namespace Almanac

/-- The whole second that an instant lies in. -/
def Instant.wholeSecond (t : Instant) : Instant :=
  ⟨t.seconds, 0⟩

namespace Range

/-! ## Both views of a range -/

/-- Whether the instants of a range are those at which the clocks show a date of it. -/
def Agrees (r : Range) : Prop :=
  ∀ t : Instant, t.inCalendar = true →
    (r.contains (r.zone.dateAt t) = true ↔ r.start ≤ t.wholeSecond ∧ t.wholeSecond ≤ r.finish)

/-- The midnight before the first date of a range. -/
def opening (r : Range) : Int :=
  (WallTime.dayStart r.firstDate).seconds

/-- The midnight after the last date of a range. -/
def closing (r : Range) : Int :=
  (WallTime.dayStart (r.lastDate.addDays 1)).seconds

/-- A range whose two midnights the clocks pass just once. -/
structure Whole (r : Range) : Prop where
  /-- The clocks show an earlier date just before the start. -/
  begins : Instant.inCalendar ⟨r.start.seconds - 1, 0⟩ = true →
    r.zone.dateAt ⟨r.start.seconds - 1, 0⟩ < r.firstDate
  /-- They show a later date just after the end. -/
  ends : Instant.inCalendar ⟨r.finish.seconds + 1, 0⟩ = true →
    r.lastDate < r.zone.dateAt ⟨r.finish.seconds + 1, 0⟩
  /-- They are not set back over the first midnight. -/
  opens : ¬r.zone.SetBackOver r.opening
  /-- They are not set back over the last midnight. -/
  closes : ¬r.zone.SetBackOver r.closing

instance (r : Range) : Decidable r.Whole :=
  decidable_of_iff
    ((Instant.inCalendar ⟨r.start.seconds - 1, 0⟩ = true →
        r.zone.dateAt ⟨r.start.seconds - 1, 0⟩ < r.firstDate) ∧
      (Instant.inCalendar ⟨r.finish.seconds + 1, 0⟩ = true →
        r.lastDate < r.zone.dateAt ⟨r.finish.seconds + 1, 0⟩) ∧
      ¬r.zone.SetBackOver r.opening ∧ ¬r.zone.SetBackOver r.closing)
    ⟨fun ⟨hbegins, hends, hopens, hcloses⟩ => ⟨hbegins, hends, hopens, hcloses⟩,
      fun h => ⟨h.begins, h.ends, h.opens, h.closes⟩⟩

/-- A range with its instants in the calendar, in whole seconds. -/
structure InSeconds (r : Range) : Prop where
  ordered : r.firstDate ≤ r.lastDate
  start_in : r.start.inCalendar = true
  finish_in : r.finish.inCalendar = true
  start_nanos : r.start.nanos = 0
  finish_nanos : r.finish.nanos = 0

variable {r : Range}

theorem eq_of_ofDates {context : Context} {granularity : Granularity} {first last : Date}
    (h : ofDates context granularity first last = .ok r) :
    first ≤ last ∧ r =
      { start := context.zone.startOfDay first
        finish := context.zone.endOfDay last
        granularity := granularity
        zone := context.zone
        today := context.today
        firstDay := context.firstDay } := by
  unfold ofDates at h
  split at h
  · cases h
  · rename_i hle
    split at h
    · exact ⟨not_lt.mp hle, (Except.ok.inj h).symm⟩
    · cases h

theorem inSeconds_of_ofDates {context : Context} {granularity : Granularity} {first last : Date}
    (hz : context.zone.Regular) (hfirst : Date.first ≤ first) (hlast : last ≤ Date.last)
    (h : ofDates context granularity first last = .ok r) : r.InSeconds := by
  obtain ⟨hle, rfl⟩ := eq_of_ofDates h
  have hstart : (WallTime.dayStart first).inCalendar = true := by
    rw [WallTime.inCalendar, WallTime.date_dayStart, Date.inCalendar, Bool.and_eq_true,
      decide_eq_true_iff, decide_eq_true_iff]
    exact ⟨hfirst, hle.trans hlast⟩
  have hfinish : (WallTime.dayEnd last).inCalendar = true := by
    rw [WallTime.inCalendar, WallTime.date_dayEnd, Date.inCalendar, Bool.and_eq_true,
      decide_eq_true_iff, decide_eq_true_iff]
    exact ⟨hfirst.trans hle, hlast⟩
  exact {
    ordered := (Zone.dateAt_startOfDay_le hz first).trans
      (hle.trans (Zone.dateAt_endOfDay_near hz last).1)
    start_in := Zone.inCalendar_resolve hz hstart
    finish_in := Zone.inCalendar_resolve hz hfinish
    start_nanos := Nat.le_zero.mp (Zone.nanos_resolve_le hz _)
    finish_nanos := Nat.le_zero.mp (Zone.nanos_resolve_le hz _) }

/-! ## Seconds of a range -/

theorem contains_dateAt_iff {t : Instant} :
    r.contains (r.zone.dateAt t) = true ↔
      r.opening ≤ r.zone.clock t.seconds ∧ r.zone.clock t.seconds < r.closing := by
  rw [contains_iff, Date.le_def, Date.le_def, Zone.dayNumber_dateAt, opening, closing,
    WallTime.seconds_dayStart, WallTime.seconds_dayStart, Date.dayNumber_addDays]
  omega

theorem dateAt_lt_firstDate_iff {t : Instant} :
    r.zone.dateAt t < r.firstDate ↔ r.zone.clock t.seconds < r.opening := by
  rw [Date.lt_def, Zone.dayNumber_dateAt, opening, WallTime.seconds_dayStart]
  omega

theorem lastDate_lt_dateAt_iff {t : Instant} :
    r.lastDate < r.zone.dateAt t ↔ r.closing ≤ r.zone.clock t.seconds := by
  rw [Date.lt_def, Zone.dayNumber_dateAt, closing, WallTime.seconds_dayStart,
    Date.dayNumber_addDays]
  omega

namespace InSeconds

theorem between_iff (hr : r.InSeconds) {t : Instant} :
    r.start ≤ t.wholeSecond ∧ t.wholeSecond ≤ r.finish ↔
      r.start.seconds ≤ t.seconds ∧ t.seconds ≤ r.finish.seconds := by
  rw [Instant.le_def, Instant.le_def, hr.start_nanos, hr.finish_nanos, Instant.wholeSecond]
  dsimp only
  omega

/-- The clocks show the first date at the start. -/
theorem start_shown (hr : r.InSeconds) :
    r.opening ≤ r.zone.clock r.start.seconds ∧ r.zone.clock r.start.seconds < r.closing :=
  contains_dateAt_iff.mp (Bool.and_eq_true_iff.mpr
    ⟨decide_eq_true le_rfl, decide_eq_true hr.ordered⟩)

/-- The clocks show the last date at the end. -/
theorem finish_shown (hr : r.InSeconds) :
    r.opening ≤ r.zone.clock r.finish.seconds ∧ r.zone.clock r.finish.seconds < r.closing :=
  contains_dateAt_iff.mp (Bool.and_eq_true_iff.mpr
    ⟨decide_eq_true hr.ordered, decide_eq_true le_rfl⟩)

end InSeconds

theorem agrees_iff (hr : r.InSeconds) :
    r.Agrees ↔ ∀ u, Instant.firstSecond ≤ u → u ≤ Instant.lastSecond →
      (r.opening ≤ r.zone.clock u ∧ r.zone.clock u < r.closing ↔
        r.start.seconds ≤ u ∧ u ≤ r.finish.seconds) := by
  constructor
  · intro h u hfirst hlast
    have hsecond := h ⟨u, 0⟩ (Instant.inCalendar_iff.mpr ⟨hfirst, hlast⟩)
    rwa [contains_dateAt_iff, hr.between_iff] at hsecond
  · intro h t ht
    obtain ⟨hfirst, hlast⟩ := Instant.inCalendar_iff.mp ht
    rw [contains_dateAt_iff, hr.between_iff]
    exact h t.seconds hfirst hlast

/-! ## When the views agree -/

/-- **Clocks that pass each midnight once** show a date of the range exactly between its
instants. -/
theorem agrees_of_whole (hz : r.zone.Regular) (hr : r.InSeconds) (h : r.Whole) : r.Agrees := by
  refine (agrees_iff hr).mpr fun u hfirst hlast => ?_
  obtain ⟨hstart, -⟩ := hr.start_shown
  obtain ⟨-, hfinish⟩ := hr.finish_shown
  obtain ⟨hsfirst, hslast⟩ := Instant.inCalendar_iff.mp hr.start_in
  obtain ⟨hffirst, hflast⟩ := Instant.inCalendar_iff.mp hr.finish_in
  constructor
  · rintro ⟨hopened, hopen⟩
    constructor
    · by_contra hearly
      rw [not_le] at hearly
      have hin : Instant.inCalendar ⟨r.start.seconds - 1, 0⟩ = true :=
        Instant.inCalendar_iff.mpr ⟨by dsimp only; omega, by dsimp only; omega⟩
      have hbefore := dateAt_lt_firstDate_iff.mp (h.begins hin)
      have hkept := Zone.le_clock_of_not_setBackOver hz h.opens
        (s := u) (t := r.start.seconds - 1) (by omega) hopened
      exact absurd hkept (not_le.mpr hbefore)
    · by_contra hlate
      rw [not_le] at hlate
      have hin : Instant.inCalendar ⟨r.finish.seconds + 1, 0⟩ = true :=
        Instant.inCalendar_iff.mpr ⟨by dsimp only; omega, by dsimp only; omega⟩
      have hafter := lastDate_lt_dateAt_iff.mp (h.ends hin)
      have hkept := Zone.le_clock_of_not_setBackOver hz h.closes
        (s := r.finish.seconds + 1) (t := u) (by omega) hafter
      exact absurd hkept (not_le.mpr hopen)
  · rintro ⟨hle, hge⟩
    refine ⟨Zone.le_clock_of_not_setBackOver hz h.opens hle hstart, ?_⟩
    by_contra hclosed
    have hkept := Zone.le_clock_of_not_setBackOver hz h.closes hge (not_lt.mp hclosed)
    exact absurd hkept (not_le.mpr hfinish)

/-- Whether the clocks are never changed by as much as the length of the range. -/
def Spans (r : Range) : Prop :=
  ∀ step ∈ r.zone.steps, step.2.offset - step.1 < r.closing - r.opening ∧
    step.1 - step.2.offset < r.closing - r.opening

instance (r : Range) : Decidable r.Spans :=
  inferInstanceAs (Decidable (∀ step ∈ r.zone.steps, _))

theorem InSeconds.opening_lt_closing (hr : r.InSeconds) : r.opening < r.closing :=
  hr.start_shown.1.trans_lt hr.start_shown.2

/-- The clocks do not go ahead over all dates of the range at once. -/
theorem Spans.opening_le_clock (hz : r.zone.Regular) (hr : r.InSeconds) (hspans : r.Spans)
    {e : Int} (h : r.closing ≤ r.zone.clock e) : r.opening ≤ r.zone.clock (e - 1) := by
  have hlong := hr.opening_lt_closing
  rcases Zone.clock_cases hz e with hsame | ⟨step, hstep, rfl, hold, hnew⟩
  · omega
  · have hless := (hspans step hstep).1
    omega

/-- If the views agree, the clocks show earlier dates at all instants before the start. -/
theorem Agrees.clock_lt_opening (hz : r.zone.Regular) (hr : r.InSeconds) (hspans : r.Spans)
    (h : r.Agrees) {u : Int} (hfirst : Instant.firstSecond ≤ u) (hu : u < r.start.seconds) :
    r.zone.clock u < r.opening := by
  have hseconds := (agrees_iff hr).mp h
  obtain ⟨hsfirst, hslast⟩ := Instant.inCalendar_iff.mp hr.start_in
  by_contra hnot
  have hclosed : r.closing ≤ r.zone.clock u := by
    by_contra hopen
    have hin := (hseconds u hfirst (by omega)).mp ⟨not_lt.mp hnot, not_le.mp hopen⟩
    omega
  -- The calendar begins before the range, so the clocks have passed over it to be after it.
  have hbegin : r.zone.clock Instant.firstSecond < r.closing :=
    (Zone.clock_firstSecond_le hz hsfirst).trans_lt hr.start_shown.2
  obtain ⟨e, hfe, heu, hreached, hbefore⟩ := Zone.exists_first_le hfirst hbegin hclosed
  have hprev := hbefore (e - 1) (by omega) (by omega)
  have hin := (hseconds (e - 1) (by omega) (by omega)).mp
    ⟨hspans.opening_le_clock hz hr hreached, hprev⟩
  omega

/-- If the views agree, the clocks show later dates at all instants after the end. -/
theorem Agrees.closing_le_clock (hz : r.zone.Regular) (hr : r.InSeconds) (hspans : r.Spans)
    (h : r.Agrees) {u : Int} (hu : r.finish.seconds < u) (hlast : u ≤ Instant.lastSecond) :
    r.closing ≤ r.zone.clock u := by
  have hseconds := (agrees_iff hr).mp h
  obtain ⟨hffirst, hflast⟩ := Instant.inCalendar_iff.mp hr.finish_in
  by_contra hnot
  have hunopened : r.zone.clock u < r.opening := by
    by_contra hopened
    have hin := (hseconds u (by omega) hlast).mp ⟨not_lt.mp hopened, not_le.mp hnot⟩
    omega
  -- The calendar ends after the range, so the clocks pass over it once more.
  have hend : r.opening ≤ r.zone.clock Instant.lastSecond :=
    hr.finish_shown.1.trans (Zone.clock_le_lastSecond hz hflast)
  obtain ⟨e, hue, hel, hreached, hbefore⟩ := Zone.exists_first_le hlast hunopened hend
  have hprev := hbefore (e - 1) (by omega) (by omega)
  have hin : r.closing ≤ r.zone.clock e := by
    by_contra hopen
    have hin := (hseconds e (by omega) (by omega)).mp ⟨hreached, not_le.mp hopen⟩
    omega
  have hopened := hspans.opening_le_clock hz hr hin
  omega

/-- A change that sets the clocks back over a second takes place within the calendar. -/
theorem exists_of_setBackOver {z : Zone} (hz : z.Regular) {w : Int} (h : z.SetBackOver w) :
    ∃ e, Instant.firstSecond < e ∧ e ≤ Instant.lastSecond ∧ w ≤ z.clock (e - 1) ∧
      z.clock e < w := by
  obtain ⟨step, hstep, hnew, hold⟩ := h
  obtain ⟨hfirst, hlast⟩ := Zone.inCalendar_of_mem_steps hz hstep
  obtain ⟨hbefore, hafter⟩ := Zone.clock_of_mem_steps hz hstep
  have hat := hafter step.2.second le_rfl (by rw [Zone.probeStep]; omega)
  rw [secondsPerDay] at hfirst hlast
  exact ⟨step.2.second, by omega, by omega, by omega, by omega⟩

/-- **Where the views agree**, the clocks pass each midnight once. -/
theorem whole_of_agrees (hz : r.zone.Regular) (hr : r.InSeconds) (hspans : r.Spans)
    (h : r.Agrees) : r.Whole := by
  have hlong := hr.opening_lt_closing
  have hseconds := (agrees_iff hr).mp h
  obtain ⟨hsfirst, hslast⟩ := Instant.inCalendar_iff.mp hr.start_in
  have hstart := (hseconds _ hsfirst hslast).mp hr.start_shown
  have hsplit : ∀ u, Instant.firstSecond ≤ u → u ≤ Instant.lastSecond →
      u < r.start.seconds ∧ r.zone.clock u < r.opening ∨
        (r.start.seconds ≤ u ∧ u ≤ r.finish.seconds) ∧
          (r.opening ≤ r.zone.clock u ∧ r.zone.clock u < r.closing) ∨
        r.finish.seconds < u ∧ r.closing ≤ r.zone.clock u := by
    intro u hfirst hlast
    rcases lt_or_ge u r.start.seconds with hearly | hstarted
    · exact .inl ⟨hearly, h.clock_lt_opening hz hr hspans hfirst hearly⟩
    · rcases lt_or_ge r.finish.seconds u with hlate | hunended
      · exact .inr (.inr ⟨hlate, h.closing_le_clock hz hr hspans hlate hlast⟩)
      · exact .inr (.inl ⟨⟨hstarted, hunended⟩,
          (hseconds u hfirst hlast).mpr ⟨hstarted, hunended⟩⟩)
  refine { begins := fun hin => ?_, ends := fun hin => ?_, opens := fun hback => ?_,
           closes := fun hback => ?_ }
  · obtain ⟨hfirst, hlast⟩ := Instant.inCalendar_iff.mp hin
    exact dateAt_lt_firstDate_iff.mpr
      (h.clock_lt_opening hz hr hspans hfirst (by dsimp only; omega))
  · obtain ⟨hfirst, hlast⟩ := Instant.inCalendar_iff.mp hin
    exact lastDate_lt_dateAt_iff.mpr (h.closing_le_clock hz hr hspans (by dsimp only; omega) hlast)
  · obtain ⟨e, hfirst, hlast, hbefore, hafter⟩ := exists_of_setBackOver hz hback
    have hnow := hsplit e hfirst.le hlast
    have hprev := hsplit (e - 1) (by omega) (by omega)
    omega
  · obtain ⟨e, hfirst, hlast, hbefore, hafter⟩ := exists_of_setBackOver hz hback
    have hnow := hsplit e hfirst.le hlast
    have hprev := hsplit (e - 1) (by omega) (by omega)
    omega

/-- **The two views of a range of whole days** agree if the clocks pass each of its midnights
once, and only then unless they are changed by as much as its length. -/
theorem agrees_ofDates {context : Context} {granularity : Granularity} {first last : Date}
    (hz : context.zone.Regular) (hfirst : Date.first ≤ first) (hlast : last ≤ Date.last)
    (h : ofDates context granularity first last = .ok r) :
    (r.Whole → r.Agrees) ∧ (r.Spans → r.Agrees → r.Whole) := by
  have hr := inSeconds_of_ofDates hz hfirst hlast h
  have hzone : r.zone.Regular := by
    obtain ⟨-, rfl⟩ := eq_of_ofDates h
    exact hz
  exact ⟨agrees_of_whole hzone hr, whole_of_agrees hzone hr⟩

/-- In November 2024 the clocks of New York are set back, but not at a midnight of a bound. -/
theorem agrees_ofDates_november :
    ((⟨.newYork, ⟨20042⟩, 0⟩ : Context).zone.Regular ∧ Date.first ≤ ⟨20028⟩ ∧
        (⟨20057⟩ : Date) ≤ Date.last ∧
        ofDates ⟨.newYork, ⟨20042⟩, 0⟩ .month ⟨20028⟩ ⟨20057⟩ = .ok Occurrence.november) ∧
      Occurrence.november.Agrees := by
  have hz : (⟨.newYork, ⟨20042⟩, 0⟩ : Context).zone.Regular := by decide +kernel
  have hmade : ofDates ⟨.newYork, ⟨20042⟩, 0⟩ .month ⟨20028⟩ ⟨20057⟩ =
      .ok Occurrence.november := by
    decide +kernel
  obtain ⟨hagrees, -⟩ := agrees_ofDates hz (by decide) (by decide) hmade
  exact ⟨⟨hz, by decide, by decide, hmade⟩, hagrees (by decide +kernel)⟩

/-- 2018-02-17 in São Paulo, a day at the end of which the clocks are set back by an hour. -/
def longDay : Range where
  start := ⟨1518832800, 0⟩
  finish := ⟨1518919199, 0⟩
  granularity := .day
  zone := .saoPaulo
  today := ⟨17579⟩
  firstDay := 0

/-- The repeated hour of a day that ends with it is on the day, but not in its range. -/
theorem not_agrees_longDay :
    ofDates ⟨.saoPaulo, ⟨17579⟩, 0⟩ .day ⟨17579⟩ ⟨17579⟩ = .ok longDay ∧ ¬longDay.Agrees := by
  refine ⟨by decide +kernel, fun h => ?_⟩
  have hshown : longDay.contains (longDay.zone.dateAt ⟨1518921000, 0⟩) = true := by
    decide +kernel
  have hin := (h ⟨1518921000, 0⟩ (by decide)).mp hshown
  exact absurd hin.2 (by decide)

end Range
end Almanac
