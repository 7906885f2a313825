import Almanac.Proofs.ZoneDates
import Almanac.Zone.Names
import Mathlib.Data.List.Chain
import Mathlib.Data.Nat.Find

/-! # The clocks of a zone, second by second

At every second of universal time the clocks of a zone show one second (`Zone.clock`).  From
one second to the next they go on by one, but where they are changed (`Zone.clock_cases`).
The clocks of a regular zone are changed at most every half hour; as they stay within a day
of universal time, they reach every time at some second (`Zone.exists_first_reached`), and
show it then unless a change skips it (`Zone.exists_step_of_skipped`).

The readings of a wall-clock time are all seconds at which the clocks show it
(`Zone.mem_readings`), so the earliest instant of a time is the first of these, if the
calendar has it (`Zone.earliest?_eq_some`).
-/
namespace Almanac

/-! ## The calendar -/

/-- The first second of the calendar. -/
def Instant.firstSecond : Int := (WallTime.dayStart Date.first).seconds

/-- The last second of the calendar. -/
def Instant.lastSecond : Int := (WallTime.dayEnd Date.last).seconds

theorem WallTime.inCalendar_iff {w : WallTime} :
    w.inCalendar = true ↔ Instant.firstSecond ≤ w.seconds ∧ w.seconds ≤ Instant.lastSecond := by
  rw [inCalendar, Date.inCalendar, Bool.and_eq_true, decide_eq_true_iff, decide_eq_true_iff,
    Date.le_def, Date.le_def, dayNumber_date, Instant.firstSecond, Instant.lastSecond,
    seconds_dayStart, seconds_dayEnd]
  omega

theorem Instant.inCalendar_iff {t : Instant} :
    t.inCalendar = true ↔ firstSecond ≤ t.seconds ∧ t.seconds ≤ lastSecond :=
  WallTime.inCalendar_iff

namespace Zone

variable {z : Zone}

/-! ## Regular zones -/

/-- The changes of the clocks, each with the offset before it. -/
def steps (z : Zone) : List (Int × ClockChange) :=
  z.offsets.zip z.changes

/-- What holds of the clocks of every listed zone. -/
structure Regular (z : Zone) : Prop where
  /-- They are always less than a day away from universal time. -/
  withinDay : z.WithinDay
  /-- They are changed at most every half hour. -/
  apart : z.changes.IsChain fun c d => c.second + probeStep ≤ d.second
  /-- They are not changed in the first and the last two days of the calendar. -/
  inCalendar : ∀ c ∈ z.changes,
    Instant.firstSecond + 2 * secondsPerDay ≤ c.second ∧
      c.second + 2 * secondsPerDay ≤ Instant.lastSecond

instance (z : Zone) : Decidable z.Regular :=
  decidable_of_iff
    (z.WithinDay ∧ z.changes.IsChain (fun c d => c.second + probeStep ≤ d.second) ∧
      ∀ c ∈ z.changes, Instant.firstSecond + 2 * secondsPerDay ≤ c.second ∧
        c.second + 2 * secondsPerDay ≤ Instant.lastSecond)
    ⟨fun ⟨hday, hapart, hin⟩ => ⟨hday, hapart, hin⟩,
      fun h => ⟨h.withinDay, h.apart, h.inCalendar⟩⟩

end Zone

/-- Whether every zone that is found is regular. -/
def Zones.Regular (zones : Zones) : Prop :=
  ∀ name z, zones name = some z → z.Regular

theorem Zones.regular_listed : listed.Regular := by
  have hall : ∀ z ∈ Zone.all, z.Regular := by decide +kernel
  exact fun _ z h => hall z (List.mem_of_find?_eq_some h)

namespace Zone

variable {z : Zone}

/-- Whether the changes of a list are at least half an hour apart. -/
def Apart (changes : List ClockChange) : Prop :=
  changes.Pairwise fun c d => c.second + probeStep ≤ d.second

theorem Regular.pairwise (hz : z.Regular) : Apart z.changes := by
  have htrans : Trans (fun c d : ClockChange => c.second + probeStep ≤ d.second)
      (fun c d : ClockChange => c.second + probeStep ≤ d.second)
      (fun c d : ClockChange => c.second + probeStep ≤ d.second) := by
    refine ⟨fun {a b c} hab hbc => ?_⟩
    rw [probeStep] at *
    omega
  exact hz.apart.pairwise

/-! ## What the clocks show -/

/-- The second that the clocks show at a second of universal time. -/
def clock (z : Zone) (t : Int) : Int :=
  t + z.offsetAt t

@[simp] theorem seconds_wall (z : Zone) (t : Instant) :
    (z.wall t).seconds = z.clock t.seconds := rfl

@[simp] theorem nanos_wall (z : Zone) (t : Instant) : (z.wall t).nanos = t.nanos := rfl

theorem dayNumber_dateAt (z : Zone) (t : Instant) :
    (z.dateAt t).dayNumber = z.clock t.seconds / 86400 := rfl

theorem clock_near (hz : z.Regular) (t : Int) : t - 86400 < z.clock t ∧ z.clock t < t + 86400 := by
  have hoffset := hz.withinDay _ (z.offsetAt_mem t)
  rw [secondsPerDay] at hoffset
  rw [clock]
  omega

/-! ## Changes of the clocks -/

/-- Before the first change the first offset holds. -/
theorem offsetAfter_of_forall_lt {t offset : Int} {changes : List ClockChange}
    (h : ∀ c ∈ changes, t < c.second) : offsetAfter t offset changes = offset := by
  cases changes with
  | nil => rfl
  | cons c rest => rw [offsetAfter, if_pos (h c List.mem_cons_self)]

/-- From one second to the next the offset stays, or it changes as the list says. -/
theorem offsetAfter_cases (t offset : Int) {changes : List ClockChange} (h : Apart changes) :
    offsetAfter t offset changes = offsetAfter (t - 1) offset changes ∨
      ∃ step ∈ (offset :: changes.map (·.offset)).zip changes, step.2.second = t ∧
        offsetAfter (t - 1) offset changes = step.1 ∧
          offsetAfter t offset changes = step.2.offset := by
  induction changes generalizing offset with
  | nil => exact .inl rfl
  | cons c rest ih =>
    obtain ⟨hfirst, hrest⟩ := List.pairwise_cons.mp h
    rcases Int.lt_trichotomy t c.second with hlt | rfl | hlt
    · rw [offsetAfter, offsetAfter, if_pos hlt, if_pos (by omega)]
      exact .inl rfl
    · refine .inr ⟨(offset, c), List.mem_cons_self, rfl, ?_, ?_⟩
      · rw [offsetAfter, if_pos (by omega)]
      · rw [offsetAfter, if_neg (by omega)]
        refine offsetAfter_of_forall_lt fun d hd => ?_
        have hnext := hfirst d hd
        rw [probeStep] at hnext
        omega
    · rw [offsetAfter, offsetAfter, if_neg (by omega), if_neg (by omega)]
      rcases ih c.offset hrest with hsame | ⟨step, hstep, hchange⟩
      · exact .inl hsame
      · exact .inr ⟨step, List.mem_cons_of_mem _ hstep, hchange⟩

/-- A change of the list takes place, and the new offset stays for half an hour. -/
theorem offsetAfter_of_mem_zip {offset : Int} {changes : List ClockChange} (h : Apart changes)
    {step : Int × ClockChange} (hstep : step ∈ (offset :: changes.map (·.offset)).zip changes) :
    offsetAfter (step.2.second - 1) offset changes = step.1 ∧
      ∀ t, step.2.second ≤ t → t < step.2.second + probeStep →
        offsetAfter t offset changes = step.2.offset := by
  induction changes generalizing offset with
  | nil => exact absurd hstep List.not_mem_nil
  | cons c rest ih =>
    obtain ⟨hfirst, hrest⟩ := List.pairwise_cons.mp h
    rcases List.mem_cons.mp hstep with rfl | hstep
    · dsimp only
      refine ⟨by rw [offsetAfter, if_pos (by omega)], fun t hle hlt => ?_⟩
      rw [offsetAfter, if_neg (by omega)]
      exact offsetAfter_of_forall_lt fun d hd => lt_of_lt_of_le hlt (hfirst d hd)
    · -- A later change of the list comes half an hour after the first one.
      have hlater := hfirst _ (List.of_mem_zip hstep).2
      obtain ⟨hbefore, hafter⟩ := ih hrest hstep
      rw [probeStep] at hlater
      refine ⟨?_, fun t hle hlt => ?_⟩
      · rw [offsetAfter, if_neg (by omega), hbefore]
      · rw [offsetAfter, if_neg (by omega), hafter t hle hlt]

/-- **From one second to the next** the clocks go on by one second, or are changed. -/
theorem clock_cases (hz : z.Regular) (t : Int) :
    z.clock t = z.clock (t - 1) + 1 ∨
      ∃ step ∈ z.steps, step.2.second = t ∧ z.clock (t - 1) = t - 1 + step.1 ∧
        z.clock t = t + step.2.offset := by
  rcases offsetAfter_cases t z.firstOffset hz.pairwise with
    hsame | ⟨step, hstep, ht, hbefore, hafter⟩
  · left
    rw [clock, clock, offsetAt, offsetAt, hsame]
    omega
  · right
    refine ⟨step, hstep, ht, ?_, ?_⟩
    · rw [clock, offsetAt, hbefore]
    · rw [clock, offsetAt, hafter]

/-- What the clocks show around a change. -/
theorem clock_of_mem_steps (hz : z.Regular) {step : Int × ClockChange} (hstep : step ∈ z.steps) :
    z.clock (step.2.second - 1) = step.2.second - 1 + step.1 ∧
      ∀ t, step.2.second ≤ t → t < step.2.second + probeStep →
        z.clock t = t + step.2.offset := by
  obtain ⟨hbefore, hafter⟩ := offsetAfter_of_mem_zip hz.pairwise hstep
  refine ⟨by rw [clock, offsetAt, hbefore], fun t hle hlt => ?_⟩
  rw [clock, offsetAt, hafter t hle hlt]

/-- A change of the clocks is not near the ends of the calendar. -/
theorem inCalendar_of_mem_steps (hz : z.Regular) {step : Int × ClockChange}
    (hstep : step ∈ z.steps) :
    Instant.firstSecond + 2 * secondsPerDay ≤ step.2.second ∧
      step.2.second + 2 * secondsPerDay ≤ Instant.lastSecond :=
  hz.inCalendar _ (List.of_mem_zip hstep).2

/-! ## The ends of the calendar -/

/-- The offset is the same at two times with no change between them. -/
theorem offsetAfter_congr {s t : Int} {changes : List ClockChange}
    (h : ∀ c ∈ changes, s < c.second ↔ t < c.second) (offset : Int) :
    offsetAfter s offset changes = offsetAfter t offset changes := by
  induction changes generalizing offset with
  | nil => rfl
  | cons c rest ih =>
    rw [offsetAfter, offsetAfter]
    exact if_congr (h c List.mem_cons_self) rfl
      (ih (fun d hd => h d (List.mem_cons_of_mem _ hd)) c.offset)

theorem offsetAt_congr {s t : Int} (h : ∀ c ∈ z.changes, s < c.second ↔ t < c.second) :
    z.offsetAt s = z.offsetAt t :=
  offsetAfter_congr h z.firstOffset

/-- Before the calendar the clocks show earlier times than at its first second. -/
theorem clock_lt_clock_firstSecond (hz : z.Regular) {t : Int} (h : t < Instant.firstSecond) :
    z.clock t < z.clock Instant.firstSecond := by
  have hsame : z.offsetAt t = z.offsetAt Instant.firstSecond := by
    refine offsetAt_congr fun c hc => ?_
    have hin := (hz.inCalendar c hc).1
    rw [secondsPerDay] at hin
    omega
  rw [clock, clock, hsame]
  omega

/-- In the calendar the clocks show no earlier time than at its first second. -/
theorem clock_firstSecond_le (hz : z.Regular) {t : Int} (h : Instant.firstSecond ≤ t) :
    z.clock Instant.firstSecond ≤ z.clock t := by
  by_cases hnear : t < Instant.firstSecond + 2 * 86400
  · have hsame : z.offsetAt Instant.firstSecond = z.offsetAt t := by
      refine offsetAt_congr fun c hc => ?_
      have hin := (hz.inCalendar c hc).1
      rw [secondsPerDay] at hin
      omega
    rw [clock, clock, hsame]
    omega
  · have hfirst := (clock_near hz Instant.firstSecond).2
    have hlater := (clock_near hz t).1
    omega

/-- In the calendar the clocks show no later time than at its last second. -/
theorem clock_le_lastSecond (hz : z.Regular) {t : Int} (h : t ≤ Instant.lastSecond) :
    z.clock t ≤ z.clock Instant.lastSecond := by
  by_cases hnear : Instant.lastSecond - 2 * 86400 ≤ t
  · have hsame : z.offsetAt t = z.offsetAt Instant.lastSecond := by
      refine offsetAt_congr fun c hc => ?_
      have hin := (hz.inCalendar c hc).2
      rw [secondsPerDay] at hin
      omega
    rw [clock, clock, hsame]
    omega
  · have hlast := (clock_near hz Instant.lastSecond).1
    have hearlier := (clock_near hz t).2
    omega

/-! ## Reaching a time -/

/-- A clock that has not reached a time and shows it or a later one afterwards reaches it at
some second in between. -/
theorem exists_first_le {f : Int → Int} {w s t : Int} (hst : s ≤ t) (hs : f s < w)
    (ht : w ≤ f t) : ∃ e, s < e ∧ e ≤ t ∧ w ≤ f e ∧ ∀ u, s ≤ u → u < e → f u < w := by
  classical
  obtain ⟨n, rfl⟩ := Int.le.dest hst
  have hex : ∃ k : Nat, w ≤ f (s + k) := ⟨n, ht⟩
  have hpos : Nat.find hex ≠ 0 := by
    intro hzero
    have hfound := Nat.find_spec hex
    rw [hzero, Int.natCast_zero, Int.add_zero] at hfound
    exact absurd hfound (not_le.mpr hs)
  refine ⟨s + Nat.find hex, by omega, ?_, Nat.find_spec hex, fun u hsu hu => ?_⟩
  · have hle : Nat.find hex ≤ n := Nat.find_min' hex ht
    omega
  · obtain ⟨k, rfl⟩ := Int.le.dest hsu
    exact not_le.mp (Nat.find_min hex (by omega))

/-- **The clocks reach every time**: there is a first second, from `since` on, at which they
show it or a later one. -/
theorem exists_first_reached (hz : z.Regular) (since w : Int) :
    ∃ e, since ≤ e ∧ e ≤ max since (w + 86400) ∧ w ≤ z.clock e ∧
      ∀ u, since ≤ u → u < e → z.clock u < w := by
  by_cases hreached : w ≤ z.clock since
  · exact ⟨since, le_rfl, le_max_left _ _, hreached, fun u hle hlt => absurd hle (not_le.mpr hlt)⟩
  · have hlate := (clock_near hz (w + 86400)).1
    have hearly := (clock_near hz since).1
    obtain ⟨e, hse, het, hwe, hbefore⟩ := exists_first_le (f := z.clock)
      (t := w + 86400) (by omega) (not_le.mp hreached) (by omega)
    exact ⟨e, hse.le, het.trans (le_max_right _ _), hwe, hbefore⟩

/-- Whether a change of the clocks skips a second: they go from before it to after it. -/
def SkipsOver (z : Zone) (w : Int) : Prop :=
  ∃ step ∈ z.steps, step.2.second + step.1 ≤ w ∧ w < step.2.second + step.2.offset

/-- Whether a change of the clocks sets them back from after the beginning of a second to
before it. -/
def SetBackOver (z : Zone) (w : Int) : Prop :=
  ∃ step ∈ z.steps, step.2.second + step.2.offset < w ∧ w < step.2.second + step.1

instance (z : Zone) (w : Int) : Decidable (z.SkipsOver w) :=
  inferInstanceAs (Decidable (∃ step ∈ z.steps, _))

instance (z : Zone) (w : Int) : Decidable (z.SetBackOver w) :=
  inferInstanceAs (Decidable (∃ step ∈ z.steps, _))

/-- A time that the clocks reach without showing it is skipped by a change. -/
theorem exists_step_of_skipped (hz : z.Regular) {w e : Int} (hbefore : z.clock (e - 1) < w)
    (hafter : w < z.clock e) :
    ∃ step ∈ z.steps, step.2.second = e ∧ step.2.second + step.1 ≤ w ∧
      w < step.2.second + step.2.offset := by
  rcases clock_cases hz e with hsame | ⟨step, hstep, rfl, hold, hnew⟩
  · omega
  · exact ⟨step, hstep, rfl, by omega, by omega⟩

/-- Clocks that are not set back over a time do not go back behind it. -/
theorem le_clock_of_not_setBackOver (hz : z.Regular) {w : Int} (h : ¬z.SetBackOver w) {s t : Int}
    (hst : s ≤ t) (hs : w ≤ z.clock s) : w ≤ z.clock t := by
  obtain ⟨n, rfl⟩ := Int.le.dest hst
  clear hst
  induction n with
  | zero => rwa [Int.natCast_zero, Int.add_zero]
  | succ n ih =>
    have hprev : s + (n + 1 : Nat) - 1 = s + n := by omega
    rcases clock_cases hz (s + (n + 1 : Nat)) with hsame | ⟨step, hstep, ht, hold, hnew⟩
    · rw [hsame, hprev]
      omega
    · rw [hprev] at hold
      by_contra hback
      exact h ⟨step, hstep, by omega, by omega⟩

/-! ## Readings -/

theorem reached_iff {since : Option Int} {t : Int} :
    readingsAfter.reached since t = true ↔ ∀ s ∈ since, s ≤ t := by
  cases since with
  | none => simp [readingsAfter.reached]
  | some s => simp [readingsAfter.reached]

/-- With one offset a time is read once. -/
theorem reached_reading_iff {w t offset : Int} {since : Option Int} :
    readingsAfter.reached since (w - offset) = true ∧ t = w - offset ↔
      (∀ s ∈ since, s ≤ t) ∧ t + offset = w := by
  rw [reached_iff]
  constructor
  · rintro ⟨hle, rfl⟩
    exact ⟨hle, by omega⟩
  · rintro ⟨hle, heq⟩
    obtain rfl : t = w - offset := by omega
    exact ⟨hle, rfl⟩

theorem mem_readingsAfter_cons {w t offset : Int} {since : Option Int} {c : ClockChange}
    {rest : List ClockChange} :
    t ∈ readingsAfter w since offset (c :: rest) ↔
      (readingsAfter.reached since (w - offset) = true ∧ t = w - offset) ∧ t < c.second ∨
        t ∈ readingsAfter w (some c.second) c.offset rest := by
  rw [readingsAfter]
  split
  · rename_i hin
    obtain ⟨hreached, hlt⟩ := Bool.and_eq_true_iff.mp hin
    rw [List.mem_cons]
    refine or_congr_left ⟨?_, fun h => h.1.2⟩
    rintro rfl
    exact ⟨⟨hreached, rfl⟩, of_decide_eq_true hlt⟩
  · rename_i hout
    refine (or_iff_right ?_).symm
    rintro ⟨⟨hreached, rfl⟩, hlt⟩
    exact hout (Bool.and_eq_true_iff.mpr ⟨hreached, decide_eq_true hlt⟩)

/-- The readings of a time from `since` on. -/
theorem mem_readingsAfter {w t offset : Int} {since : Option Int} {changes : List ClockChange}
    (h : Apart changes) (hsince : ∀ s ∈ since, ∀ c ∈ changes, s ≤ c.second) :
    t ∈ readingsAfter w since offset changes ↔
      (∀ s ∈ since, s ≤ t) ∧ t + offsetAfter t offset changes = w := by
  induction changes generalizing since offset with
  | nil =>
    rw [readingsAfter, offsetAfter, List.mem_ite_nil_right, List.mem_singleton,
      reached_reading_iff]
  | cons c rest ih =>
    obtain ⟨hfirst, hrest⟩ := List.pairwise_cons.mp h
    have hlater : t ∈ readingsAfter w (some c.second) c.offset rest ↔
        c.second ≤ t ∧ t + offsetAfter t c.offset rest = w := by
      rw [ih hrest ?_]
      · simp
      · rintro _ ⟨⟩ d hd
        have hnext := hfirst d hd
        rw [probeStep] at hnext
        omega
    rw [mem_readingsAfter_cons, offsetAfter, hlater]
    by_cases hlt : t < c.second
    · -- Before the change only the first reading counts.
      rw [if_pos hlt, and_iff_left hlt, or_iff_left fun hle => not_le.mpr hlt hle.1,
        reached_reading_iff]
    · have hle := not_lt.mp hlt
      have hsecond : ∀ s ∈ since, s ≤ t := fun s hs => (hsince s hs c List.mem_cons_self).trans hle
      rw [if_neg hlt, or_iff_right fun hfront => hlt hfront.2, and_iff_right hle,
        and_iff_right hsecond]

/-- The readings of a time are in ascending order. -/
theorem pairwise_readingsAfter {w offset : Int} {since : Option Int} {changes : List ClockChange}
    (h : Apart changes) : (readingsAfter w since offset changes).Pairwise (· < ·) := by
  induction changes generalizing since offset with
  | nil =>
    rw [readingsAfter]
    split
    · exact List.pairwise_singleton _ _
    · exact .nil
  | cons c rest ih =>
    obtain ⟨hfirst, hrest⟩ := List.pairwise_cons.mp h
    rw [readingsAfter]
    split
    · rename_i hin
      refine List.pairwise_cons.mpr ⟨fun t ht => ?_, ih hrest⟩
      have hfront := of_decide_eq_true (Bool.and_eq_true_iff.mp hin).2
      have hle : c.second ≤ t := ((mem_readingsAfter hrest (by
        rintro _ ⟨⟩ d hd
        have hnext := hfirst d hd
        rw [probeStep] at hnext
        omega)).mp ht).1 _ rfl
      omega
    · exact ih hrest

/-- **The readings of a time** are the seconds at which the clocks show it. -/
theorem mem_readings (hz : z.Regular) {w t : Int} : t ∈ z.readings w ↔ z.clock t = w := by
  rw [readings, mem_readingsAfter hz.pairwise (by rintro _ ⟨⟩), clock, offsetAt]
  exact and_iff_right (by rintro _ ⟨⟩)

theorem pairwise_readings (hz : z.Regular) (w : Int) : (z.readings w).Pairwise (· < ·) :=
  pairwise_readingsAfter hz.pairwise

/-- **The earliest instant of a time** is the first at which the clocks show it, if the
calendar has that instant. -/
theorem earliest?_eq_some (hz : z.Regular) {w : WallTime} {t : Instant} :
    z.earliest? w = some t ↔
      z.wall t = w ∧ t.inCalendar = true ∧ ∀ s, z.clock s = w.seconds → t.seconds ≤ s := by
  have hsorted := pairwise_readings hz w.seconds
  have hmem := fun s => mem_readings hz (w := w.seconds) (t := s)
  unfold earliest?
  constructor
  · intro h
    split at h
    · cases h
    · rename_i s rest hreadings
      rw [hreadings] at hsorted hmem
      split at h
      · rename_i hin
        obtain rfl := Option.some.inj h
        refine ⟨WallTime.ext ((hmem s).mp List.mem_cons_self) rfl, hin, fun u hu => ?_⟩
        rcases List.mem_cons.mp ((hmem u).mpr hu) with rfl | hlater
        · exact le_rfl
        · exact ((List.pairwise_cons.mp hsorted).1 u hlater).le
      · cases h
  · rintro ⟨rfl, hin, hleast⟩
    have hself := (hmem t.seconds).mpr rfl
    cases hreadings : z.readings (z.wall t).seconds with
    | nil =>
      rw [hreadings] at hself
      exact absurd hself List.not_mem_nil
    | cons s rest =>
      rw [hreadings] at hself hsorted hmem
      have hle := hleast s ((hmem s).mp List.mem_cons_self)
      have hfirst : s = t.seconds := by
        rcases List.mem_cons.mp hself with heq | hlater
        · exact heq.symm
        · exact absurd ((List.pairwise_cons.mp hsorted).1 _ hlater) (not_lt.mpr hle)
      subst hfirst
      exact if_pos hin

end Zone
end Almanac
