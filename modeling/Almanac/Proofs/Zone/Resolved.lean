import Almanac.Proofs.Zone.Clocks
import Almanac.Record

/-! # The order of resolved times

A wall-clock time is resolved to the first instant at which the clocks show it or, if they
skip it, to the first one of a time half an hour later, an hour later and so on
(`Zone.resolve_cases`).  So a time that no change of the clocks skips is resolved to the first
instant at which the clocks have reached it (`Zone.notReachedBefore_of_not_skipsOver`), and no
later time is resolved to an earlier instant.

A skipped time should be resolved to the end of the gap, which is where the clocks reach it.
The half hours pass over that end, unless the time lies just so many of them before it; a later
time of the gap may then be resolved to an earlier instant.  Being resolved to where the clocks
reach it is all that a time needs to keep its order with the later ones
(`Zone.ordersAfter_iff`).
-/
namespace Almanac

/-- The calendar is longer than four days. -/
theorem Instant.firstSecond_add_le : firstSecond + 4 * 86400 ≤ lastSecond := by
  decide

namespace Zone

variable {z : Zone}

/-! ## Resolving a time -/

theorem resolve_of_earliest? {w : WallTime} {t : Instant} (h : z.earliest? w = some t) :
    z.resolve w = t := by
  have hzero : z.earliest? (probe w 0) = some t := by
    rw [probe_zero, h]
  rw [resolve, probeCount, List.range_succ_eq_map, List.findSome?_cons_of_isSome]
  · rw [hzero]
  · rw [hzero, Option.isSome_some]

/-- The clocks show a resolved time some half hours later, unless it is taken as universal
time. -/
theorem clock_resolve_cases (hz : z.Regular) (w : WallTime) :
    (∃ k < probeCount, z.clock (z.resolve w).seconds = w.seconds + probeStep * (k : Nat)) ∨
      (z.resolve w).seconds = w.seconds ∧ z.earliest? w = none := by
  rcases z.resolve_cases w with ⟨k, hk, hfound⟩ | ⟨hutc, hnone⟩
  · exact .inl ⟨k, hk, congrArg WallTime.seconds ((earliest?_eq_some hz).mp hfound).1⟩
  · refine .inr ⟨by rw [hutc]; rfl, ?_⟩
    rw [← probe_zero w]
    exact hnone 0 (by decide)

theorem inCalendar_resolve (hz : z.Regular) {w : WallTime} (hw : w.inCalendar = true) :
    (z.resolve w).inCalendar = true := by
  rcases z.resolve_cases w with ⟨k, -, hfound⟩ | ⟨hutc, -⟩
  · exact ((earliest?_eq_some hz).mp hfound).2.1
  · rw [hutc]
    exact hw

/-- A resolved time is no further into its second than the time itself. -/
theorem nanos_resolve_le (hz : z.Regular) (w : WallTime) : (z.resolve w).nanos ≤ w.nanos := by
  rcases z.resolve_cases w with ⟨k, -, hfound⟩ | ⟨hutc, -⟩
  · have hshown := ((earliest?_eq_some hz).mp hfound).1
    exact (congrArg WallTime.nanos hshown).trans_le (nanos_probe_le w k)
  · rw [hutc]
    exact le_rfl

/-! ## Times that the clocks have reached -/

/-- Whether the clocks show only earlier times before an instant of the calendar. -/
def NotReachedBefore (z : Zone) (w : WallTime) (t : Instant) : Prop :=
  ∀ s : Instant, s.inCalendar = true → s < t → z.wall s < w

/-- Whether a time is resolved to an instant at which the clocks show it or a later one; this
fails only for a time that is taken as universal time. -/
def Forward (z : Zone) (w : WallTime) : Prop :=
  w ≤ z.wall (z.resolve w)

instance (z : Zone) (w : WallTime) : Decidable (z.Forward w) :=
  inferInstanceAs (Decidable (w ≤ z.wall (z.resolve w)))

/-- Whether no later time is resolved to an earlier instant. -/
def OrdersAfter (z : Zone) (a : WallTime) : Prop :=
  ∀ b, b.inCalendar = true → a ≤ b → z.Forward b → z.resolve a ≤ z.resolve b

theorem forward_of_earliest? (hz : z.Regular) {w : WallTime} {t : Instant}
    (h : z.earliest? w = some t) : z.Forward w := by
  rw [Forward, resolve_of_earliest? h, ((earliest?_eq_some hz).mp h).1]

/-- What the clocks show when they reach a time is shown at that instant first. -/
theorem earliest?_of_reached (hz : z.Regular) {w e : Int} (hin : Instant.inCalendar ⟨e, 0⟩ = true)
    (hreached : w ≤ z.clock e) (hbefore : ∀ u, Instant.firstSecond ≤ u → u < e → z.clock u < w)
    (nanos : Nat) : z.earliest? ⟨z.clock e, nanos⟩ = some ⟨e, nanos⟩ := by
  refine (earliest?_eq_some hz).mpr ⟨rfl, hin, fun s hs => ?_⟩
  dsimp only at hs ⊢
  by_contra hlt
  rw [not_le] at hlt
  have hfirst := (Instant.inCalendar_iff.mp hin).1
  dsimp only at hfirst
  rcases lt_or_ge s Instant.firstSecond with hout | hsin
  · have hless := clock_lt_clock_firstSecond hz hout
    have hle := clock_firstSecond_le hz hfirst
    omega
  · have hless := hbefore s hsin hlt
    omega

/-- When the clocks reach a time of the calendar, they show a time of the calendar. -/
theorem clock_le_lastSecond_of_reached (hz : z.Regular) {w e : Int}
    (hin : Instant.inCalendar ⟨e, 0⟩ = true) (hw : w ≤ Instant.lastSecond)
    (hbefore : ∀ u, Instant.firstSecond ≤ u → u < e → z.clock u < w) :
    z.clock e ≤ Instant.lastSecond := by
  obtain ⟨hfirst, -⟩ := Instant.inCalendar_iff.mp hin
  dsimp only at hfirst
  have hnear := (clock_near hz e).2
  rcases hfirst.eq_or_lt with heq | hlt
  · have hlong := Instant.firstSecond_add_le
    omega
  · have hprev := hbefore (e - 1) (by omega) (by omega)
    rcases clock_cases hz e with hsame | ⟨step, hstep, rfl, -, -⟩
    · omega
    · have hend := (inCalendar_of_mem_steps hz hstep).2
      rw [secondsPerDay] at hend
      omega

/-- A time that is shown, and skipped by no change, is reached when it is first shown. -/
theorem notReachedBefore_of_not_skipsOver (hz : z.Regular) {a : WallTime} {t : Instant}
    (hfound : z.earliest? a = some t) (hskip : ¬z.SkipsOver a.seconds) :
    z.NotReachedBefore a t := by
  obtain ⟨rfl, hin, hleast⟩ := (earliest?_eq_some hz).mp hfound
  rw [seconds_wall] at hskip hleast
  intro s hs hst
  by_contra hnot
  obtain ⟨hsfirst, -⟩ := Instant.inCalendar_iff.mp hs
  have hshown : z.clock t.seconds ≤ z.clock s.seconds := by
    rw [not_lt, WallTime.le_def, seconds_wall, seconds_wall] at hnot
    omega
  have hearlier : s.seconds < t.seconds := by
    rw [Instant.lt_def] at hst
    rcases hst with hlt | ⟨heq, hnanos⟩
    · exact hlt
    · rw [not_lt, WallTime.le_def, seconds_wall, seconds_wall, nanos_wall, nanos_wall, heq] at hnot
      omega
  obtain ⟨e, hfe, -, hreached, hbefore⟩ :=
    exists_first_reached hz Instant.firstSecond (z.clock t.seconds)
  have hes : e ≤ s.seconds := by
    by_contra hlt
    exact absurd (hbefore s.seconds hsfirst (not_le.mp hlt)) (not_lt.mpr hshown)
  have hne : z.clock e ≠ z.clock t.seconds := by
    intro heq
    have hle := hleast e heq
    omega
  rcases hfe.eq_or_lt with rfl | hlt
  · have hle := clock_firstSecond_le hz (t := t.seconds) (by omega)
    omega
  · have hprev := hbefore (e - 1) (by omega) (by omega)
    obtain ⟨step, hstep, -, hold, hnew⟩ := exists_step_of_skipped hz hprev (by omega)
    exact hskip ⟨step, hstep, hold, hnew⟩

/-- If the clocks show a time or a later one at some instant, then a time not before it is
first shown by then. -/
theorem exists_earliest?_le (hz : z.Regular) {a : WallTime} {s : Instant}
    (ha : a.inCalendar = true) (hs : s.inCalendar = true) (has : a ≤ z.wall s) :
    ∃ b t, b.inCalendar = true ∧ a ≤ b ∧ z.earliest? b = some t ∧ t ≤ s := by
  obtain ⟨hafirst, halast⟩ := WallTime.inCalendar_iff.mp ha
  obtain ⟨hsfirst, hslast⟩ := Instant.inCalendar_iff.mp hs
  rw [WallTime.le_def, seconds_wall, nanos_wall] at has
  obtain ⟨e, hfe, -, hreached, hbefore⟩ :=
    exists_first_reached hz Instant.firstSecond a.seconds
  have hes : e ≤ s.seconds := by
    by_contra hlt
    have hless := hbefore s.seconds hsfirst (not_le.mp hlt)
    omega
  have hin : Instant.inCalendar ⟨e, 0⟩ = true :=
    Instant.inCalendar_iff.mpr ⟨hfe, hes.trans hslast⟩
  have hshown : ∀ nanos, z.earliest? ⟨z.clock e, nanos⟩ = some ⟨e, nanos⟩ :=
    earliest?_of_reached hz hin hreached hbefore
  rcases hreached.eq_or_lt with heq | hlt
  · -- The clocks show the very time when they reach it.
    refine ⟨a, ⟨e, a.nanos⟩, ha, le_rfl, ?_, ?_⟩
    · rw [← hshown a.nanos, ← heq]
    · rw [Instant.le_def]
      dsimp only
      rcases hes.eq_or_lt with rfl | hlt <;> omega
  · -- They reach it by a change that skips it.
    refine ⟨⟨z.clock e, 0⟩, ⟨e, 0⟩, ?_, .inl hlt, hshown 0, ?_⟩
    · rw [WallTime.inCalendar_iff]
      exact ⟨hafirst.trans hreached, clock_le_lastSecond_of_reached hz hin halast hbefore⟩
    · rw [Instant.le_def]
      dsimp only
      omega

/-- A time keeps its order with the later ones if the clocks reach it only where it is
resolved. -/
theorem ordersAfter_of_notReachedBefore (hz : z.Regular) {a : WallTime}
    (h : z.NotReachedBefore a (z.resolve a)) : z.OrdersAfter a := by
  intro b hb hab hforward
  by_contra hlt
  have hwall := h (z.resolve b) (inCalendar_resolve hz hb) (not_le.mp hlt)
  exact absurd (hab.trans hforward) (not_le.mpr hwall)

/-- **The order of a time with the later ones** is kept exactly if the clocks do not reach
the time before the instant it is resolved to. -/
theorem ordersAfter_iff (hz : z.Regular) {a : WallTime} (ha : a.inCalendar = true) :
    z.OrdersAfter a ↔ z.NotReachedBefore a (z.resolve a) := by
  refine ⟨fun h s hs hsa => ?_, ordersAfter_of_notReachedBefore hz⟩
  by_contra hnot
  obtain ⟨b, t, hb, hab, hfound, hts⟩ := exists_earliest?_le hz ha hs (not_lt.mp hnot)
  have hle := h b hb hab (forward_of_earliest? hz hfound)
  rw [resolve_of_earliest? hfound] at hle
  exact absurd (hle.trans hts) (not_le.mpr hsa)

/-! ## The dates of the bounds of a day -/

/-- The start of a date is shown no later than the date. -/
theorem dateAt_startOfDay_le (hz : z.Regular) (d : Date) : z.dateAt (z.startOfDay d) ≤ d := by
  have hnear := (clock_near hz (z.startOfDay d).seconds).2
  rw [startOfDay] at hnear
  rw [Date.le_def, dayNumber_dateAt, startOfDay]
  rcases clock_resolve_cases hz (.dayStart d) with ⟨k, hk, hshown⟩ | ⟨hutc, -⟩
  · rw [WallTime.seconds_dayStart, probeStep] at hshown
    rw [probeCount] at hk
    omega
  · rw [WallTime.seconds_dayStart] at hutc
    omega

/-- The end of a date is shown on the date or on the next one. -/
theorem dateAt_endOfDay_near (hz : z.Regular) (d : Date) :
    d ≤ z.dateAt (z.endOfDay d) ∧ z.dateAt (z.endOfDay d) ≤ d.addDays 1 := by
  have hnear := clock_near hz (z.endOfDay d).seconds
  rw [endOfDay] at hnear
  rw [Date.le_def, Date.le_def, dayNumber_dateAt, Date.dayNumber_addDays, endOfDay]
  rcases clock_resolve_cases hz (.dayEnd d) with ⟨k, hk, hshown⟩ | ⟨hutc, -⟩
  · rw [WallTime.seconds_dayEnd, probeStep] at hshown
    rw [probeCount] at hk
    omega
  · rw [WallTime.seconds_dayEnd] at hutc
    omega

/-- The start of a date of the calendar is shown on a date of the calendar. -/
theorem first_le_dateAt_startOfDay (hz : z.Regular) {d : Date} (hd : Date.first ≤ d) :
    Date.first ≤ z.dateAt (z.startOfDay d) := by
  have hnear := (clock_near hz (z.startOfDay d).seconds).1
  have hfirst : Instant.firstSecond = 86400 * Date.first.dayNumber := WallTime.seconds_dayStart _
  rw [startOfDay] at hnear
  rw [Date.le_def] at hd
  rw [Date.le_def, dayNumber_dateAt, startOfDay]
  rcases clock_resolve_cases hz (.dayStart d) with ⟨k, hk, hshown⟩ | ⟨hutc, hnone⟩
  · rw [WallTime.seconds_dayStart, probeStep] at hshown
    omega
  · rw [WallTime.seconds_dayStart] at hutc
    by_contra hearly
    -- The clocks show universal midnight before the calendar, and reach their own within a day.
    obtain ⟨e, hfe, hle, hreached, hbefore⟩ :=
      exists_first_reached hz Instant.firstSecond Instant.firstSecond
    have hlong := Instant.firstSecond_add_le
    have heq : d = Date.first := Date.ext (by omega)
    rw [heq] at hutc hnone hearly
    have hlate : Instant.firstSecond < e := by
      rcases hfe.eq_or_lt with rfl | hlt
      · rw [hutc, ← hfirst] at hearly
        omega
      · exact hlt
    have hprev := hbefore (e - 1) (by omega) (by omega)
    have hshown : z.clock e = Instant.firstSecond := by
      rcases clock_cases hz e with hsame | ⟨step, hstep, rfl, -, -⟩
      · omega
      · have hin := (inCalendar_of_mem_steps hz hstep).1
        rw [secondsPerDay] at hin
        omega
    have hfound := earliest?_of_reached hz
      (Instant.inCalendar_iff.mpr ⟨hfe, by dsimp only; omega⟩) hreached hbefore 0
    rw [hshown, show (⟨Instant.firstSecond, 0⟩ : WallTime) = .dayStart Date.first from rfl,
      hnone] at hfound
    cases hfound

end Zone
end Almanac
