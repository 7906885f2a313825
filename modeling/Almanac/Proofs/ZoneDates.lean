import Almanac.Proofs.Civil.Order
import Almanac.Zone

/-! # The dates that clocks show

The clocks of a zone are less than a day away from universal time (`Zone.WithinDay`), as
those of every listed zone are.  Then a wall-clock time is resolved to an instant at which the
clocks show a date near the one meant, even if they skip that one
(`Zone.dateAt_startOfDay_near`).
-/
namespace Almanac
namespace Zone

variable {z : Zone}

/-- The offsets of a zone, first to last. -/
def offsets (z : Zone) : List Int :=
  z.firstOffset :: z.changes.map (·.offset)

/-- Whether the clocks of a zone are always less than a day away from universal time. -/
def WithinDay (z : Zone) : Prop :=
  ∀ offset ∈ z.offsets, -secondsPerDay < offset ∧ offset < secondsPerDay

instance (z : Zone) : Decidable z.WithinDay :=
  inferInstanceAs (Decidable (∀ offset ∈ z.offsets, _))

/-! ## Offsets and readings -/

theorem offsetAfter_mem (t offset : Int) (changes : List ClockChange) :
    offsetAfter t offset changes ∈ offset :: changes.map (·.offset) := by
  induction changes generalizing offset with
  | nil => exact List.mem_cons_self
  | cons c rest ih =>
    rw [offsetAfter]
    split
    · exact List.mem_cons_self
    · exact List.mem_cons_of_mem _ (ih c.offset)

theorem offsetAt_mem (z : Zone) (t : Int) : z.offsetAt t ∈ z.offsets :=
  offsetAfter_mem t z.firstOffset z.changes

/-- A clock that shows a second is set ahead by one of its offsets. -/
theorem exists_of_mem_readingsAfter {w t : Int} {since : Option Int} {offset : Int}
    {changes : List ClockChange} (h : t ∈ readingsAfter w since offset changes) :
    ∃ o ∈ offset :: changes.map (·.offset), t = w - o := by
  induction changes generalizing since offset with
  | nil =>
    rw [readingsAfter] at h
    split at h
    · exact ⟨offset, List.mem_cons_self, List.mem_singleton.mp h⟩
    · exact absurd h List.not_mem_nil
  | cons c rest ih =>
    have hlater (h : t ∈ readingsAfter w (some c.second) c.offset rest) :
        ∃ o ∈ offset :: (c :: rest).map (·.offset), t = w - o := by
      obtain ⟨o, ho, rfl⟩ := ih h
      exact ⟨o, List.mem_cons_of_mem _ ho, rfl⟩
    rw [readingsAfter] at h
    split at h
    · rcases List.mem_cons.mp h with rfl | h
      · exact ⟨offset, List.mem_cons_self, rfl⟩
      · exact hlater h
    · exact hlater h

theorem exists_of_earliest? {w : WallTime} {t : Instant} (h : z.earliest? w = some t) :
    ∃ o ∈ z.offsets, t.seconds = w.seconds - o := by
  unfold earliest? at h
  split at h
  · cases h
  · rename_i hreadings
    split at h
    · obtain rfl := Option.some.inj h
      exact exists_of_mem_readingsAfter (hreadings ▸ List.mem_cons_self)
    · cases h

/-! ## Resolved times -/

/-- The first time looked up is the time itself. -/
@[simp] theorem probe_zero (w : WallTime) : probe w 0 = w := by
  rw [probe, if_pos rfl, Int.natCast_zero, Int.mul_zero, Int.add_zero]

theorem seconds_probe (w : WallTime) (k : Nat) : (probe w k).seconds = w.seconds + 1800 * k := rfl

theorem nanos_probe_le (w : WallTime) (k : Nat) : (probe w k).nanos ≤ w.nanos := by
  rw [probe]
  dsimp only
  split
  · exact le_rfl
  · exact Nat.mod_le _ _

/-- A time is resolved as one some half hours later, or taken as universal time. -/
theorem resolve_cases (z : Zone) (w : WallTime) :
    (∃ k < probeCount, z.earliest? (probe w k) = some (z.resolve w)) ∨
      z.resolve w = .ofUtc w ∧ ∀ k < probeCount, z.earliest? (probe w k) = none := by
  unfold resolve
  split
  · rename_i t hfound
    obtain ⟨k, hk, hfound⟩ := List.exists_of_findSome?_eq_some hfound
    exact .inl ⟨k, List.mem_range.mp hk, hfound⟩
  · rename_i hnone
    exact .inr ⟨rfl, fun k hk => List.findSome?_eq_none_iff.mp hnone k (List.mem_range.mpr hk)⟩

/-- A time is resolved to an instant at which the clocks show nearly that time. -/
theorem wall_resolve_near (hz : z.WithinDay) (w : WallTime) :
    w.seconds - 2 * secondsPerDay < (z.wall (z.resolve w)).seconds ∧
      (z.wall (z.resolve w)).seconds <
        w.seconds + 2 * secondsPerDay + probeStep * probeCount := by
  have hshown := hz _ (z.offsetAt_mem (z.resolve w).seconds)
  rw [secondsPerDay] at hshown
  rw [wall, WallTime.shift, Instant.utc, secondsPerDay, probeStep, probeCount]
  dsimp only
  generalize z.offsetAt (z.resolve w).seconds = shown at hshown
  rcases z.resolve_cases w with ⟨k, hk, hfound⟩ | ⟨hutc, -⟩
  · obtain ⟨o, ho, hseconds⟩ := exists_of_earliest? hfound
    have hset := hz o ho
    rw [probeCount] at hk
    rw [secondsPerDay] at hset
    rw [seconds_probe] at hseconds
    omega
  · rw [hutc, Instant.ofUtc]
    dsimp only
    omega

/-- The start of a date is on a date at most two days away. -/
theorem dateAt_startOfDay_near (hz : z.WithinDay) (d : Date) :
    d.dayNumber - 2 ≤ (z.dateAt (z.startOfDay d)).dayNumber ∧
      (z.dateAt (z.startOfDay d)).dayNumber ≤ d.dayNumber + 2 := by
  have hnear := wall_resolve_near hz (.dayStart d)
  rw [WallTime.seconds_dayStart, secondsPerDay, probeStep, probeCount] at hnear
  rw [dateAt, startOfDay, WallTime.dayNumber_date]
  omega

/-- A time of the calendar is resolved if the calendar has the next date too. -/
theorem canResolve_of_lt_last (z : Zone) {w : WallTime} (hfirst : Date.first ≤ w.date)
    (hlast : w.date < Date.last) : z.canResolve w = true := by
  refine List.all_eq_true.mpr fun k hk => Bool.or_eq_true_iff.mpr (.inr ?_)
  rw [List.mem_range, probeCount] at hk
  rw [Date.le_def] at hfirst
  rw [Date.lt_def] at hlast
  rw [WallTime.inCalendar, Date.inCalendar, Bool.and_eq_true, decide_eq_true_iff,
    decide_eq_true_iff, Date.le_def, Date.le_def]
  rw [WallTime.dayNumber_date] at hfirst hlast ⊢
  rw [seconds_probe]
  omega

end Zone
end Almanac
