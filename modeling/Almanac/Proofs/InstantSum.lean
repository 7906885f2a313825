import Almanac.Instant
import Mathlib.Tactic.SplitIfs

/-! # Sums of instants and durations

Outside a leap second a sum adds the nanoseconds.  Inside one it depends on where the sum leads: it
may stay in the second, leave it forward a second short, or leave it backward.  `Instant.Sum` says
which sums there are, and what else is known of sums follows from its four cases.
-/
namespace Almanac.Instant

variable {t u : Instant} {n : Int}

/-- The nanoseconds from 1970-01-01T00:00:00 to an instant.  A leap second shares its count with
the second after it. -/
def count (t : Instant) : Int :=
  nanosPerSecond * t.seconds + t.nanos

/-- **What a sum is.**  Outside a leap second the counts are added.  Inside one the sum may stay
there; if it leaves forward it is a second short, and if it leaves backward it is not. -/
inductive Sum (t : Instant) (n : Int) (u : Instant) : Prop
  | exact (hout : t.nanos < nanosPerSecond) (hnanos : u.nanos < nanosPerSecond)
      (hcount : u.count = t.count + n)
  | inside (hin : nanosPerSecond ≤ t.nanos) (hseconds : u.seconds = t.seconds)
      (hnanos : (u.nanos : Int) = t.nanos + n) (hlt : u.nanos < 2 * nanosPerSecond)
      (hshort : -nanosPerSecond < n ∧ n < nanosPerSecond)
  | after (hin : nanosPerSecond ≤ t.nanos) (hpast : 2 * nanosPerSecond ≤ t.nanos + n)
      (hnanos : u.nanos < nanosPerSecond) (hcount : u.count = t.count + n - nanosPerSecond)
  | before (hin : nanosPerSecond ≤ t.nanos) (hback : n ≤ -nanosPerSecond)
      (hnanos : u.nanos < nanosPerSecond) (hcount : u.count = t.count + n)

theorem sum_addNanos (ht : t.nanos < 2 * nanosPerSecond) (n : Int) : t.Sum n (t.addNanos n) := by
  have hsplit : (nanosPerSecond : Int) * n.tdiv nanosPerSecond + n.tmod nanosPerSecond = n :=
    Int.mul_tdiv_add_tmod n nanosPerSecond
  have hpart : -(nanosPerSecond : Int) < n.tmod nanosPerSecond ∧
      n.tmod nanosPerSecond < nanosPerSecond :=
    ⟨Int.lt_tmod_of_pos n (by decide), Int.tmod_lt_of_pos n (by decide)⟩
  -- The part below a second has the sign of the whole.
  have hpos : 0 ≤ n → 0 ≤ n.tmod nanosPerSecond := fun h => Int.tmod_nonneg _ h
  have hneg : n ≤ 0 → n.tmod nanosPerSecond ≤ 0 := by
    intro h
    have hflip := Int.tmod_nonneg nanosPerSecond (show 0 ≤ -n by omega)
    rw [Int.neg_tmod] at hflip
    omega
  rw [addNanos]
  generalize n.tdiv nanosPerSecond = whole at *
  generalize n.tmod nanosPerSecond = part at *
  by_cases hleap : t.inLeapSecond = true
  · have hin : nanosPerSecond ≤ t.nanos := of_decide_eq_true hleap
    simp only [hleap, Bool.true_and, Bool.and_eq_true, beq_iff_eq, Bool.not_eq_true',
      Bool.and_eq_false_iff, decide_eq_true_iff, decide_eq_false_iff_not, if_true]
    split_ifs with hstays hback
    · refine .inside hin rfl ?_ ?_ ?_ <;> simp only [nanosPerSecond] at * <;> omega
    · refine .before hin ?_ ?_ ?_ <;> simp only [nanosPerSecond, count] at * <;> omega
    · refine .after hin ?_ ?_ ?_ <;> simp only [nanosPerSecond, count] at * <;> omega
  · have hout : t.nanos < nanosPerSecond := by simpa [inLeapSecond] using hleap
    simp only [hleap, Bool.false_and, Bool.false_eq_true, if_false]
    refine .exact hout ?_ ?_ <;> simp only [nanosPerSecond, count] at * <;> omega

theorem Sum.nanos_lt (h : t.Sum n u) : u.nanos < 2 * nanosPerSecond := by
  cases h with
  | inside _ _ _ hlt _ => exact hlt
  | exact _ hnanos _ | after _ _ hnanos _ | before _ _ hnanos _ =>
    simp only [nanosPerSecond] at *
    omega

/-- A second back leaves a leap second. -/
theorem count_addSeconds_neg_one (ht : t.nanos < 2 * nanosPerSecond) :
    (t.addSeconds (-1)).nanos < nanosPerSecond ∧
      (t.addSeconds (-1)).count = t.count - nanosPerSecond := by
  rw [addSeconds]
  cases sum_addNanos ht (nanosPerSecond * -1) with
  | exact _ hnanos hcount | before _ _ hnanos hcount => exact ⟨hnanos, by omega⟩
  | inside _ _ _ _ hshort => omega
  | after _ hpast _ _ => omega

end Almanac.Instant
