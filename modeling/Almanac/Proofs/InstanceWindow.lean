import Almanac.Proofs.Appearances
import Almanac.Proofs.InstantSum
import Mathlib.Data.Set.Card

/-! # No instance is lost at the edges of a range

The instances of a rule in a stretch of time are looked for among the starts in a wider window: it
opens the length of the occurrence and one second earlier, and closes one second later.  An instance
may begin before the stretch and still reach into it, but then it starts in the window
(`Instant.window_le`).  The second is what sums inside a leap second need: such a sum may be a
second short, and a second back always leaves the leap second.

What a rule means is left to a reader, which lists the first members of a set of instants in any
stretch (`Starts.Lists`).  If the window holds no more members than are listed, the expansion has
exactly the intervals that begin at a member, are no exceptions and meet the stretch; it ends as
long as the window and all intervals that begin in it lie in the calendar (`Occurrence.Expands`),
and only then (`expandWith_intervals`).
-/
namespace Almanac

/-! ## Windows -/

namespace Instant

variable {s since : Instant} {n : Int}

/-- **An interval that reaches a time starts in the window** before it, which opens one second more
than the length of the interval earlier. -/
theorem window_le (hs : s.nanos < 2 * nanosPerSecond) (hsince : since.nanos < 2 * nanosPerSecond)
    (h : since ≤ s.addNanos n) : (since.addNanos (-n)).addSeconds (-1) ≤ s := by
  have hback := sum_addNanos hsince (-n)
  obtain ⟨hnanos, hopens⟩ := count_addSeconds_neg_one hback.nanos_lt
  have hend := sum_addNanos hs n
  generalize (since.addNanos (-n)).addSeconds (-1) = opens at *
  generalize since.addNanos (-n) = back at *
  generalize s.addNanos n = finish at *
  rw [le_def] at h ⊢
  -- Neither sum is more than a second off, whichever of the four cases it is.
  cases hback <;> cases hend <;> simp only [count, nanosPerSecond] at * <;> omega

theorem le_addSeconds_one (t : Instant) : t ≤ t.addSeconds 1 :=
  le_def.mpr (.inl t.seconds_lt_addSeconds_one)

end Instant

/-! ## The members of a set -/

/-- **The first members of a set** in a closed stretch of time: in order, each once, and all of them
unless there are more than `limit`. -/
structure FirstMembers (S : Set Instant) (since upTo : Instant) (limit : Nat)
    (ts : List Instant) : Prop where
  ascending : ts.Pairwise (· < ·)
  length_le : ts.length ≤ limit
  mem : ∀ t ∈ ts, t ∈ S ∧ since ≤ t ∧ t ≤ upTo
  first : ∀ t ∈ S, since ≤ t → t ≤ upTo → t ∉ ts → ts.length = limit ∧ ∀ u ∈ ts, u < t

/-- Whether starts are the members of a set: in every stretch the first ones are listed. -/
def Starts.Lists (starts : Starts) (S : Set Instant) : Prop :=
  ∀ since upTo, ∃ ts, starts since upTo instanceLimit = .ok ts ∧
    FirstMembers S since upTo instanceLimit ts

variable {S : Set Instant} {since upTo t : Instant} {limit : Nat} {ts : List Instant}

/-- If there are not too many members, all are listed. -/
theorem FirstMembers.mem_iff (h : FirstMembers S since upTo limit ts)
    (hsize : {t ∈ S | since ≤ t ∧ t ≤ upTo}.encard ≤ limit) :
    t ∈ ts ↔ t ∈ S ∧ since ≤ t ∧ t ≤ upTo := by
  refine ⟨h.mem t, fun ⟨hmem, hlow, hhigh⟩ => ?_⟩
  by_contra hnot
  obtain ⟨hlength, -⟩ := h.first t hmem hlow hhigh hnot
  -- Together with `t` the listed members are more than the limit.
  have hnodup : (t :: ts).Nodup := List.nodup_cons.mpr ⟨hnot, h.ascending.imp ne_of_lt⟩
  have hsub : ((t :: ts).toFinset : Set Instant) ⊆ {t ∈ S | since ≤ t ∧ t ≤ upTo} := by
    intro u hu
    rcases List.mem_cons.mp (List.mem_toFinset.mp hu) with rfl | hlisted
    · exact ⟨hmem, hlow, hhigh⟩
    · exact h.mem u hlisted
  have hcard := (Set.encard_le_encard hsub).trans hsize
  rw [Set.encard_coe_eq_coe_finsetCard, List.toFinset_card_of_nodup hnodup, List.length_cons,
    hlength, Nat.cast_le] at hcard
  omega

/-! ## The window of an occurrence -/

namespace Occurrence

variable (o : Occurrence)

/-- The start of the window for the instances that reach a time. -/
def windowStart (since : Instant) : Instant :=
  (since.addNanos (-o.duration)).addSeconds (-1)

/-- **What an expansion asks of the calendar**: the window, and every interval that begins in it and
is no exception. -/
structure Expands (S : Set Instant) (since upTo : Instant) : Prop where
  shown : o.zone.shows o.start = true
  back : (since.addNanos (-o.duration)).inCalendar = true
  opens : (o.windowStart since).inCalendar = true
  closes : (upTo.addSeconds 1).inCalendar = true
  ends : ∀ t ∈ S, o.windowStart since ≤ t → t ≤ upTo.addSeconds 1 → t ∉ o.exceptions →
    (t.addNanos o.duration).inCalendar = true

variable {o} {i : Instant × Instant}

theorem mem_intervalsOf :
    i ∈ o.intervalsOf ts ↔ i.1 ∈ ts ∧ i.1 ∉ o.exceptions ∧ i.2 = i.1.addNanos o.duration := by
  simp only [intervalsOf, List.mem_map, List.mem_filter, Bool.not_eq_true',
    decide_eq_false_iff_not]
  constructor
  · rintro ⟨t, ⟨hmem, hkept⟩, rfl⟩
    exact ⟨hmem, hkept, rfl⟩
  · rintro ⟨hmem, hkept, hend⟩
    exact ⟨i.1, ⟨hmem, hkept⟩, Prod.ext rfl hend.symm⟩

theorem pairwise_intervalsOf (h : ts.Pairwise (· < ·)) :
    (o.intervalsOf ts).Pairwise fun i j => i.1 < j.1 :=
  List.pairwise_map.mpr (h.sublist List.filter_sublist)

end Occurrence

/-- An interval that meets a stretch starts in its window. -/
theorem window_of_reaches {o : Occurrence} (ht : t.nanos < 2 * nanosPerSecond)
    (hsince : since.nanos < 2 * nanosPerSecond) (hlow : since ≤ t.addNanos o.duration)
    (hhigh : t ≤ upTo) : o.windowStart since ≤ t ∧ t ≤ upTo.addSeconds 1 :=
  ⟨Instant.window_le ht hsince hlow, hhigh.trans upTo.le_addSeconds_one⟩

section
variable {read : RuleReader} {o : Occurrence} {text : String} {starts : Starts}

/-- The intervals that begin in the window end in the calendar. -/
theorem all_inCalendar_iff
    (hmem : ∀ t, t ∈ ts ↔ t ∈ S ∧ o.windowStart since ≤ t ∧ t ≤ upTo.addSeconds 1) :
    ((o.intervalsOf ts).all fun i => i.2.inCalendar) = true ↔
      ∀ t ∈ S, o.windowStart since ≤ t → t ≤ upTo.addSeconds 1 → t ∉ o.exceptions →
        (t.addNanos o.duration).inCalendar = true := by
  rw [List.all_eq_true]
  constructor
  · intro h t hin hlow hhigh hkept
    exact h (t, _) (Occurrence.mem_intervalsOf.mpr ⟨(hmem t).mpr ⟨hin, hlow, hhigh⟩, hkept, rfl⟩)
  · intro h i hi
    obtain ⟨hlisted, hkept, hend⟩ := Occurrence.mem_intervalsOf.mp hi
    obtain ⟨hin, hlow, hhigh⟩ := (hmem i.1).mp hlisted
    exact hend ▸ h i.1 hin hlow hhigh hkept

/-- What is made of the starts in the window. -/
theorem expandWith_eq (htext : o.ruleText? = some text)
    (hread : read o.zone o.start text = .ok starts)
    (hstarts : starts (o.windowStart since) (upTo.addSeconds 1) instanceLimit = .ok ts)
    (hmem : ∀ t, t ∈ ts ↔ t ∈ S ∧ o.windowStart since ≤ t ∧ t ≤ upTo.addSeconds 1) :
    (o.Expands S since upTo →
        expandWith read o since upTo = .ok ((o.intervalsOf ts).filter (reaches since upTo))) ∧
      (¬o.Expands S since upTo → expandWith read o since upTo = .error .outsideCalendar) := by
  have hends := all_inCalendar_iff hmem
  have hlisted : ((read o.zone o.start text).bind fun starts =>
      starts (o.windowStart since) (upTo.addSeconds 1) instanceLimit) = .ok ts := by
    rw [hread]
    exact hstarts
  rw [Occurrence.windowStart] at hlisted
  unfold expandWith
  rw [htext]
  dsimp only
  rw [hlisted]
  dsimp only
  constructor
  · intro h
    have hwindow : ((since.addNanos (-o.duration)).inCalendar &&
        ((since.addNanos (-o.duration)).addSeconds (-1)).inCalendar &&
          (upTo.addSeconds 1).inCalendar && o.zone.shows o.start) = true := by
      simp only [Bool.and_eq_true]
      exact ⟨⟨⟨h.back, h.opens⟩, h.closes⟩, h.shown⟩
    rw [if_pos hwindow, if_pos (hends.mpr h.ends)]
  · intro h
    split
    · rename_i hwindow
      simp only [Bool.and_eq_true] at hwindow
      obtain ⟨⟨⟨hback, hopens⟩, hcloses⟩, hshown⟩ := hwindow
      exact if_neg fun hall => h ⟨hshown, hback, hopens, hcloses, hends.mp hall⟩
    · rfl

/-- **No instance is lost at the edges of a range.**  Let a rule denote a set of instants, of which
the window holds no more than are listed.  Then an expansion that stays within the calendar has, in
the order of their starts and each once, exactly the intervals that begin at a member, are no
exceptions and meet the stretch; and it ends in no other case. -/
theorem expandWith_intervals (htext : o.ruleText? = some text)
    (hread : read o.zone o.start text = .ok starts) (hlists : starts.Lists S)
    (hproper : ∀ t ∈ S, t.nanos < 2 * nanosPerSecond) (hsince : since.nanos < 2 * nanosPerSecond)
    (hsize : {t ∈ S | o.windowStart since ≤ t ∧ t ≤ upTo.addSeconds 1}.encard ≤ instanceLimit) :
    (o.Expands S since upTo → ∃ intervals, expandWith read o since upTo = .ok intervals ∧
        intervals.Pairwise (fun i j => i.1 < j.1) ∧
        ∀ i, i ∈ intervals ↔ (i.1 ∈ S ∧ i.1 ∉ o.exceptions ∧ i.2 = i.1.addNanos o.duration) ∧
          i.1 ≤ upTo ∧ since ≤ i.2) ∧
      (¬o.Expands S since upTo → expandWith read o since upTo = .error .outsideCalendar) := by
  obtain ⟨ts, hstarts, hfirst⟩ := hlists (o.windowStart since) (upTo.addSeconds 1)
  obtain ⟨hok, herror⟩ := expandWith_eq htext hread hstarts fun t => hfirst.mem_iff hsize
  refine ⟨fun h => ⟨_, hok h, ?_, fun i => ?_⟩, herror⟩
  · exact (Occurrence.pairwise_intervalsOf hfirst.ascending).sublist List.filter_sublist
  · rw [List.mem_filter, reaches, Bool.and_eq_true, decide_eq_true_iff, decide_eq_true_iff,
      Occurrence.mem_intervalsOf, hfirst.mem_iff hsize]
    constructor
    · rintro ⟨⟨⟨hin, -, -⟩, hkept, hend⟩, hlow, hhigh⟩
      exact ⟨⟨hin, hkept, hend⟩, hhigh, hlow⟩
    · rintro ⟨⟨hin, hkept, hend⟩, hhigh, hlow⟩
      have hwindow := window_of_reaches (hproper i.1 hin) hsince (hend ▸ hlow) hhigh
      exact ⟨⟨⟨hin, hwindow⟩, hkept, hend⟩, hlow, hhigh⟩

end

/-! ## A list of starts -/

/-- The starts of a list. -/
def Starts.ofList (ts : List Instant) : Starts := fun since upTo limit =>
  .ok ((ts.filter fun t => since ≤ t && t ≤ upTo).take limit)

theorem lists_ofList (h : ts.Pairwise (· < ·)) : (Starts.ofList ts).Lists {t | t ∈ ts} := by
  intro since upTo
  refine ⟨_, rfl, ?_⟩
  have hmem : ∀ t, t ∈ ts.filter (fun t => since ≤ t && t ≤ upTo) ↔
      t ∈ ts ∧ since ≤ t ∧ t ≤ upTo := by
    intro t
    rw [List.mem_filter, Bool.and_eq_true, decide_eq_true_iff, decide_eq_true_iff]
  have hordered := h.sublist (List.filter_sublist (p := fun t => since ≤ t && t ≤ upTo))
  generalize ts.filter (fun t => since ≤ t && t ≤ upTo) = found at hmem hordered
  refine ⟨hordered.sublist (List.take_sublist _ _), List.length_take_le _ _, ?_, ?_⟩
  · intro t ht
    exact (hmem t).mp (List.mem_of_mem_take ht)
  · intro t hin hlow hhigh hnot
    -- A member that is cut off stands behind all that are listed.
    rw [← List.take_append_drop instanceLimit found] at hordered hmem
    have hlater := (List.mem_append.mp ((hmem t).mpr ⟨hin, hlow, hhigh⟩)).resolve_left hnot
    refine ⟨?_, fun u hu => (List.pairwise_append.mp hordered).2.2 u hu t hlater⟩
    have hlong := List.length_pos_of_mem hlater
    rw [List.length_drop] at hlong
    rw [List.length_take]
    omega

/-- A set of listed instants has no more members than the list. -/
theorem encard_le_length {s : Set Instant} (h : ∀ t ∈ s, t ∈ ts) : s.encard ≤ ts.length := by
  have hsub : s ⊆ (ts.toFinset : Set Instant) := fun t ht => List.mem_toFinset.mpr (h t ht)
  refine (Set.encard_le_encard hsub).trans ?_
  rw [Set.encard_coe_eq_coe_finsetCard, Nat.cast_le]
  exact ts.toFinset_card_le

namespace Occurrence

/-- A stay of fifteen days from March 25, 2025, that comes back a week later, four times in all, but
not on April 1. -/
def longStay : Occurrence where
  dateId := "calendar.9.field_date.0"
  start := ⟨1742893200, 0⟩
  finish := ⟨1744189200, 0⟩
  rule := some "FREQ=WEEKLY;COUNT=4"
  exceptions := [⟨1743498000, 0⟩]

/-- The starts of the four stays. -/
def stayStarts : List Instant :=
  [⟨1742893200, 0⟩, ⟨1743498000, 0⟩, ⟨1744102800, 0⟩, ⟨1744707600, 0⟩]

theorem pairwise_stayStarts : stayStarts.Pairwise (· < ·) := by
  decide

/-- Reads the four stays in every rule. -/
def readStays : RuleReader := fun _ _ _ => .ok (.ofList stayStarts)

/-- No more than a thousand stays start in a window. -/
theorem encard_stays_le (opens closes : Instant) :
    {t ∈ {t | t ∈ stayStarts} | opens ≤ t ∧ t ≤ closes}.encard ≤ instanceLimit :=
  (encard_le_length fun _ ht => ht.1).trans (Nat.cast_le.mpr (by decide))

end Occurrence

open Occurrence

/-- On April 8 the stay from March 25 goes on, though it began two weeks before. -/
theorem expandWith_intervals_stay :
    (longStay.ruleText? = some "FREQ=WEEKLY;COUNT=4" ∧
      readStays longStay.zone longStay.start "FREQ=WEEKLY;COUNT=4" = .ok (.ofList stayStarts) ∧
      (Starts.ofList stayStarts).Lists {t | t ∈ stayStarts} ∧
      (∀ t ∈ {t | t ∈ stayStarts}, t.nanos < 2 * nanosPerSecond) ∧
      (⟨1744070400, 0⟩ : Instant).nanos < 2 * nanosPerSecond ∧
      {t ∈ {t | t ∈ stayStarts} | longStay.windowStart ⟨1744070400, 0⟩ ≤ t ∧
        t ≤ (⟨1744156799, 0⟩ : Instant).addSeconds 1}.encard ≤ instanceLimit ∧
      longStay.Expands {t | t ∈ stayStarts} ⟨1744070400, 0⟩ ⟨1744156799, 0⟩) ∧
    ∃ intervals, expandWith readStays longStay ⟨1744070400, 0⟩ ⟨1744156799, 0⟩ = .ok intervals ∧
      intervals.Pairwise (fun i j => i.1 < j.1) ∧
      ∀ i, i ∈ intervals ↔
        (i.1 ∈ {t | t ∈ stayStarts} ∧ i.1 ∉ longStay.exceptions ∧
            i.2 = i.1.addNanos longStay.duration) ∧
          i.1 ≤ ⟨1744156799, 0⟩ ∧ ⟨1744070400, 0⟩ ≤ i.2 := by
  have htext : longStay.ruleText? = some "FREQ=WEEKLY;COUNT=4" := by decide +kernel
  have hlists := lists_ofList pairwise_stayStarts
  have hproper : ∀ t ∈ {t | t ∈ stayStarts}, t.nanos < 2 * nanosPerSecond := by
    show ∀ t ∈ stayStarts, _
    decide
  have hexpands : longStay.Expands {t | t ∈ stayStarts} ⟨1744070400, 0⟩ ⟨1744156799, 0⟩ := by
    refine ⟨by decide +kernel, by decide, by decide, by decide, ?_⟩
    show ∀ t ∈ stayStarts, _
    decide
  have hsince : (⟨1744070400, 0⟩ : Instant).nanos < 2 * nanosPerSecond := by decide
  exact ⟨⟨htext, rfl, hlists, hproper, hsince, encard_stays_le _ _, hexpands⟩,
    (expandWith_intervals htext rfl hlists hproper hsince (encard_stays_le _ _)).1 hexpands⟩

-- The rule's own reader finds the same.
example : ruleExpander .listed longStay ⟨1744070400, 0⟩ ⟨1744156799, 0⟩ =
    .ok [(⟨1742893200, 0⟩, ⟨1744189200, 0⟩), (⟨1744102800, 0⟩, ⟨1745398800, 0⟩)] := by
  cbv

/-- Up to the last second of the calendar there is no expansion, though all stays lie in 2025: the
second after it does not exist. -/
theorem not_expands_lastSecond :
    (longStay.start ≤ longStay.finish ∧ longStay.ruleText? = some "FREQ=WEEKLY;COUNT=4" ∧
      readStays longStay.zone longStay.start "FREQ=WEEKLY;COUNT=4" = .ok (.ofList stayStarts) ∧
      (Starts.ofList stayStarts).Lists {t | t ∈ stayStarts} ∧
      ∀ opens closes : Instant,
        {t ∈ {t | t ∈ stayStarts} | opens ≤ t ∧ t ≤ closes}.encard ≤ instanceLimit) ∧
    (⟨8210266876799, 0⟩ : Instant).inCalendar = true ∧
    (∀ t ∈ stayStarts, ⟨1742860800, 0⟩ ≤ t ∧ t ≤ ⟨8210266876799, 0⟩ ∧
      (t.addNanos longStay.duration).inCalendar = true) ∧
    expandWith readStays longStay ⟨1742860800, 0⟩ ⟨8210266876799, 0⟩ =
      .error .outsideCalendar := by
  refine ⟨⟨by decide, by decide +kernel, rfl, lists_ofList pairwise_stayStarts, encard_stays_le⟩,
    by decide, by decide, by decide +kernel⟩

end Almanac
