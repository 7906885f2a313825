import Almanac.Proofs.DayCoverage
import Almanac.Proofs.Sorted

/-! # Splitting over a part of a range

A day, a week and a month show the same event through ranges of different sizes.  What a range
cuts off leaves the fragments on its own days as they are: the segment, the position and the marks
of a fragment are read off the occurrence and the date, and the range only says which dates are
asked for.  So over a part of a range an occurrence without a rule has the fragments that it has
over the whole range on the days of the part, in the same order (`splitByDay_partOf`).

Only the mark of several days is the range's: it says whether more than one day of the occurrence
is shown, so a part may lack it where the range has it (`Narrows`).
-/
namespace Almanac

/-- Days counted up to a date are those of a longer count that lie in between. -/
theorem Date.upTo_eq_filter_upTo {a b a' b' : Date} {p : Date → Bool}
    (h : ∀ d, a ≤ d ∧ d ≤ b ↔ (a' ≤ d ∧ d ≤ b') ∧ p d = true) :
    a.upTo b = (a'.upTo b').filter p := by
  have hthrough : a.through b = (a'.through b').filter p := by
    refine Sorted.eq_of_pairwise_lt (pairwise_through a b)
      ((pairwise_through a' b').filter p) fun d => ?_
    rw [List.mem_filter, mem_through, mem_through]
    exact h d
  rw [upTo_eq_filter, upTo_eq_filter, hthrough, List.filter_comm]

/-- **A part of a range**: its days lie in the range, and the clocks are the same. -/
structure Range.PartOf (r r' : Range) : Prop where
  zone : r.zone = r'.zone
  days : ∀ d, r.contains d = true → r'.contains d = true

namespace Occurrence

variable {o f g : Occurrence} {precision : Precision} {r r' : Range} {d : Date}

/-- **A fragment as a part of its range shows it**: it is the same but for the mark of several
days, and has that mark only where the range shows several days too. -/
structure Narrows (f g : Occurrence) : Prop where
  same : f = { g with multiDay := f.multiDay }
  multiDay : f.multiDay = true → g.multiDay = true

/-! ## One date -/

theorem day_of_fragmentOn? {several : Bool} (h : o.fragmentOn? precision several d = some f) :
    f.day = d := by
  unfold fragmentOn? at h
  split at h
  · cases h
  · split at h
    · cases h
    · obtain rfl := Option.some.inj h
      rfl

/-- The mark of several days is all that a fragment takes from the range. -/
theorem fragmentOn?_eq_map (o : Occurrence) (precision : Precision) (several : Bool) (d : Date) :
    o.fragmentOn? precision several d =
      (o.fragmentOn? precision false d).map fun f => { f with multiDay := several } := by
  unfold fragmentOn?
  split
  · rfl
  · split
    · rfl
    · rfl

/-- The fragments on some dates, with the mark of several days and without it. -/
theorem forall₂_filterMap_fragmentOn? (o : Occurrence) (precision : Precision)
    {several several' : Bool} (h : several = true → several' = true) (dates : List Date) :
    List.Forall₂ Narrows (dates.filterMap (o.fragmentOn? precision several))
      (dates.filterMap (o.fragmentOn? precision several')) := by
  induction dates with
  | nil => exact .nil
  | cons d dates ih =>
    rw [List.filterMap_cons, List.filterMap_cons, fragmentOn?_eq_map o precision several,
      fragmentOn?_eq_map o precision several']
    cases o.fragmentOn? precision false d with
    | none => exact ih
    | some f => exact .cons ⟨rfl, h⟩ ih

/-- Leaving dates out leaves out their fragments. -/
theorem filter_filterMap_fragmentOn? (o : Occurrence) (precision : Precision) (several : Bool)
    (p : Date → Bool) (dates : List Date) :
    ((dates.filterMap (o.fragmentOn? precision several)).filter fun f => p f.day) =
      (dates.filter p).filterMap (o.fragmentOn? precision several) := by
  rw [List.filter_filterMap, List.filterMap_filter]
  refine List.filterMap_congr fun d _ => ?_
  cases hfragment : o.fragmentOn? precision several d with
  | none => rw [Option.filter_none, ite_self]
  | some f => rw [Option.filter_some, day_of_fragmentOn? hfragment]

/-! ## One interval -/

/-- The dates of a part that an occurrence covers. -/
theorem coveredDates_iff (h : r.PartOf r') (first last : Date) :
    (max first r.firstDate ≤ d ∧ d ≤ min last r.lastDate) ↔
      (max first r'.firstDate ≤ d ∧ d ≤ min last r'.lastDate) ∧ r.contains d = true := by
  rw [Range.contains_iff, max_le_iff, le_min_iff, max_le_iff, le_min_iff]
  constructor
  · rintro ⟨⟨hfirst, hopens⟩, hlast, hcloses⟩
    have hin := Range.contains_iff.mp (h.days d (Range.contains_iff.mpr ⟨hopens, hcloses⟩))
    exact ⟨⟨⟨hfirst, hin.1⟩, hlast, hin.2⟩, hopens, hcloses⟩
  · rintro ⟨⟨⟨hfirst, -⟩, hlast, -⟩, hopens, hcloses⟩
    exact ⟨⟨hfirst, hopens⟩, hlast, hcloses⟩

/-- Where a part shows several days of an occurrence, so does the range. -/
theorem spansDays_of_partOf (h : r.PartOf r') (hspans : o.spansDays r = true) :
    o.spansDays r' = true := by
  unfold spansDays at hspans ⊢
  rw [decide_eq_true_iff, max_lt_iff, lt_min_iff, lt_min_iff] at hspans ⊢
  obtain ⟨⟨horder, hlast⟩, hfirst, hlt⟩ := hspans
  rw [h.zone] at horder hlast hfirst
  have hopens := Range.contains_iff.mp (h.days _ (Range.contains_iff.mpr ⟨le_rfl, hlt.le⟩))
  have hcloses := Range.contains_iff.mp (h.days _ (Range.contains_iff.mpr ⟨hlt.le, le_rfl⟩))
  exact ⟨⟨horder, hlast.trans_le hcloses.2⟩, hopens.1.trans_lt hfirst,
    (hopens.1.trans_lt hlt).trans_le hcloses.2⟩

/-- Splitting one interval asks for a fragment on each date that is covered and shown. -/
theorem splitSingle_eq_filterMap (o : Occurrence) (precision : Precision) (r : Range) :
    o.splitSingle precision r =
      ((max (o.onClocks r.zone).firstDay r.firstDate).upTo
        (min (o.onClocks r.zone).lastDay r.lastDate)).filterMap
          ((o.onClocks r.zone).fragmentOn? precision (o.spansDays r)) := rfl

/-- The fragments of a range on the days of a part are those on the covered dates of the part. -/
theorem filter_splitSingle (h : r.PartOf r') (o : Occurrence) (precision : Precision) :
    ((o.splitSingle precision r').filter fun f => r.contains f.day) =
      ((max (o.onClocks r.zone).firstDay r.firstDate).upTo
        (min (o.onClocks r.zone).lastDay r.lastDate)).filterMap
          ((o.onClocks r.zone).fragmentOn? precision (o.spansDays r')) := by
  rw [splitSingle_eq_filterMap, filter_filterMap_fragmentOn?, h.zone,
    ← Date.upTo_eq_filter_upTo fun d => coveredDates_iff h _ _]

/-- **Splitting over a part of a range.**  An occurrence without a rule has the fragments that it
has over the whole range on the days of the part, in the same order and alike but for the mark of
several days; and both of them stay within the calendar or neither does. -/
theorem splitByDay_partOf (o : Occurrence) (expander : Expander) (precision : Precision)
    (h : r.PartOf r') (hrule : o.isRecurring = false) :
    List.Forall₂ Narrows (o.splitByDay expander precision r)
        ((o.splitByDay expander precision r').filter fun f => r.contains f.day) ∧
      o.splitFits expander r = o.splitFits expander r' := by
  constructor
  · simp only [splitByDay, hrule, Bool.false_eq_true, if_false]
    rw [filter_splitSingle h, splitSingle_eq_filterMap]
    exact forall₂_filterMap_fragmentOn? _ precision (spansDays_of_partOf h) _
  · simp only [splitFits, hrule, Bool.false_eq_true, if_false, h.zone]

/-- The second week of April 2025 that begins on a Sunday. -/
def aprilWeek : Range :=
  { april with start := ⟨1743897600, 0⟩, finish := ⟨1744502399, 0⟩, granularity := .week }

theorem splitByDay_partOf_april :
    (aprilWeek.PartOf april ∧ sixDays.isRecurring = false) ∧
      List.Forall₂ Narrows (sixDays.splitByDay (ruleExpander .listed) {} aprilWeek)
        ((sixDays.splitByDay (ruleExpander .listed) {} april).filter
          fun f => aprilWeek.contains f.day) ∧
      sixDays.splitFits (ruleExpander .listed) aprilWeek =
        sixDays.splitFits (ruleExpander .listed) april := by
  have hpart : aprilWeek.PartOf april := by
    have hopens : april.firstDate ≤ aprilWeek.firstDate := by decide
    have hcloses : aprilWeek.lastDate ≤ april.lastDate := by decide
    refine ⟨rfl, fun d hd => ?_⟩
    rw [Range.contains_iff] at hd ⊢
    exact ⟨hopens.trans hd.1, hd.2.trans hcloses⟩
  exact ⟨⟨hpart, rfl⟩, splitByDay_partOf sixDays (ruleExpander .listed) {} hpart rfl⟩

example : (sixDays.splitByDay (ruleExpander .listed) {} aprilWeek).map day =
    [⟨20184⟩, ⟨20185⟩, ⟨20186⟩] := by
  decide

end Occurrence
end Almanac
