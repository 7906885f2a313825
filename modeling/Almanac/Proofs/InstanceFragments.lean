import Almanac.Proofs.Appearances

/-! # Recurring occurrences split like their instances

A recurring occurrence is split instance by instance, and the fragments of all instances are put in
the order of their days.  The instances may overlap and come in any order, also with an end before
the start, which then counts as the start.  The sort is stable, so no fragment is lost and those of
one day stay in the order of the instances (`OrderedByDay`).

A fragment has the date identifier of the occurrence and the start of its instance, so two of them
have one slot key exactly if their instances start in the same second (`slotKey_eq_iff`).
`splitByDay_instances` puts this together.
-/
namespace Almanac
namespace Occurrence

variable {o f g : Occurrence} {interval interval' : Instant × Instant} {expander : Expander}
  {precision : Precision} {range : Range}

/-- **Fragments in the order of their days**: the given ones, each once, where those of one day
keep their order. -/
structure OrderedByDay (fragments given : List Occurrence) : Prop where
  perm : fragments.Perm given
  ordered : fragments.Pairwise fun f g => f.day ≤ g.day
  stable : ∀ d, (fragments.filter fun f => f.day = d) = given.filter fun f => f.day = d

/-- Sorting by day keeps the fragments of a day in their order. -/
theorem orderedByDay_mergeSort (given : List Occurrence) :
    OrderedByDay (given.mergeSort fun a b => a.day ≤ b.day) given where
  perm := List.mergeSort_perm _ _
  ordered := Sorted.pairwise_mergeSort_key day given
  stable := Sorted.filter_key_mergeSort day given

/-! ## One instance -/

/-- An end before the start counts as the start. -/
theorem start_le_finish_instanceAt (o : Occurrence) (interval : Instant × Instant) :
    (o.instanceAt interval).start ≤ (o.instanceAt interval).finish :=
  le_max_right _ _

/-- The fragments of an instance are on days of the range. -/
theorem exists_of_mem_split_instanceAt
    (hf : f ∈ (o.instanceAt interval).splitByDay expander precision range) :
    ∃ d several, range.contains d = true ∧
      f = ((o.instanceAt interval).onClocks range.zone).fragmentAt precision several d := by
  have hsingle : f ∈ (o.instanceAt interval).splitSingle precision range := hf
  rw [splitSingle_eq_map (o.start_le_finish_instanceAt interval)] at hsingle
  obtain ⟨d, hd, rfl⟩ := List.mem_map.mp hsingle
  exact ⟨d, _, Range.contains_iff.mpr (mem_coveredDays.mp (mem_shownDays.mp hd).1).2, rfl⟩

/-- The key of a fragment is that of the occurrence at the start of the instance. -/
theorem slotKey_of_mem_split_instanceAt
    (hf : f ∈ (o.instanceAt interval).splitByDay expander precision range) :
    f.slotKey = o.dateId ++ "@" ++ Text.intText interval.1.seconds := by
  obtain ⟨d, several, -, rfl⟩ := exists_of_mem_split_instanceAt hf
  rw [slotKey, baseDateId_fragmentAt]
  rfl

/-- **Instances keep their own keys**, unless they start in the same second. -/
theorem slotKey_eq_iff
    (hf : f ∈ (o.instanceAt interval).splitByDay expander precision range)
    (hg : g ∈ (o.instanceAt interval').splitByDay expander precision range) :
    f.slotKey = g.slotKey ↔ interval.1.seconds = interval'.1.seconds := by
  rw [slotKey_of_mem_split_instanceAt hf, slotKey_of_mem_split_instanceAt hg,
    String.append_right_inj]
  exact ⟨fun h => Text.intText_injective h, congrArg Text.intText⟩

/-! ## All instances -/

/-- A recurring occurrence has the fragments of its instances. -/
theorem splitByDay_of_ok (hrule : o.isRecurring = true) {intervals : List (Instant × Instant)}
    (hok : expander o range.start range.finish = .ok intervals) :
    o.splitByDay expander precision range =
      (intervals.flatMap fun i => (o.instanceAt i).splitByDay expander precision range).mergeSort
        fun a b => a.day ≤ b.day := by
  rw [splitByDay, if_pos hrule, instances, hok]
  dsimp only
  rw [List.flatMap_map]
  rfl

/-- **A recurring occurrence splits like its instances.**  Its fragments are those of its
instances in the order of their days, in the range and without a rule; two of them have one key
exactly if their instances start in the same second; and it stays within the calendar if all
instances do, and only then.  If it cannot be expanded it has no fragments. -/
theorem splitByDay_instances (o : Occurrence) (expander : Expander) (precision : Precision)
    (range : Range) (hrule : o.isRecurring = true) :
    (∀ intervals, expander o range.start range.finish = .ok intervals →
      OrderedByDay (o.splitByDay expander precision range)
          (intervals.flatMap fun i => (o.instanceAt i).splitByDay expander precision range) ∧
        (∀ f ∈ o.splitByDay expander precision range,
          range.contains f.day = true ∧ f.rule = none ∧ f.exceptions = []) ∧
        (∀ i ∈ intervals, ∀ j ∈ intervals,
          ∀ f ∈ (o.instanceAt i).splitByDay expander precision range,
            ∀ g ∈ (o.instanceAt j).splitByDay expander precision range,
              f.slotKey = g.slotKey ↔ i.1.seconds = j.1.seconds) ∧
        o.splitFits expander range =
          intervals.all fun i => (o.instanceAt i).splitFits expander range) ∧
      ∀ fault, expander o range.start range.finish = .error fault →
        o.splitByDay expander precision range = [] ∧
          o.splitFits expander range = !fault.isFatal := by
  constructor
  · intro intervals hok
    rw [splitByDay_of_ok hrule hok]
    refine ⟨orderedByDay_mergeSort _, ?_, ?_, ?_⟩
    · intro f hf
      obtain ⟨i, -, hpart⟩ := List.mem_flatMap.mp (List.mem_mergeSort.mp hf)
      obtain ⟨d, several, hin, rfl⟩ := exists_of_mem_split_instanceAt hpart
      exact ⟨hin, rfl, rfl⟩
    · intro i _ j _ f hf g hg
      exact slotKey_eq_iff hf hg
    · rw [splitFits, if_pos hrule, hok]
      rfl
  · intro fault herror
    constructor
    · rw [splitByDay, if_pos hrule, instances, herror, List.flatMap_nil, List.mergeSort_nil]
    · rw [splitFits, if_pos hrule, herror]

/-- An occurrence that comes back in April 2025: on the eighth, before that from the first at 9
through the third, and on the second with an end before its start. -/
def aprilVisits : Occurrence where
  dateId := "calendar.9.field_date.0"
  start := ⟨1743498000, 0⟩
  finish := ⟨1743501600, 0⟩
  rule := some "FREQ=WEEKLY"

/-- The three visits, which overlap and come in no order. -/
def aprilIntervals : List (Instant × Instant) :=
  [(⟨1744102800, 0⟩, ⟨1744106400, 0⟩), (⟨1743498000, 0⟩, ⟨1743674400, 0⟩),
    (⟨1743595200, 0⟩, ⟨1743591600, 0⟩)]

/-- Lists the three visits for every range. -/
def visits : Expander :=
  fun _ _ _ => .ok aprilIntervals

theorem splitByDay_instances_april :
    (aprilVisits.isRecurring = true ∧
      visits aprilVisits april.start april.finish = .ok aprilIntervals) ∧
    OrderedByDay (aprilVisits.splitByDay visits {} april)
      (aprilIntervals.flatMap fun i => (aprilVisits.instanceAt i).splitByDay visits {} april) ∧
    (∀ f ∈ aprilVisits.splitByDay visits {} april,
      april.contains f.day = true ∧ f.rule = none ∧ f.exceptions = []) ∧
    (∀ i ∈ aprilIntervals, ∀ j ∈ aprilIntervals,
      ∀ f ∈ (aprilVisits.instanceAt i).splitByDay visits {} april,
        ∀ g ∈ (aprilVisits.instanceAt j).splitByDay visits {} april,
          f.slotKey = g.slotKey ↔ i.1.seconds = j.1.seconds) ∧
    aprilVisits.splitFits visits april =
      aprilIntervals.all fun i => (aprilVisits.instanceAt i).splitFits visits april :=
  ⟨⟨rfl, rfl⟩, (splitByDay_instances aprilVisits visits {} april rfl).1 aprilIntervals rfl⟩

example : ((aprilVisits.splitByDay visits {} april).map fun f =>
    (f.day.dayNumber, f.start.seconds)) =
      [(20179, 1743498000), (20180, 1743498000), (20180, 1743595200), (20181, 1743498000),
        (20186, 1744102800)] := by
  cbv

end Occurrence
end Almanac
