import Almanac.Collection
import Almanac.Proofs.SlotKey
import Almanac.Proofs.Sorted
import Mathlib.Data.List.Nodup
import Mathlib.Data.List.Perm.Basic

/-! # What a collector puts on the days of a range

A value without a rule appears once in a calendar, a value with a rule once for each of
its instances (`Collector.appearances`).  The fragments a collector makes are, up to their
order, the fragments of these appearances on the days that show them
(`collectedFragments_perm`).

If the instances of a value start at least a second apart (`Collector.Spaced`), the
appearances have different slot keys (`nodup_slotKey_collected`), and the agenda is
`Agenda.Coherent`: this is all the layout of a week needs to know about it.  No two
fragments of a day have one key, fragments with one key cover the same days, and a band
that goes on after a date has a fragment on the next dates too, up to the last date the
calendar lists.
-/
namespace Almanac

/-- A second later the count of seconds is greater. -/
theorem Instant.seconds_lt_addSeconds_one (t : Instant) :
    t.seconds < (t.addSeconds 1).seconds := by
  have hwhole : ((nanosPerSecond : Int) * 1).tdiv nanosPerSecond = 1 := by decide
  have hpart : ((nanosPerSecond : Int) * 1).tmod nanosPerSecond = 0 := by decide
  simp only [addSeconds, addNanos, hwhole, hpart]
  by_cases hleap : t.inLeapSecond
  · have hnanos : nanosPerSecond ≤ t.nanos := of_decide_eq_true hleap
    simp only [nanosPerSecond] at *
    simp [hleap]
    omega
  · simp only [nanosPerSecond] at *
    simp [hleap]
    omega

/-! ## Appearances -/

namespace Occurrence

variable (o : Occurrence) (expander : Expander) (range : Range)

/-- The intervals an occurrence is split as: itself, or the instances of its rule. -/
def intervals : List Occurrence :=
  if o.isRecurring then o.instances expander range else [o]

theorem splitByDay_perm (precision : Precision) :
    (o.splitByDay expander precision range).Perm
      ((o.intervals expander range).flatMap fun i => i.splitSingle precision range) := by
  unfold splitByDay intervals
  split
  · exact List.mergeSort_perm _ _
  · rw [List.flatMap_singleton]

theorem mem_instances {i : Occurrence} (h : i ∈ o.instances expander range) :
    ∃ found, expander o range.start range.finish = .ok found ∧
      ∃ interval ∈ found, o.instanceAt interval = i := by
  unfold instances at h
  split at h
  · rename_i found hfound
    exact ⟨found, hfound, List.mem_map.mp h⟩
  · exact absurd h List.not_mem_nil

end Occurrence

/-- An occurrence of a record is that of the value at its position. -/
theorem Record.exists_of_occurrence {zones : Zones} {r : Record} {delta : Nat} {display : Zone}
    {o : Occurrence} (h : (r.occurrence zones delta display).toOption = some o) :
    ∃ v storage start, r.values[delta]? = some v ∧
      o = r.occurrenceOf v delta storage display start := by
  unfold occurrence at h
  split at h
  · cases h
  · rename_i v hv
    split at h
    · cases h
    · split at h
      · cases h
      · exact ⟨v, _, _, hv, (Option.some.inj h).symm⟩

/-- A record with one interval that it puts into a calendar. -/
structure Appearance where
  record : Record
  interval : Occurrence

namespace Collector

variable (c : Collector) (range : Range)

/-- The appearances of a record. -/
def appearances (r : Record) : List Appearance :=
  (occurrences c.zones range r).flatMap fun o =>
    (o.intervals c.expander range).map fun i => ⟨r, i⟩

/-- The appearances of the records that are not yet rendered. -/
def collected (rendered : List Int) (records : List Record) : List Appearance :=
  (fresh rendered records).flatMap (c.appearances range)

/-- The fragment of an appearance on a date. -/
def fragmentOf (a : Appearance) (d : Date) : Occurrence :=
  c.legend.apply a.record
    ((a.interval.onClocks range.zone).fragmentAt c.precision (a.interval.spansDays range) d)

/-- Whether any two of a list of intervals start at least a second apart. -/
def StartsApart (found : List (Instant × Instant)) : Prop :=
  found.Pairwise fun a b => a.1.addSeconds 1 ≤ b.1 ∨ b.1.addSeconds 1 ≤ a.1

instance (found : List (Instant × Instant)) : Decidable (StartsApart found) :=
  inferInstanceAs (Decidable (List.Pairwise _ _))

/-- Whether the instances of each value start at least a second apart. -/
def Spaced (records : List Record) : Prop :=
  ∀ r ∈ records, ∀ o ∈ occurrences c.zones range r, o.isRecurring = true →
    ∀ found, c.expander o range.start range.finish = .ok found → StartsApart found

theorem spaced_iff {records : List Record} :
    c.Spaced range records ↔
      ∀ r ∈ records, ∀ o ∈ occurrences c.zones range r, o.isRecurring = true →
        StartsApart ((c.expander o range.start range.finish).toOption.getD []) := by
  refine forall₂_congr fun r _ => forall₂_congr fun o _ => imp_congr_right fun _ => ?_
  cases c.expander o range.start range.finish with
  | ok found =>
    exact ⟨fun h => h found rfl, fun h found' heq => Except.ok.inj heq ▸ h⟩
  | error fault =>
    refine ⟨fun _ => .nil, fun _ _ heq => ?_⟩
    cases heq

instance (records : List Record) : Decidable (c.Spaced range records) :=
  decidable_of_iff _ (c.spaced_iff range).symm

/-- What the interval of an appearance keeps of the value it comes from. -/
structure OfValue (r : Record) (delta : Nat) (i : Occurrence) : Prop where
  segment : i.segment = none
  dateId : i.dateId = Almanac.dateId r.entityId r.field delta
  ordered : i.start ≤ i.finish

variable {c range}

theorem start_le_closingInstant (start : Instant) (finish : Option Instant) :
    start ≤ Occurrence.closingInstant start finish := by
  unfold Occurrence.closingInstant
  split
  · split
    · assumption
    · exact le_rfl
  · exact le_rfl

theorem ofValue_of_occurrence {zones : Zones} {r : Record} {delta : Nat} {display : Zone}
    {o : Occurrence} (h : (r.occurrence zones delta display).toOption = some o) :
    OfValue r delta o := by
  obtain ⟨v, storage, start, -, rfl⟩ := Record.exists_of_occurrence h
  exact ⟨rfl, rfl, start_le_closingInstant _ _⟩

theorem mem_occurrences {zones : Zones} {r : Record} {o : Occurrence}
    (h : o ∈ occurrences zones range r) :
    ∃ delta, OfValue r delta o := by
  obtain ⟨delta, -, hsome⟩ := List.mem_filterMap.mp h
  exact ⟨delta, ofValue_of_occurrence hsome⟩

theorem OfValue.of_mem_intervals {r : Record} {delta : Nat} {o i : Occurrence}
    {expander : Expander} (ho : OfValue r delta o) (hi : i ∈ o.intervals expander range) :
    OfValue r delta i := by
  unfold Occurrence.intervals at hi
  split at hi
  · obtain ⟨-, -, interval, -, rfl⟩ := o.mem_instances _ _ hi
    exact ⟨ho.segment, ho.dateId, le_max_right _ _⟩
  · obtain rfl := List.mem_singleton.mp hi
    exact ho

theorem mem_appearances {r : Record} {a : Appearance} (h : a ∈ c.appearances range r) :
    a.record = r ∧ ∃ delta, OfValue r delta a.interval := by
  obtain ⟨o, ho, ha⟩ := List.mem_flatMap.mp h
  obtain ⟨i, hi, rfl⟩ := List.mem_map.mp ha
  obtain ⟨delta, hvalue⟩ := mem_occurrences ho
  exact ⟨rfl, delta, hvalue.of_mem_intervals hi⟩

theorem mem_collected {rendered : List Int} {records : List Record} {a : Appearance}
    (h : a ∈ c.collected range rendered records) :
    ∃ delta, OfValue a.record delta a.interval := by
  obtain ⟨r, -, ha⟩ := List.mem_flatMap.mp h
  obtain ⟨rfl, hvalue⟩ := mem_appearances ha
  exact hvalue

theorem fragments_perm (r : Record) :
    (c.fragments range r).Perm ((c.appearances range r).flatMap fun a =>
      (a.interval.shownDays range).map (c.fragmentOf range a)) := by
  rw [fragments, appearances, List.flatMap_assoc]
  refine List.Perm.flatMap_left _ fun o ho => ?_
  refine ((o.splitByDay_perm _ _ _).map _).trans ?_
  rw [List.map_flatMap, List.flatMap_map]
  refine List.Perm.flatMap_left _ fun i hi => ?_
  obtain ⟨delta, hvalue⟩ := mem_occurrences ho
  have hordered := (hvalue.of_mem_intervals hi).ordered
  rw [Occurrence.splitSingle_eq_map hordered, List.map_map]
  rfl

/-- **The fragments of a calendar**: those of the appearances on the days that show
them. -/
theorem collectedFragments_perm (rendered : List Int) (records : List Record) :
    ((fresh rendered records).flatMap (c.fragments range)).Perm
      ((c.collected range rendered records).flatMap fun a =>
        (a.interval.shownDays range).map (c.fragmentOf range a)) := by
  rw [collected, List.flatMap_assoc]
  exact List.Perm.flatMap_left _ fun r _ => fragments_perm r

/-! ## Different keys -/

theorem pairwise_fresh (rendered : List Int) (records : List Record) :
    (fresh rendered records).Pairwise fun r r' => r.entityId ≠ r'.entityId := by
  have hout {rendered : List Int} {records : List Record} {r : Record}
      (h : r ∈ fresh rendered records) : r.entityId ∉ rendered := by
    induction records generalizing rendered with
    | nil => exact absurd h List.not_mem_nil
    | cons r' records ih =>
      unfold fresh at h
      split at h
      · exact ih h
      · rename_i hnew
        rcases List.mem_cons.mp h with rfl | h
        · exact hnew
        · exact fun hmem => ih h (List.mem_cons_of_mem _ hmem)
  induction records generalizing rendered with
  | nil => exact .nil
  | cons r records ih =>
    unfold fresh
    split
    · exact ih rendered
    · refine List.pairwise_cons.mpr ⟨fun r' hr' heq => ?_, ih _⟩
      exact hout hr' (heq ▸ List.mem_cons_self)

theorem fresh_sublist (rendered : List Int) (records : List Record) :
    (fresh rendered records).Sublist records := by
  induction records generalizing rendered with
  | nil => exact .slnil
  | cons r records ih =>
    unfold fresh
    split
    · exact (ih rendered).cons r
    · exact (ih _).cons_cons r

theorem renderedAfter_cons (rendered : List Int) (r : Record) (records : List Record) :
    renderedAfter rendered (r :: records) =
      renderedAfter (if r.entityId ∈ rendered then rendered else r.entityId :: rendered)
        records := by
  by_cases h : r.entityId ∈ rendered
  · simp only [renderedAfter, fresh, if_pos h]
  · simp [renderedAfter, fresh, if_neg h]

/-- The later ones of some records are read after the entities of the earlier ones. -/
theorem fresh_append (rendered : List Int) (records records' : List Record) :
    fresh rendered (records ++ records') =
      fresh rendered records ++ fresh (renderedAfter rendered records) records' := by
  induction records generalizing rendered with
  | nil => rfl
  | cons r records ih =>
    rw [List.cons_append, renderedAfter_cons, fresh, fresh]
    split
    · exact ih rendered
    · rw [ih, List.cons_append]

/-- The occurrences of a record come from values at different positions. -/
theorem pairwise_occurrences (zones : Zones) (r : Record) :
    (occurrences zones range r).Pairwise fun o o' =>
      ∃ m n, m ≠ n ∧ OfValue r m o ∧ OfValue r n o' := by
  refine List.pairwise_filterMap.mpr (List.nodup_range.imp fun {m n} hne => ?_)
  intro o ho o' ho'
  exact ⟨m, n, hne, ofValue_of_occurrence ho, ofValue_of_occurrence ho'⟩

/-- The instances of a value start in different seconds. -/
theorem pairwise_intervals {records : List Record} (hspaced : c.Spaced range records)
    {r : Record} (hr : r ∈ records) {o : Occurrence} (ho : o ∈ occurrences c.zones range r) :
    (o.intervals c.expander range).Pairwise fun i j => i.start.seconds ≠ j.start.seconds := by
  have hlater {s t : Instant} (h : s.addSeconds 1 ≤ t) : s.seconds < t.seconds := by
    have hs := s.seconds_lt_addSeconds_one
    rw [Instant.le_def] at h
    omega
  unfold Occurrence.intervals
  split
  · rename_i hrule
    unfold Occurrence.instances
    split
    · rename_i found hfound
      refine List.pairwise_map.mpr ((hspaced r hr o ho hrule found hfound).imp ?_)
      rintro a b (h | h)
      · exact (hlater h).ne
      · exact (hlater h).ne'
    · exact .nil
  · exact List.pairwise_singleton _ _

/-- The key of an interval tells which value it comes from, and in which second it starts. -/
theorem OfValue.slotKey_eq_iff {r r' : Record} {m n : Nat} {i j : Occurrence}
    (hi : OfValue r m i) (hj : OfValue r' n j) :
    i.slotKey = j.slotKey ↔
      (r.entityId = r'.entityId ∧ r.field = r'.field ∧ m = n) ∧
        i.start.seconds = j.start.seconds :=
  Occurrence.slotKey_eq_iff_of_dateId hi.segment hj.segment hi.dateId hj.dateId

theorem nodup_slotKey_appearances {records : List Record} (hspaced : c.Spaced range records)
    {r : Record} (hr : r ∈ records) :
    ((c.appearances range r).map fun a => a.interval.slotKey).Nodup := by
  refine List.pairwise_map.mpr (List.pairwise_flatMap.mpr ⟨fun o ho => ?_, ?_⟩)
  · -- Instances of one value differ in the second, those of two values in the position.
    obtain ⟨delta, hvalue⟩ := mem_occurrences ho
    refine List.pairwise_map.mpr ((pairwise_intervals hspaced hr ho).imp_of_mem ?_)
    intro i j hi hj hne hkey
    have hi := hvalue.of_mem_intervals hi
    have hj := hvalue.of_mem_intervals hj
    exact hne ((hi.slotKey_eq_iff hj).mp hkey).2
  · refine (pairwise_occurrences c.zones r).imp fun {o o'} => ?_
    rintro ⟨m, n, hne, ho, ho'⟩ a ha a' ha' hkey
    obtain ⟨i, hi, rfl⟩ := List.mem_map.mp ha
    obtain ⟨i', hi', rfl⟩ := List.mem_map.mp ha'
    have hi := ho.of_mem_intervals hi
    have hi' := ho'.of_mem_intervals hi'
    exact hne ((hi.slotKey_eq_iff hi').mp hkey).1.2.2

/-- **Different appearances have different keys.** -/
theorem nodup_slotKey_collected {records : List Record} (hspaced : c.Spaced range records)
    (rendered : List Int) :
    ((c.collected range rendered records).map fun a => a.interval.slotKey).Nodup := by
  refine List.pairwise_map.mpr (List.pairwise_flatMap.mpr ⟨fun r hr => ?_, ?_⟩)
  · exact List.pairwise_map.mp
      (nodup_slotKey_appearances hspaced ((fresh_sublist _ _).subset hr))
  · refine (pairwise_fresh rendered records).imp fun {r r'} hne a ha a' ha' hkey => ?_
    obtain ⟨rfl, delta, hvalue⟩ := mem_appearances ha
    obtain ⟨rfl, delta', hvalue'⟩ := mem_appearances ha'
    exact hne ((hvalue.slotKey_eq_iff hvalue').mp hkey).1.1

end Collector

/-! ## The agenda -/

namespace Agenda

theorem mem_daysOf {fragments : List Occurrence} {d : Date} :
    d ∈ daysOf fragments ↔ ∃ f ∈ fragments, f.day = d := by
  rw [daysOf, Sorted.mem_eraseReps, List.mem_mergeSort, List.mem_map]

/-- The items of a day are the fragments on it, in order. -/
theorem on_ofFragments (fragments : List Occurrence) (d : Date) :
    (ofFragments fragments).on d = sorted (fragments.filter fun f => f.day = d) := by
  have hfind (days : List Date) :
      (days.map fun d => (d, sorted (fragments.filter fun f => f.day = d))).find?
          (fun entry => entry.1 = d) =
        if d ∈ days then some (d, sorted (fragments.filter fun f => f.day = d)) else none := by
    induction days with
    | nil => rfl
    | cons e days ih =>
      rw [List.map_cons, List.find?_cons]
      by_cases h : e = d
      · subst h
        simp
      · simp only [h, decide_false, ih, List.mem_cons, Ne.symm h, false_or]
  unfold on ofFragments
  rw [hfind]
  by_cases h : d ∈ daysOf fragments
  · rw [if_pos h]
  · rw [if_neg h]
    -- No fragment is on the day, so there is nothing to put in order.
    have hnone : fragments.filter (fun f => f.day = d) = [] := by
      rw [List.filter_eq_nil_iff]
      intro f hf hday
      exact h (mem_daysOf.mpr ⟨f, hf, of_decide_eq_true hday⟩)
    rw [hnone, sorted, List.mergeSort_nil]

theorem on_perm (fragments : List Occurrence) (d : Date) :
    ((ofFragments fragments).on d).Perm (fragments.filter fun f => f.day = d) := by
  rw [on_ofFragments]
  exact List.mergeSort_perm _ _

/-- **What the layout of a week needs to know of an agenda.** -/
structure Coherent (a : Agenda) (range : Range) : Prop where
  /-- No two fragments of a day have one key. -/
  distinct : ∀ d, ((a.on d).map Occurrence.slotKey).Nodup
  /-- Fragments with one key cover the same days. -/
  sameDays : ∀ {d e o o'}, o ∈ a.on d → o' ∈ a.on e → o.slotKey = o'.slotKey →
    o.firstDay = o'.firstDay ∧ o.lastDay = o'.lastDay
  /-- A fragment is on a listed day of the range that it covers. -/
  onCoveredDay : ∀ {d o}, o ∈ a.on d →
    (o.firstDay ≤ d ∧ d ≤ o.lastDay) ∧ (range.firstDate ≤ d ∧ d ≤ range.lastDate) ∧
      d < Date.last
  /-- A band that goes on has a fragment on every later date that the range shows and the
  calendar lists. -/
  goesOn : ∀ {theme d e o}, o ∈ a.on d → o.wantsBand theme → d < e →
    e ≤ o.lastDay → e ≤ range.lastDate → e < Date.last →
    ∃ o' ∈ a.on e, o'.slotKey = o.slotKey ∧ o'.wantsBand theme

end Agenda

namespace Collector

variable {c : Collector} {range : Range} {rendered : List Int} {records : List Record}

theorem slotKey_fragmentOf {a : Appearance} (h : a ∈ c.collected range rendered records)
    (d : Date) : (c.fragmentOf range a d).slotKey = a.interval.slotKey := by
  obtain ⟨delta, hvalue⟩ := mem_collected h
  exact Occurrence.slotKey_fragmentAt (o := a.interval.onClocks range.zone) hvalue.segment
    c.precision (a.interval.spansDays range) d

theorem mem_collect_on {f : Occurrence} {d : Date} :
    f ∈ (c.collect range rendered records).1.on d ↔
      ∃ a ∈ c.collected range rendered records, d ∈ a.interval.shownDays range ∧
        c.fragmentOf range a d = f := by
  have hday (a : Appearance) (d : Date) : (c.fragmentOf range a d).day = d := rfl
  rw [collect, (Agenda.on_perm _ d).mem_iff, List.mem_filter, decide_eq_true_iff,
    (collectedFragments_perm rendered records).mem_iff, List.mem_flatMap]
  constructor
  · rintro ⟨⟨a, ha, hf⟩, rfl⟩
    obtain ⟨e, he, rfl⟩ := List.mem_map.mp hf
    exact ⟨a, ha, he, rfl⟩
  · rintro ⟨a, ha, hd, rfl⟩
    exact ⟨⟨a, ha, List.mem_map_of_mem hd⟩, rfl⟩

theorem nodup_slotKey_on (hspaced : c.Spaced range records) (d : Date) :
    (((c.collect range rendered records).1.on d).map Occurrence.slotKey).Nodup := by
  refine (((Agenda.on_perm _ d).trans
    ((collectedFragments_perm rendered records).filter _)).map _).nodup_iff.mpr ?_
  rw [List.filter_flatMap, List.map_flatMap]
  refine List.nodup_flatMap.mpr ⟨fun a ha => ?_, ?_⟩
  · -- One appearance has at most one fragment on a day.
    refine List.pairwise_map.mpr (List.pairwise_filter.mpr (List.pairwise_map.mpr ?_))
    refine (Occurrence.pairwise_shownDays range).imp fun {e e'} hlt he he' => ?_
    have he : e = d := of_decide_eq_true he
    have he' : e' = d := of_decide_eq_true he'
    exact absurd (he.trans he'.symm) hlt.ne
  · refine (List.pairwise_map.mp (nodup_slotKey_collected hspaced rendered)).imp_of_mem ?_
    intro a a' ha ha' hne key hkey hkey'
    obtain ⟨f, hf, rfl⟩ := List.mem_map.mp hkey
    obtain ⟨f', hf', hsame⟩ := List.mem_map.mp hkey'
    obtain ⟨e, -, rfl⟩ := List.mem_map.mp (List.mem_filter.mp hf).1
    obtain ⟨e', -, rfl⟩ := List.mem_map.mp (List.mem_filter.mp hf').1
    rw [slotKey_fragmentOf ha, slotKey_fragmentOf ha'] at hsame
    exact hne hsame.symm

/-- **Collected agendas are coherent.** -/
theorem coherent_collect (hspaced : c.Spaced range records) :
    (c.collect range rendered records).1.Coherent range where
  distinct := nodup_slotKey_on hspaced
  sameDays := by
    intro d e o o' ho ho' hkey
    obtain ⟨a, ha, -, rfl⟩ := mem_collect_on.mp ho
    obtain ⟨a', ha', -, rfl⟩ := mem_collect_on.mp ho'
    rw [slotKey_fragmentOf ha, slotKey_fragmentOf ha'] at hkey
    have hsame : a = a' :=
      List.inj_on_of_nodup_map (nodup_slotKey_collected hspaced rendered) ha ha' hkey
    subst hsame
    exact ⟨rfl, rfl⟩
  onCoveredDay := by
    intro d o ho
    obtain ⟨a, -, hd, rfl⟩ := mem_collect_on.mp ho
    obtain ⟨hcovered, hlast, -⟩ := Occurrence.mem_shownDays.mp hd
    obtain ⟨hdays, hrange⟩ := Occurrence.mem_coveredDays.mp hcovered
    exact ⟨hdays, hrange, hlast⟩
  goesOn := by
    intro theme d e o ho hband hlt hend hrange hlast
    obtain ⟨a, ha, hd, rfl⟩ := mem_collect_on.mp ho
    obtain ⟨hcovered, -⟩ := Occurrence.mem_shownDays.mp hd
    obtain ⟨⟨hfirst, -⟩, hbegin, -⟩ := Occurrence.mem_coveredDays.mp hcovered
    -- The later date is not the first day, so nothing but the listing can leave it out.
    have hshown : e ∈ a.interval.shownDays range :=
      Occurrence.mem_shownDays.mpr
        ⟨Occurrence.mem_coveredDays.mpr
          ⟨⟨hfirst.trans hlt.le, hend⟩, hbegin.trans hlt.le, hrange⟩,
        hlast, fun heq => absurd (heq ▸ hlt) (not_lt.mpr hfirst)⟩
    refine ⟨_, mem_collect_on.mpr ⟨a, ha, hshown, rfl⟩, ?_, ?_⟩
    · rw [slotKey_fragmentOf ha, slotKey_fragmentOf ha]
    · -- The range shows both dates, so every fragment is one of several.
      have hseveral : a.interval.spansDays range = true :=
        decide_eq_true (lt_of_le_of_lt (max_le hfirst hbegin)
          (lt_of_lt_of_le hlt (le_min hend hrange)))
      have htheme : theme = true := (Bool.and_eq_true_iff.mp hband).1
      simp [Occurrence.wantsBand, fragmentOf, Legend.apply, Occurrence.fragmentAt, hseveral,
        htheme]

end Collector
end Almanac
