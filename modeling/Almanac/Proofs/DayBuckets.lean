import Almanac.Proofs.Week.Views

/-! # The items of a day view

The view of a day sets the all-day items apart and lists the others under the times of the day.  A
style that gives times of its own shows a bucket for each of them, also without items; any other
style shows a bucket for each label that an item has (`Layout.dayLabels`).  Either way a bucket
holds the items with its label (`Layout.timeBuckets_eq`): merging empty buckets into the filled
ones and sorting all by their labels gives the same list, as every item has the label of a boundary
(`Layout.bucketLabel_mem_labels`) and each label is there once.

The items of a day are in the order of their labels, so the view keeps their order
(`Layout.listsItems_dayGrid`).
-/
namespace Almanac

/-- Whether a grouping gives times of its own, at least one of which can be read. -/
def Grouping.HasTimes : Grouping → Prop
  | custom times => ∃ s ∈ times, (Boundaries.readTime? s).isSome = true
  | _ => False

/-- **A day view lists the items of its day**: the all-day items and the others, each in their
order.  A small day lists none, and says only whether there are any. -/
structure DayGrid.ListsItems (grid : DayGrid) (l : Layout) (items : List Occurrence) : Prop where
  allDay : l.style.mini = false → grid.allDay = items.filter (·.allDay)
  timed : l.style.mini = false →
    grid.buckets.flatMap TimeBucket.items = items.filter fun o => !o.allDay
  perm : l.style.mini = false →
    (grid.allDay ++ grid.buckets.flatMap TimeBucket.items).Perm items
  labeled : ∀ b ∈ grid.buckets, ∀ o ∈ b.items, l.bucketLabel l.boundaries o = b.label
  ascending : (grid.buckets.map TimeBucket.label).Pairwise (· < ·)
  /-- All given times are shown. -/
  allTimes : l.style.grouping.HasTimes →
    grid.buckets.map TimeBucket.label = l.boundaries.labels
  nonempty : ¬l.style.grouping.HasTimes → ∀ b ∈ grid.buckets, b.items ≠ []
  empty : grid.empty = true ↔ items = []
  hasEvents : grid.state.hasEvents = false ↔ items = []

namespace Boundaries

/-- There are boundaries if a text can be read. -/
theorem times_read_ne_nil_iff {groups : List String} :
    (read groups).times ≠ [] ↔ ∃ s ∈ groups, (readTime? s).isSome = true := by
  constructor
  · intro hne
    obtain ⟨t, ht⟩ := List.exists_mem_of_ne_nil _ hne
    obtain ⟨s, hs, hread⟩ :=
      List.mem_filterMap.mp (List.mem_mergeSort.mp (Sorted.mem_eraseReps.mp ht))
    exact ⟨s, hs, Option.isSome_of_mem hread⟩
  · rintro ⟨s, hs, hread⟩
    obtain ⟨t, ht⟩ := Option.isSome_iff_exists.mp hread
    refine List.ne_nil_of_mem (a := t) (Sorted.mem_eraseReps.mpr (List.mem_mergeSort.mpr ?_))
    exact List.mem_filterMap.mpr ⟨s, hs, ht⟩

end Boundaries

namespace Layout

variable (l : Layout) (items : List Occurrence)

/-- The bucket of a label. -/
def bucketOf (label : String) : TimeBucket :=
  ⟨label, items.filter fun o => l.bucketLabel l.boundaries o = label⟩

/-- The buckets of a day view for the items that are not all-day. -/
def timeBuckets : List TimeBucket :=
  if l.style.grouping.showsEmptyTimes then l.withEmptyBuckets (l.groupByBucket items)
  else l.groupByBucket items

/-- The labels of a day view: those of the given times, or else those of the items. -/
def dayLabels : List String :=
  if l.style.grouping.showsEmptyTimes = true ∧ l.boundaries.times ≠ [] then l.boundaries.labels
  else l.bucketLabels items

variable {l items}

theorem hasTimes_iff :
    l.style.grouping.HasTimes ↔
      l.style.grouping.showsEmptyTimes = true ∧ l.boundaries.times ≠ [] := by
  rw [boundaries, Boundaries.times_read_ne_nil_iff]
  cases l.style.grouping with
  | none | hour | half => simp [Grouping.HasTimes, Grouping.showsEmptyTimes]
  | custom times =>
    simp only [Grouping.HasTimes, Grouping.showsEmptyTimes, Grouping.boundaries,
      decide_eq_true_iff]
    exact ⟨fun h => ⟨List.ne_nil_of_mem h.choose_spec.1, h⟩, fun h => h.2⟩

/-! ## Labels -/

/-- Every item has the label of a boundary, if there are any. -/
theorem bucketLabel_mem_labels (hb : l.boundaries.times ≠ []) (o : Occurrence) :
    l.bucketLabel l.boundaries o ∈ l.boundaries.labels := by
  unfold bucketLabel
  split
  · split
    · exact Boundaries.floorLabel_mem_labels hb _
    · exact Boundaries.floorLabel_mem_labels hb _
  · exact Boundaries.floorLabel_mem_labels hb _

theorem pairwise_dayLabels (l : Layout) (items : List Occurrence) :
    (l.dayLabels items).Pairwise (· < ·) := by
  unfold dayLabels
  split
  · exact Boundaries.pairwise_labels_read _
  · exact l.pairwise_bucketLabels items

theorem bucketLabel_mem_dayLabels {o : Occurrence} (ho : o ∈ items) :
    l.bucketLabel l.boundaries o ∈ l.dayLabels items := by
  unfold dayLabels
  split
  · rename_i htimes
    exact bucketLabel_mem_labels htimes.2 o
  · exact l.mem_bucketLabels.mpr ⟨o, ho, rfl⟩

/-! ## Buckets -/

/-- The labels of the items and those of the boundaries without an item are all the labels. -/
theorem labels_perm (hb : l.boundaries.times ≠ []) (items : List Occurrence) :
    (l.bucketLabels items ++ l.boundaries.labels.filter fun label =>
      label ∉ l.bucketLabels items).Perm l.boundaries.labels := by
  have hlabels : l.boundaries.labels.Nodup :=
    (Boundaries.pairwise_labels_read _).imp ne_of_lt
  refine (List.perm_ext_iff_of_nodup ?_ hlabels).mpr fun label => ?_
  · refine List.Nodup.append ((l.pairwise_bucketLabels items).imp ne_of_lt)
      (hlabels.filter _) fun label hmem hrest => ?_
    exact of_decide_eq_true (List.mem_filter.mp hrest).2 hmem
  · rw [List.mem_append, List.mem_filter, decide_eq_true_iff]
    constructor
    · rintro (hmem | hrest)
      · obtain ⟨o, -, rfl⟩ := l.mem_bucketLabels.mp hmem
        exact bucketLabel_mem_labels hb o
      · exact hrest.1
    · intro hmem
      by_cases hin : label ∈ l.bucketLabels items
      · exact .inl hin
      · exact .inr ⟨hmem, hin⟩

/-- Without boundaries no bucket is missing. -/
theorem withEmptyBuckets_of_nil (hb : l.boundaries.times = []) (items : List Occurrence) :
    l.withEmptyBuckets (l.groupByBucket items) = l.groupByBucket items := by
  have hlabels : l.boundaries.labels = [] := by rw [Boundaries.labels, hb, List.map_nil]
  rw [withEmptyBuckets, hlabels, List.filter_nil, List.map_nil, List.append_nil]
  refine List.mergeSort_of_pairwise ?_
  rw [groupByBucket_eq]
  refine List.pairwise_map.mpr ((l.pairwise_bucketLabels items).imp fun hlt => ?_)
  exact decide_eq_true hlt.le

/-- **Empty buckets fill the gaps**: there is a bucket for every boundary. -/
theorem withEmptyBuckets_eq (hb : l.boundaries.times ≠ []) (items : List Occurrence) :
    l.withEmptyBuckets (l.groupByBucket items) = l.boundaries.labels.map (l.bucketOf items) := by
  -- A label is missing if no item has it, so its bucket is empty.
  have hmissing : ∀ label, (!(l.groupByBucket items).any (·.label == label)) =
      decide (label ∉ l.bucketLabels items) := by
    intro label
    rw [groupByBucket_eq, List.any_map, decide_not, Bool.not_inj_iff, Bool.eq_iff_iff,
      List.any_eq_true, decide_eq_true_iff]
    exact ⟨fun ⟨_, hmem, heq⟩ => eq_of_beq heq ▸ hmem,
      fun hmem => ⟨label, hmem, beq_self_eq_true _⟩⟩
  have hfilled : (l.boundaries.labels.filter fun label =>
      !(l.groupByBucket items).any (·.label == label)).map (fun label => TimeBucket.mk label []) =
        (l.boundaries.labels.filter fun label => label ∉ l.bucketLabels items).map
          (l.bucketOf items) := by
    simp only [hmissing]
    refine List.map_congr_left fun label hlabel => ?_
    have hnone := of_decide_eq_true (List.mem_filter.mp hlabel).2
    rw [bucketOf, List.filter_eq_nil_iff.mpr]
    intro o ho hlabel
    exact hnone (l.mem_bucketLabels.mpr ⟨o, ho, of_decide_eq_true hlabel⟩)
  have hperm : (l.withEmptyBuckets (l.groupByBucket items)).Perm
      (l.boundaries.labels.map (l.bucketOf items)) := by
    refine (List.mergeSort_perm _ _).trans ?_
    rw [hfilled, groupByBucket_eq]
    have hall := (labels_perm hb items).map (l.bucketOf items)
    rwa [List.map_append] at hall
  -- A bucket is determined by its label.
  have hdetermined : ∀ a b, a ∈ l.withEmptyBuckets (l.groupByBucket items) →
      b ∈ l.boundaries.labels.map (l.bucketOf items) → a.label ≤ b.label → b.label ≤ a.label →
        a = b := by
    intro a b ha hb hle hge
    obtain ⟨label, -, rfl⟩ := List.mem_map.mp (hperm.mem_iff.mp ha)
    obtain ⟨label', -, rfl⟩ := List.mem_map.mp hb
    exact congrArg (l.bucketOf items) (le_antisymm hle hge)
  refine hperm.eq_of_pairwise hdetermined (Sorted.pairwise_mergeSort_key TimeBucket.label _) ?_
  exact List.pairwise_map.mpr
    ((Boundaries.pairwise_labels_read _).imp fun hlt => le_of_lt hlt)

/-- **The buckets of a day view**: one for each label, with the items of that label. -/
theorem timeBuckets_eq (l : Layout) (items : List Occurrence) :
    l.timeBuckets items = (l.dayLabels items).map (l.bucketOf items) := by
  unfold timeBuckets dayLabels
  by_cases hempty : l.style.grouping.showsEmptyTimes = true
  · rw [if_pos hempty]
    by_cases hb : l.boundaries.times = []
    · rw [if_neg fun h => h.2 hb, withEmptyBuckets_of_nil hb, groupByBucket_eq]
      rfl
    · rw [if_pos ⟨hempty, hb⟩, withEmptyBuckets_eq hb]
  · rw [if_neg hempty, if_neg fun h => hempty h.1, groupByBucket_eq]
    rfl

theorem labels_timeBuckets (l : Layout) (items : List Occurrence) :
    (l.timeBuckets items).map TimeBucket.label = l.dayLabels items := by
  rw [timeBuckets_eq, List.map_map]
  exact List.map_id _

/-- The buckets keep the order of items whose labels are in order. -/
theorem flatMap_timeBuckets
    (hsorted : (items.map (l.bucketLabel l.boundaries)).Pairwise (· ≤ ·)) :
    (l.timeBuckets items).flatMap TimeBucket.items = items := by
  rw [timeBuckets_eq, List.flatMap_map]
  exact Sorted.flatMap_filter_eq_self (l.pairwise_dayLabels items)
    (fun o ho => bucketLabel_mem_dayLabels ho) hsorted

/-- Without given times no bucket is empty. -/
theorem items_ne_nil_of_mem_timeBuckets (htimes : ¬l.style.grouping.HasTimes) {b : TimeBucket}
    (hb : b ∈ l.timeBuckets items) : b.items ≠ [] := by
  have hown : l.dayLabels items = l.bucketLabels items :=
    if_neg fun h => htimes (hasTimes_iff.mpr h)
  rw [timeBuckets_eq, hown] at hb
  exact (l.mem_groupByBucket (by rw [groupByBucket_eq]; exact hb)).1

/-! ## The whole day -/

/-- The items that a day view lists. -/
def listedItems (l : Layout) (d : Date) : List Occurrence :=
  if l.style.mini then [] else l.agenda.on d

theorem listedItems_eq (hmini : l.style.mini = false) (d : Date) :
    l.listedItems d = l.agenda.on d :=
  if_neg (Bool.eq_false_iff.mp hmini)

theorem listedItems_sublist (l : Layout) (d : Date) :
    (l.listedItems d).Sublist (l.agenda.on d) := by
  unfold listedItems
  split
  · exact List.nil_sublist _
  · exact .refl _

theorem allDay_dayGrid (l : Layout) (d : Date) :
    (l.dayGrid d).allDay = (l.listedItems d).filter (·.allDay) := rfl

theorem buckets_dayGrid (l : Layout) (d : Date) :
    (l.dayGrid d).buckets = l.timeBuckets ((l.listedItems d).filter fun o => !o.allDay) := rfl

/-- A day is empty, small or not, exactly if it has no items. -/
theorem empty_dayGrid_iff (l : Layout) (d : Date) :
    (l.dayGrid d).empty = true ↔ l.agenda.on d = [] := by
  rw [← List.isEmpty_iff]
  cases hmini : l.style.mini with
  | true => simp only [dayGrid, hmini, if_true]
  | false => rw [empty_dayGrid hmini]

/-- **The view of a day** lists the items of the day, all-day items apart and the others in
ascending buckets, with a bucket for each given time or else without empty ones; and it is empty,
and without events, exactly if the day has no items. -/
theorem listsItems_dayGrid (c : Collector) (style : Style) (range : Range) (viewId : String)
    (rendered : List Int) (records : List Record) (d : Date) :
    ((c.layout style range viewId rendered records).dayGrid d).ListsItems
      (c.layout style range viewId rendered records)
      ((c.layout style range viewId rendered records).agenda.on d) := by
  have hlabels : (((c.layout style range viewId rendered records).agenda.on d).map
      ((c.layout style range viewId rendered records).bucketLabel
        (c.layout style range viewId rendered records).boundaries)).Pairwise (· ≤ ·) :=
    pairwise_bucketLabel_on d
  generalize c.layout style range viewId rendered records = l at hlabels
  have htimed : (l.dayGrid d).buckets.flatMap TimeBucket.items =
      (l.listedItems d).filter fun o => !o.allDay := by
    rw [buckets_dayGrid]
    refine flatMap_timeBuckets (hlabels.sublist (List.Sublist.map _ ?_))
    exact List.filter_sublist.trans (l.listedItems_sublist d)
  exact
    { allDay := fun hmini => by rw [allDay_dayGrid, listedItems_eq hmini]
      timed := fun hmini => by rw [htimed, listedItems_eq hmini]
      perm := by
        intro hmini
        rw [allDay_dayGrid, htimed, listedItems_eq hmini]
        exact List.filter_append_perm _ _
      labeled := by
        intro b hb o ho
        rw [buckets_dayGrid, timeBuckets_eq] at hb
        obtain ⟨label, -, rfl⟩ := List.mem_map.mp hb
        exact of_decide_eq_true (List.mem_filter.mp ho).2
      ascending := by
        rw [buckets_dayGrid, labels_timeBuckets]
        exact l.pairwise_dayLabels _
      allTimes := by
        intro htimes
        rw [buckets_dayGrid, labels_timeBuckets]
        exact if_pos (hasTimes_iff.mp htimes)
      nonempty := by
        intro htimes b hb
        rw [buckets_dayGrid] at hb
        exact items_ne_nil_of_mem_timeBuckets htimes hb
      empty := l.empty_dayGrid_iff d
      hasEvents := by
        show (!(l.agenda.on d).isEmpty) = false ↔ _
        rw [Bool.not_eq_false', List.isEmpty_iff] }

/-- The talks of April 3, 2025 under given times: a text that is no time is left out, and no talk
is at noon. -/
example : (((threeWeeks.layout { grouping := .custom ["10:00", "noon", "12:00", "08:00"] }
    Occurrence.april "calendar" [] aprilTalks).dayGrid ⟨20181⟩).buckets.map fun b =>
      (b.label, b.items.length)) = [("08:00:00", 2), ("10:00:00", 1), ("12:00:00", 0)] := by
  cbv

end Layout
end Almanac
