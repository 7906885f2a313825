import Almanac.Grid.Week
import Almanac.Proofs.Sorted
import Mathlib.Data.String.Basic

/-! # Grouping and truncating

The items of a day that are in no band are grouped under labels and then cut to the number
the style allows.  A bucket holds the items with its label (`groupByBucket_eq`), so the
buckets hold the items of the day, each once (`groupByBucket_perm`), and in their own order
if their labels are in order (`flatMap_groupByBucket`).  Cutting takes the first items of
all buckets together (`flatMap_keepFirst`) and leaves the others for the link to the rest
(`hidden_keepFirst`).
-/
namespace Almanac

/-- The identifiers of the items that a column hides. -/
def SingleDayColumn.hiddenIds (c : SingleDayColumn) : List String :=
  (c.more.map MoreLink.hiddenIds).getD []

namespace Layout

variable (l : Layout)

/-- The labels of the buckets of items, in order, each once. -/
def bucketLabels (items : List Occurrence) : List String :=
  ((items.map (l.bucketLabel l.boundaries)).mergeSort (· ≤ ·)).eraseReps

theorem mem_bucketLabels {items : List Occurrence} {label : String} :
    label ∈ l.bucketLabels items ↔ ∃ o ∈ items, l.bucketLabel l.boundaries o = label := by
  rw [bucketLabels, Sorted.mem_eraseReps, List.mem_mergeSort, List.mem_map]

theorem pairwise_bucketLabels (items : List Occurrence) :
    (l.bucketLabels items).Pairwise (· < ·) := by
  have hsorted : ((items.map (l.bucketLabel l.boundaries)).mergeSort
      (· ≤ ·)).Pairwise (· ≤ ·) := Sorted.pairwise_mergeSort_key id _
  refine (Sorted.pairwise_eraseReps hsorted).imp ?_
  rintro a b ⟨hle, hne⟩
  exact lt_of_le_of_ne hle hne

/-- A bucket holds the items with its label. -/
theorem groupByBucket_eq (items : List Occurrence) :
    l.groupByBucket items = (l.bucketLabels items).map fun label =>
      ⟨label, items.filter fun o => l.bucketLabel l.boundaries o = label⟩ := by
  rw [groupByBucket, List.map_map]
  refine List.map_congr_left fun label _ => ?_
  dsimp only
  rw [List.filterMap_map, ← List.filterMap_eq_filter]
  congr 1
  refine List.filterMap_congr fun o _ => ?_
  simp [Option.guard]

/-- **Grouping keeps every item.** -/
theorem groupByBucket_perm (items : List Occurrence) :
    ((l.groupByBucket items).flatMap TimeBucket.items).Perm items := by
  rw [groupByBucket_eq, List.flatMap_map]
  refine Sorted.flatMap_filter_perm (l.bucketLabel l.boundaries)
    ((l.pairwise_bucketLabels items).imp ne_of_lt) fun o ho => ?_
  exact l.mem_bucketLabels.mpr ⟨o, ho, rfl⟩

/-- **Grouping keeps the order** of items whose labels are in order. -/
theorem flatMap_groupByBucket {items : List Occurrence}
    (hsorted : (items.map (l.bucketLabel l.boundaries)).Pairwise (· ≤ ·)) :
    (l.groupByBucket items).flatMap TimeBucket.items = items := by
  rw [groupByBucket_eq, List.flatMap_map]
  refine Sorted.flatMap_filter_eq_self (l.pairwise_bucketLabels items) (fun o ho => ?_) hsorted
  exact l.mem_bucketLabels.mpr ⟨o, ho, rfl⟩

/-! ## Truncating -/

/-- **Truncating shows the first items** of all buckets together. -/
theorem flatMap_keepFirst (keep : Nat) (buckets : List TimeBucket) :
    (keepFirst keep buckets).1.flatMap TimeBucket.items =
      (buckets.flatMap TimeBucket.items).take keep := by
  induction buckets generalizing keep with
  | nil => rw [keepFirst, List.flatMap_nil, List.take_nil]
  | cons b rest ih =>
    have hkept : (keepFirst keep (b :: rest)).1.flatMap TimeBucket.items =
        b.items.take keep ++
          (keepFirst (keep - (b.items.take keep).length) rest).1.flatMap TimeBucket.items := by
      rw [keepFirst]
      dsimp only
      split
      · rename_i hnone
        rw [hnone, List.nil_append]
      · rw [List.flatMap_cons]
    have hroom : keep - (b.items.take keep).length = keep - b.items.length := by
      rw [List.length_take]
      omega
    rw [hkept, hroom, ih, List.flatMap_cons, List.take_append]

/-- **Truncating leaves out the other items.** -/
theorem hidden_keepFirst (keep : Nat) (buckets : List TimeBucket) :
    (keepFirst keep buckets).2 = (buckets.flatMap TimeBucket.items).drop keep := by
  induction buckets generalizing keep with
  | nil => rw [keepFirst, List.flatMap_nil, List.drop_nil]
  | cons b rest ih =>
    have hhidden : (keepFirst keep (b :: rest)).2 =
        b.items.drop keep ++ (keepFirst (keep - (b.items.take keep).length) rest).2 := rfl
    have hroom : keep - (b.items.take keep).length = keep - b.items.length := by
      rw [List.length_take]
      omega
    rw [hhidden, hroom, ih, List.flatMap_cons, List.drop_append]

/-- **Truncating keeps every item**, in the buckets or among those left out. -/
theorem keepFirst_perm (keep : Nat) (buckets : List TimeBucket) :
    ((keepFirst keep buckets).1.flatMap TimeBucket.items ++ (keepFirst keep buckets).2).Perm
      (buckets.flatMap TimeBucket.items) := by
  rw [flatMap_keepFirst, hidden_keepFirst, List.take_append_drop]

/-- A bucket that is left has items, and they are the first of a bucket with its label. -/
theorem exists_of_mem_keepFirst {keep : Nat} {buckets : List TimeBucket} {b : TimeBucket}
    (h : b ∈ (keepFirst keep buckets).1) :
    b.items ≠ [] ∧ ∃ b' ∈ buckets, b'.label = b.label ∧ b.items <+: b'.items := by
  induction buckets generalizing keep with
  | nil => exact absurd h List.not_mem_nil
  | cons b' rest ih =>
    have hlater {room : Nat} (hmem : b ∈ (keepFirst room rest).1) : b.items ≠ [] ∧
        ∃ b'' ∈ b' :: rest, b''.label = b.label ∧ b.items <+: b''.items := by
      obtain ⟨hne, b'', hb'', hlabel⟩ := ih hmem
      exact ⟨hne, b'', List.mem_cons_of_mem _ hb'', hlabel⟩
    rw [keepFirst] at h
    dsimp only at h
    split at h
    · exact hlater h
    · rename_i hshown
      rcases List.mem_cons.mp h with rfl | hmem
      · exact ⟨hshown, b', List.mem_cons_self, rfl, List.take_prefix _ _⟩
      · exact hlater hmem

theorem labels_keepFirst_sublist (keep : Nat) (buckets : List TimeBucket) :
    ((keepFirst keep buckets).1.map TimeBucket.label).Sublist
      (buckets.map TimeBucket.label) := by
  induction buckets generalizing keep with
  | nil => exact .slnil
  | cons b rest ih =>
    rw [keepFirst]
    dsimp only
    split
    · exact (ih _).cons _
    · exact (ih _).cons_cons _

/-- **The single-day items of a day**: each is in a bucket or hidden, and only once. -/
theorem exists_singleDayColumn (d : Date) (items : List Occurrence) :
    ∃ hidden : List Occurrence,
      (l.singleDayColumn d items).hiddenIds = hidden.map Occurrence.dateId ∧
      ((l.singleDayColumn d items).buckets.flatMap TimeBucket.items ++ hidden).Perm items := by
  by_cases htruncates : l.style.truncates items.length
  · -- How many items are kept depends on the style; for any number none is lost.
    obtain ⟨keep, hbuckets, hids⟩ : ∃ keep,
        (l.singleDayColumn d items).buckets = (keepFirst keep (l.groupByBucket items)).1 ∧
          (l.singleDayColumn d items).hiddenIds =
            (keepFirst keep (l.groupByBucket items)).2.map Occurrence.dateId := by
      rw [singleDayColumn, if_pos htruncates]
      exact ⟨_, rfl, rfl⟩
    refine ⟨_, hids, ?_⟩
    rw [hbuckets]
    exact (keepFirst_perm _ _).trans (l.groupByBucket_perm items)
  · refine ⟨[], ?_, ?_⟩
    · rw [singleDayColumn, if_neg htruncates]
      rfl
    · rw [singleDayColumn, if_neg htruncates, List.append_nil]
      exact l.groupByBucket_perm items

end Layout
end Almanac
