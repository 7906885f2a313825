import Almanac.Proofs.ChangedValue

/-! # Collecting in batches

Records may be collected at once or in batches, one call of the collector after the other.
The agendas of two calls are put together day by day (`Agenda.merge`): the items of the second
one go behind those of the first, and each day is put in order again.  The result is the agenda
of one call with all the records (`collect_append`).

The records of the second batch count as if they stood behind those of the first
(`fresh_append`), so the fragments of one call are those of the first batch followed by those of
the second.  The stable sort of a day depends only on the fragments of each start, and sorting
the two parts beforehand leaves these as they are (`sorted_append`).

What an agenda holds is stated by `Agenda.Arranged`: its days are in order and none is empty, a
fragment is on its own day, and the fragments of a day are in the order of their start; those
with one start are in the order in which they are made (`Collector.queue`), which is that of the
records, then of the values of a record, then of the instances of a value.
-/
namespace Almanac

namespace Agenda

/-- The agenda with the items of another one behind its own on each day, and each day in
order again. -/
def merge (a b : Agenda) : Agenda :=
  let dates := ((a.days ++ b.days).map Prod.fst).mergeSort (· ≤ ·)
  ⟨dates.eraseReps.map fun d => (d, sorted (a.on d ++ b.on d))⟩

/-- What a collected agenda looks like, given the fragments of each day in the order in which
they are made. -/
structure Arranged (agenda : Agenda) (queue : Date → List Occurrence) : Prop where
  /-- The days are in ascending order, each once. -/
  ascending : (agenda.days.map Prod.fst).Pairwise (· < ·)
  /-- No day is without items. -/
  nonempty : ∀ entry ∈ agenda.days, entry.2 ≠ []
  /-- A fragment is on its own day. -/
  ownDay : ∀ entry ∈ agenda.days, ∀ f ∈ entry.2, f.day = entry.1
  /-- The items of a day are in the order of their start. -/
  ordered : ∀ entry ∈ agenda.days, entry.2.Pairwise fun f g => f.sortKey ≤ g.sortKey
  /-- The items of a day with one start are the fragments with that start, in the order in
  which they are made. -/
  ties : ∀ d key, ((agenda.on d).filter fun f => f.sortKey = key) =
    (queue d).filter fun f => f.sortKey = key

/-! ## Days -/

theorem pairwise_dates (dates : List Date) :
    (dates.mergeSort (· ≤ ·)).eraseReps.Pairwise (· < ·) := by
  have hsorted : (dates.mergeSort (· ≤ ·)).Pairwise (· ≤ ·) :=
    Sorted.pairwise_mergeSort_key id dates
  exact (Sorted.pairwise_eraseReps hsorted).imp fun h => lt_of_le_of_ne h.1 h.2

theorem fst_days_ofFragments (fragments : List Occurrence) :
    (ofFragments fragments).days.map Prod.fst = daysOf fragments := by
  simp [ofFragments, Function.comp_def]

/-- The days of two lists of fragments are the days of both. -/
theorem daysOf_append (l l' : List Occurrence) :
    daysOf (l ++ l') = ((daysOf l ++ daysOf l').mergeSort (· ≤ ·)).eraseReps := by
  refine Sorted.eq_of_pairwise_lt (pairwise_dates _) (pairwise_dates _) fun d => ?_
  rw [mem_daysOf, Sorted.mem_eraseReps, List.mem_mergeSort, List.mem_append, mem_daysOf,
    mem_daysOf]
  constructor
  · rintro ⟨f, hf, rfl⟩
    rcases List.mem_append.mp hf with hf | hf
    · exact .inl ⟨f, hf, rfl⟩
    · exact .inr ⟨f, hf, rfl⟩
  · rintro (⟨f, hf, rfl⟩ | ⟨f, hf, rfl⟩)
    · exact ⟨f, List.mem_append_left _ hf, rfl⟩
    · exact ⟨f, List.mem_append_right _ hf, rfl⟩

/-! ## Items -/

theorem pairwise_sorted (items : List Occurrence) :
    (sorted items).Pairwise fun f g => f.sortKey ≤ g.sortKey :=
  Sorted.pairwise_mergeSort_key Occurrence.sortKey items

theorem filter_sortKey_sorted (items : List Occurrence) (key : WallTime) :
    ((sorted items).filter fun f => f.sortKey = key) = items.filter fun f => f.sortKey = key :=
  Sorted.filter_key_mergeSort Occurrence.sortKey items key

/-- Items may be put in order before more items come behind them. -/
theorem sorted_append (l l' : List Occurrence) :
    sorted (sorted l ++ sorted l') = sorted (l ++ l') := by
  refine Sorted.eq_of_filter_key_eq Occurrence.sortKey (List.pairwise_map.mpr (pairwise_sorted _))
    (List.pairwise_map.mpr (pairwise_sorted _)) fun key => ?_
  rw [filter_sortKey_sorted, filter_sortKey_sorted, List.filter_append, List.filter_append,
    filter_sortKey_sorted, filter_sortKey_sorted]

/-- **The agenda of two lists of fragments** is made of the agendas of both. -/
theorem merge_ofFragments (l l' : List Occurrence) :
    (ofFragments l).merge (ofFragments l') = ofFragments (l ++ l') := by
  have hday : ∀ d, sorted ((ofFragments l).on d ++ (ofFragments l').on d) =
      sorted ((l ++ l').filter fun f => f.day = d) := by
    intro d
    rw [on_ofFragments, on_ofFragments, sorted_append, List.filter_append]
  simp only [merge, hday]
  rw [List.map_append, fst_days_ofFragments, fst_days_ofFragments, ← daysOf_append]
  rfl

/-- The agenda of some fragments, if they are made in the order of a queue. -/
theorem arranged_ofFragments {fragments : List Occurrence} {queue : Date → List Occurrence}
    (h : ∀ d, (fragments.filter fun f => f.day = d) = queue d) :
    (ofFragments fragments).Arranged queue where
  ascending := by
    rw [fst_days_ofFragments]
    exact pairwise_dates _
  nonempty := by
    intro entry hentry
    obtain ⟨d, hd, rfl⟩ := List.mem_map.mp hentry
    obtain ⟨f, hf, hday⟩ := mem_daysOf.mp hd
    have hmem : f ∈ sorted (fragments.filter fun f => f.day = d) :=
      List.mem_mergeSort.mpr (List.mem_filter.mpr ⟨hf, decide_eq_true hday⟩)
    exact List.ne_nil_of_mem hmem
  ownDay := by
    intro entry hentry f hf
    obtain ⟨d, -, rfl⟩ := List.mem_map.mp hentry
    exact of_decide_eq_true (List.mem_filter.mp (List.mem_mergeSort.mp hf)).2
  ordered := by
    intro entry hentry
    obtain ⟨d, -, rfl⟩ := List.mem_map.mp hentry
    exact pairwise_sorted _
  ties := by
    intro d key
    rw [on_ofFragments, filter_sortKey_sorted, h d]

end Agenda

namespace Collector

variable {c : Collector} {range : Range}

/-- The fragments on a day in the order in which they are made: record by record, value by
value, instance by instance. -/
def queue (c : Collector) (range : Range) (rendered : List Int) (records : List Record)
    (d : Date) : List Occurrence :=
  (fresh rendered records).flatMap fun r =>
    (List.range r.values.length).flatMap fun delta =>
      (r.occurrence c.zones delta range.zone).toOption.toList.flatMap fun o =>
        (o.intervals c.expander range).flatMap fun i =>
          ((i.splitSingle c.precision range).map (c.legend.apply r)).filter fun f => f.day = d

/-- On one day the fragments of an occurrence are in the order of its instances. -/
theorem filter_day_splitByDay (o : Occurrence) (expander : Expander) (precision : Precision)
    (range : Range) (d : Date) :
    ((o.splitByDay expander precision range).filter fun f => f.day = d) =
      (o.intervals expander range).flatMap fun i =>
        (i.splitSingle precision range).filter fun f => f.day = d := by
  unfold Occurrence.splitByDay Occurrence.intervals
  split
  · rw [Sorted.filter_key_mergeSort Occurrence.day, List.filter_flatMap]
  · rw [List.flatMap_singleton]

theorem filter_day_fragmentsAt (r : Record) (delta : Nat) (d : Date) :
    ((c.fragmentsAt range r delta).filter fun f => f.day = d) =
      (r.occurrence c.zones delta range.zone).toOption.toList.flatMap fun o =>
        (o.intervals c.expander range).flatMap fun i =>
          ((i.splitSingle c.precision range).map (c.legend.apply r)).filter
            fun f => f.day = d := by
  -- The legend changes no day, so it does not matter when it is applied.
  have hlegend : ((fun f : Occurrence => decide (f.day = d)) ∘ c.legend.apply r) =
      fun f => decide (f.day = d) := rfl
  rw [fragmentsAt, List.filter_flatMap]
  refine List.flatMap_congr fun o _ => ?_
  rw [List.filter_map, hlegend, filter_day_splitByDay, List.map_flatMap]
  refine List.flatMap_congr fun i _ => ?_
  rw [List.filter_map, hlegend]

/-- The fragments of a day are made in the order of the queue. -/
theorem filter_day_fragments (rendered : List Int) (records : List Record) (d : Date) :
    (((fresh rendered records).flatMap (c.fragments range)).filter fun f => f.day = d) =
      c.queue range rendered records d := by
  rw [queue, List.filter_flatMap]
  refine List.flatMap_congr fun r _ => ?_
  rw [fragments_eq_flatMap, List.filter_flatMap]
  exact List.flatMap_congr fun delta _ => filter_day_fragmentsAt r delta d

theorem renderedAfter_append (rendered : List Int) (records records' : List Record) :
    renderedAfter rendered (records ++ records') =
      renderedAfter (renderedAfter rendered records) records' := by
  rw [renderedAfter, fresh_append, List.map_append, List.reverse_append, List.append_assoc]
  rfl

/-- **Collecting in batches** equals collecting at once: two calls one after the other leave the
agenda, once their answers are put together, and the rendered entities of one call with all the
records, and both stay within the calendar if the one call does, and only then.  Every agenda a
call answers with is arranged. -/
theorem collect_append (c : Collector) (range : Range) (rendered : List Int)
    (records records' : List Record) :
    (let first := c.collect range rendered records
     let second := c.collect range first.2 records'
     c.collect range rendered (records ++ records') = (first.1.merge second.1, second.2) ∧
      c.fits range rendered (records ++ records') =
        (c.fits range rendered records && c.fits range first.2 records')) ∧
    ∀ (rendered : List Int) (records : List Record),
      (c.collect range rendered records).1.Arranged (c.queue range rendered records) := by
  refine ⟨⟨?_, ?_⟩, ?_⟩
  · rw [collect, fresh_append, List.flatMap_append, ← Agenda.merge_ofFragments,
      renderedAfter_append]
    rfl
  · dsimp only [fits, collect]
    rw [fresh_append, List.all_append]
    cases range.fits with
    | false => rfl
    | true => rfl
  · intro rendered records
    exact Agenda.arranged_ofFragments (filter_day_fragments rendered records)

end Collector
end Almanac
