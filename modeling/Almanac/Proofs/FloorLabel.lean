import Almanac.Proofs.Civil.ClockText
import Almanac.Proofs.Sorted

/-! # The labels of time buckets

The label of a time is the last boundary that is not after it.  A later time has the same
boundaries before it and maybe more, so its label is not before that of an earlier one
(`Boundaries.floorLabel_mono`).

Boundaries that are read from texts count whole seconds, so each is there once and their labels are
strictly in order (`Boundaries.pairwise_labels_read`).  If there are any, every time has the label
of one of them (`Boundaries.floorLabel_mem_labels`).
-/
namespace Almanac
namespace Boundaries

/-- **Boundaries in order**, all of one day. -/
structure Ascending (b : Boundaries) : Prop where
  sorted : b.times.Pairwise fun s t => s.second ≤ t.second
  inDay : ∀ t ∈ b.times, t.second < secondsPerDay

/-- The boundaries that are read from texts are in order. -/
theorem ascending_read (groups : List String) : (read groups).Ascending where
  sorted := by
    have hsorted : ((groups.filterMap readTime?).mergeSort
        fun s t => s.second ≤ t.second).Pairwise fun s t => s.second ≤ t.second :=
      Sorted.pairwise_mergeSort_key TimeOfDay.second _
    exact hsorted.sublist (Sorted.eraseReps_sublist _)
  inDay := by
    intro t ht
    have hmem := (Sorted.eraseReps_sublist _).subset ht
    obtain ⟨s, -, hs⟩ := List.mem_filterMap.mp (List.mem_mergeSort.mp hmem)
    exact second_lt_of_readTime? hs

/-- The last element of a list in order is not before that of a list it goes on from. -/
theorem getLast?_le_of_isPrefix {α : Type} {r : α → α → Prop} (hrefl : ∀ a, r a a)
    {l l' : List α} (hl' : l'.Pairwise r) (h : l <+: l') {a b : α} (ha : l.getLast? = some a)
    (hb : l'.getLast? = some b) : r a b := by
  obtain ⟨m, rfl⟩ := h
  rcases List.eq_nil_or_concat' m with rfl | ⟨m, last, rfl⟩
  · rw [List.append_nil, ha] at hb
    obtain rfl := Option.some.inj hb
    exact hrefl a
  · rw [← List.append_assoc, List.getLast?_concat] at hb
    obtain rfl := Option.some.inj hb
    obtain ⟨-, -, hcross⟩ := List.pairwise_append.mp hl'
    exact hcross a (List.mem_of_getLast? ha) last
      (List.mem_append_right _ List.mem_cons_self)

theorem takeWhile_isPrefix {α : Type} {p q : α → Bool} (h : ∀ a, p a → q a) (l : List α) :
    l.takeWhile p <+: l.takeWhile q := by
  induction l with
  | nil => exact List.prefix_rfl
  | cons a l ih =>
    by_cases hp : p a
    · rw [List.takeWhile_cons_of_pos hp, List.takeWhile_cons_of_pos (h a hp)]
      exact (List.prefix_cons_inj a).mpr ih
    · rw [List.takeWhile_cons_of_neg hp]
      exact List.nil_prefix

/-- **A later time has no earlier label.** -/
theorem floorLabel_mono {b : Boundaries} (hb : b.Ascending) {t u : TimeOfDay}
    (h : t.second ≤ u.second) (hu : u.second < secondsPerDay) :
    b.floorLabel t ≤ b.floorLabel u := by
  cases htimes : b.times with
  | nil =>
    simp only [floorLabel, htimes]
    exact TimeOfDay.clockText_le_clockText h hu
  | cons first rest =>
    -- The boundaries up to a time, behind the first one in case there are none.
    let upTo (t : TimeOfDay) := first :: b.times.takeWhile fun s => s.second ≤ t.second
    have hmem (t : TimeOfDay) : ∀ s ∈ upTo t, s ∈ b.times := by
      intro s hs
      rcases List.mem_cons.mp hs with rfl | hs
      · rw [htimes]
        exact List.mem_cons_self
      · exact (List.takeWhile_sublist _).subset hs
    have hlast (t : TimeOfDay) :
        ∃ s, (upTo t).getLast? = some s ∧ b.floorLabel t = s.clockText := by
      refine ⟨_, List.getLast?_cons, ?_⟩
      simp only [floorLabel, htimes]
    have hfirst : ∀ s ∈ b.times, first.second ≤ s.second := by
      have hsorted := hb.sorted
      rw [htimes] at hsorted ⊢
      intro s hs
      rcases List.mem_cons.mp hs with rfl | hs
      · exact le_rfl
      · exact (List.pairwise_cons.mp hsorted).1 s hs
    have hsorted : (upTo u).Pairwise fun s t => s.second ≤ t.second :=
      List.pairwise_cons.mpr ⟨fun s hs => hfirst s ((List.takeWhile_sublist _).subset hs),
        hb.sorted.sublist (List.takeWhile_sublist _)⟩
    have hprefix : upTo t <+: upTo u := by
      refine (List.prefix_cons_inj first).mpr (takeWhile_isPrefix (fun s hs => ?_) _)
      exact decide_eq_true ((of_decide_eq_true hs).trans h)
    obtain ⟨s, hs, hlabel⟩ := hlast t
    obtain ⟨s', hs', hlabel'⟩ := hlast u
    rw [hlabel, hlabel']
    refine TimeOfDay.clockText_le_clockText ?_
      (hb.inDay s' (hmem u s' (List.mem_of_getLast? hs')))
    exact getLast?_le_of_isPrefix (r := fun s t : TimeOfDay => s.second ≤ t.second)
      (fun s => le_rfl) hsorted hprefix hs hs'

/-! ## Each label once -/

theorem nanos_of_readTime? {s : String} {t : TimeOfDay} (h : readTime? s = some t) :
    t.nanos = 0 := by
  unfold readTime? at h
  dsimp only at h
  split at h
  · cases h
  · obtain ⟨u, -, rfl⟩ := Option.map_eq_some_iff.mp h
    rfl

/-- The boundaries that are read are strictly in order. -/
theorem pairwise_times_read (groups : List String) :
    (read groups).times.Pairwise fun s t => s.second < t.second := by
  -- Only times without a fraction are in order with their seconds.
  let before (s t : TimeOfDay) : Prop := s.second ≤ t.second ∧ s.nanos = t.nanos
  have hanti : ∀ s t, before s t → s.second = t.second → s = t := by
    rintro ⟨_, _⟩ ⟨_, _⟩ ⟨-, rfl⟩ rfl
    rfl
  have : Std.Antisymm before :=
    ⟨fun s t hst hts => hanti s t hst (le_antisymm hst.1 hts.1)⟩
  have hwhole : ∀ t ∈ (groups.filterMap readTime?).mergeSort fun s t => s.second ≤ t.second,
      t.nanos = 0 := by
    intro t ht
    obtain ⟨s, -, hs⟩ := List.mem_filterMap.mp (List.mem_mergeSort.mp ht)
    exact nanos_of_readTime? hs
  have hsorted : ((groups.filterMap readTime?).mergeSort
      fun s t => s.second ≤ t.second).Pairwise before :=
    (Sorted.pairwise_mergeSort_key TimeOfDay.second _).imp_of_mem fun hs ht hle =>
      ⟨hle, (hwhole _ hs).trans (hwhole _ ht).symm⟩
  refine (Sorted.pairwise_eraseReps hsorted).imp ?_
  rintro s t ⟨hbefore, hne⟩
  exact lt_of_le_of_ne hbefore.1 fun heq => hne (hanti s t hbefore heq)

/-- **The labels of boundaries are strictly in order.** -/
theorem pairwise_labels_read (groups : List String) :
    (read groups).labels.Pairwise (· < ·) := by
  refine List.pairwise_map.mpr ((pairwise_times_read groups).imp_of_mem ?_)
  intro s t _ ht hlt
  exact TimeOfDay.clockText_lt_clockText hlt ((ascending_read groups).inDay t ht)

/-- Every time has the label of a boundary, if there are any. -/
theorem floorLabel_mem_labels {b : Boundaries} (hb : b.times ≠ []) (t : TimeOfDay) :
    b.floorLabel t ∈ b.labels := by
  obtain ⟨first, rest, htimes⟩ := List.exists_cons_of_ne_nil hb
  have hlabel : b.floorLabel t =
      (((b.times.takeWhile fun u => u.second ≤ t.second).getLast?).getD first).clockText := by
    simp only [floorLabel, htimes]
  rw [hlabel]
  refine List.mem_map_of_mem ?_
  cases hlast : (b.times.takeWhile fun u => u.second ≤ t.second).getLast? with
  | none =>
    rw [htimes]
    exact List.mem_cons_self
  | some u => exact (List.takeWhile_sublist _).subset (List.mem_of_getLast? hlast)

end Boundaries
end Almanac
