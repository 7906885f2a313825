import Almanac.Proofs.Civil.TimeText
import Almanac.Proofs.FloorLabel

/-! # The boundaries that texts spell

A text spells a time of day by its hour and its minute if it has five bytes without the blanks
around it, and else by its hour, its minute and its second (`Boundaries.Spells`,
`Boundaries.readTime?_eq_some_iff`).  The boundaries that are read from a list of texts are the
times that the texts spell (`Boundaries.mem_times_read`), each once and in order.  So they depend on
the set of these times only: not on the order of the texts, not on texts that spell no time, and
not on how a time is spelled (`Boundaries.read_eq_read_iff`).

The label of a boundary spells its time, so the labels are read as the boundaries themselves
(`Boundaries.read_labels_read`).  The label of a time is that of the greatest boundary not after it
(`Boundaries.isFloor_floorLabel`).
-/
namespace Almanac

namespace TimeOfDay

/-- A written time has eight bytes at least. -/
theorem eight_le_utf8ByteSize_clockText {t : TimeOfDay} (ht : t.second < secondsPerDay) :
    8 ≤ t.clockText.utf8ByteSize := by
  have hbytes : ∀ cs : List Char, cs.length ≤ String.utf8Len cs := by
    intro cs
    induction cs with
    | nil => exact Nat.zero_le _
    | cons c cs ih =>
      have hone := c.utf8Size_pos
      rw [String.utf8Len_cons, List.length_cons]
      omega
  have hle := hbytes t.clockText.toList
  rwa [length_clockText ht, String.utf8Len_toList] at hle

end TimeOfDay

namespace Boundaries

open Fields (HourMinuteText TimeText)

variable {groups groups' : List String} {s : String} {t u : TimeOfDay}

/-- **Whether a text spells a time of day**, in blanks or not: an hour and a minute in five bytes,
or an hour, a minute and a second in any other number of bytes.  Second 60 counts as second 59. -/
inductive Spells (s : String) : TimeOfDay → Prop
  | short {h m : Nat} (hbytes : (Text.trim s).utf8ByteSize = 5)
      (htext : HourMinuteText h m (Text.trim s).toList) (hclock : h < 24 ∧ m < 60) :
      Spells s (.ofHMS h m 0)
  | full {h m second : Nat} (hbytes : (Text.trim s).utf8ByteSize ≠ 5)
      (htext : TimeText h m second (Text.trim s).toList)
      (hclock : h < 24 ∧ m < 60 ∧ second ≤ 60) : Spells s (.ofHMS h m (min second 59))

theorem Spells.trim_ne (h : Spells s t) : Text.trim s ≠ "" := by
  intro hempty
  cases h with
  | short hbytes htext _ =>
    rw [hempty] at hbytes
    exact absurd hbytes (by decide)
  | full _ htext _ =>
    rw [hempty] at htext
    generalize hnil : "".toList = cs at htext
    obtain ⟨hhour, hminute, hsecond⟩ := htext
    exact absurd (congrArg List.length hnil) (by simp)

/-- **What is read as a boundary.** -/
theorem readTime?_eq_some_iff : readTime? s = some t ↔ Spells s t := by
  constructor
  · intro hread
    unfold readTime? at hread
    dsimp only at hread
    split at hread
    · cases hread
    · obtain ⟨u, hu, rfl⟩ := Option.map_eq_some_iff.mp hread
      split at hu
      · rename_i hbytes
        obtain ⟨h, m, htext, htime⟩ :=
          Fields.hourMinute?_eq_some_iff.mp (Fields.eq_some_of_whole? hu)
        obtain ⟨⟨hh, hm, -⟩, rfl⟩ := Fields.timeOfDay?_eq_some_iff.mp htime
        exact .short hbytes htext ⟨hh, hm⟩
      · rename_i hbytes
        obtain ⟨h, m, second, htext, htime⟩ :=
          Fields.time?_eq_some_iff.mp (Fields.eq_some_of_whole? hu)
        obtain ⟨hclock, rfl⟩ := Fields.timeOfDay?_eq_some_iff.mp htime
        exact .full hbytes htext hclock
  · intro hspells
    unfold readTime?
    dsimp only
    rw [if_neg hspells.trim_ne]
    cases hspells with
    | @short h m hbytes htext hclock =>
      have hread := Fields.hourMinute?_eq_some_iff.mpr
        ⟨h, m, htext, Fields.timeOfDay?_eq_some_iff.mpr ⟨⟨hclock.1, hclock.2, by omega⟩, rfl⟩⟩
      rw [if_pos hbytes, TimeOfDay.readShort?, Fields.whole?, hread]
      rfl
    | @full h m second hbytes htext hclock =>
      have hread := Fields.time?_eq_some_iff.mpr
        ⟨h, m, second, htext, Fields.timeOfDay?_eq_some_iff.mpr ⟨hclock, rfl⟩⟩
      rw [if_neg hbytes, TimeOfDay.read?, Fields.whole?, hread]
      rfl

/-- A text spells one time. -/
theorem Spells.unique (h : Spells s t) (h' : Spells s u) : t = u :=
  Option.some.inj ((readTime?_eq_some_iff.mpr h).symm.trans (readTime?_eq_some_iff.mpr h'))

/-- A written time spells the time. -/
theorem spells_clockText (ht : t.second < secondsPerDay) (hnanos : t.nanos = 0) :
    Spells t.clockText t := by
  have hbytes : t.clockText.utf8ByteSize ≠ 5 := by
    have height := TimeOfDay.eight_le_utf8ByteSize_clockText ht
    omega
  have hne : t.clockText ≠ "" := by
    intro hempty
    have hlength := TimeOfDay.length_clockText ht
    rw [hempty] at hlength
    cases hlength
  have hwhole : (⟨t.second, 0⟩ : TimeOfDay) = t := by rw [← hnanos]
  rw [← readTime?_eq_some_iff]
  unfold readTime?
  dsimp only
  rw [TimeOfDay.trim_clockText, if_neg hne, if_neg hbytes, TimeOfDay.read?, Fields.whole?,
    Fields.time?_clockText ht]
  exact congrArg some hwhole

/-! ## The boundaries as a set -/

/-- **The boundaries that are read** are the times that the texts spell. -/
theorem mem_times_read : t ∈ (read groups).times ↔ ∃ s ∈ groups, Spells s t := by
  rw [read, Sorted.mem_eraseReps, List.mem_mergeSort, List.mem_filterMap]
  exact exists_congr fun s => and_congr_right fun _ => readTime?_eq_some_iff

/-- Whether two lists of texts spell the same times. -/
def SameTimes (groups groups' : List String) : Prop :=
  ∀ t, (∃ s ∈ groups, Spells s t) ↔ ∃ s ∈ groups', Spells s t

/-- **Boundaries are the set of the times that are spelled.** -/
theorem read_eq_read_iff : read groups = read groups' ↔ SameTimes groups groups' := by
  constructor
  · intro heq t
    rw [← mem_times_read, ← mem_times_read, heq]
  · intro hsame
    have htimes : (read groups).times = (read groups').times := by
      refine Sorted.eq_of_pairwise_key_lt TimeOfDay.second (pairwise_times_read _)
        (pairwise_times_read _) fun t => ?_
      rw [mem_times_read, mem_times_read]
      exact hsame t
    cases hread : read groups
    rw [hread] at htimes
    exact congrArg Boundaries.mk htimes

/-- Whether a text adds no boundary to those of a list: it is in the list, it spells no time, or
another text of the list spells the same time. -/
def AddsNothing (groups : List String) (s : String) : Prop :=
  s ∈ groups ∨ (∀ t, ¬Spells s t) ∨ ∃ s' ∈ groups, ∃ t, Spells s t ∧ Spells s' t

/-- **Neither the order of the texts matters nor texts that add nothing.** -/
theorem read_eq_of_perm {added : List String} (hadded : ∀ s ∈ added, AddsNothing groups s)
    (hperm : groups'.Perm (groups ++ added)) : read groups' = read groups := by
  rw [read_eq_read_iff]
  intro t
  constructor
  · rintro ⟨s, hs, hspells⟩
    rcases List.mem_append.mp (hperm.mem_iff.mp hs) with hold | hnew
    · exact ⟨s, hold, hspells⟩
    · rcases hadded s hnew with hold | hnone | ⟨s', hold, u, hu, hspells'⟩
      · exact ⟨s, hold, hspells⟩
      · exact absurd hspells (hnone t)
      · obtain rfl := hspells.unique hu
        exact ⟨s', hold, hspells'⟩
  · rintro ⟨s, hs, hspells⟩
    exact ⟨s, hperm.mem_iff.mpr (List.mem_append_left _ hs), hspells⟩

/-! ## Labels -/

/-- **Boundaries and their labels are strictly in order**, and each label spells its boundary. -/
structure InOrder (b : Boundaries) : Prop where
  times : b.times.Pairwise fun t u => t.second < u.second
  labels : b.labels.Pairwise (· < ·)
  spelled : ∀ t ∈ b.times, Spells t.clockText t

theorem inOrder_read (groups : List String) : (read groups).InOrder where
  times := pairwise_times_read groups
  labels := pairwise_labels_read groups
  spelled := by
    intro t ht
    obtain ⟨s, -, hspells⟩ := mem_times_read.mp ht
    exact spells_clockText ((ascending_read groups).inDay t ht)
      (nanos_of_readTime? (readTime?_eq_some_iff.mpr hspells))

/-- **The labels are read as the boundaries.** -/
theorem read_labels_read (groups : List String) : read (read groups).labels = read groups := by
  have hlabels : ∀ t, (∃ label ∈ (read groups).labels, Spells label t) ↔
      t ∈ (read groups).times := by
    intro t
    constructor
    · rintro ⟨label, hlabel, hspells⟩
      obtain ⟨u, hu, rfl⟩ := List.mem_map.mp hlabel
      obtain rfl := hspells.unique ((inOrder_read groups).spelled u hu)
      exact hu
    · intro ht
      exact ⟨t.clockText, List.mem_map_of_mem ht, (inOrder_read groups).spelled t ht⟩
  exact read_eq_read_iff.mpr fun t => (hlabels t).trans mem_times_read

/-- **The label of a time**: of the greatest boundary that is not after it, or of the first one if
all are after it.  Without boundaries it is the time itself. -/
inductive IsFloor (b : Boundaries) (t : TimeOfDay) : String → Prop
  | itself (hnone : b.times = []) : IsFloor b t t.clockText
  | first {u : TimeOfDay} (hfirst : b.times.head? = some u)
      (hafter : ∀ v ∈ b.times, t.second < v.second) : IsFloor b t u.clockText
  | greatest {u : TimeOfDay} (hmem : u ∈ b.times) (hle : u.second ≤ t.second)
      (hgreatest : ∀ v ∈ b.times, v.second ≤ t.second → v.second ≤ u.second) :
      IsFloor b t u.clockText

/-- Of boundaries in order, those up to a time are the ones that are not after it. -/
theorem takeWhile_eq_filter {times : List TimeOfDay}
    (h : times.Pairwise fun u v => u.second < v.second) (t : TimeOfDay) :
    times.takeWhile (fun u => u.second ≤ t.second) = times.filter fun u => u.second ≤ t.second := by
  induction times with
  | nil => rfl
  | cons u times ih =>
    obtain ⟨hu, htimes⟩ := List.pairwise_cons.mp h
    by_cases hle : u.second ≤ t.second
    · rw [List.takeWhile_cons_of_pos (by simpa using hle),
        List.filter_cons_of_pos (by simpa using hle), ih htimes]
    · -- All later boundaries are after the time too.
      have hafter : ∀ v ∈ u :: times, ¬v.second ≤ t.second := by
        intro v hv
        rcases List.mem_cons.mp hv with rfl | hv
        · exact hle
        · have hlt := hu v hv
          omega
      rw [List.takeWhile_cons_of_neg (by simpa using hle),
        List.filter_eq_nil_iff.mpr (by simpa using hafter)]

/-- **The label of a time** is that of its boundary. -/
theorem isFloor_floorLabel {b : Boundaries} (hb : b.InOrder) (t : TimeOfDay) :
    b.IsFloor t (b.floorLabel t) := by
  unfold floorLabel
  split
  · rename_i hnone
    exact .itself hnone
  · rename_i first rest htimes
    rw [takeWhile_eq_filter hb.times]
    have hmem : ∀ v, v ∈ b.times.filter (fun v => v.second ≤ t.second) ↔
        v ∈ b.times ∧ v.second ≤ t.second := by
      intro v
      rw [List.mem_filter, decide_eq_true_iff]
    cases hlast : (b.times.filter fun v => v.second ≤ t.second).getLast? with
    | none =>
      rw [List.getLast?_eq_none_iff] at hlast
      have hfirst : b.times.head? = some first := by rw [htimes, List.head?_cons]
      refine .first hfirst fun v hv => ?_
      by_contra hle
      have hin := (hmem v).mpr ⟨hv, not_lt.mp hle⟩
      rw [hlast] at hin
      exact absurd hin List.not_mem_nil
    | some u =>
      obtain ⟨hu, hle⟩ := (hmem u).mp (List.mem_of_getLast? hlast)
      refine .greatest hu hle fun v hv hvle => ?_
      obtain ⟨before, hsplit⟩ := List.getLast?_eq_some_iff.mp hlast
      have hsorted := hb.times.filter fun v => v.second ≤ t.second
      rw [hsplit] at hsorted
      have hin := (hmem v).mpr ⟨hv, hvle⟩
      rw [hsplit] at hin
      rcases List.mem_append.mp hin with hbefore | hu
      · exact ((List.pairwise_append.mp hsorted).2.2 v hbefore u List.mem_cons_self).le
      · exact (congrArg TimeOfDay.second (List.mem_singleton.mp hu)).le

/-- **Boundaries are a set of times.**  They are the times that the texts spell, so two lists of
texts have the same boundaries exactly if they spell the same times; the order of the texts and
texts that add nothing do not matter.  Boundaries and labels are strictly in order, and the labels
are read as the boundaries.  A time has the label of the greatest boundary that is not after it,
and a later time has no earlier label. -/
theorem read_canonical (groups : List String) :
    (∀ t, t ∈ (read groups).times ↔ ∃ s ∈ groups, Spells s t) ∧
      (∀ groups', read groups = read groups' ↔ SameTimes groups groups') ∧
      (∀ added groups', (∀ s ∈ added, AddsNothing groups s) →
        groups'.Perm (groups ++ added) → read groups' = read groups) ∧
      (read groups).InOrder ∧
      read (read groups).labels = read groups ∧
      (∀ t, (read groups).IsFloor t ((read groups).floorLabel t)) ∧
      ∀ t u, t.second ≤ u.second → u.second < secondsPerDay →
        (read groups).floorLabel t ≤ (read groups).floorLabel u :=
  ⟨fun _ => mem_times_read, fun _ => read_eq_read_iff, fun _ _ => read_eq_of_perm,
    inOrder_read groups, read_labels_read groups, isFloor_floorLabel (inOrder_read groups),
    fun _ _ => floorLabel_mono (ascending_read groups)⟩

/-- Two boundaries, with a text that is no time and with another spelling of one of them. -/
theorem read_canonical_shifts :
    ((∀ s ∈ ["noon", " 9:0:00 "], AddsNothing ["18:00", "09:00:00"] s) ∧
        [" 9:0:00 ", "09:00:00", "noon", "18:00"].Perm
          (["18:00", "09:00:00"] ++ ["noon", " 9:0:00 "])) ∧
      read [" 9:0:00 ", "09:00:00", "noon", "18:00"] = read ["18:00", "09:00:00"] ∧
      (TimeOfDay.ofHMS 7 30 0).second ≤ (TimeOfDay.ofHMS 20 0 0).second ∧
      (TimeOfDay.ofHMS 20 0 0).second < secondsPerDay ∧
      (read ["18:00", "09:00:00"]).floorLabel (.ofHMS 7 30 0) ≤
        (read ["18:00", "09:00:00"]).floorLabel (.ofHMS 20 0 0) := by
  have hnoon : ∀ t, ¬Spells "noon" t := by
    intro t hspells
    have hread : readTime? "noon" = none := by decide +kernel
    rw [← readTime?_eq_some_iff, hread] at hspells
    cases hspells
  have hnine : Spells " 9:0:00 " (.ofHMS 9 0 0) ∧ Spells "09:00:00" (.ofHMS 9 0 0) := by
    rw [← readTime?_eq_some_iff, ← readTime?_eq_some_iff]
    decide +kernel
  have hadded : ∀ s ∈ ["noon", " 9:0:00 "], AddsNothing ["18:00", "09:00:00"] s := by
    intro s hs
    rcases List.mem_cons.mp hs with rfl | hs
    · exact .inr (.inl hnoon)
    · obtain rfl := List.mem_singleton.mp hs
      exact .inr (.inr ⟨"09:00:00", by decide, _, hnine⟩)
  have hperm : [" 9:0:00 ", "09:00:00", "noon", "18:00"].Perm
      (["18:00", "09:00:00"] ++ ["noon", " 9:0:00 "]) := by decide
  obtain ⟨-, -, hsame, -, -, -, hmono⟩ := read_canonical ["18:00", "09:00:00"]
  exact ⟨⟨hadded, hperm⟩, hsame _ _ hadded hperm, by decide, by decide,
    hmono (.ofHMS 7 30 0) (.ofHMS 20 0 0) (by decide) (by decide)⟩

end Boundaries
end Almanac
