import Almanac.Proofs.Buckets
import Almanac.Proofs.FloorLabel
import Almanac.Proofs.Week.Built

/-! # The earliest items of a day are shown

The single-day items of a day come in the order of their segments, and a later segment has
no earlier label: on one date the readings are in the order of their times of day
(`WallTime.second_time_le`), and the label of an item is that of the start of its segment,
whether or not it began on an earlier day (`bucketLabel_eq`).  So grouping by label keeps
the order (`pairwise_bucketLabel_on`), and cutting the buckets keeps the first items
(`showsFirst_singleDayColumn`).

The limit has no effect on the bands of a week: the packer never sees the single-day items
(`fillColumns_withLimit`).
-/
namespace Almanac

/-! ## Times of one date -/

namespace WallTime

/-- On one date, a later reading is at a later time of day. -/
theorem second_time_le {v w : WallTime} (h : v ≤ w) (hdate : v.date = w.date) :
    v.time.second ≤ w.time.second := by
  have hday := congrArg Date.dayNumber hdate
  rw [dayNumber_date, dayNumber_date] at hday
  rw [le_def] at h
  simp only [time, secondsPerDay]
  omega

end WallTime

/-- The number of items of a day that are shown. -/
def Style.visible (s : Style) (count : Nat) : Nat :=
  if s.truncates count then
    match s.overflow with
    | .more => s.maxItems
    | .hide => 0
  else count

/-- **A column shows the first items of its day**, in buckets with ascending labels, and
the link to the rest has the identifiers of all others. -/
structure SingleDayColumn.ShowsFirst (single : SingleDayColumn) (l : Layout) (d : Date)
    (items : List Occurrence) : Prop where
  shown : single.buckets.flatMap TimeBucket.items = items.take (l.style.visible items.length)
  nonempty : ∀ b ∈ single.buckets, b.items ≠ []
  labeled : ∀ b ∈ single.buckets, ∀ o ∈ b.items, l.bucketLabel l.boundaries o = b.label
  ascending : (single.buckets.map TimeBucket.label).Pairwise (· < ·)
  /-- The link to the items of a day that has too many. -/
  cut : l.style.truncates items.length → ∃ link, single.more = some link ∧ link.date = d ∧
    link.hiddenIds =
      (items.drop (l.style.visible items.length)).map Occurrence.dateId ∧
    link.count = link.hiddenIds.length ∧
    link.count = items.length - l.style.visible items.length
  /-- A day that has not too many shows all. -/
  whole : ¬l.style.truncates items.length →
    single.more = none ∧ l.style.visible items.length = items.length

namespace Layout

variable (l : Layout)

/-! ## Grouping and cutting -/

/-- The buckets of a day: none is empty, and every item is under its label. -/
theorem mem_groupByBucket {items : List Occurrence} {b : TimeBucket}
    (h : b ∈ l.groupByBucket items) :
    b.items ≠ [] ∧ ∀ o ∈ b.items, l.bucketLabel l.boundaries o = b.label := by
  rw [groupByBucket_eq] at h
  obtain ⟨label, hlabel, rfl⟩ := List.mem_map.mp h
  obtain ⟨o, ho, heq⟩ := l.mem_bucketLabels.mp hlabel
  refine ⟨List.ne_nil_of_mem (List.mem_filter.mpr ⟨ho, decide_eq_true heq⟩), ?_⟩
  intro o' ho'
  exact of_decide_eq_true (List.mem_filter.mp ho').2

theorem labels_groupByBucket (items : List Occurrence) :
    (l.groupByBucket items).map TimeBucket.label = l.bucketLabels items := by
  rw [groupByBucket_eq, List.map_map]
  exact List.map_id _

/-- **The single-day items of a day**, if their labels are in order. -/
theorem showsFirst_singleDayColumn (d : Date) {items : List Occurrence}
    (hsorted : (items.map (l.bucketLabel l.boundaries)).Pairwise (· ≤ ·)) :
    (l.singleDayColumn d items).ShowsFirst l d items := by
  have hitems := l.flatMap_groupByBucket hsorted
  by_cases hcut : l.style.truncates items.length
  · -- The style says how many items are kept; the column is cut to that number.
    obtain ⟨link, hcolumn, hlink⟩ : ∃ link, l.singleDayColumn d items =
        { buckets := (keepFirst (l.style.visible items.length) (l.groupByBucket items)).1
          more := some link
          inRange := true } ∧ link.date = d ∧
        link.count =
          (keepFirst (l.style.visible items.length) (l.groupByBucket items)).2.length ∧
        link.hiddenIds = (keepFirst (l.style.visible items.length)
          (l.groupByBucket items)).2.map Occurrence.dateId := by
      rw [singleDayColumn, if_pos hcut, Style.visible, if_pos hcut]
      exact ⟨_, rfl, rfl, rfl, rfl⟩
    obtain ⟨hdate, hcount, hids⟩ := hlink
    rw [hidden_keepFirst, hitems] at hcount hids
    have hlabels := l.labels_groupByBucket items ▸ l.pairwise_bucketLabels items
    rw [hcolumn]
    refine ⟨?_, fun b hb => (exists_of_mem_keepFirst hb).1, ?_, ?_, fun _ => ?_,
      fun hnot => absurd hcut hnot⟩
    · dsimp only
      rw [flatMap_keepFirst, hitems]
    · intro b hb o ho
      obtain ⟨-, b', hb', hlabel, hfirst⟩ := exists_of_mem_keepFirst hb
      rw [← hlabel]
      exact (l.mem_groupByBucket hb').2 o (hfirst.subset ho)
    · exact hlabels.sublist (labels_keepFirst_sublist _ _)
    · refine ⟨link, rfl, hdate, hids, ?_, ?_⟩
      · rw [hcount, hids, List.length_map]
      · rw [hcount, List.length_drop]
  · have hcolumn : l.singleDayColumn d items =
        { buckets := l.groupByBucket items, more := none, inRange := true } := if_neg hcut
    have hall : l.style.visible items.length = items.length := if_neg hcut
    rw [hcolumn]
    refine ⟨?_, fun b hb => (l.mem_groupByBucket hb).1, fun b hb => (l.mem_groupByBucket hb).2,
      ?_, fun hyes => absurd hyes hcut, fun _ => ⟨rfl, hall⟩⟩
    · rw [hall, List.take_length]
      exact hitems
    · dsimp only
      rw [labels_groupByBucket]
      exact l.pairwise_bucketLabels items

/-! ## The order of the labels -/

section
variable {c : Collector} {style : Style} {range : Range} {viewId : String}
  {rendered : List Int} {records : List Record} {d : Date} {o o' : Occurrence}

/-- The label of an item of a day is that of the start of its segment, which is on the
day. -/
theorem bucketLabel_eq (style : Style) (viewId : String)
    (ho : o ∈ (c.collect range rendered records).1.on d) :
    (c.layout style range viewId rendered records).bucketLabel
        (c.layout style range viewId rendered records).boundaries o =
      (c.layout style range viewId rendered records).boundaries.floorLabel o.sortKey.time ∧
    o.sortKey.date = d := by
  obtain ⟨a, -, hshown, rfl⟩ := Collector.mem_collect_on.mp ho
  obtain ⟨⟨hfirst, -⟩, -⟩ := Occurrence.mem_coveredDays.mp (Occurrence.mem_shownDays.mp hshown).1
  have hkey : (c.fragmentOf range a d).sortKey =
      max (a.interval.onClocks range.zone).localStart (.dayStart d) := rfl
  rcases hfirst.lt_or_eq with hlt | heq
  · -- It began on an earlier day, so its segment starts at midnight.
    have hcontinuation : (c.fragmentOf range a d).continuation = true := decide_eq_true hlt
    have hstart : (a.interval.onClocks range.zone).localStart ≤ .dayStart d :=
      (WallTime.lt_dayStart_iff.mpr hlt).le
    refine ⟨?_, ?_⟩
    · rw [bucketLabel]
      exact if_pos hcontinuation
    · rw [hkey, max_eq_right hstart, WallTime.date_dayStart]
  · have hcontinuation : (c.fragmentOf range a d).continuation = false :=
      decide_eq_false heq.not_lt
    have hstart : WallTime.dayStart d ≤ (a.interval.onClocks range.zone).localStart :=
      WallTime.dayStart_le_iff.mpr heq.ge
    refine ⟨?_, ?_⟩
    · rw [hkey, max_eq_left hstart, bucketLabel]
      exact if_neg (by simp [hcontinuation])
    · rw [hkey, max_eq_left hstart]
      exact heq

theorem pairwise_sortKey_on (c : Collector) (range : Range) (rendered : List Int)
    (records : List Record) (d : Date) :
    ((c.collect range rendered records).1.on d).Pairwise
      fun o o' => o.sortKey ≤ o'.sortKey := by
  rw [Collector.collect, Agenda.on_ofFragments]
  exact Sorted.pairwise_mergeSort_key Occurrence.sortKey _

/-- **The labels of the items of a day are in order.** -/
theorem pairwise_bucketLabel_on (d : Date) :
    (((c.layout style range viewId rendered records).agenda.on d).map
      ((c.layout style range viewId rendered records).bucketLabel
        (c.layout style range viewId rendered records).boundaries)).Pairwise (· ≤ ·) := by
  refine List.pairwise_map.mpr
    ((pairwise_sortKey_on c range rendered records d).imp_of_mem ?_)
  intro o o' ho ho' hle
  obtain ⟨hlabel, hdate⟩ := bucketLabel_eq style viewId ho
  obtain ⟨hlabel', hdate'⟩ := bucketLabel_eq style viewId ho'
  rw [hlabel, hlabel']
  exact Boundaries.floorLabel_mono (Boundaries.ascending_read _)
    (WallTime.second_time_le hle (hdate.trans hdate'.symm)) (WallTime.second_time_lt _)

theorem pairwise_bucketLabel_singles (d : Date) :
    (((c.layout style range viewId rendered records).singles d).map
      ((c.layout style range viewId rendered records).bucketLabel
        (c.layout style range viewId rendered records).boundaries)).Pairwise (· ≤ ·) :=
  (pairwise_bucketLabel_on d).sublist (List.filter_sublist.map _)

end

/-! ## The columns of a week -/

variable {l}

/-- The items of a day that want no band are set aside in their order. -/
theorem singles_foldl (d visibleLast : Date) (items : List Occurrence) (f : ColumnFill) :
    (items.foldl (l.fillItem d visibleLast) f).singles =
      f.singles ++ items.filter fun o => !o.wantsBand l.style.multiDayTheme := by
  induction items generalizing f with
  | nil => rw [List.foldl_nil, List.filter_nil, List.append_nil]
  | cons o items ih =>
    rw [List.foldl_cons, ih]
    by_cases hwants : o.wantsBand l.style.multiDayTheme
    · rw [List.filter_cons_of_neg (by simpa using hwants), fillItem, if_pos hwants]
    · rw [List.filter_cons_of_pos (by simpa using hwants), fillItem, if_neg hwants,
        List.append_assoc, List.singleton_append]

theorem single_fillColumn (focal : Option Nat) (packer : WeekPacker) (d : Date) :
    (l.fillColumn focal packer d).1.2 =
      if l.inView focal d then l.singleDayColumn d (l.singles d) else {} := by
  by_cases hview : l.inView focal d
  · rw [fillColumn, if_pos hview, if_pos hview]
    dsimp only
    rw [singles_foldl, List.nil_append, singles]
  · rw [fillColumn, if_neg hview, if_neg hview]

theorem single_fillColumns (focal : Option Nat) (packer : WeekPacker) (dates : List Date) :
    (l.fillColumns focal packer dates).1.map (·.2) = dates.map fun d =>
      if l.inView focal d then l.singleDayColumn d (l.singles d) else {} := by
  induction dates generalizing packer with
  | nil => rfl
  | cons d dates ih =>
    rw [fillColumns]
    dsimp only
    rw [List.map_cons, List.map_cons, ih, single_fillColumn]

/-- The single-day items of a week do not depend on its bands. -/
theorem single_buildWeek (packer : WeekPacker) (start : Date) (focal : Option Nat)
    {column : Nat} (hcolumn : column < daysPerWeek) :
    (l.buildWeek packer start focal).1.single column =
      l.singleColumn start focal column := by
  have hsingle : (l.buildWeek packer start focal).1.singleDay =
      (weekDates start).map fun d =>
        if l.inView focal d then l.singleDayColumn d (l.singles d) else {} := by
    rw [buildWeek]
    exact single_fillColumns focal packer.startWeek (weekDates start)
  rw [WeekBuckets.single, hsingle, weekDates, List.map_map, List.getElem?_map,
    List.getElem?_range hcolumn]
  rfl

/-! ## Another limit -/

variable (l)

/-- The layout with another limit on the items of a day. -/
def withLimit (maxItems : Nat) (overflow : Overflow) : Layout :=
  { l with style := { l.style with maxItems := maxItems, overflow := overflow } }

variable {l}

/-- A limit changes neither the bands of a date nor the packer. -/
theorem fillColumn_withLimit (maxItems : Nat) (overflow : Overflow) (focal : Option Nat)
    (packer : WeekPacker) (d : Date) :
    ((l.withLimit maxItems overflow).fillColumn focal packer d).1.1 =
        (l.fillColumn focal packer d).1.1 ∧
      ((l.withLimit maxItems overflow).fillColumn focal packer d).2 =
        (l.fillColumn focal packer d).2 := by
  have hview : (l.withLimit maxItems overflow).inView focal d = l.inView focal d := rfl
  rw [fillColumn, fillColumn, hview]
  by_cases h : l.inView focal d
  · rw [if_pos h, if_pos h]
    exact ⟨rfl, rfl⟩
  · rw [if_neg h, if_neg h]
    exact ⟨rfl, rfl⟩

theorem fillColumns_withLimit (maxItems : Nat) (overflow : Overflow) (focal : Option Nat)
    (packer : WeekPacker) (dates : List Date) :
    ((l.withLimit maxItems overflow).fillColumns focal packer dates).1.map (·.1) =
        (l.fillColumns focal packer dates).1.map (·.1) ∧
      ((l.withLimit maxItems overflow).fillColumns focal packer dates).2 =
        (l.fillColumns focal packer dates).2 := by
  induction dates generalizing packer with
  | nil => exact ⟨rfl, rfl⟩
  | cons d dates ih =>
    obtain ⟨hbands, hpacker⟩ := fillColumn_withLimit (l := l) maxItems overflow focal packer d
    obtain ⟨hrest, hlast⟩ := ih (l.fillColumn focal packer d).2
    rw [fillColumns, fillColumns]
    dsimp only
    rw [hpacker]
    refine ⟨?_, hlast⟩
    rw [List.map_cons, List.map_cons, hbands, hrest]

/-- **A limit changes neither the bands of a week nor the number of its rows.** -/
theorem bands_buildWeek_withLimit (maxItems : Nat) (overflow : Overflow) (packer : WeekPacker)
    (start : Date) (focal : Option Nat) :
    ((l.withLimit maxItems overflow).buildWeek packer start focal).1.multiDay =
        (l.buildWeek packer start focal).1.multiDay ∧
      ((l.withLimit maxItems overflow).buildWeek packer start focal).1.totalRows =
        (l.buildWeek packer start focal).1.totalRows := by
  obtain ⟨hbands, hpacker⟩ := fillColumns_withLimit (l := l) maxItems overflow focal
    packer.startWeek (weekDates start)
  have hclose (slots : SlotRows)
      (columns : List (List (Option BandCell) × SingleDayColumn)) :
      (columns.mapIdx fun column c => closeBands slots column c.1) =
        (columns.map (·.1)).mapIdx fun column bands => closeBands slots column bands := by
    rw [List.mapIdx_eq_iff]
    intro i
    rw [List.getElem?_mapIdx, List.getElem?_map, Option.map_map]
    rfl
  have hmulti : ((l.withLimit maxItems overflow).buildWeek packer start focal).1.multiDay =
      (l.buildWeek packer start focal).1.multiDay := by
    rw [buildWeek, buildWeek]
    dsimp only
    rw [hclose, hclose, hbands, hpacker]
  refine ⟨hmulti, ?_⟩
  rw [buildWeek, buildWeek] at hmulti ⊢
  dsimp only at hmulti ⊢
  rw [hmulti]
  rfl

/-- **The earliest items of a day are shown.**  The single-day items of a day are in the
order of their segments, and the buckets list them in this order.  In every week, the
column of a day in view shows as many of the first as the style allows, while the bands and
the number of rows do not depend on that limit. -/
theorem showsFirst_buildWeek (c : Collector) (style : Style) (range : Range) (viewId : String)
    (rendered : List Int) (records : List Record) :
    (∀ d, ((c.layout style range viewId rendered records).singles d).Pairwise
          (fun o o' => o.sortKey ≤ o'.sortKey) ∧
        ((c.layout style range viewId rendered records).groupByBucket
            ((c.layout style range viewId rendered records).singles d)).flatMap
              TimeBucket.items =
          (c.layout style range viewId rendered records).singles d) ∧
      ∀ (packer : WeekPacker) (start : Date) (focal : Option Nat),
        (∀ column < daysPerWeek,
          (c.layout style range viewId rendered records).inView focal (start.addDays column) →
            (((c.layout style range viewId rendered records).buildWeek packer start
                focal).1.single column).ShowsFirst
              (c.layout style range viewId rendered records) (start.addDays column)
              ((c.layout style range viewId rendered records).singles
                (start.addDays column))) ∧
          ∀ maxItems overflow,
            (((c.layout style range viewId rendered records).withLimit maxItems
                overflow).buildWeek packer start focal).1.multiDay =
              ((c.layout style range viewId rendered records).buildWeek packer start
                focal).1.multiDay ∧
            (((c.layout style range viewId rendered records).withLimit maxItems
                overflow).buildWeek packer start focal).1.totalRows =
              ((c.layout style range viewId rendered records).buildWeek packer start
                focal).1.totalRows := by
  refine ⟨fun d => ⟨?_, ?_⟩, fun packer start focal => ⟨?_, ?_⟩⟩
  · exact (pairwise_sortKey_on c range rendered records d).sublist List.filter_sublist
  · exact flatMap_groupByBucket _ (pairwise_bucketLabel_singles d)
  · intro column hcolumn hview
    rw [single_buildWeek packer start focal hcolumn, singleColumn, if_pos hview]
    exact showsFirst_singleDayColumn _ _ (pairwise_bucketLabel_singles _)
  · intro maxItems overflow
    exact bands_buildWeek_withLimit maxItems overflow packer start focal

/-- Three talks of April 3, 2025: at half past 10, at 9, and one that began at 22 the day
before. -/
def aprilTalks : List Record :=
  [{ entityId := 11, values := [{ value := some "1743676200", endValue := some "1743679800" }] },
    { entityId := 12, values := [{ value := some "1743670800", endValue := some "1743674400" }] },
    { entityId := 13, values := [{ value := some "1743631200", endValue := some "1743642000" }] }]

/-- A calendar without bands that shows two items of a day. -/
def aprilTalksLayout : Layout :=
  threeWeeks.layout { maxItems := 2, multiDayTheme := false } Occurrence.april "calendar" []
    aprilTalks

theorem showsFirst_buildWeek_april :
    (4 < daysPerWeek ∧ aprilTalksLayout.inView (some 4) ((⟨20177⟩ : Date).addDays (4 : Nat))) ∧
      ((aprilTalksLayout.buildWeek ⟨{}, 0⟩ ⟨20177⟩ (some 4)).1.single 4).ShowsFirst
        aprilTalksLayout ((⟨20177⟩ : Date).addDays (4 : Nat))
        (aprilTalksLayout.singles ((⟨20177⟩ : Date).addDays (4 : Nat))) :=
  ⟨by decide +kernel,
    ((showsFirst_buildWeek threeWeeks { maxItems := 2, multiDayTheme := false } Occurrence.april
      "calendar" [] aprilTalks).2 ⟨{}, 0⟩ ⟨20177⟩ (some 4)).1 4 (by decide) (by decide +kernel)⟩

example : ((aprilTalksLayout.buildWeek ⟨{}, 0⟩ ⟨20177⟩ (some 4)).1.single 4).more.map
    MoreLink.hiddenIds = some ["calendar.11.field_date.0.0"] := by
  cbv

end Layout
end Almanac
