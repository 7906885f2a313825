import Almanac.Proofs.DateOnly

/-! # The segments of an occurrence

Each fragment of an occurrence has the part of its wall-clock interval that falls on one date, from
00:00:00 to 23:59:59 at most.  No segment reaches outside the interval, and a date strictly between
the first day and the last has all of its seconds (`Occurrence.PartOf`).

A second of the interval is in the segment of its own date and in no other (`showsTime_fragmentAt`),
so the segments share out the seconds on the dates of a range, each to one fragment
(`segments_splitByDay`).  Only the calendar's last date has no fragment, and so its seconds have
none.
-/
namespace Almanac
namespace Occurrence

/-- Whether a time is in the segment of a fragment. -/
def showsTime (f : Occurrence) (w : WallTime) : Bool :=
  f.segment.any fun s => s.start ≤ w && w ≤ s.finish

/-- **A fragment as a part of its occurrence**: it shows the part of the interval that falls on
the date of its segment. -/
structure PartOf (f : Occurrence) (s : DaySegment) (o : Occurrence) : Prop where
  segment : f.segment = some s
  inDay : .dayStart s.date ≤ s.start ∧ s.start ≤ s.finish ∧ s.finish ≤ .dayEnd s.date
  inside : o.localStart ≤ s.start ∧ s.finish ≤ o.localFinish
  position : o.firstDay.daysUntil s.date = s.position
  continuation : f.continuation = true ↔ o.firstDay < s.date
  continues : f.continues = true ↔ s.date < o.lastDay
  /-- A date in between is shown as a whole day. -/
  allDay : o.firstDay < s.date → s.date < o.lastDay → f.allDay = true

variable {o : Occurrence} {range : Range} {precision : Precision} {d : Date} {w : WallTime}

/-! ## One fragment -/

/-- The segment of a listed date is not empty. -/
theorem max_le_min_of_listed (hfirst : o.firstDay ≤ d) (hlast : d ≤ o.lastDay)
    (hlisted : o.Listed d) :
    max o.localStart (.dayStart d) ≤ min o.localFinish (.dayEnd d) := by
  have hsegment := segmentOn?_eq hfirst hlast
  rw [if_pos hlisted.2, segmentOn?] at hsegment
  by_contra hnot
  exact Option.some_ne_none _ (hsegment.symm.trans (if_neg hnot))

/-- A date between the first day and the last one is a whole day. -/
theorem allDay_fragmentAt (hfirst : o.firstDay < d) (hlast : d < o.lastDay)
    (precision : Precision) (several : Bool) :
    (o.fragmentAt precision several d).allDay = true := by
  have hstart : max o.localStart (.dayStart d) = .dayStart d :=
    max_eq_right (WallTime.lt_dayStart_iff.mpr hfirst).le
  have hfinish : min o.localFinish (.dayEnd d) = .dayEnd d := by
    refine min_eq_right (le_of_lt (lt_of_not_ge fun hle => ?_))
    have hdate := WallTime.date_mono hle
    rw [WallTime.date_dayEnd] at hdate
    exact absurd (hlast.trans_le lastDay_le_date) hdate.not_gt
  show isAllDay _ _ precision = true
  rw [hstart, hfinish, isAllDay_dayEnd, ← precision.startsDay_midnight]
  congr 1
  exact WallTime.eq_dayStart_iff.mpr (by rw [WallTime.date_dayStart])

theorem partOf_fragmentAt (hfirst : o.firstDay ≤ d) (hlast : d ≤ o.lastDay)
    (hlisted : o.Listed d) (precision : Precision) (several : Bool) :
    ∃ s, (o.fragmentAt precision several d).PartOf s o := by
  have hsegment := max_le_min_of_listed hfirst hlast hlisted
  refine ⟨⟨d, (o.firstDay.daysUntil d).toNat, max o.localStart (.dayStart d),
    min o.localFinish (.dayEnd d)⟩, ?_⟩
  exact
    { segment := rfl
      inDay := ⟨le_max_right _ _, hsegment, min_le_right _ _⟩
      inside := ⟨le_max_left _ _, min_le_left _ _⟩
      position := (Int.toNat_of_nonneg (Int.sub_nonneg_of_le (Date.le_def.mp hfirst))).symm
      continuation := decide_eq_true_iff
      continues := decide_eq_true_iff
      allDay := fun hafter hbefore => allDay_fragmentAt hafter hbefore precision several }

/-- **A time of the interval is in the segment of its own date** and of no other, if it is not
after 23:59:59. -/
theorem showsTime_fragmentAt (hstart : o.localStart ≤ w) (hfinish : w ≤ o.localFinish)
    (hday : w ≤ .dayEnd w.date) (precision : Precision) (several : Bool) :
    (o.fragmentAt precision several d).showsTime w = true ↔ d = w.date := by
  have hshows : (o.fragmentAt precision several d).showsTime w = true ↔
      max o.localStart (.dayStart d) ≤ w ∧ w ≤ min o.localFinish (.dayEnd d) := by
    simp [showsTime, fragmentAt]
  rw [hshows, max_le_iff, le_min_iff, WallTime.dayStart_le_iff]
  constructor
  · rintro ⟨⟨-, hle⟩, -, hend⟩
    have hge := WallTime.date_mono hend
    rw [WallTime.date_dayEnd] at hge
    exact le_antisymm hle hge
  · rintro rfl
    exact ⟨⟨hstart, le_rfl⟩, hfinish, hday⟩

/-! ## The dates of the times -/

/-- The date of a time before the end is covered. -/
theorem date_le_lastDay (hfinish : w < o.localFinish) : w.date ≤ o.lastDay := by
  unfold lastDay
  dsimp only
  split
  · -- The end is a midnight, so the time is on a date before it.
    rename_i hend
    have hbefore := hfinish
    rw [WallTime.eq_dayStart_iff.mp hend.2.1, WallTime.lt_dayStart_iff, Date.lt_def] at hbefore
    rw [Date.le_def, Date.dayNumber_addDays]
    omega
  · exact WallTime.date_mono hfinish.le

/-- Of the dates in a range on which the interval has a time, all are shown but the last of the
calendar. -/
theorem date_mem_shownDays (hstart : (o.onClocks range.zone).localStart ≤ w)
    (hfinish : w < (o.onClocks range.zone).localFinish) (hday : w ≤ .dayEnd w.date)
    (hin : range.contains w.date = true) :
    w.date ∈ o.shownDays range ↔ w.date < Date.last := by
  rw [mem_shownDays]
  refine ⟨fun h => h.2.1, fun hlt => ⟨mem_coveredDays.mpr ?_, hlt, fun hfirst => ⟨?_, ?_⟩⟩⟩
  · exact ⟨⟨WallTime.date_mono hstart, date_le_lastDay hfinish⟩, Range.contains_iff.mp hin⟩
  · exact hstart.trans hfinish.le
  · exact hfirst ▸ hstart.trans hday

/-! ## All fragments -/

/-- More than one date is shown only if the range has several dates of the occurrence. -/
theorem spansDays_of_one_lt (h : 1 < (o.shownDays range).length) : o.spansDays range = true := by
  have hcovered : ∀ d ∈ o.shownDays range,
      max (o.onClocks range.zone).firstDay range.firstDate ≤ d ∧
        d ≤ min (o.onClocks range.zone).lastDay range.lastDate := fun d hd =>
    Date.mem_through.mp (mem_shownDays.mp hd).1
  have hordered := pairwise_shownDays (o := o) range
  match hdays : o.shownDays range with
  | [] | [_] => simp [hdays] at h
  | d :: e :: _ =>
    rw [hdays] at hcovered hordered
    have hlt : d < e := (List.pairwise_cons.mp hordered).1 e List.mem_cons_self
    have hd := hcovered d List.mem_cons_self
    have he := hcovered e (List.mem_cons_of_mem _ List.mem_cons_self)
    exact decide_eq_true (hd.1.trans_lt (hlt.trans_le he.2))

/-- The number of fragments that show a time of the interval. -/
theorem countP_showsTime (hstart : (o.onClocks range.zone).localStart ≤ w)
    (hfinish : w ≤ (o.onClocks range.zone).localFinish) (hday : w ≤ .dayEnd w.date)
    (precision : Precision) (several : Bool) :
    ((o.shownDays range).map ((o.onClocks range.zone).fragmentAt precision several)).countP
        (·.showsTime w) = (o.shownDays range).count w.date := by
  rw [List.countP_map, List.count]
  refine List.countP_congr fun d _ => ?_
  rw [Function.comp_apply, showsTime_fragmentAt hstart hfinish hday, beq_iff_eq]

/-- **The segments of an occurrence** without a rule tile its wall-clock interval.  Every fragment
is the part of the interval on its date.  Every whole second of the interval, the end left out, on
a date in the range is in the segment of exactly one fragment, unless that is the last date of the
calendar.  The fragments are marked alike as one of several days, and if there is more than one
they have that mark. -/
theorem segments_splitByDay (o : Occurrence) (expander : Expander) (precision : Precision)
    (range : Range) (hrule : o.isRecurring = false) (hle : o.start ≤ o.finish) :
    (∀ f ∈ o.splitByDay expander precision range, ∃ s, f.PartOf s (o.onClocks range.zone)) ∧
      (∀ w : WallTime, w.nanos = 0 → (o.onClocks range.zone).localStart ≤ w →
        w < (o.onClocks range.zone).localFinish → range.contains w.date = true →
          ((o.splitByDay expander precision range).countP (·.showsTime w) = 1 ↔
            w.date < Date.last)) ∧
      ∃ several, (∀ f ∈ o.splitByDay expander precision range, f.multiDay = several) ∧
        (1 < (o.splitByDay expander precision range).length → several = true) := by
  have hsplit : o.splitByDay expander precision range = (o.shownDays range).map
      ((o.onClocks range.zone).fragmentAt precision (o.spansDays range)) := by
    rw [splitByDay, hrule]
    exact splitSingle_eq_map hle precision range
  rw [hsplit]
  refine ⟨?_, ?_, o.spansDays range, ?_, ?_⟩
  · intro f hf
    obtain ⟨d, hd, rfl⟩ := List.mem_map.mp hf
    obtain ⟨hcovered, hlisted⟩ := mem_shownDays.mp hd
    obtain ⟨⟨hfirst, hlast⟩, -⟩ := mem_coveredDays.mp hcovered
    exact partOf_fragmentAt hfirst hlast hlisted precision _
  · intro w hwhole hstart hfinish hin
    have hday := WallTime.le_dayEnd_date hwhole
    have hnodup : (o.shownDays range).Nodup := (pairwise_shownDays range).imp ne_of_lt
    rw [countP_showsTime hstart hfinish.le hday, ← date_mem_shownDays hstart hfinish hday hin]
    refine ⟨fun hone => List.count_pos_iff.mp (by omega), List.count_eq_one_of_mem hnodup⟩
  · intro f hf
    obtain ⟨d, -, rfl⟩ := List.mem_map.mp hf
    rfl
  · intro hseveral
    rw [List.length_map] at hseveral
    exact spansDays_of_one_lt hseveral

/-- From 22:00 on November 2, 2024 until the midnight after the third, on which the clocks of New
York are set back. -/
def longNight : Occurrence where
  dateId := "calendar.1.field_date.0"
  start := ⟨1730599200, 0⟩
  finish := ⟨1730696400, 0⟩

/-- Half past one on the third, which the clocks show twice. -/
def halfPastOne : WallTime :=
  .ofTime ⟨20030⟩ (.ofHMS 1 30 0)

theorem segments_splitByDay_longNight :
    ((longNight.isRecurring = false ∧ longNight.start ≤ longNight.finish) ∧
      halfPastOne.nanos = 0 ∧ (longNight.onClocks november.zone).localStart ≤ halfPastOne ∧
      halfPastOne < (longNight.onClocks november.zone).localFinish ∧
      november.contains halfPastOne.date = true) ∧
    (∀ f ∈ longNight.splitByDay (ruleExpander .listed) {} november,
      ∃ s, f.PartOf s (longNight.onClocks november.zone)) ∧
    ((longNight.splitByDay (ruleExpander .listed) {} november).countP
        (·.showsTime halfPastOne) = 1 ↔
      halfPastOne.date < Date.last) ∧
    ∃ several,
      (∀ f ∈ longNight.splitByDay (ruleExpander .listed) {} november, f.multiDay = several) ∧
      (1 < (longNight.splitByDay (ruleExpander .listed) {} november).length → several = true) := by
  have hsegments := segments_splitByDay longNight (ruleExpander .listed) {} november rfl (by decide)
  refine ⟨by decide, hsegments.1, ?_, hsegments.2.2⟩
  exact hsegments.2.1 halfPastOne (by decide) (by decide) (by decide) (by decide)

/-- The first second of the calendar's last date is in no segment of the last two days. -/
theorem not_showsTime_lastDate :
    (lastDays.isRecurring = false ∧ lastDays.start ≤ lastDays.finish) ∧
      ((lastDays.onClocks lastDates.zone).localStart ≤ .dayStart Date.last ∧
        .dayStart Date.last < (lastDays.onClocks lastDates.zone).localFinish ∧
        lastDates.contains (WallTime.dayStart Date.last).date = true) ∧
      (lastDays.splitByDay (ruleExpander .listed) {} lastDates).countP
        (·.showsTime (.dayStart Date.last)) = 0 := by
  decide +kernel

end Occurrence
end Almanac
