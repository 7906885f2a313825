import Almanac.DaySplit
import Almanac.Proofs.Civil.Order
import Almanac.Zone.Names

/-! # Which days an occurrence is split into

An occurrence covers the dates from its first day through its last; a range shows those
of them that lie in it (`coveredDays`).  Splitting lists these dates in order, with one
fragment each, except for three kinds of date it passes over (`Listed`):

* the last date of the calendar, which no listing of days reaches;
* the first day of an occurrence whose end the clocks show before its start, because they
  were set back in between;
* the first day of an occurrence that starts within the second after 23:59:59.

`splitSingle_eq_map` says this of one interval, with the fragments written out.
-/
namespace Almanac

theorem Range.contains_iff {r : Range} {d : Date} :
    r.contains d = true ↔ r.firstDate ≤ d ∧ d ≤ r.lastDate := by
  rw [contains, Bool.and_eq_true, decide_eq_true_iff, decide_eq_true_iff]

namespace Occurrence

/-- The occurrence on the clocks of a zone. -/
def onClocks (o : Occurrence) (zone : Zone) : Occurrence :=
  { o with zone := zone }

/-- The dates of a range that an occurrence covers on the clocks of the range. -/
def coveredDays (o : Occurrence) (range : Range) : List Date :=
  (max (o.onClocks range.zone).firstDay range.firstDate).through
    (min (o.onClocks range.zone).lastDay range.lastDate)

variable (o : Occurrence)

/-- Whether the clocks show the start of an occurrence not after its end, and not after
23:59:59. -/
def InOrder : Prop :=
  o.localStart ≤ o.localFinish ∧ o.localStart ≤ .dayEnd o.firstDay

/-- Whether a date that an occurrence covers gets a fragment. -/
def Listed (d : Date) : Prop :=
  d < Date.last ∧ (d = o.firstDay → o.InOrder)

instance : Decidable o.InOrder :=
  inferInstanceAs (Decidable (_ ∧ _))

instance (d : Date) : Decidable (o.Listed d) :=
  inferInstanceAs (Decidable (_ ∧ _))

/-- The fragment of an occurrence on a date it covers. -/
def fragmentAt (precision : Precision) (several : Bool) (date : Date) : Occurrence :=
  let first := max o.localStart (.dayStart date)
  let last := min o.localFinish (.dayEnd date)
  let position := (o.firstDay.daysUntil date).toNat
  { o with
    allDay := isAllDay first last precision
    multiDay := several
    continuation := o.firstDay < date
    continues := date < o.lastDay
    dateId := o.dateId ++ "." ++ Text.pad 0 position
    segment := some ⟨date, position, first, last⟩ }

@[simp] theorem day_fragmentAt (precision : Precision) (several : Bool) (date : Date) :
    (o.fragmentAt precision several date).day = date := rfl

/-! ## The last day -/

variable {o}

theorem lastDay_le_date : o.lastDay ≤ o.localFinish.date := by
  unfold lastDay
  dsimp only
  split
  · rw [Date.le_def, Date.dayNumber_addDays]
    omega
  · exact le_rfl

/-- An occurrence does not cover the later midnight at which it ends. -/
theorem lastDay_lt_of_ends_at_midnight {d : Date} (hlt : o.start < o.finish)
    (hend : o.localFinish = .dayStart d) (hfirst : o.firstDay < d) : o.lastDay < d := by
  have hdate : o.localFinish.date = d := by rw [hend, WallTime.date_dayStart]
  have htime : o.localFinish.time = ⟨0, 0⟩ :=
    WallTime.eq_dayStart_iff.mpr (by rw [hdate, hend])
  unfold lastDay
  rw [if_pos ⟨hlt, htime, hdate ▸ hfirst⟩, hdate, Date.lt_def, Date.dayNumber_addDays]
  omega

theorem firstDay_le_lastDay (h : o.localStart ≤ o.localFinish) : o.firstDay ≤ o.lastDay := by
  have hdate : o.firstDay ≤ o.localFinish.date := WallTime.date_mono h
  unfold lastDay
  dsimp only
  split
  · rename_i hend
    have hlt := hend.2.2
    rw [Date.lt_def] at hlt
    rw [Date.le_def, Date.dayNumber_addDays]
    omega
  · exact hdate

/-! ## One date -/

/-- A covered date has a segment unless it is the first day of an occurrence that is not
in order. -/
theorem segmentOn?_eq {d : Date} (hfirst : o.firstDay ≤ d) (hlast : d ≤ o.lastDay) :
    segmentOn? o.localStart o.localFinish d =
      if d = o.firstDay → o.InOrder then
        some (max o.localStart (.dayStart d), min o.localFinish (.dayEnd d))
      else none := by
  have hfinish : WallTime.dayStart d ≤ o.localFinish :=
    WallTime.dayStart_le_iff.mpr (hlast.trans lastDay_le_date)
  have hday : WallTime.dayStart d ≤ .dayEnd d := (WallTime.dayStart_lt_dayEnd d).le
  have hiff : max o.localStart (.dayStart d) ≤ min o.localFinish (.dayEnd d) ↔
      (d = o.firstDay → o.InOrder) := by
    rw [le_min_iff, max_le_iff, max_le_iff]
    constructor
    · rintro ⟨⟨hf, -⟩, he, -⟩ rfl
      exact ⟨hf, he⟩
    · intro h
      rcases hfirst.eq_or_lt with rfl | hlt
      · exact ⟨⟨(h rfl).1, hfinish⟩, (h rfl).2, hday⟩
      · -- The start lies on an earlier date, so it comes before every time of this one.
        have hs : o.localStart < .dayStart d := WallTime.lt_dayStart_iff.mpr hlt
        exact ⟨⟨hs.le.trans hfinish, hfinish⟩, hs.le.trans hday, hday⟩
  unfold segmentOn?
  dsimp only
  exact if_congr hiff rfl rfl

/-- On a covered date the segment is never just the midnight at which an occurrence
ends. -/
theorem touchesOnly_eq_false {d : Date} (hle : o.start ≤ o.finish) (hfirst : o.firstDay ≤ d)
    (hlast : d ≤ o.lastDay) :
    o.touchesOnly d (max o.localStart (.dayStart d), min o.localFinish (.dayEnd d)) = false := by
  by_contra htouch
  simp only [touchesOnly, Bool.not_eq_false, Bool.and_eq_true, beq_iff_eq, bne_iff_ne] at htouch
  obtain ⟨⟨⟨-, hmin⟩, hne⟩, hday⟩ := htouch
  have hend : o.localFinish = .dayStart d := by
    rcases min_choice o.localFinish (.dayEnd d) with h | h
    · exact h.symm.trans hmin
    · exact absurd (h.symm.trans hmin) (WallTime.dayStart_lt_dayEnd d).ne'
  have hbefore := lastDay_lt_of_ends_at_midnight (lt_of_le_of_ne hle hne) hend
    (lt_of_le_of_ne hfirst (Ne.symm hday))
  exact absurd hlast (not_le.mpr hbefore)

theorem fragmentOn?_eq {d : Date} (hle : o.start ≤ o.finish) (hfirst : o.firstDay ≤ d)
    (hlast : d ≤ o.lastDay) (precision : Precision) (several : Bool) :
    o.fragmentOn? precision several d =
      if d = o.firstDay → o.InOrder then some (o.fragmentAt precision several d) else none := by
  unfold fragmentOn?
  rw [segmentOn?_eq hfirst hlast]
  by_cases h : d = o.firstDay → o.InOrder
  · rw [if_pos h, if_pos h]
    dsimp only
    rw [touchesOnly_eq_false hle hfirst hlast]
    rfl
  · rw [if_neg h, if_neg h]

/-! ## Splitting one interval -/

variable (o)

/-- Whether more than one date of an occurrence is in a range. -/
def spansDays (range : Range) : Bool :=
  max (o.onClocks range.zone).firstDay range.firstDate <
    min (o.onClocks range.zone).lastDay range.lastDate

/-- The dates on which a range shows an occurrence. -/
def shownDays (range : Range) : List Date :=
  (o.coveredDays range).filter fun d => (o.onClocks range.zone).Listed d

variable {o}

theorem mem_coveredDays {range : Range} {d : Date} :
    d ∈ o.coveredDays range ↔
      ((o.onClocks range.zone).firstDay ≤ d ∧ d ≤ (o.onClocks range.zone).lastDay) ∧
        range.firstDate ≤ d ∧ d ≤ range.lastDate := by
  rw [coveredDays, Date.mem_through, max_le_iff, le_min_iff]
  exact and_and_and_comm

theorem mem_shownDays {range : Range} {d : Date} :
    d ∈ o.shownDays range ↔
      d ∈ o.coveredDays range ∧ (o.onClocks range.zone).Listed d := by
  rw [shownDays, List.mem_filter, decide_eq_true_iff]

theorem pairwise_shownDays (range : Range) : (o.shownDays range).Pairwise (· < ·) :=
  (Date.pairwise_through _ _).filter _

/-- A partial map that is defined where a test holds. -/
theorem filterMap_eq_map_filter {α β : Type} {p : α → Prop} [DecidablePred p] {f : α → Option β}
    {g : α → β} {l : List α} (h : ∀ a ∈ l, f a = if p a then some (g a) else none) :
    l.filterMap f = (l.filter p).map g := by
  induction l with
  | nil => rfl
  | cons a l ih =>
    have hl := ih fun b hb => h b (List.mem_cons_of_mem a hb)
    have ha := h a List.mem_cons_self
    by_cases hp : p a
    · rw [if_pos hp] at ha
      rw [List.filterMap_cons_some ha, List.filter_cons_of_pos (by simpa using hp), hl,
        List.map_cons]
    · rw [if_neg hp] at ha
      rw [List.filterMap_cons_none ha, List.filter_cons_of_neg (by simpa using hp), hl]

theorem shownDays_eq_filter (range : Range) :
    o.shownDays range = ((max (o.onClocks range.zone).firstDay range.firstDate).upTo
      (min (o.onClocks range.zone).lastDay range.lastDate)).filter
        fun d => (o.onClocks range.zone).Listed d := by
  rw [Date.upTo_eq_filter, List.filter_filter]
  refine List.filter_congr fun d _ => ?_
  simp only [Listed]
  grind

/-- **Splitting one interval**: one fragment on each shown date, in order. -/
theorem splitSingle_eq_map (hle : o.start ≤ o.finish) (precision : Precision) (range : Range) :
    o.splitSingle precision range =
      (o.shownDays range).map
        ((o.onClocks range.zone).fragmentAt precision (o.spansDays range)) := by
  rw [shownDays_eq_filter]
  refine filterMap_eq_map_filter fun d hd => ?_
  rw [Date.upTo_eq_filter] at hd
  obtain ⟨hcov, hlast⟩ := List.mem_filter.mp hd
  obtain ⟨⟨hfirst, hend⟩, -⟩ := mem_coveredDays.mp hcov
  refine (fragmentOn?_eq (o := o.onClocks range.zone) hle hfirst hend _ _).trans ?_
  exact if_congr (by simp [Listed, of_decide_eq_true hlast]) rfl rfl

/-! ## Splitting an occurrence without a rule -/

/-- Whether the clocks of a range show no earlier time at a later instant of it: they are
not set back within it. -/
def ClocksAdvance (range : Range) : Prop :=
  ∀ s t, range.start ≤ s → s ≤ t → t ≤ range.finish → range.zone.wall s ≤ range.zone.wall t

/-- Where the clocks are not set back, the first day of an occurrence inside a range is
shown, if the occurrence starts by 23:59:59. -/
theorem firstDay_mem_shownDays {range : Range} (hclocks : ClocksAdvance range)
    (hstart : range.start ≤ o.start) (hle : o.start ≤ o.finish)
    (hfinish : o.finish ≤ range.finish)
    (htime : (o.onClocks range.zone).localStart ≤ .dayEnd (o.onClocks range.zone).firstDay)
    (hlast : (o.onClocks range.zone).firstDay < Date.last) :
    (o.onClocks range.zone).firstDay ∈ o.shownDays range := by
  have hordered : (o.onClocks range.zone).localStart ≤ (o.onClocks range.zone).localFinish :=
    hclocks o.start o.finish hstart hle hfinish
  have hfirst : range.firstDate ≤ (o.onClocks range.zone).firstDay :=
    WallTime.date_mono (hclocks range.start o.start le_rfl hstart (hle.trans hfinish))
  have hend : (o.onClocks range.zone).localFinish.date ≤ range.lastDate :=
    WallTime.date_mono (hclocks o.finish range.finish (hstart.trans hle) hfinish le_rfl)
  have hcovers := firstDay_le_lastDay hordered
  refine mem_shownDays.mpr ⟨mem_coveredDays.mpr ⟨⟨le_rfl, hcovers⟩, hfirst, ?_⟩,
    hlast, fun _ => ⟨hordered, htime⟩⟩
  exact hcovers.trans (lastDay_le_date.trans hend)

/-- **Day coverage.**  The days of the fragments of an occurrence without a rule are the
dates it covers in the range, in order and each once, less those that are not listed; so
all of them are there exactly if all are listed.  Where the clocks are not set back, an
occurrence inside the range that starts by 23:59:59 has a fragment. -/
theorem map_day_splitByDay (o : Occurrence) (expander : Expander) (precision : Precision)
    (range : Range) (hrule : o.isRecurring = false) (hle : o.start ≤ o.finish) :
    (o.splitByDay expander precision range).map day =
        (o.coveredDays range).filter (fun d => (o.onClocks range.zone).Listed d) ∧
      ((o.splitByDay expander precision range).map day = o.coveredDays range ↔
        ∀ d ∈ o.coveredDays range, (o.onClocks range.zone).Listed d) ∧
      (ClocksAdvance range → range.start ≤ o.start → o.finish ≤ range.finish →
        (o.onClocks range.zone).localStart ≤ .dayEnd (o.onClocks range.zone).firstDay →
        (o.onClocks range.zone).firstDay < Date.last →
        o.splitByDay expander precision range ≠ []) := by
  have hsplit : o.splitByDay expander precision range = (o.shownDays range).map
      ((o.onClocks range.zone).fragmentAt precision (o.spansDays range)) := by
    rw [splitByDay, hrule]
    exact splitSingle_eq_map hle precision range
  have hdays : (o.splitByDay expander precision range).map day = o.shownDays range := by
    rw [hsplit, List.map_map]
    refine (List.map_congr_left fun d _ => ?_).trans (List.map_id _)
    exact day_fragmentAt _ _ _ d
  refine ⟨hdays, ?_, ?_⟩
  · rw [hdays, shownDays, List.filter_eq_self]
    simp only [decide_eq_true_eq]
  · intro hclocks hstart hfinish htime hlast hnone
    have hmem := firstDay_mem_shownDays hclocks hstart hle hfinish htime hlast
    rw [← hdays, hnone] at hmem
    exact List.not_mem_nil hmem

/-- April 2025 on the clocks of universal time. -/
def april : Range where
  start := ⟨1743465600, 0⟩
  finish := ⟨1746057599, 0⟩
  granularity := .month
  zone := .utc
  today := ⟨20193⟩
  firstDay := 0

/-- Six days of April 2025, from the third at 9 to the eighth at 17. -/
def sixDays : Occurrence where
  dateId := "calendar.9.field_date.0"
  start := ⟨1743670800, 0⟩
  finish := ⟨1744131600, 0⟩

theorem map_day_splitByDay_sixDays :
    (sixDays.isRecurring = false ∧ sixDays.start ≤ sixDays.finish) ∧
      (sixDays.splitByDay (ruleExpander .listed) {} april).map day =
        (sixDays.coveredDays april).filter (fun d => (sixDays.onClocks april.zone).Listed d) ∧
      ((sixDays.splitByDay (ruleExpander .listed) {} april).map day = sixDays.coveredDays april ↔
        ∀ d ∈ sixDays.coveredDays april, (sixDays.onClocks april.zone).Listed d) ∧
      (ClocksAdvance april → april.start ≤ sixDays.start → sixDays.finish ≤ april.finish →
        (sixDays.onClocks april.zone).localStart ≤ .dayEnd (sixDays.onClocks april.zone).firstDay →
        (sixDays.onClocks april.zone).firstDay < Date.last →
        sixDays.splitByDay (ruleExpander .listed) {} april ≠ []) :=
  ⟨by decide, map_day_splitByDay sixDays (ruleExpander .listed) {} april rfl (by decide)⟩

example :
    (sixDays.splitByDay (ruleExpander .listed) {} april).map day = sixDays.coveredDays april := by
  decide

/-- November 2024 on the clocks of New York, which are set back at 2 o'clock on the
third. -/
def november : Range where
  start := ⟨1730433600, 0⟩
  finish := ⟨1733029199, 0⟩
  granularity := .month
  zone := .newYork
  today := ⟨20042⟩
  firstDay := 0

/-- From 01:50 before the clocks of New York are set back until 01:10 after it. -/
def setBack : Occurrence where
  dateId := "calendar.1.field_date.0"
  start := ⟨1730613000, 0⟩
  finish := ⟨1730614200, 0⟩

/-- From half a second after 23:59:59 on April 10, 2025 until the next morning. -/
def lateStart : Occurrence where
  dateId := "calendar.1.field_date.0"
  start := ⟨1744329599, 500000000⟩
  finish := ⟨1744365600, 0⟩

/-- The last two dates of the calendar. -/
def lastDates : Range where
  start := ⟨8210266704000, 0⟩
  finish := ⟨8210266876799, 0⟩
  granularity := .week
  zone := .utc
  today := ⟨20193⟩
  firstDay := 2

/-- The last two days of the calendar. -/
def lastDays : Occurrence where
  dateId := "calendar.1.field_date.0"
  start := ⟨8210266704000, 0⟩
  finish := ⟨8210266876799, 0⟩

/-- Dates that occurrences inside a range cover and that are not split off: the only day of
one over which the clocks are set back, the first of one that starts after 23:59:59, and
the last of the calendar. -/
theorem splitByDay_passes_over :
    ((november.start ≤ setBack.start ∧ setBack.finish ≤ november.finish) ∧
        setBack.coveredDays november = [⟨20030⟩] ∧
        (setBack.splitByDay (ruleExpander .listed) {} november).map day = []) ∧
      (lateStart.coveredDays april = [⟨20188⟩, ⟨20189⟩] ∧
        (lateStart.splitByDay (ruleExpander .listed) {} april).map day = [⟨20189⟩]) ∧
      lastDays.coveredDays lastDates = [⟨95026235⟩, Date.last] ∧
        (lastDays.splitByDay (ruleExpander .listed) {} lastDates).map day = [⟨95026235⟩] := by
  decide +kernel

end Occurrence
end Almanac
