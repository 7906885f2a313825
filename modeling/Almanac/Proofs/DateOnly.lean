import Almanac.Proofs.Appearances
import Almanac.Proofs.RangeInstants
import Almanac.Proofs.StoredDate
import Almanac.Proofs.StoredInterval

/-! # Records of whole dates

A value may give just the dates of an event.  On the clocks of the display zone it then lasts
from the midnight before the first date until 23:59:59 of the last one, and a collector puts
one fragment of it on each of its dates (`Collector.collect_dates`).

A fragment of a whole date goes from midnight to 23:59:59, so it is marked as a whole day; only
the fragment on the first date begins where the clocks show the start of the event.  If they
skip that midnight they show a later time of the first date, and the fragment is not marked: so
in São Paulo on a day that begins at 01:00.
-/
namespace Almanac

/-! ## Whole days -/

/-- Whether a time of day is midnight, down to a precision. -/
def Precision.startsDay (p : Precision) (t : TimeOfDay) : Bool :=
  match p.granularity with
  | .second => t.hour == 0 && t.minute == 0 && t.secondOfMinute == 0
  | .minute => t.hour == 0 && t.minute == 0
  | .hour => t.hour == 0

theorem Precision.startsDay_midnight (p : Precision) : p.startsDay ⟨0, 0⟩ = true := by
  unfold startsDay
  split <;> rfl

theorem WallTime.time_dayEnd (d : Date) : (dayEnd d).time = .ofHMS 23 59 59 := by
  rw [time, seconds_dayEnd, secondsPerDay]
  congr 1
  rw [show (86400 * d.dayNumber + 86399) % ((86400 : Nat) : Int) = 86399 by omega]
  rfl

theorem WallTime.dayEnd_mono {d e : Date} (h : d ≤ e) : dayEnd d ≤ dayEnd e := by
  rw [Date.le_def] at h
  rw [le_def, seconds_dayEnd, seconds_dayEnd]
  rcases h.eq_or_lt with heq | hlt
  · exact .inr ⟨by omega, le_rfl⟩
  · exact .inl (by omega)

theorem WallTime.le_dayEnd_date {w : WallTime} (h : w.nanos = 0) : w ≤ .dayEnd w.date := by
  rw [le_def, seconds_dayEnd, dayNumber_date, h]
  omega

/-- Until 23:59:59 a whole day has to begin at midnight. -/
theorem isAllDay_dayEnd (w : WallTime) (d : Date) (p : Precision) :
    isAllDay w (.dayEnd d) p = p.startsDay w.time := by
  have hhour : (WallTime.dayEnd d).time.hour = 23 := by rw [WallTime.time_dayEnd]; rfl
  have hminute : (WallTime.dayEnd d).time.minute = 59 := by rw [WallTime.time_dayEnd]; rfl
  have hsecond : (WallTime.dayEnd d).time.secondOfMinute = 59 := by
    rw [WallTime.time_dayEnd]; rfl
  rw [isAllDay, hhour, hminute, hsecond, Precision.startsDay]
  cases p.granularity with
  | second => simp
  | minute => simp
  | hour => simp

/-- An event without length is a whole day if it is at midnight. -/
theorem isAllDay_self (w : WallTime) (p : Precision) :
    isAllDay w w p = p.startsDay w.time := by
  rw [isAllDay, Precision.startsDay, Bool.eq_iff_iff]
  cases p.granularity with
  | second => simp; tauto
  | minute => simp; tauto
  | hour => simp; tauto

/-! ## An interval of whole dates -/

namespace Occurrence

/-- An interval that covers some dates, and from the second of them on begins at midnight and
goes on until 23:59:59. -/
structure OnDates (o : Occurrence) (first last : Date) : Prop where
  ordered : o.start ≤ o.finish
  inOrder : o.InOrder
  begins : o.firstDay ≤ first
  ends : last ≤ o.lastDay
  closes : ∀ d, first ≤ d → d ≤ last → o.localStart = o.localFinish ∧ d = o.firstDay ∨
    min o.localFinish (.dayEnd d) = .dayEnd d

variable {o : Occurrence} {first last : Date}

/-- An interval is on its dates if it goes on until 23:59:59 of the last one. -/
theorem onDates_of_dayEnd_le (hnanos : o.localStart.nanos = 0) (hordered : o.start ≤ o.finish)
    (hbegins : o.firstDay ≤ first) (hle : first ≤ last)
    (hcloses : .dayEnd last ≤ o.localFinish) : o.OnDates first last := by
  have hday : o.localStart ≤ .dayEnd o.firstDay := WallTime.le_dayEnd_date hnanos
  refine { ordered := hordered, inOrder := ⟨?_, hday⟩, begins := hbegins, ends := ?_,
           closes := fun d _ hdl => .inr ?_ }
  · exact hday.trans ((WallTime.dayEnd_mono (hbegins.trans hle)).trans hcloses)
  · unfold lastDay
    dsimp only
    split
    · -- An end at midnight is the end of the date before.
      rename_i hmidnight
      have hfinish := WallTime.eq_dayStart_iff.mp hmidnight.2.1
      rw [hfinish, WallTime.le_def, WallTime.seconds_dayEnd, WallTime.seconds_dayStart] at hcloses
      rw [Date.le_def, Date.dayNumber_addDays]
      omega
    · have hdate := WallTime.date_mono hcloses
      rwa [WallTime.date_dayEnd] at hdate
  · exact min_eq_right ((WallTime.dayEnd_mono hdl).trans hcloses)

/-- An event without length is on its date. -/
theorem onDates_of_instant (hnanos : o.localStart.nanos = 0) (hfinish : o.finish = o.start)
    (hday : o.firstDay = first) : o.OnDates first first := by
  subst hday
  have hlocal : o.localFinish = o.localStart := by
    rw [localFinish, hfinish]
    rfl
  refine { ordered := hfinish.ge, inOrder := ⟨hlocal.ge, WallTime.le_dayEnd_date hnanos⟩,
           begins := le_rfl, ends := firstDay_le_lastDay hlocal.ge,
           closes := fun d hfd hdl => .inl ⟨hlocal.symm, le_antisymm hdl hfd⟩ }

/-- A fragment on one of the dates is a whole day unless it begins with the event, not at
midnight. -/
theorem OnDates.allDay_fragmentAt (h : o.OnDates first last) {d : Date} (hfirst : first ≤ d)
    (hlast : d ≤ last) (p : Precision) (several : Bool) :
    (o.fragmentAt p several d).allDay = true ↔
      (d = o.firstDay → p.startsDay o.localStart.time = true) := by
  show isAllDay (max o.localStart (.dayStart d)) (min o.localFinish (.dayEnd d)) p = true ↔ _
  have hstart : d = o.firstDay → max o.localStart (.dayStart d) = o.localStart := by
    rintro rfl
    exact max_eq_left (WallTime.dayStart_le_iff.mpr le_rfl)
  rcases h.closes d hfirst hlast with ⟨hinstant, hday⟩ | hclose
  · have hfinish : min o.localFinish (.dayEnd d) = o.localStart := by
      rw [← hinstant, hday]
      exact min_eq_left h.inOrder.2
    rw [hstart hday, hfinish, isAllDay_self]
    exact ⟨fun hstarts _ => hstarts, fun himp => himp hday⟩
  · rw [hclose, isAllDay_dayEnd]
    rcases (h.begins.trans hfirst).eq_or_lt with hday | hlt
    · rw [hstart hday.symm]
      exact ⟨fun hstarts _ => hstarts, fun himp => himp hday.symm⟩
    · have hmidnight : max o.localStart (.dayStart d) = .dayStart d :=
        max_eq_right (WallTime.lt_dayStart_iff.mpr hlt).le
      have htime : (WallTime.dayStart d).time = ⟨0, 0⟩ :=
        WallTime.eq_dayStart_iff.mpr (by rw [WallTime.date_dayStart])
      rw [hmidnight, htime]
      exact iff_of_true p.startsDay_midnight fun heq => absurd heq hlt.ne'

theorem OnDates.mem_shownDays (h : o.OnDates first last) {range : Range}
    (hzone : o.zone = range.zone) (hin : range.contains first = true ∧ range.contains last = true)
    (hlast : last < Date.last) {d : Date} (hfd : first ≤ d) (hdl : d ≤ last) :
    d ∈ o.shownDays range := by
  have hclocks : o.onClocks range.zone = o := by
    rw [← hzone]
    rfl
  obtain ⟨hbegin, -⟩ := Bool.and_eq_true_iff.mp hin.1
  obtain ⟨-, hend⟩ := Bool.and_eq_true_iff.mp hin.2
  rw [Occurrence.mem_shownDays, mem_coveredDays, hclocks]
  exact ⟨⟨⟨h.begins.trans hfd, hdl.trans h.ends⟩, (of_decide_eq_true hbegin).trans hfd,
    hdl.trans (of_decide_eq_true hend)⟩, hdl.trans_lt hlast, fun _ => h.inOrder⟩

end Occurrence

/-! ## Values that are dates -/

namespace DateValue

/-- A value without a rule that is the dates `first` through `last`; without an end it is the
first alone. -/
structure IsDates (v : DateValue) (first last : Date) : Prop where
  rule : v.rule = none
  value : v.value = some first.text
  endValue : v.endValue = some last.text ∨ v.endValue = none ∧ first = last

/-- Whether a zone shows a value on its dates: it does not resolve the end of the last date to
a time before that, nor to an instant before the start of the first; without an end, it shows
the start on its date. -/
def Kept (v : DateValue) (z : Zone) (first last : Date) : Prop :=
  if v.endValue.isSome then z.Forward (.dayEnd last) ∧ z.startOfDay first ≤ z.endOfDay last
  else z.dateAt (z.startOfDay first) = first

instance (v : DateValue) (z : Zone) (first last : Date) : Decidable (v.Kept z first last) :=
  inferInstanceAs (Decidable
    (if v.endValue.isSome = true then
      z.Forward (.dayEnd last) ∧ z.startOfDay first ≤ z.endOfDay last
    else z.dateAt (z.startOfDay first) = first))

variable {v : DateValue} {z : Zone} {first last : Date}

/-- Clocks that show the midnight of the first date, and did not skip it before, and 23:59:59 of
the last date show a value on its dates. -/
theorem kept_of_shown (hz : z.Regular) (hfirst : (z.earliest? (.dayStart first)).isSome = true)
    (hskip : ¬z.SkipsOver (WallTime.dayStart first).seconds)
    (hlast : (z.earliest? (.dayEnd last)).isSome = true) (hle : first ≤ last)
    (hin : last.inCalendar = true) : v.Kept z first last := by
  obtain ⟨s, hs⟩ := Option.isSome_iff_exists.mp hfirst
  obtain ⟨t, ht⟩ := Option.isSome_iff_exists.mp hlast
  have hforward := Zone.forward_of_earliest? hz ht
  have hstart : z.startOfDay first = s := Zone.resolve_of_earliest? hs
  rw [Kept]
  split
  · refine ⟨hforward, ?_⟩
    have horder : z.OrdersAfter (.dayStart first) := by
      refine Zone.ordersAfter_of_notReachedBefore hz ?_
      rw [Zone.resolve_of_earliest? hs]
      exact Zone.notReachedBefore_of_not_skipsOver hz hs hskip
    refine horder (.dayEnd last) ?_ ?_ hforward
    · rw [WallTime.inCalendar, WallTime.date_dayEnd]
      exact hin
    · exact WallTime.dayStart_le_iff.mpr (by rwa [WallTime.date_dayEnd])
  · rw [hstart, Zone.dateAt, ((Zone.earliest?_eq_some hz).mp hs).1, WallTime.date_dayStart]

end DateValue

namespace DateValue.IsDates

variable {v : DateValue} {first last : Date} {storage : Zone}

theorem startForm?_eq (hv : v.IsDates first last) (hin : first.inCalendar = true) :
    v.startForm? = some (.date first) := by
  rw [startForm?, hv.value, Option.bind_some, StorageForm.read?_text hin]

theorem rule?_eq (hv : v.IsDates first last) : v.rule? = none := by
  rw [rule?, hv.rule]

theorem closingInstant_eq (hv : v.IsDates first last) (hin : last.inCalendar = true)
    {z : Zone} (hkept : v.Kept z first last) :
    Occurrence.closingInstant (z.startOfDay first)
        (v.endValue.bind (storedInstant? .finish storage z)) =
      if v.endValue.isSome then z.endOfDay last else z.startOfDay first := by
  rw [finish_eq, finishForm?]
  rw [Kept] at hkept
  rcases hv.endValue with hend | ⟨hend, -⟩
  · rw [hend] at hkept ⊢
    rw [Option.bind_some, StorageForm.read?_text hin]
    exact if_pos hkept.2
  · rw [hend]
    rfl

/-- The occurrence of a value that is dates, at the display zone's bounds of these. -/
theorem onDates (storage : Zone) (hv : v.IsDates first last) (hle : first ≤ last)
    (hin : last.inCalendar = true) {z : Zone} (hz : z.Regular) (hkept : v.Kept z first last)
    (r : Record) (delta : Nat) :
    (r.occurrenceOf v delta storage z (z.startOfDay first)).OnDates first last := by
  have hfinish : (r.occurrenceOf v delta storage z (z.startOfDay first)).finish =
      if v.endValue.isSome then z.endOfDay last else z.startOfDay first :=
    hv.closingInstant_eq hin hkept
  have hnanos : (r.occurrenceOf v delta storage z (z.startOfDay first)).localStart.nanos = 0 :=
    Nat.le_zero.mp (Zone.nanos_resolve_le hz (.dayStart first))
  rw [Kept] at hkept
  rcases hv.endValue with hend | ⟨hend, rfl⟩
  · rw [hend, Option.isSome_some, if_pos rfl] at hfinish hkept
    refine Occurrence.onDates_of_dayEnd_le hnanos ?_ (Zone.dateAt_startOfDay_le hz first) hle ?_
    · rw [hfinish]
      exact hkept.2
    · rw [Occurrence.localFinish, hfinish]
      exact hkept.1
  · rw [hend] at hfinish hkept
    exact Occurrence.onDates_of_instant hnanos hfinish hkept

/-- The end of such an occurrence is on no later date than the end of its last date. -/
theorem date_localFinish_le (storage : Zone) (hv : v.IsDates first last)
    (hin : last.inCalendar = true) {z : Zone} (hz : z.Regular) (hkept : v.Kept z first last)
    (r : Record) (delta : Nat) :
    (r.occurrenceOf v delta storage z (z.startOfDay first)).localFinish.date ≤
      z.dateAt (z.endOfDay last) := by
  have hfinish : (r.occurrenceOf v delta storage z (z.startOfDay first)).finish =
      if v.endValue.isSome then z.endOfDay last else z.startOfDay first :=
    hv.closingInstant_eq hin hkept
  rw [Occurrence.localFinish, hfinish]
  rw [Kept] at hkept
  split
  · exact le_rfl
  · rename_i hnone
    rw [if_neg hnone] at hkept
    rcases hv.endValue with hend | ⟨-, rfl⟩
    · rw [hend] at hnone
      exact absurd rfl hnone
    · exact hkept.le.trans (Zone.dateAt_endOfDay_near hz first).1

/-- Reading such a value stays within the calendar. -/
theorem fits (hv : v.IsDates first last) (hle : first ≤ last) (hfirst : Date.first ≤ first)
    (hlast : last < Date.last) {z : Zone} : v.fits storage z = true := by
  have hstart : storedFits .start storage z first.text = true := by
    rw [storedFits, StorageForm.read?_text (Date.inCalendar_iff.mpr ⟨hfirst, hle.trans hlast.le⟩),
      Option.all_some, StorageForm.fits, StorageForm.dayBound]
    refine Zone.canResolve_of_lt_last _ ?_ ?_
    · rwa [WallTime.date_dayStart]
    · rw [WallTime.date_dayStart]
      exact hle.trans_lt hlast
  have hfinish : storedFits .finish storage z last.text = true := by
    rw [storedFits, StorageForm.read?_text (Date.inCalendar_iff.mpr ⟨hfirst.trans hle, hlast.le⟩),
      Option.all_some, StorageForm.fits, StorageForm.dayBound]
    refine Zone.canResolve_of_lt_last _ ?_ ?_
    · rw [WallTime.date_dayEnd]
      exact hfirst.trans hle
    · rwa [WallTime.date_dayEnd]
  have hend : v.endValue.all (storedFits .finish storage z) = true := by
    rcases hv.endValue with hend | ⟨hend, -⟩
    · rw [hend, Option.all_some, hfinish]
    · rw [hend, Option.all_none]
  rw [DateValue.fits, hv.value, Option.all_some, hstart, hend, hv.rule?_eq, Option.isNone_none,
    Bool.true_or, Bool.and_true, Bool.or_true, Bool.and_true]

/-- Splitting its occurrence stays within the calendar. -/
theorem splitFits (storage : Zone) (hv : v.IsDates first last) (hle : first ≤ last)
    (hfirst : Date.first ≤ first) (hlast : last < Date.last) {z : Zone} (hz : z.Regular)
    (hkept : v.Kept z first last) (r : Record) (delta : Nat) (expander : Expander)
    {range : Range} (hzone : range.zone = z) :
    (r.occurrenceOf v delta storage z (z.startOfDay first)).splitFits expander range = true := by
  have hin : last.inCalendar = true := Date.inCalendar_iff.mpr ⟨hfirst.trans hle, hlast.le⟩
  have hbegin := Zone.first_le_dateAt_startOfDay hz hfirst
  have horder := WallTime.date_mono
    (hv.onDates storage hle hin hz hkept r delta).inOrder.1
  have hend := hv.date_localFinish_le storage hin hz hkept r delta
  have hnext : last.addDays 1 ≤ Date.last := by
    rw [Date.lt_def] at hlast
    rw [Date.le_def, Date.dayNumber_addDays]
    omega
  have hlatest := hend.trans ((Zone.dateAt_endOfDay_near hz last).2.trans hnext)
  have hrecurring :
      (r.occurrenceOf v delta storage z (z.startOfDay first)).isRecurring = false := by
    rw [Occurrence.isRecurring, Record.occurrenceOf, hv.rule?_eq, Option.isSome_none]
  rw [Occurrence.splitFits, hrecurring, hzone]
  exact Bool.and_eq_true_iff.mpr
    ⟨Date.inCalendar_iff.mpr ⟨hbegin, horder.trans hlatest⟩,
      Date.inCalendar_iff.mpr ⟨hbegin.trans horder, hlatest⟩⟩

end DateValue.IsDates

/-! ## The fragments of one entity -/

namespace Collector

variable {c : Collector} {range : Range} {rendered : List Int} {records : List Record}

/-- The items of an entity on a day. -/
def itemsOf (c : Collector) (range : Range) (rendered : List Int) (records : List Record)
    (entityId : Int) (d : Date) : List Occurrence :=
  ((c.collect range rendered records).1.on d).filter fun o => o.entityId = entityId

theorem entityId_of_mem_fragments {r : Record} {f : Occurrence} (h : f ∈ c.fragments range r) :
    f.entityId = r.entityId := by
  obtain ⟨a, ha, hf⟩ := List.mem_flatMap.mp ((fragments_perm r).mem_iff.mp h)
  obtain ⟨d, -, rfl⟩ := List.mem_map.mp hf
  obtain ⟨o, ho, ha⟩ := List.mem_flatMap.mp ha
  obtain ⟨i, hi, rfl⟩ := List.mem_map.mp ha
  have hvalue : o.entityId = r.entityId := by
    obtain ⟨delta, -, hsome⟩ := List.mem_filterMap.mp ho
    obtain ⟨v, storage, start, -, rfl⟩ := Record.exists_of_occurrence hsome
    rfl
  have hinterval : i.entityId = o.entityId := by
    unfold Occurrence.intervals at hi
    split at hi
    · obtain ⟨-, -, interval, -, rfl⟩ := o.mem_instances _ _ hi
      rfl
    · rw [List.mem_singleton.mp hi]
  exact hinterval.trans hvalue

theorem filter_entityId_fragments_eq_nil {records : List Record} {id : Int}
    (hne : ∀ r ∈ records, r.entityId ≠ id) :
    (records.flatMap (c.fragments range)).filter (fun f => f.entityId = id) = [] := by
  refine List.filter_eq_nil_iff.mpr fun f hf heq => ?_
  obtain ⟨r, hr, hf⟩ := List.mem_flatMap.mp hf
  exact hne r hr ((entityId_of_mem_fragments hf).symm.trans (of_decide_eq_true heq))

/-- The fragments of an entity are those of its first record. -/
theorem filter_entityId_fragments {r : Record} (hr : r ∈ fresh rendered records) :
    ((fresh rendered records).flatMap (c.fragments range)).filter
        (fun f => f.entityId = r.entityId) = c.fragments range r := by
  obtain ⟨before, after, hsplit⟩ := List.append_of_mem hr
  have hother := pairwise_fresh rendered records
  rw [hsplit, List.pairwise_append, List.pairwise_cons] at hother
  have hself : (c.fragments range r).filter (fun f => f.entityId = r.entityId) =
      c.fragments range r :=
    List.filter_eq_self.mpr fun f hf => decide_eq_true (entityId_of_mem_fragments hf)
  rw [hsplit, List.flatMap_append, List.flatMap_cons, List.filter_append, List.filter_append,
    hself, filter_entityId_fragments_eq_nil fun r' hr' => hother.2.2 r' hr' r List.mem_cons_self,
    filter_entityId_fragments_eq_nil fun r' hr' => (hother.2.1.1 r' hr').symm, List.nil_append,
    List.append_nil]

/-- The items of an entity whose first record has one value without a rule. -/
theorem itemsOf_eq {r : Record} {o : Occurrence} (hr : r ∈ fresh rendered records)
    (hvalue : occurrences c.zones range r = [o]) (hrule : o.rule = none) (d : Date) :
    c.itemsOf range rendered records r.entityId d =
      if d ∈ o.shownDays range then [c.fragmentOf range ⟨r, o⟩ d] else [] := by
  have happearances : c.appearances range r = [⟨r, o⟩] := by
    rw [appearances, hvalue, List.flatMap_singleton, Occurrence.intervals, if_neg]
    · rfl
    · rw [Occurrence.isRecurring, hrule]
      exact Bool.false_ne_true
  have hdays : ((o.shownDays range).map (c.fragmentOf range ⟨r, o⟩)).filter (fun f => f.day = d) =
      if d ∈ o.shownDays range then [c.fragmentOf range ⟨r, o⟩ d] else [] := by
    have hnodup : (o.shownDays range).Nodup :=
      (Occurrence.pairwise_shownDays range).imp fun hlt => hlt.ne
    have hday : (fun f : Occurrence => decide (f.day = d)) ∘ c.fragmentOf range ⟨r, o⟩ =
        fun e => decide (e = d) := rfl
    rw [List.filter_map, hday, List.filter_eq, hnodup.count]
    split
    · rfl
    · rfl
  have hfragments := (show (c.fragments range r).Perm _ from fragments_perm r).filter
    fun f => f.day = d
  rw [happearances, List.flatMap_singleton, hdays] at hfragments
  have hitems : (c.itemsOf range rendered records r.entityId d).Perm
      ((c.fragments range r).filter fun f => f.day = d) := by
    have hon := (Agenda.on_perm ((fresh rendered records).flatMap (c.fragments range)) d).filter
      fun f => f.entityId = r.entityId
    rw [List.filter_comm, filter_entityId_fragments hr] at hon
    exact hon
  by_cases hd : d ∈ o.shownDays range
  · rw [if_pos hd] at hfragments ⊢
    exact List.perm_singleton.mp (hitems.trans hfragments)
  · rw [if_neg hd] at hfragments ⊢
    exact List.perm_nil.mp (hitems.trans hfragments)

/-! ## Collecting dates -/

section Dates

variable {r : Record} {v : DateValue} {storage : Zone} {first last : Date}

theorem occurrences_eq_of_isDates (hvalues : r.values = [v])
    (hstorage : c.zones r.storageZone = some storage) (hv : v.IsDates first last)
    (hin : first.inCalendar = true) :
    occurrences c.zones range r =
      [r.occurrenceOf v 0 storage range.zone (range.zone.startOfDay first)] := by
  have hfound : r.occurrence c.zones 0 range.zone =
      .ok (r.occurrenceOf v 0 storage range.zone (range.zone.startOfDay first)) := by
    refine Record.occurrence_eq ?_ hstorage (hv.startForm?_eq hin) range.zone
    rw [hvalues]
    rfl
  rw [occurrences, hvalues, List.length_singleton, List.range_one, List.filterMap_cons, hfound]
  rfl

/-- Collecting a record of dates reads times of the calendar only. -/
theorem recordFits_of_isDates (hz : range.zone.Regular) (hvalues : r.values = [v])
    (hstorage : c.zones r.storageZone = some storage) (hv : v.IsDates first last)
    (hle : first ≤ last) (hfirst : Date.first ≤ first) (hlast : last < Date.last)
    (hkept : v.Kept range.zone first last) : c.recordFits range r = true := by
  have hin : first.inCalendar = true := Date.inCalendar_iff.mpr ⟨hfirst, hle.trans hlast.le⟩
  have hvalue : r.valueFits c.zones 0 range.zone = true := by
    rw [Record.valueFits, hvalues, hstorage]
    exact hv.fits hle hfirst hlast
  have hsplit := hv.splitFits storage hle hfirst hlast hz hkept r 0 c.expander rfl
  rw [recordFits, occurrences_eq_of_isDates hvalues hstorage hv hin, hvalues,
    List.length_singleton, List.range_one, List.all_cons, List.all_nil, List.all_cons,
    List.all_nil, hvalue, hsplit]
  rfl

/-- **Records of whole dates.**  A record of dates that a zone keeps has one fragment on each of
them, and none elsewhere but where the zone shows the bounds of the dates.  The fragments are
marked as whole days, unless the clocks show the start of the first date on it and not at
midnight. -/
theorem collect_dates (hz : range.zone.Regular) (hr : r ∈ fresh rendered records)
    (hvalues : r.values = [v]) (hstorage : c.zones r.storageZone = some storage)
    (hv : v.IsDates first last) (hle : first ≤ last) (hfirst : Date.first ≤ first)
    (hlast : last < Date.last)
    (hrange : range.contains first = true ∧ range.contains last = true)
    (hkept : v.Kept range.zone first last) :
    c.recordFits range r = true ∧
      (∀ d, first ≤ d → d ≤ last →
        ∃ f, c.itemsOf range rendered records r.entityId d = [f] ∧
          (f.allDay = true ↔ (d = range.zone.dateAt (range.zone.startOfDay first) →
            c.precision.startsDay (range.zone.wall (range.zone.startOfDay first)).time = true))) ∧
      ∀ d, d < range.zone.dateAt (range.zone.startOfDay first) ∨
          range.zone.dateAt (range.zone.endOfDay last) < d →
        c.itemsOf range rendered records r.entityId d = [] := by
  have hfirstIn : first.inCalendar = true := Date.inCalendar_iff.mpr ⟨hfirst, hle.trans hlast.le⟩
  have hlastIn : last.inCalendar = true := Date.inCalendar_iff.mpr ⟨hfirst.trans hle, hlast.le⟩
  have hdates := hv.onDates storage hle hlastIn hz hkept r 0
  have hvalue : occurrences c.zones range r =
      [r.occurrenceOf v 0 storage range.zone (range.zone.startOfDay first)] :=
    occurrences_eq_of_isDates hvalues hstorage hv hfirstIn
  have hitems := itemsOf_eq (c := c) hr hvalue hv.rule?_eq
  refine ⟨recordFits_of_isDates hz hvalues hstorage hv hle hfirst hlast hkept,
    fun d hfd hdl => ?_, fun d hout => ?_⟩
  · have hd := hdates.mem_shownDays rfl hrange hlast hfd hdl
    refine ⟨_, (hitems d).trans (if_pos hd), ?_⟩
    exact hdates.allDay_fragmentAt hfd hdl c.precision
      ((r.occurrenceOf v 0 storage range.zone (range.zone.startOfDay first)).spansDays range)
  · rw [hitems d, if_neg]
    intro hd
    obtain ⟨hcovered, -⟩ := Occurrence.mem_shownDays.mp hd
    obtain ⟨⟨hbegin, hend⟩, -⟩ := Occurrence.mem_coveredDays.mp hcovered
    rcases hout with hbefore | hafter
    · exact absurd hbegin (not_le.mpr hbefore)
    · have hclose := hv.date_localFinish_le storage hlastIn hz hkept r 0
      exact absurd (hend.trans (Occurrence.lastDay_le_date.trans hclose)) (not_le.mpr hafter)

end Dates

/-! ## Two Novembers -/

/-- A collector without rules. -/
def plain : Collector where
  zones := .listed
  expander _ _ _ := .ok []

/-- A record of one value. -/
def recordOf (v : DateValue) : Record where
  entityId := 1
  values := [v]

/-- 2024-11-02 through 2024-11-04; on the day between, the clocks of New York are set back. -/
def threeDates : DateValue where
  value := some "2024-11-02"
  endValue := some "2024-11-04"

theorem isDates_threeDates : threeDates.IsDates ⟨20029⟩ ⟨20031⟩ where
  rule := rfl
  value := by decide +kernel
  endValue := .inl (by decide +kernel)

theorem collect_dates_november :
    (Zone.newYork.Regular ∧ recordOf threeDates ∈ fresh [] [recordOf threeDates] ∧
        Zones.listed (recordOf threeDates).storageZone = some .utc ∧
        (⟨20031⟩ : Date) < Date.last ∧
        (Occurrence.november.contains ⟨20029⟩ = true ∧
          Occurrence.november.contains ⟨20031⟩ = true) ∧
        threeDates.Kept .newYork ⟨20029⟩ ⟨20031⟩) ∧
      ∀ d : Date, ⟨20029⟩ ≤ d → d ≤ ⟨20031⟩ →
        ∃ f, plain.itemsOf Occurrence.november [] [recordOf threeDates] 1 d = [f] ∧
          f.allDay = true := by
  have hregular : Occurrence.november.zone.Regular := by decide +kernel
  have hfresh : recordOf threeDates ∈ fresh [] [recordOf threeDates] := List.mem_cons_self
  have hstorage : Zones.listed (recordOf threeDates).storageZone = some .utc := by decide +kernel
  have hrange : Occurrence.november.contains ⟨20029⟩ = true ∧
      Occurrence.november.contains ⟨20031⟩ = true := by decide +kernel
  have hkept : threeDates.Kept .newYork ⟨20029⟩ ⟨20031⟩ :=
    DateValue.kept_of_shown hregular (by decide +kernel) (by decide +kernel) (by decide +kernel)
      (by decide) (by decide)
  have hmidnight : plain.precision.startsDay (Occurrence.november.zone.wall
      (Occurrence.november.zone.startOfDay ⟨20029⟩)).time = true := by decide +kernel
  refine ⟨⟨hregular, hfresh, hstorage, by decide, hrange, hkept⟩, fun d hfirst hlast => ?_⟩
  obtain ⟨-, hdays, -⟩ := collect_dates (c := plain) hregular hfresh rfl hstorage
    isDates_threeDates (by decide) (by decide) (by decide) hrange hkept
  obtain ⟨f, hitems, hallDay⟩ := hdays d hfirst hlast
  exact ⟨f, hitems, hallDay.mpr fun _ => hmidnight⟩

/-- November 2018 in São Paulo. -/
def springMonth : Range where
  start := ⟨1541041200, 0⟩
  finish := ⟨1543629599, 0⟩
  granularity := .month
  zone := .saoPaulo
  today := ⟨17836⟩
  firstDay := 0

/-- 2018-11-04, a day on which the clocks of São Paulo are set ahead from midnight to 01:00. -/
def springDate : DateValue where
  value := some "2018-11-04"
  endValue := some "2018-11-04"

/-- A record of the date on which the clocks skip midnight is not marked as a whole day. -/
theorem not_allDay_springDate :
    springDate.IsDates ⟨17839⟩ ⟨17839⟩ ∧
      (springMonth.contains ⟨17839⟩ = true ∧
        plain.recordFits springMonth (recordOf springDate) = true) ∧
      (plain.itemsOf springMonth [] [recordOf springDate] 1 ⟨17839⟩).map
        (fun f => (f.day, f.allDay)) = [(⟨17839⟩, false)] := by
  refine ⟨⟨rfl, by decide +kernel, .inl (by decide +kernel)⟩, by decide +kernel, by decide +kernel⟩

end Collector
end Almanac
