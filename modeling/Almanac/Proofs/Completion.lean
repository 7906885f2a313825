import Almanac.Proofs.InstanceWindow
import Almanac.Proofs.Reach
import Almanac.Proofs.RuleInstances
import Almanac.Proofs.StoredBounds

/-! # Records that reach past the calendar

A render with a range ends unless a record makes it ask for a time past the calendar.  There are
few ways to do so (`Record.Overruns`): a stored time of the last four hours that its clocks show
only later; an end of an interval that the display clocks show outside the calendar; a duration
that leads out of the calendar when it is taken from the start of the range, or added to an
instance of a rule (`Record.recordFits_iff`).

All of them need a stored time close to the bounds of the calendar, or very long intervals: if
the stored times lie within a hundred thousand years of 1970 (`Record.Moderate`), no sum leaves the
calendar and the render ends (`Record.not_overruns_of_moderate`).

The zones are those of any look-up, and rules are read by any reader that lists nothing outside
the window it is asked for (`RuleReader.StaysInWindow`).  Such are the reader of this library and,
as `expandWith_intervals` takes them, all that list the members of sets of instants
(`Starts.Lists.staysInWindow`).
-/
namespace Almanac

/-! ## Instants and durations -/

namespace Instant

variable {t u : Instant}

/-- Adding a duration moves an instant by about as much. -/
theorem addNanos_near (ht : t.nanos < 2 * nanosPerSecond) (n : Int) :
    n - 2 * nanosPerSecond ≤ nanosPerSecond * ((t.addNanos n).seconds - t.seconds) ∧
      nanosPerSecond * ((t.addNanos n).seconds - t.seconds) ≤ n + 2 * nanosPerSecond ∧
        (t.addNanos n).nanos < 2 * nanosPerSecond := by
  have hsum := sum_addNanos ht n
  refine ⟨?_, ?_, hsum.nanos_lt⟩ <;> cases hsum <;> simp only [count, nanosPerSecond] at * <;> omega

/-- The length of an interval is about the difference of its seconds. -/
theorem nanosUntil_near (ht : t.nanos < 2 * nanosPerSecond) (hu : u.nanos < 2 * nanosPerSecond) :
    nanosPerSecond * (u.seconds - t.seconds - 3) ≤ t.nanosUntil u ∧
      t.nanosUntil u ≤ nanosPerSecond * (u.seconds - t.seconds + 3) := by
  rw [nanosUntil]
  simp only [nanosPerSecond] at *
  split
  · split <;> omega
  · split
    · split <;> omega
    · omega

/-- The calendar goes on for more than two hundred thousand years before and after 1970. -/
theorem calendar_bounds : firstSecond ≤ -8300000000000 ∧ 8200000000000 ≤ lastSecond := by
  decide

theorem addSeconds_near (ht : t.nanos < 2 * nanosPerSecond) (n : Int) :
    t.seconds + n - 2 ≤ (t.addSeconds n).seconds ∧
      (t.addSeconds n).seconds ≤ t.seconds + n + 2 := by
  have hnear := addNanos_near ht (nanosPerSecond * n)
  rw [addSeconds]
  simp only [nanosPerSecond] at *
  omega

/-- Instants between two of the calendar are in it. -/
theorem inCalendar_between {v : Instant} (hlow : t.inCalendar = true)
    (hhigh : v.inCalendar = true) (htu : t ≤ u) (huv : u ≤ v) : u.inCalendar = true := by
  rw [inCalendar_iff] at *
  rw [le_def] at htu huv
  omega

end Instant

/-! ## The instants of a range -/

/-- The dates that an argument names are near the years of four digits. -/
theorem Argument.near_of_names {firstDay : Nat} {text : String} {granularity : Granularity}
    {d : Date} (hfirst : firstDay ≤ 6) (h : Names firstDay text granularity d)
    (hyear : granularity = .day → 0 ≤ d.year ∧ d.year ≤ 9999) :
    yearStart 0 - 20 ≤ d.dayNumber ∧ d.dayNumber ≤ yearStart 10000 + 20 := by
  have hnear : ∀ e : Date, 0 ≤ e.year ∧ e.year ≤ 9999 →
      yearStart 0 ≤ e.dayNumber ∧ e.dayNumber < yearStart 10000 := by
    intro e he
    obtain ⟨hbegin, hend⟩ := e.year_spec
    have hlow : yearStart 0 ≤ yearStart e.year := yearStart_mono he.1
    have hhigh : yearStart (e.year + 1) ≤ yearStart 10000 := yearStart_mono (by omega)
    omega
  cases granularity with
  | year =>
    have hd := hnear d (mem_of_year? h)
    omega
  | month =>
    have hd := hnear d (mem_of_yearMonth? h).1
    omega
  | week =>
    obtain ⟨monday, hday, hread, hrow⟩ := h
    have hthursday := hnear monday.isoThursday (mem_of_yearWeek? hread)
    have hweek := Date.dayNumber_isoThursday monday
    have hstart := Date.dayNumber_weekStart hfirst d
    have hother := Date.dayNumber_weekStart hfirst monday
    rw [hrow] at hstart
    omega
  | day =>
    have hd := hnear d (hyear rfl)
    omega

/-- A range near the years of four digits, in whole seconds, on clocks of a regular zone. -/
structure Range.Ordinary (r : Range) : Prop where
  zone : r.zone.Regular
  start_near : -100000000000 ≤ r.start.seconds ∧ r.start.seconds ≤ 300000000000
  finish_near : -100000000000 ≤ r.finish.seconds ∧ r.finish.seconds ≤ 300000000000
  start_nanos : r.start.nanos = 0
  finish_nanos : r.finish.nanos = 0

theorem Range.ordinary_of_ofArgument {context : Context} {argument : Option String}
    {granularity : Granularity} {r : Range} (hz : context.zone.Regular)
    (hfirst : context.firstDay ≤ 6) (h : ofArgument context argument granularity = .ok r)
    (hyear : granularity = .day → ∀ d,
      Argument.Names context.firstDay (Text.trim (argument.getD "")) .day d →
        0 ≤ d.year ∧ d.year ≤ 9999) : r.Ordinary := by
  obtain ⟨first, last, -, hmade, -, hnames⟩ := isPeriod_ofArgument hfirst h hyear
  obtain ⟨hle, rfl⟩ := eq_of_ofDates hmade
  have hnear : ∀ d, first ≤ d → d ≤ last →
      yearStart 0 - 20 ≤ d.dayNumber ∧ d.dayNumber ≤ yearStart 10000 + 20 := by
    intro d hlow hhigh
    have hnamed := (hnames d).mpr ⟨hlow, hhigh⟩
    refine Argument.near_of_names hfirst hnamed fun hday => ?_
    subst hday
    exact hyear rfl d hnamed
  have hbounds : yearStart 0 = -719528 ∧ yearStart 10000 = 2932897 := by decide
  have hopens := hnear first le_rfl hle
  have hcloses := hnear last hle le_rfl
  have hstart := Zone.resolve_near hz (.dayStart first)
  have hfinish := Zone.resolve_near hz (.dayEnd last)
  rw [WallTime.seconds_dayStart] at hstart
  rw [WallTime.seconds_dayEnd] at hfinish
  exact {
    zone := hz
    start_near := by
      rw [Zone.startOfDay]
      dsimp only
      omega
    finish_near := by
      rw [Zone.endOfDay]
      dsimp only
      omega
    start_nanos := Nat.le_zero.mp (Zone.nanos_resolve_le hz _)
    finish_nanos := Nat.le_zero.mp (Zone.nanos_resolve_le hz _) }

/-- One second after the end of a range the calendar goes on. -/
theorem Range.Ordinary.inCalendar_after {r : Range} (hr : r.Ordinary) :
    (r.finish.addSeconds 1).inCalendar = true := by
  have hnear := Instant.addSeconds_near (t := r.finish) (by rw [hr.finish_nanos]; decide) 1
  have hfinish := hr.finish_near
  have hbounds := Instant.calendar_bounds
  rw [Instant.inCalendar_iff]
  omega

/-! ## Readers of rules -/

/-- Whether starts list nothing outside the window they are asked for, and no instant beyond a leap
second. -/
def Starts.StaysInWindow (starts : Starts) : Prop :=
  ∀ since upTo ts, starts since upTo instanceLimit = .ok ts →
    ∀ t ∈ ts, (since ≤ t ∧ t ≤ upTo) ∧ t.nanos < 2 * nanosPerSecond

/-- Whether the starts of every rule that is read stay in the window. -/
def RuleReader.StaysInWindow (read : RuleReader) : Prop :=
  ∀ zone start text starts, read zone start text = .ok starts → starts.StaysInWindow

/-- The members of a set of proper instants stay in the window. -/
theorem Starts.Lists.staysInWindow {starts : Starts} {S : Set Instant} (h : starts.Lists S)
    (hproper : ∀ t ∈ S, t.nanos < 2 * nanosPerSecond) : starts.StaysInWindow := by
  intro since upTo ts hstarts t ht
  obtain ⟨us, hus, hfirst⟩ := h since upTo
  obtain rfl := Except.ok.inj (hstarts.symm.trans hus)
  obtain ⟨hin, hwindow⟩ := hfirst.mem t ht
  exact ⟨hwindow, hproper t hin⟩

/-- The rules of this library stay in the window, in whole seconds. -/
theorem staysInWindow_ruleReader (zones : Zones) : (ruleReader zones).StaysInWindow := by
  intro zone start text starts hread since upTo ts hstarts t ht
  cases hset : RuleSet.read zones zone start text with
  | error fault =>
    rw [ruleReader, hset] at hread
    cases hread
  | ok set =>
    rw [ruleReader, hset] at hread
    obtain rfl := Except.ok.inj hread
    obtain ⟨hwindow, hnanos⟩ := RuleSet.mem_between_of_read hset hstarts ht
    exact ⟨hwindow, by rw [hnanos]; decide⟩

/-! ## What reaches past the calendar -/

/-- Whether a stored text is a time of the last four hours of the calendar that its clocks show
only when the calendar is over. -/
def StoredLate (bound : Bound) (storage display : Zone) (s : String) : Prop :=
  ∃ form ∈ StorageForm.read? s, form.Late bound storage display

/-- Whether a value has such a text.  The end is read if there is a start, the exceptions if
there is a rule too. -/
def DateValue.Late (v : DateValue) (storage display : Zone) : Prop :=
  (∃ s ∈ v.value, StoredLate .start storage display s) ∨
    (v.start? storage display).isSome = true ∧
      ((∃ s ∈ v.endValue, StoredLate .finish storage display s) ∨
        v.rule?.isSome = true ∧ ∃ s ∈ v.exceptions, StoredLate .start storage display s)

namespace Occurrence

/-- The start of a range, moved back by the length of an occurrence. -/
def reachBack (o : Occurrence) (range : Range) : Instant :=
  range.start.addNanos (-o.duration)

/-- The starts that the rule of an occurrence lists for a range. -/
def ruleStarts (read : RuleReader) (o : Occurrence) (range : Range) :
    Except RuleError (List Instant) :=
  match o.ruleText? with
  | none => .ok []
  | some text => (read o.zone o.start text).bind fun starts =>
      starts ((o.reachBack range).addSeconds (-1)) (range.finish.addSeconds 1) instanceLimit

/-- Whether an instance of an occurrence ends outside the calendar, or reaches into a range and
is shown outside it. -/
def InstanceOverruns (o : Occurrence) (range : Range) (t : Instant) : Prop :=
  (t.addNanos o.duration).inCalendar = false ∨
    reaches range.start range.finish (t, t.addNanos o.duration) = true ∧
      (range.zone.ShowsOutside t ∨ range.zone.ShowsOutside (max (t.addNanos o.duration) t))

end Occurrence

/-- **The ways of an occurrence past the calendar**, when it is split for a range. -/
inductive Occurrence.Overruns (read : RuleReader) (o : Occurrence) (range : Range) : Prop
  /-- The start is shown outside the calendar. -/
  | start (hstart : range.zone.ShowsOutside o.start)
  /-- The end of a single interval is. -/
  | finish (hsingle : o.ruleText? = none) (hfinish : range.zone.ShowsOutside o.finish)
  /-- The length of an occurrence with a rule leads out of the calendar from the start of the
  range. -/
  | length (hrule : o.ruleText? ≠ none)
      (hback : ¬((o.reachBack range).inCalendar = true ∧
        ((o.reachBack range).addSeconds (-1)).inCalendar = true))
  /-- An instance that is no exception overruns. -/
  | recurrence {starts : List Instant} {t : Instant}
      (hstarts : o.ruleStarts read range = .ok starts) (ht : t ∈ starts)
      (hkept : t ∉ o.exceptions) (hover : o.InstanceOverruns range t)

/-- Whether a record reaches past the calendar: a stored time is found only when the calendar is
over, or an occurrence overruns. -/
def Record.Overruns (zones : Zones) (read : RuleReader) (r : Record) (range : Range) : Prop :=
  (∃ v ∈ r.values, ∃ storage, zones r.storageZone = some storage ∧
      v.Late storage range.zone) ∨
    ∃ o ∈ Collector.occurrences zones range r, o.Overruns read range

/-! ## Reading the values -/

theorem storedFits_iff {bound : Bound} {storage display : Zone} (hstorage : storage.Regular)
    (hdisplay : display.Regular) (s : String) :
    storedFits bound storage display s = true ↔ ¬StoredLate bound storage display s := by
  rw [storedFits, StoredLate]
  cases hread : StorageForm.read? s with
  | none => simp
  | some form =>
    have hproper := StorageForm.proper_of_read? hread
    simpa using StorageForm.fits_iff hstorage hdisplay hproper

theorem DateValue.fits_iff {storage display : Zone} (hstorage : storage.Regular)
    (hdisplay : display.Regular) (v : DateValue) :
    v.fits storage display = true ↔ ¬v.Late storage display := by
  have hfits : ∀ bound s, storedFits bound storage display s = true ↔
      ¬StoredLate bound storage display s := fun _ s => storedFits_iff hstorage hdisplay s
  have hall : ∀ (bound : Bound) (found : Option String),
      found.all (storedFits bound storage display) = true ↔
        ¬∃ s ∈ found, StoredLate bound storage display s := by
    intro bound found
    cases found with
    | none => simp
    | some s => simpa using hfits bound s
  have hexceptions : v.exceptions.all (storedFits .start storage display) = true ↔
      ¬∃ s ∈ v.exceptions, StoredLate .start storage display s := by
    simp [hfits]
  rw [fits, Late, Bool.and_eq_true, Bool.or_eq_true, Bool.and_eq_true, Bool.or_eq_true, hall,
    hall, hexceptions, ← Option.not_isSome, ← Option.not_isSome, Bool.not_eq_true',
    Bool.not_eq_true', Bool.eq_false_iff, Bool.eq_false_iff, not_or, not_and_or, not_or,
    not_and_or]

/-- The values of a record are read unless one is late. -/
theorem Record.valuesFit_iff {zones : Zones} (hzones : zones.Regular) {display : Zone}
    (hdisplay : display.Regular) (r : Record) :
    ((List.range r.values.length).all fun delta => r.valueFits zones delta display) = true ↔
      ¬∃ v ∈ r.values, ∃ storage, zones r.storageZone = some storage ∧
        v.Late storage display := by
  unfold valueFits
  cases hfound : zones r.storageZone with
  | none => simp
  | some storage =>
    have hfits := DateValue.fits_iff (hzones _ storage hfound) hdisplay
    rw [List.all_eq_true]
    constructor
    · rintro h ⟨v, hv, _, ⟨⟩, hlate⟩
      obtain ⟨delta, hdelta, rfl⟩ := List.mem_iff_getElem.mp hv
      have hfit := h delta (List.mem_range.mpr hdelta)
      rw [List.getElem?_eq_getElem hdelta] at hfit
      exact (hfits _).mp hfit hlate
    · intro hnone delta hdelta
      rw [List.getElem?_eq_getElem (List.mem_range.mp hdelta)]
      exact (hfits _).mpr fun hlate => hnone ⟨_, List.getElem_mem _, storage, rfl, hlate⟩

/-- The occurrence of a value, of proper instants on the clocks of the display zone. -/
structure Occurrence.Proper (o : Occurrence) (display : Zone) : Prop where
  zone : o.zone = display
  start : o.start.utc.Proper
  finish : o.finish.utc.Proper
  ordered : o.start ≤ o.finish

theorem Record.values_of_occurrence {zones : Zones} {range : Range} {r : Record} {o : Occurrence}
    (ho : o ∈ Collector.occurrences zones range r) :
    ∃ v delta storage start, v ∈ r.values ∧ zones r.storageZone = some storage ∧
      v.start? storage range.zone = some start ∧
        o = r.occurrenceOf v delta storage range.zone start := by
  obtain ⟨delta, -, hsome⟩ := List.mem_filterMap.mp ho
  unfold occurrence at hsome
  split at hsome
  · cases hsome
  · rename_i v hv
    split at hsome
    · cases hsome
    · rename_i storage hstorage
      split at hsome
      · cases hsome
      · rename_i start hstart
        exact ⟨v, delta, storage, start, List.mem_of_getElem? hv, hstorage, hstart,
          (Option.some.inj hsome).symm⟩

theorem proper_of_storedInstant? {bound : Bound} {storage display : Zone} {s : String}
    {t : Instant} (hstorage : storage.Regular) (hdisplay : display.Regular)
    (h : storedInstant? bound storage display s = some t) : t.utc.Proper := by
  obtain ⟨form, hread, rfl⟩ := Option.map_eq_some_iff.mp h
  exact StorageForm.proper_instant hstorage hdisplay (StorageForm.proper_of_read? hread)

/-- The occurrences of a record are proper. -/
theorem Occurrence.proper_of_mem {zones : Zones} (hzones : zones.Regular) {range : Range}
    {r : Record} {o : Occurrence} (hz : range.zone.Regular)
    (ho : o ∈ Collector.occurrences zones range r) : o.Proper range.zone := by
  obtain ⟨v, delta, storage, start, -, hstorage, hstart, rfl⟩ := Record.values_of_occurrence ho
  have hregular := hzones _ storage hstorage
  obtain ⟨text, -, hread⟩ := Option.bind_eq_some_iff.mp hstart
  have hproper := proper_of_storedInstant? hregular hz hread
  refine ⟨rfl, hproper, ?_, Collector.start_le_closingInstant _ _⟩
  show (closingInstant start _).utc.Proper
  cases hfinish : v.endValue.bind (storedInstant? .finish storage range.zone) with
  | none => exact hproper
  | some t =>
    obtain ⟨text, -, hread⟩ := Option.bind_eq_some_iff.mp hfinish
    rw [closingInstant]
    split
    · exact proper_of_storedInstant? hregular hz hread
    · exact hproper

/-! ## Splitting an occurrence -/

namespace Occurrence

variable {read : RuleReader} {o : Occurrence} {range : Range}

/-- What an occurrence with a rule is expanded to. -/
theorem expandWith_eq_ruleStarts (hrule : o.ruleText? ≠ none) :
    expandWith read o range.start range.finish =
      if (o.reachBack range).inCalendar && ((o.reachBack range).addSeconds (-1)).inCalendar &&
          (range.finish.addSeconds 1).inCalendar && o.zone.shows o.start then
        match o.ruleStarts read range with
        | .error fault => .error (.rule fault)
        | .ok starts =>
          if (o.intervalsOf starts).all fun i => i.2.inCalendar then
            .ok ((o.intervalsOf starts).filter (reaches range.start range.finish))
          else .error .outsideCalendar
      else .error .outsideCalendar := by
  obtain ⟨text, htext⟩ := Option.ne_none_iff_exists'.mp hrule
  rw [expandWith, ruleStarts, htext]
  rfl

theorem forall_mem_intervalsOf {starts : List Instant} {P : Instant × Instant → Prop} :
    (∀ i ∈ o.intervalsOf starts, P i) ↔
      ∀ t ∈ starts, t ∉ o.exceptions → P (t, t.addNanos o.duration) := by
  constructor
  · intro h t ht hkept
    exact h _ (List.mem_map.mpr ⟨t, List.mem_filter.mpr ⟨ht, by simpa using hkept⟩, rfl⟩)
  · intro h i hi
    obtain ⟨t, ht, rfl⟩ := List.mem_map.mp hi
    obtain ⟨hmem, hkept⟩ := List.mem_filter.mp ht
    exact h t hmem (by simpa using hkept)

theorem fits_onClocks_iff (hz : range.zone.Regular) (hstart : o.start.inCalendar = true)
    (hfinish : o.finish.inCalendar = true) :
    Occurrence.fits { o with zone := range.zone } = true ↔
      ¬range.zone.ShowsOutside o.start ∧ ¬range.zone.ShowsOutside o.finish := by
  rw [fits, Bool.and_eq_true]
  exact and_congr (Zone.shows_iff hz hstart) (Zone.shows_iff hz hfinish)

/-- A single interval is split as itself, with or without the word for no rule. -/
theorem splitFits_single_iff (hz : range.zone.Regular) (ho : o.Proper range.zone)
    (hsingle : o.ruleText? = none) :
    o.splitFits (expandWith read) range = true ↔
      ¬range.zone.ShowsOutside o.start ∧ ¬range.zone.ShowsOutside o.finish := by
  rw [← fits_onClocks_iff hz ho.start.1 ho.finish.1]
  unfold splitFits
  dsimp only
  split
  · rw [expandWith, hsingle]
    dsimp only
    rw [List.all_cons, List.all_nil, Bool.and_true, instanceAt]
    dsimp only
    rw [max_eq_left ho.ordered]
    rfl
  · exact Iff.rfl

/-- The instants that a rule lists lie in its window. -/
theorem mem_ruleStarts (hread : read.StaysInWindow) {starts : List Instant} {t : Instant}
    (hstarts : o.ruleStarts read range = .ok starts) (ht : t ∈ starts) :
    ((o.reachBack range).addSeconds (-1) ≤ t ∧ t ≤ range.finish.addSeconds 1) ∧
      t.nanos < 2 * nanosPerSecond := by
  unfold ruleStarts at hstarts
  split at hstarts
  · obtain rfl := Except.ok.inj hstarts
    exact absurd ht List.not_mem_nil
  · rename_i text _
    obtain ⟨listed, hlisted, hbetween⟩ := Range.bind_eq_ok hstarts
    exact hread o.zone o.start text listed hlisted _ _ _ hbetween t ht

/-- An instance of the window that ends in the calendar. -/
theorem fits_instanceAt_iff (hz : range.zone.Regular) {t : Instant} (ht : t.inCalendar = true)
    (hend : (t.addNanos o.duration).inCalendar = true) :
    Occurrence.fits { o.instanceAt (t, t.addNanos o.duration) with zone := range.zone } = true ↔
      ¬range.zone.ShowsOutside t ∧ ¬range.zone.ShowsOutside (max (t.addNanos o.duration) t) := by
  have hmax : (max (t.addNanos o.duration) t).inCalendar = true := by
    rcases max_choice (t.addNanos o.duration) t with heq | heq
    · rwa [heq]
    · rwa [heq]
  exact fits_onClocks_iff (o := o.instanceAt (t, t.addNanos o.duration)) hz ht hmax

theorem not_instanceOverruns_iff (hz : range.zone.Regular) {t : Instant}
    (ht : t.inCalendar = true) (hend : (t.addNanos o.duration).inCalendar = true) :
    ¬o.InstanceOverruns range t ↔
      (reaches range.start range.finish (t, t.addNanos o.duration) = true →
        Occurrence.fits { o.instanceAt (t, t.addNanos o.duration) with zone := range.zone } =
          true) := by
  rw [InstanceOverruns, hend, fits_instanceAt_iff hz ht hend]
  simp

/-- The instances of a list of starts are split unless one overruns. -/
theorem splitFits_starts_iff (hz : range.zone.Regular) {starts : List Instant}
    (hin : ∀ t ∈ starts, t.inCalendar = true) :
    (match
        if (o.intervalsOf starts).all fun i => i.2.inCalendar then
          (.ok ((o.intervalsOf starts).filter (reaches range.start range.finish)) :
            Except ExpansionError (List (Instant × Instant)))
        else .error .outsideCalendar with
      | .ok intervals => intervals.all fun i =>
          Occurrence.fits { o.instanceAt i with zone := range.zone }
      | .error fault => !fault.isFatal) = true ↔
      ∀ t ∈ starts, t ∉ o.exceptions → ¬o.InstanceOverruns range t := by
  by_cases hends : ∀ t ∈ starts, t ∉ o.exceptions → (t.addNanos o.duration).inCalendar = true
  · rw [if_pos (List.all_eq_true.mpr (forall_mem_intervalsOf.mpr hends))]
    dsimp only
    rw [List.all_eq_true]
    simp only [List.mem_filter, and_imp]
    rw [forall_mem_intervalsOf]
    refine forall₂_congr fun t ht => forall_congr' fun hkept => ?_
    exact (not_instanceOverruns_iff hz (hin t ht) (hends t ht hkept)).symm
  · rw [if_neg fun hall => hends (forall_mem_intervalsOf.mp (List.all_eq_true.mp hall))]
    refine iff_of_false Bool.false_ne_true fun hnone => hends fun t ht hkept => ?_
    by_contra hend
    exact hnone t ht hkept (.inl (Bool.eq_false_iff.mpr hend))

/-- An occurrence with a rule is split as its instances. -/
theorem splitFits_rule_iff (hread : read.StaysInWindow) (hr : range.Ordinary)
    (ho : o.Proper range.zone) (hrule : o.ruleText? ≠ none)
    (hharmless : ∀ fault, o.ruleStarts read range = .error fault → fault.isFatal = false) :
    o.splitFits (expandWith read) range = true ↔
      (¬range.zone.ShowsOutside o.start ∧ (o.reachBack range).inCalendar = true ∧
        ((o.reachBack range).addSeconds (-1)).inCalendar = true) ∧
      ∀ starts, o.ruleStarts read range = .ok starts →
        ∀ t ∈ starts, t ∉ o.exceptions → ¬o.InstanceOverruns range t := by
  have hrecurring : o.isRecurring = true := by
    rw [isRecurring]
    unfold ruleText? at hrule
    split at hrule
    · exact absurd rfl hrule
    · rename_i text htext
      rw [htext]
      rfl
  have hshown : o.zone.shows o.start = true ↔ ¬range.zone.ShowsOutside o.start := by
    rw [ho.zone]
    exact Zone.shows_iff hr.zone ho.start.1
  unfold splitFits
  dsimp only
  rw [if_pos hrecurring, expandWith_eq_ruleStarts hrule, hr.inCalendar_after, Bool.and_true]
  by_cases hstart : (¬range.zone.ShowsOutside o.start ∧ (o.reachBack range).inCalendar = true ∧
      ((o.reachBack range).addSeconds (-1)).inCalendar = true)
  · rw [and_iff_right hstart, hstart.2.1, hstart.2.2, hshown.mpr hstart.1, Bool.and_self,
      Bool.and_self, if_pos rfl]
    cases hstarts : o.ruleStarts read range with
    | error fault => simp [ExpansionError.isFatal, hharmless fault hstarts]
    | ok starts =>
      have hin : ∀ t ∈ starts, t.inCalendar = true := by
        intro t ht
        obtain ⟨hlow, hhigh⟩ := (mem_ruleStarts hread hstarts ht).1
        exact Instant.inCalendar_between hstart.2.2 hr.inCalendar_after hlow hhigh
      refine (splitFits_starts_iff hr.zone hin).trans ?_
      simp
  · rw [if_neg]
    · exact iff_of_false Bool.false_ne_true fun h => hstart h.1
    · intro hall
      rw [Bool.and_eq_true, Bool.and_eq_true, hshown] at hall
      exact hstart ⟨hall.2, hall.1⟩

/-- **When an occurrence is split** within the calendar. -/
theorem splitFits_iff (hread : read.StaysInWindow) (hr : range.Ordinary)
    (ho : o.Proper range.zone)
    (hharmless : ∀ fault, o.ruleStarts read range = .error fault → fault.isFatal = false) :
    o.splitFits (expandWith read) range = true ↔ ¬o.Overruns read range := by
  by_cases hsingle : o.ruleText? = none
  · rw [splitFits_single_iff hr.zone ho hsingle]
    constructor
    · rintro ⟨hstart, hfinish⟩ hover
      cases hover with
      | start h => exact hstart h
      | finish _ h => exact hfinish h
      | length hrule _ => exact hrule hsingle
      | recurrence hstarts ht _ _ =>
        rw [ruleStarts, hsingle] at hstarts
        obtain rfl := Except.ok.inj hstarts
        exact List.not_mem_nil ht
    · intro hnone
      exact ⟨fun h => hnone (.start h), fun h => hnone (.finish hsingle h)⟩
  · rw [splitFits_rule_iff hread hr ho hsingle hharmless]
    constructor
    · rintro ⟨⟨hstart, hback⟩, hinstances⟩ hover
      cases hover with
      | start h => exact hstart h
      | finish h _ => exact hsingle h
      | length _ h => exact h hback
      | recurrence hstarts ht hkept h => exact hinstances _ hstarts _ ht hkept h
    · intro hnone
      refine ⟨⟨fun h => hnone (.start h), ?_⟩, fun starts hstarts t ht hkept h =>
        hnone (.recurrence hstarts ht hkept h)⟩
      by_contra hback
      exact hnone (.length hsingle hback)

end Occurrence

/-- **When a record is collected** within the calendar: unless it reaches past it. -/
theorem Record.recordFits_iff {read : RuleReader} (hread : read.StaysInWindow) {c : Collector}
    (hzones : c.zones.Regular) (hexpander : c.expander = expandWith read) {range : Range}
    (hr : range.Ordinary) {r : Record}
    (hharmless : ∀ o ∈ Collector.occurrences c.zones range r, ∀ fault,
      o.ruleStarts read range = .error fault → fault.isFatal = false) :
    c.recordFits range r = true ↔ ¬r.Overruns c.zones read range := by
  rw [Collector.recordFits, Overruns, not_or, Bool.and_eq_true, valuesFit_iff hzones hr.zone,
    List.all_eq_true, hexpander]
  refine and_congr_right fun _ => ?_
  constructor
  · rintro h ⟨o, ho, hover⟩
    exact (Occurrence.splitFits_iff hread hr (Occurrence.proper_of_mem hzones hr.zone ho)
      (hharmless o ho)).mp (h o ho) hover
  · intro hnone o ho
    refine (Occurrence.splitFits_iff hread hr (Occurrence.proper_of_mem hzones hr.zone ho)
      (hharmless o ho)).mpr fun hover => hnone ⟨o, ho, hover⟩

/-! ## Stored times far from the bounds -/

/-- The stored texts of a value. -/
def DateValue.texts (v : DateValue) : List String :=
  v.value.toList ++ v.endValue.toList ++ v.exceptions

theorem DateValue.mem_texts {v : DateValue} {s : String} :
    s ∈ v.texts ↔ v.value = some s ∨ v.endValue = some s ∨ s ∈ v.exceptions := by
  simp [texts]

/-- The seconds of a hundred thousand years. -/
def hundredMillennia : Int := 3155760000000

/-- Whether a stored text is a time within a hundred thousand years of 1970, if it is one. -/
def StoredModerate (s : String) : Prop :=
  ∀ form ∈ StorageForm.read? s,
    -hundredMillennia ≤ form.reading.seconds ∧ form.reading.seconds ≤ hundredMillennia

instance (s : String) : Decidable (StoredModerate s) :=
  inferInstanceAs (Decidable (∀ form ∈ StorageForm.read? s, _))

/-- Whether the stored times of a record lie within a hundred thousand years of 1970. -/
def Record.Moderate (r : Record) : Prop :=
  ∀ v ∈ r.values, ∀ s ∈ v.texts, StoredModerate s

instance (r : Record) : Decidable r.Moderate :=
  inferInstanceAs (Decidable (∀ v ∈ r.values, ∀ s ∈ v.texts, StoredModerate s))

theorem StoredModerate.not_late {bound : Bound} {storage display : Zone} {s : String}
    (h : StoredModerate s) : ¬StoredLate bound storage display s := by
  rintro ⟨form, hread, hlate⟩
  have hnear := h form hread
  have hbounds := Instant.calendar_bounds
  have hlast := Zone.lastSecond_eq
  rw [hundredMillennia] at hnear
  cases form with
  | absolute t => exact hlate
  | wallTime w =>
    have hend := hlate.1
    rw [StorageForm.reading] at hnear
    omega
  | date d =>
    rw [StorageForm.reading, WallTime.seconds_dayStart, hlate.2.1] at hnear
    omega

/-- Whether an instant is about as close to 1970 as a moderate stored time. -/
def Instant.Moderate (t : Instant) : Prop :=
  -3200000000000 ≤ t.seconds ∧ t.seconds ≤ 3200000000000

/-- Clocks show a moderate stored time at an instant that is moderate too. -/
theorem StoredModerate.moderate_instant {bound : Bound} {storage display : Zone} {s : String}
    {t : Instant} (h : StoredModerate s) (hstorage : storage.Regular) (hdisplay : display.Regular)
    (ht : storedInstant? bound storage display s = some t) : t.Moderate := by
  obtain ⟨form, hread, rfl⟩ := Option.map_eq_some_iff.mp ht
  have hnear := h form hread
  have hinstant : form.reading.seconds - 3 * 86400 < (form.instant bound storage display).seconds ∧
      (form.instant bound storage display).seconds < form.reading.seconds + 3 * 86400 :=
    form.instant_near hstorage hdisplay
  rw [hundredMillennia] at hnear
  rw [Instant.Moderate]
  omega

theorem Zone.not_showsOutside {z : Zone} (hz : z.Regular) {t : Instant}
    (ht : -8000000000000 ≤ t.seconds ∧ t.seconds ≤ 8000000000000) : ¬z.ShowsOutside t := by
  have hbounds := Instant.calendar_bounds
  have hfirst := firstOffset_near hz
  have hlast := lastOffset_near hz
  rw [ShowsOutside]
  omega

namespace Occurrence

variable {read : RuleReader} {o : Occurrence} {range : Range}

/-- The ends of an occurrence of moderate times. -/
theorem moderate_of_mem {zones : Zones} (hzones : zones.Regular) {r : Record}
    (hz : range.zone.Regular) (h : r.Moderate) (ho : o ∈ Collector.occurrences zones range r) :
    o.start.Moderate ∧ o.finish.Moderate := by
  obtain ⟨v, delta, storage, start, hv, hstorage, hstart, rfl⟩ := Record.values_of_occurrence ho
  have hregular := hzones _ storage hstorage
  have htexts : ∀ s ∈ v.texts, StoredModerate s := h v hv
  obtain ⟨text, htext, hread⟩ := Option.bind_eq_some_iff.mp hstart
  have hmoderate : start.Moderate :=
    (htexts text (DateValue.mem_texts.mpr (.inl htext))).moderate_instant hregular hz hread
  refine ⟨hmoderate, ?_⟩
  show (closingInstant start _).Moderate
  cases hfinish : v.endValue.bind (storedInstant? .finish storage range.zone) with
  | none => exact hmoderate
  | some t =>
    obtain ⟨text, htext, hread⟩ := Option.bind_eq_some_iff.mp hfinish
    rw [closingInstant]
    split
    · exact (htexts text (DateValue.mem_texts.mpr (.inr (.inl htext)))).moderate_instant hregular
        hz hread
    · exact hmoderate

/-- The length of an occurrence of moderate times. -/
theorem duration_near (ho : o.Proper range.zone) (hstart : o.start.Moderate)
    (hfinish : o.finish.Moderate) :
    -3 * nanosPerSecond ≤ o.duration ∧ o.duration ≤ 6400000000003 * nanosPerSecond := by
  have hlength := Instant.nanosUntil_near ho.start.2 ho.finish.2
  have hordered := ho.ordered
  rw [Instant.le_def] at hordered
  rw [Instant.Moderate] at hstart hfinish
  rw [duration]
  simp only [nanosPerSecond] at *
  omega

/-- **Moderate times do not lead out of the calendar.** -/
theorem not_overruns_of_moderate (hread : read.StaysInWindow) (hr : range.Ordinary)
    (ho : o.Proper range.zone) (hopens : o.start.Moderate) (hcloses : o.finish.Moderate) :
    ¬o.Overruns read range := by
  have hbounds := Instant.calendar_bounds
  have hlength := duration_near ho hopens hcloses
  have hstart := hr.start_near
  have hfinish := hr.finish_near
  have hback := Instant.addNanos_near (t := range.start) (by rw [hr.start_nanos]; decide)
    (-o.duration)
  have hwindow := Instant.addSeconds_near hback.2.2 (-1)
  have hafter := Instant.addSeconds_near (t := range.finish)
    (by rw [hr.finish_nanos]; decide) 1
  rw [Instant.Moderate] at hopens hcloses
  intro hover
  cases hover with
  | start h => exact Zone.not_showsOutside hr.zone (by omega) h
  | finish _ h => exact Zone.not_showsOutside hr.zone (by omega) h
  | length _ h =>
    refine h ⟨Instant.inCalendar_iff.mpr ?_, Instant.inCalendar_iff.mpr ?_⟩
    · rw [reachBack]
      simp only [nanosPerSecond] at *
      omega
    · rw [reachBack]
      simp only [nanosPerSecond] at *
      omega
  | @recurrence starts t hstarts ht _ h =>
    obtain ⟨⟨hlow, hhigh⟩, hnanos⟩ := mem_ruleStarts hread hstarts ht
    rw [Instant.le_def, reachBack] at hlow
    rw [Instant.le_def] at hhigh
    have hend := Instant.addNanos_near hnanos o.duration
    simp only [nanosPerSecond] at *
    have hmax : (max (t.addNanos o.duration) t).seconds ≤ 8000000000000 ∧
        -8000000000000 ≤ (max (t.addNanos o.duration) t).seconds := by
      rcases max_choice (t.addNanos o.duration) t with heq | heq
      · rw [heq]
        omega
      · rw [heq]
        omega
    rcases h with hout | ⟨-, hout | hout⟩
    · refine Bool.false_ne_true (hout.symm.trans (Instant.inCalendar_iff.mpr ?_))
      omega
    · exact Zone.not_showsOutside hr.zone (by omega) hout
    · exact Zone.not_showsOutside hr.zone ⟨hmax.2, hmax.1⟩ hout

end Occurrence

/-- **Records of moderate times do not reach past the calendar.** -/
theorem Record.not_overruns_of_moderate {zones : Zones} (hzones : zones.Regular)
    {read : RuleReader} (hread : read.StaysInWindow) {range : Range} (hr : range.Ordinary)
    {r : Record} (h : r.Moderate) : ¬r.Overruns zones read range := by
  rintro (⟨v, hv, storage, -, hlate⟩ | ⟨o, ho, hover⟩)
  · have htexts : ∀ s ∈ v.texts, StoredModerate s := h v hv
    rcases hlate with ⟨s, hs, hlate⟩ | ⟨-, ⟨s, hs, hlate⟩ | ⟨-, s, hs, hlate⟩⟩
    · exact (htexts s (DateValue.mem_texts.mpr (.inl hs))).not_late hlate
    · exact (htexts s (DateValue.mem_texts.mpr (.inr (.inl hs)))).not_late hlate
    · exact (htexts s (DateValue.mem_texts.mpr (.inr (.inr hs)))).not_late hlate
  · obtain ⟨hopens, hcloses⟩ := Occurrence.moderate_of_mem hzones hr.zone h ho
    exact Occurrence.not_overruns_of_moderate hread hr
      (Occurrence.proper_of_mem hzones hr.zone ho) hopens hcloses hover

namespace Settings

/-- **No record ends a render** unless it reaches past the calendar.  For settings without a fault
and an accepted argument with a year of four digits, zones that are regular, and rules that a reader
can expand or refuses, the render ends exactly if no record that counts overruns; it does if the
stored times lie within a hundred thousand years of 1970. -/
theorem render_completes {zones : Zones} (hzones : zones.Regular) {read : RuleReader}
    (hread : read.StaysInWindow) (s : Settings) (records : List Record)
    (argument : Option String) (today : Date) {zone : Zone} {range : Range}
    (hvalid : s.fault? zones = none) (hzone : s.zone zones = .ok zone)
    (h : Range.ofArgument ⟨zone, today, s.style.firstDay⟩ argument s.calendarType = .ok range)
    (hyear : s.calendarType = .day → ∀ d, s.Names argument d → 0 ≤ d.year ∧ d.year ≤ 9999)
    (hharmless : ∀ r ∈ Collector.fresh [] records, ∀ o ∈ Collector.occurrences zones range r,
      ∀ fault, o.ruleStarts read range = .error fault → fault.isFatal = false) :
    (s.renderFits zones (expandWith read) records argument today = true ↔
        ∀ r ∈ Collector.fresh [] records, ¬r.Overruns zones read range) ∧
      ((∀ r ∈ records, r.Moderate) →
        s.renderFits zones (expandWith read) records argument today = true) := by
  have hr : range.Ordinary := by
    refine Range.ordinary_of_ofArgument (regular_zone hzones hzone) (firstDay_le hvalid) h
      fun hday d hd => hyear hday d ?_
    rwa [Names, hday]
  have hrange : s.rangeOf zones argument today = .ok range := by
    rw [rangeOf_eq hvalid hzone, h]
    rfl
  have hfits : s.renderFits zones (expandWith read) records argument today = true ↔
      ∀ r ∈ Collector.fresh [] records, ¬r.Overruns zones read range := by
    rw [renderFits_eq hzones (expandWith read) records hrange, List.all_eq_true]
    exact forall₂_congr fun r hfresh =>
      Record.recordFits_iff hread (c := s.collector zones (expandWith read)) hzones rfl hr
        (hharmless r hfresh)
  refine ⟨hfits, fun hmoderate => hfits.mpr fun r hfresh => ?_⟩
  exact Record.not_overruns_of_moderate hzones hread hr (hmoderate r
    ((Collector.fresh_sublist [] records).subset hfresh))

/-- A talk of two days in November 2024 that comes back every week. -/
def weeklyRecord : Record where
  entityId := 1
  values :=
    [{ value := some "2024-11-02", endValue := some "2024-11-03"
       rule := some "FREQ=WEEKLY;COUNT=3" }]

/-- Reads the starts of the talk in every rule. -/
def readTalks : RuleReader := fun _ _ _ =>
  .ok (.ofList [⟨1730520000, 0⟩, ⟨1731128400, 0⟩, ⟨1731733200, 0⟩])

theorem staysInWindow_readTalks : readTalks.StaysInWindow := by
  intro zone start text starts hread
  obtain rfl := Except.ok.inj hread
  refine (lists_ofList (by decide)).staysInWindow ?_
  show ∀ t ∈ [_, _, _], _
  decide

/-- The weekly talk is rendered, by the rules of this library and by the list of its starts. -/
theorem render_completes_november :
    (Zones.listed.Regular ∧
        newYorkMonths.fault? .listed = none ∧ newYorkMonths.zone .listed = .ok .newYork ∧
        Range.ofArgument ⟨.newYork, ⟨20042⟩, newYorkMonths.style.firstDay⟩ (some "2024-11")
          newYorkMonths.calendarType = .ok Occurrence.november ∧
        ∀ r ∈ [weeklyRecord], r.Moderate) ∧
      ∀ read ∈ [ruleReader .listed, readTalks],
        (read.StaysInWindow ∧
          ∀ r ∈ Collector.fresh [] [weeklyRecord],
            ∀ o ∈ Collector.occurrences .listed Occurrence.november r,
              ∀ fault, o.ruleStarts read Occurrence.november = .error fault →
                fault.isFatal = false) ∧
        newYorkMonths.renderFits .listed (expandWith read) [weeklyRecord] (some "2024-11")
          ⟨20042⟩ = true := by
  have hvalid : newYorkMonths.fault? .listed = none := by decide +kernel
  have hzone : newYorkMonths.zone .listed = .ok .newYork := by decide +kernel
  have hmade : Range.ofArgument ⟨.newYork, ⟨20042⟩, newYorkMonths.style.firstDay⟩
      (some "2024-11") newYorkMonths.calendarType = .ok Occurrence.november := by
    decide +kernel
  have hmoderate : ∀ r ∈ [weeklyRecord], r.Moderate := by decide +kernel
  have hreads : ∀ read ∈ [ruleReader .listed, readTalks], read.StaysInWindow := by
    simpa using ⟨staysInWindow_ruleReader .listed, staysInWindow_readTalks⟩
  have hlists : ∀ read ∈ [ruleReader .listed, readTalks],
      ∀ r ∈ Collector.fresh [] [weeklyRecord],
        ∀ o ∈ Collector.occurrences .listed Occurrence.november r,
          (o.ruleStarts read Occurrence.november).toBool = true := by
    decide +kernel
  refine ⟨⟨Zones.regular_listed, hvalid, hzone, hmade, hmoderate⟩, fun read hmem => ?_⟩
  have hread := hreads read hmem
  have hharmless : ∀ r ∈ Collector.fresh [] [weeklyRecord],
      ∀ o ∈ Collector.occurrences .listed Occurrence.november r,
        ∀ fault, o.ruleStarts read Occurrence.november = .error fault →
          fault.isFatal = false := by
    intro r hr o ho fault hfault
    have hok := hlists read hmem r hr o ho
    rw [hfault] at hok
    cases hok
  obtain ⟨-, hcompletes⟩ := render_completes Zones.regular_listed hread newYorkMonths
    [weeklyRecord] (some "2024-11") ⟨20042⟩ hvalid hzone hmade (fun hday => by cases hday)
    hharmless
  exact ⟨⟨hread, hharmless⟩, hcompletes hmoderate⟩

/-- A calendar of days on the clocks of Kiritimati, fourteen hours ahead of universal time. -/
def kiritimatiDays : Settings where
  calendarType := .day
  zoneName := "Pacific/Kiritimati"

/-- A record at the last second of the calendar. -/
def lastSecondRecord : Record where
  entityId := 1
  values := [{ value := some "8210266876799" }]

/-- The clocks of Kiritimati show the last second of the calendar on a date after it: the record
ends the render of a day in 2025, though it has no rule that could be refused. -/
theorem not_renderFits_lastSecond :
    kiritimatiDays.validate .listed = .ok () ∧
      (kiritimatiDays.rangeOf .listed (some "2025-04-03") ⟨20193⟩).toBool = true ∧
      (∀ v ∈ lastSecondRecord.values, v.rule? = none) ∧
      kiritimatiDays.renderFits .listed (ruleExpander .listed) [lastSecondRecord]
        (some "2025-04-03") ⟨20193⟩ = false := by
  decide +kernel

end Settings
end Almanac
