import Almanac.Proofs.ArgumentForms
import Almanac.Proofs.Civil.ReadDates
import Almanac.Proofs.Week.Views
import Almanac.Proofs.Zone.Ends

/-! # The dates that a calendar reads

Years of four digits are far from the bounds of the calendar, so an argument of a year, a month
or a week always has a range; that of a day has one unless it is the last date of the calendar
and the clocks are behind universal time, which then show its end when the calendar is over
(`Range.ofArgument_eq_outsideCalendar_iff`).

Where there is a range, its bounds are shown on dates of the calendar (`Range.fits_of_ofArgument`),
and so are all the dates of its view (`Layout.fits_of_ofArgument`): the first date is the first
of the period or, if the clocks skip that one, the date before.  So nothing but a record can read
past the calendar (`Settings.renderFits_eq`).
-/
namespace Almanac

namespace Date

/-- A date around the years of four digits is far from the bounds of the calendar. -/
theorem yearStart_margin {y : Int} (hy : -1 ≤ y ∧ y ≤ 9999) :
    first.dayNumber + 7 ≤ yearStart y ∧ yearStart (y + 1) + 7 ≤ last.dayNumber := by
  have hbegin : first.dayNumber + 7 ≤ yearStart (-1) := by decide
  have hend : yearStart 10000 + 7 ≤ last.dayNumber := by decide
  have hfirst := yearStart_mono hy.1
  have hlast : yearStart (y + 1) ≤ yearStart 10000 := yearStart_mono (by omega)
  omega

/-- The year of a date or of the date before it. -/
theorem year_near {d e : Date} (hle : d.addDays (-1) ≤ e) (hge : e ≤ d) :
    d.year - 1 ≤ e.year ∧ e.year ≤ d.year := by
  obtain ⟨hdbegin, hdend⟩ := d.year_spec
  obtain ⟨hebegin, heend⟩ := e.year_spec
  rw [le_def, dayNumber_addDays] at hle
  rw [le_def] at hge
  constructor
  · by_contra hlt
    have hmono : yearStart (e.year + 1) ≤ yearStart (d.year - 1) := yearStart_mono (by omega)
    have hsucc := yearStart_succ (d.year - 1)
    have hlength := yearLength_eq (d.year - 1)
    rw [Int.sub_add_cancel] at hsucc
    omega
  · by_contra hlt
    have hmono : yearStart (d.year + 1) ≤ yearStart e.year := yearStart_mono (by omega)
    omega

end Date

namespace Range

variable {context : Context} {argument : Option String} {text : String} {r : Range}
  {granularity : Granularity} {first last : Date}

/-! ## Arguments without a range -/

/-- Dates of the calendar have a range, unless the clocks show the end of its last date when it
is over. -/
theorem ofDates_eq_outsideCalendar_iff (hz : context.zone.Regular) (hle : first ≤ last)
    (hfirst : first.inCalendar = true) (hlast : last.inCalendar = true) :
    ofDates context granularity first last = .error .outsideCalendar ↔
      last = Date.last ∧ context.zone.lastOffset < 0 := by
  have hend := Zone.canResolve_dayEnd_iff hz hlast
  rw [ofDates, if_neg (not_lt.mpr hle), Zone.canResolve_dayStart hz hfirst, Bool.true_and]
  by_cases hlate : last = Date.last ∧ context.zone.lastOffset < 0
  · rw [if_neg fun hresolved => hend.mp hresolved hlate]
    simp [hlate]
  · rw [if_pos (hend.mpr hlate)]
    simp [hlate]

/-- **Which arguments have no range**: only that of the last date of the calendar, on clocks that
are behind universal time. -/
theorem ofArgument_eq_outsideCalendar_iff (hz : context.zone.Regular)
    (hfirst : context.firstDay ≤ 6) :
    ofArgument context argument granularity = .error .outsideCalendar ↔
      (granularity = .day ∧ Argument.day? (Text.trim (argument.getD "")) = some Date.last) ∧
        context.zone.lastOffset < 0 := by
  rw [ofArgument_getD]
  generalize argument.getD "" = text
  by_cases hday : granularity = .day
  · subst hday
    rw [eq_self, true_and]
    cases hread : Argument.day? (Text.trim text) with
    | none =>
      rw [ofArgument_of_day?_eq_none hread]
      split <;> simp
    | some d =>
      have hd := Argument.inCalendar_of_day? hread
      rw [ofArgument_day hread, ofDates_eq_outsideCalendar_iff hz le_rfl hd hd,
        Option.some.injEq]
  · simpa [hday] using ofArgument_ne_outsideCalendar hfirst hday text

/-! ## The bounds of a range -/

theorem fits_of_ofDates (hz : context.zone.Regular) (hfirst : first.inCalendar = true)
    (hlast : last.inCalendar = true) (h : ofDates context granularity first last = .ok r) :
    r.fits = true := by
  obtain ⟨hle, rfl⟩ := eq_of_ofDates h
  have hresolved : context.zone.canResolve (.dayEnd last) = true := by
    rw [Zone.canResolve_dayEnd_iff hz hlast, ← ofDates_eq_outsideCalendar_iff hz hle hfirst hlast,
      h]
    simp
  exact Bool.and_eq_true_iff.mpr
    ⟨Zone.shows_startOfDay hz hfirst, Zone.shows_endOfDay hz hlast hresolved⟩

/-- The dates that an argument is read as. -/
theorem exists_of_ofArgument (hfirst : context.firstDay ≤ 6)
    (h : ofArgument context argument granularity = .ok r) :
    ∃ first last, ofDates context granularity first last = .ok r ∧ first.inCalendar = true ∧
      last.inCalendar = true := by
  by_cases hday : granularity = .day
  · subst hday
    rw [ofArgument_getD] at h
    generalize argument.getD "" = text at h
    cases hread : Argument.day? (Text.trim text) with
    | none =>
      rw [ofArgument_of_day?_eq_none hread] at h
      cases h
    | some d =>
      have hd := Argument.inCalendar_of_day? hread
      rw [ofArgument_day hread] at h
      exact ⟨d, d, h, hd, hd⟩
  · obtain ⟨first, last, -, hmade, hmargin, -⟩ :=
      isPeriod_ofArgument hfirst h fun heq => absurd heq hday
    have hle := Date.le_def.mp (eq_of_ofDates hmade).1
    exact ⟨first, last, hmade, Date.inCalendar_of_dayNumber (by omega) (by omega),
      Date.inCalendar_of_dayNumber (by omega) (by omega)⟩

/-- **The clocks show the bounds of the range of an argument** on dates of the calendar. -/
theorem fits_of_ofArgument (hz : context.zone.Regular) (hfirst : context.firstDay ≤ 6)
    (h : ofArgument context argument granularity = .ok r) : r.fits = true := by
  obtain ⟨first, last, hmade, hopens, hcloses⟩ := exists_of_ofArgument hfirst h
  exact fits_of_ofDates hz hopens hcloses hmade

/-- The range of an argument is of its granularity. -/
theorem granularity_of_ofArgument (hfirst : context.firstDay ≤ 6)
    (h : ofArgument context argument granularity = .ok r) : r.granularity = granularity := by
  obtain ⟨first, last, hmade, -⟩ := exists_of_ofArgument hfirst h
  rw [(eq_of_ofDates hmade).2]

end Range

namespace Layout

open Range (ofArgument)

variable {l : Layout} {context : Range.Context} {argument : Option String}
  {granularity : Granularity} {y : Int} {m : Nat}

/-! ## The dates of a view -/

theorem monthFits_of_year (hfirstDay : l.style.firstDay ≤ 6) (hy : -1 ≤ y ∧ y ≤ 9999)
    (hm : 1 ≤ m ∧ m ≤ 12) : l.monthFits y m = true := by
  have hmargin := Date.yearStart_margin hy
  obtain ⟨hopens, hcloses⟩ := Date.year_of_month y hm
  have hend := (Date.year_eq_iff (d := .ofYMD y 12 31) (y := y)).mpr
    ⟨hopens.trans ((Date.ofYMD_le_ofYMD y m (one_le_daysInMonth y hm)).trans hcloses), le_rfl⟩
  have hyear := (Date.ofYMD y 12 31).year_spec.2
  have hbegin := Date.dayNumber_newYear y
  rw [hend] at hyear
  rw [Date.le_def] at hopens hcloses
  exact monthFits_of_margin hfirstDay hm (by omega) (by omega)

/-- A year or a month whose period begins in a year of four digits. -/
theorem fits_of_year (hfirstDay : l.style.firstDay ≤ 6)
    (hy : -1 ≤ l.range.firstDate.year ∧ l.range.firstDate.year ≤ 9999)
    (hgranularity : l.range.granularity = .year ∨ l.range.granularity = .month) :
    l.weeksFit l.style.firstDay = true ∧ l.viewFits = true := by
  have hmonths : ∀ m, 1 ≤ m ∧ m ≤ 12 → l.monthFits l.range.firstDate.year m = true :=
    fun m hm => monthFits_of_year hfirstDay hy hm
  unfold weeksFit viewFits Range.focalMonth
  rcases hgranularity with hyear | hmonth
  · rw [hyear]
    exact ⟨rfl, List.all_eq_true.mpr fun m hm => hmonths m (mem_months.mp hm)⟩
  · have hshown := hmonths _ l.range.firstDate.parts_mem.1
    rw [hmonth]
    dsimp only
    refine ⟨Bool.or_eq_true_iff.mpr (.inr (Bool.and_eq_true_iff.mpr ⟨hshown, ?_⟩)), hshown⟩
    exact List.all_eq_true.mpr fun start _ => bandsFit_of_le hfirstDay _ start

/-- A week whose row lies in the calendar. -/
theorem fits_of_week (hfirstDay : l.style.firstDay ≤ 6) (hweek : l.range.granularity = .week)
    (hbegin : Date.first.dayNumber + 6 ≤ l.range.firstDate.dayNumber)
    (hend : l.range.firstDate.dayNumber + 6 ≤ Date.last.dayNumber) :
    l.weeksFit l.style.firstDay = true ∧ l.viewFits = true := by
  have hrow := Date.dayNumber_weekStart hfirstDay l.range.firstDate
  have hfits : weekFits (l.range.firstDate.weekStart l.style.firstDay) = true := by
    rw [weekFits, Bool.and_eq_true, Date.inCalendar_iff, Date.inCalendar_iff]
    simp only [Date.le_def, Date.dayNumber_addDays]
    omega
  unfold weeksFit viewFits
  rw [hweek]
  exact ⟨Bool.and_eq_true_iff.mpr ⟨hfits, bandsFit_of_le hfirstDay _ _⟩, hfits⟩

/-- **The calendar has all dates that the view of an argument shows.** -/
theorem fits_of_ofArgument (hz : context.zone.Regular) (hfirst : context.firstDay ≤ 6)
    (hfirstDay : l.style.firstDay ≤ 6)
    (h : ofArgument context argument granularity = .ok l.range) :
    l.weeksFit l.style.firstDay = true ∧ l.viewFits = true := by
  have hgranularity := Range.granularity_of_ofArgument hfirst h
  by_cases hday : granularity = .day
  · rw [hday] at hgranularity
    unfold weeksFit viewFits
    rw [hgranularity]
    exact ⟨rfl, rfl⟩
  · obtain ⟨first, last, -, hmade, hmargin, hnames⟩ :=
      Range.isPeriod_ofArgument hfirst h fun heq => absurd heq hday
    have hle := (Range.eq_of_ofDates hmade).1
    have hnamed := (hnames first).mpr ⟨le_rfl, hle⟩
    -- The clocks show the start of the period on its first date or on the date before.
    have hbefore := Zone.le_dateAt_startOfDay hz first
    have hafter := Zone.dateAt_startOfDay_le hz first
    rw [← Range.firstDate_of_ofDates hmade] at hbefore hafter
    have hyear := Date.year_near hbefore hafter
    rw [Date.le_def] at hle hafter
    rw [Date.le_def, Date.dayNumber_addDays] at hbefore
    cases granularity with
    | year =>
      have hy := Argument.mem_of_year? hnamed
      exact fits_of_year hfirstDay (by omega) (.inl hgranularity)
    | month =>
      have hy := (Argument.mem_of_yearMonth? hnamed).1
      exact fits_of_year hfirstDay (by omega) (.inr hgranularity)
    | week => exact fits_of_week hfirstDay hgranularity (by omega) (by omega)
    | day => exact absurd rfl hday

/-- A calendar is of the granularity of its range, whatever the records. -/
theorem granularity?_assemble (l : Layout) (packerFirstDay : Nat) :
    (l.assemble (l.packWeeks packerFirstDay)).granularity? = some l.range.granularity := by
  unfold assemble packWeeks
  cases l.range.granularity with
  | year => rfl
  | month =>
    dsimp only
    split <;> rfl
  | week => rfl
  | day => rfl

end Layout

/-! ## The range of a render -/

section
variable {ε ε' α : Type} {x : Except ε α} {f : ε → ε'}

/-- Renaming its error changes no result. -/
theorem mapError_eq_ok_iff {a : α} : x.mapError f = .ok a ↔ x = .ok a := by
  cases x <;> simp [Except.mapError]

theorem mapError_eq_error_iff {e : ε'} :
    x.mapError f = .error e ↔ ∃ fault, x = .error fault ∧ f fault = e := by
  cases x <;> simp [Except.mapError]

end

namespace Settings

variable {s : Settings} {zones : Zones} {zone : Zone} {argument : Option String} {today : Date}
  {range : Range}

theorem regular_zone (hzones : zones.Regular) (hzone : s.zone zones = .ok zone) :
    zone.Regular := by
  unfold Settings.zone at hzone
  split at hzone
  · rename_i z hfound
    exact Except.ok.inj hzone ▸ hzones _ z hfound
  · cases hzone

/-- Settings without a fault have a display zone. -/
theorem exists_zone (hvalid : s.fault? zones = none) : ∃ zone, s.zone zones = .ok zone := by
  unfold fault? at hvalid
  split at hvalid
  · cases hvalid
  · rename_i hnamed
    unfold Settings.zone
    cases hzone : zones s.zoneName with
    | none => exact absurd (by rw [hzone]; rfl) hnamed
    | some zone => exact ⟨zone, rfl⟩

theorem rangeOf_eq (hvalid : s.fault? zones = none) (hzone : s.zone zones = .ok zone) :
    s.rangeOf zones argument today =
      (Range.ofArgument ⟨zone, today, s.style.firstDay⟩ argument s.calendarType).mapError
        .range := by
  rw [rangeOf, hvalid, hzone]
  dsimp only
  cases Range.ofArgument ⟨zone, today, s.style.firstDay⟩ argument s.calendarType <;> rfl

/-- The range of a render is that of its argument. -/
theorem ofArgument_of_rangeOf (h : s.rangeOf zones argument today = .ok range) :
    s.fault? zones = none ∧ ∃ zone, s.zone zones = .ok zone ∧
      Range.ofArgument ⟨zone, today, s.style.firstDay⟩ argument s.calendarType = .ok range := by
  cases hvalid : s.fault? zones with
  | some fault =>
    rw [rangeOf, hvalid] at h
    cases h
  | none =>
    obtain ⟨zone, hzone⟩ := exists_zone hvalid
    rw [rangeOf_eq hvalid hzone] at h
    exact ⟨rfl, zone, hzone, mapError_eq_ok_iff.mp h⟩

/-- **Only a record can read past the calendar** once there is a range. -/
theorem renderFits_eq (hzones : zones.Regular) (expander : Expander) (records : List Record)
    (h : s.rangeOf zones argument today = .ok range) :
    s.renderFits zones expander records argument today =
      (Collector.fresh [] records).all ((s.collector zones expander).recordFits range) := by
  obtain ⟨hvalid, zone, hzone, hmade⟩ := ofArgument_of_rangeOf h
  have hz := regular_zone hzones hzone
  have hfirstDay := firstDay_le hvalid
  obtain ⟨hweeks, hview⟩ := Layout.fits_of_ofArgument (l := s.layout zones expander records range)
    hz hfirstDay hfirstDay hmade
  change (s.layout zones expander records range).weeksFit s.style.firstDay = true at hweeks
  unfold renderFits Collector.fits
  rw [h]
  dsimp only
  rw [Range.fits_of_ofArgument hz hfirstDay hmade, hweeks, hview, Bool.true_and, Bool.and_true,
    Bool.and_true]

end Settings
end Almanac
