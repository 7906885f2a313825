import Almanac.Proofs.Reach

/-! # The two outcomes of a render

A render ends in a calendar or in one message, and which of the two does not depend on the
records: a value that cannot be placed is left out of the calendar, and the only failures that
are reported are those of the settings (`Settings.validate`) and of the argument
(`Range.ofArgument`).

What a record can do is to ask for a time past the calendar.  For records that do not
(`Settings.Places`) a render always ends, unless it asks for the last date of the calendar on
clocks that are behind universal time: that date ends when the calendar is over
(`Settings.PastTheEnd`).
-/
namespace Almanac

namespace Rendering

/-- A calendar of a granularity and a range. -/
structure IsCalendar (r : Rendering) (granularity : Granularity) (range : Range) : Prop where
  stage : r.stage = "rendered"
  messages : r.messages = []
  range? : r.range? = some range
  granularity? : r.grid.granularity? = some granularity

/-- Nothing but a message. -/
structure IsMessage (r : Rendering) (message : String) : Prop where
  stage : r.stage = "idle"
  messages : r.messages = [message]
  range? : r.range? = none
  grid : r.grid = .empty

end Rendering

/-- Every error has a message, but the one that ends the run. -/
theorem RenderError.exists_message {error : RenderError}
    (h : error ≠ .range .outsideCalendar) : ∃ message, error.message? = some message := by
  cases error with
  | settings fault => exact ⟨_, rfl⟩
  | range fault =>
    cases fault with
    | outsideCalendar => exact absurd rfl h
    | _ => exact ⟨_, rfl⟩

namespace Settings

variable (zones : Zones) (s : Settings)

/-- Whether the dates and times that records ask for stay within the calendar, and no rule of
theirs ends the run. -/
def Places (expander : Expander) (argument : Option String) (today : Date)
    (records : List Record) : Prop :=
  ∀ range, s.rangeOf zones argument today = .ok range →
    ∀ r ∈ Collector.fresh [] records, (s.collector zones expander).recordFits range r = true

/-- Whether a day calendar is asked for the last date of the calendar on clocks behind universal
time. -/
def PastTheEnd (argument : Option String) : Prop :=
  s.fault? zones = none ∧
    (s.calendarType = .day ∧ Argument.day? (Text.trim (argument.getD "")) = some Date.last) ∧
      ∃ zone, s.zone zones = .ok zone ∧ zone.lastOffset < 0

/-- Whether settings accept an argument: they have no fault, and it has a range. -/
def Accepts (argument : Option String) (today : Date) (range : Range) : Prop :=
  s.validate zones = .ok () ∧ ∃ zone, s.zone zones = .ok zone ∧
    Range.ofArgument ⟨zone, today, s.style.firstDay⟩ argument s.calendarType = .ok range

/-- Whether settings refuse an argument with a message: that of their own fault, or of the
fault of the argument. -/
def Refuses (argument : Option String) (today : Date) (message : String) : Prop :=
  (∃ fault, s.validate zones = .error fault ∧ message = fault.message) ∨
    s.validate zones = .ok () ∧ ∃ zone, s.zone zones = .ok zone ∧ ∃ fault,
      Range.ofArgument ⟨zone, today, s.style.firstDay⟩ argument s.calendarType = .error fault ∧
        fault.message? = some message

variable {zones} {s} {expander : Expander} {argument : Option String} {today : Date}
  {records : List Record} {range : Range}

/-! ## Which outcome -/

/-- The range of an accepted argument. -/
theorem accepts_iff :
    s.Accepts zones argument today range ↔ s.rangeOf zones argument today = .ok range := by
  constructor
  · rintro ⟨hvalidate, zone, hzone, hmade⟩
    rw [rangeOf_eq (validate_eq_ok_iff.mp hvalidate) hzone]
    exact mapError_eq_ok_iff.mpr hmade
  · intro h
    obtain ⟨hvalid, hzone⟩ := ofArgument_of_rangeOf h
    exact ⟨validate_eq_ok_iff.mpr hvalid, hzone⟩

/-- The message of an error is that of the fault that settings refuse an argument for. -/
theorem refuses_of_rangeOf {error : RenderError} {message : String}
    (h : s.rangeOf zones argument today = .error error) (hmessage : error.message? = some message) :
    s.Refuses zones argument today message := by
  cases hvalid : s.fault? zones with
  | some fault =>
    rw [rangeOf, hvalid] at h
    refine .inl ⟨fault, by rw [validate, hvalid], ?_⟩
    rw [← Except.error.inj h] at hmessage
    exact (Option.some.inj hmessage).symm
  | none =>
    obtain ⟨zone, hzone⟩ := exists_zone hvalid
    rw [rangeOf_eq hvalid hzone] at h
    obtain ⟨fault, hmade, rfl⟩ := mapError_eq_error_iff.mp h
    exact .inr ⟨validate_eq_ok_iff.mpr hvalid, zone, hzone, fault, hmade, hmessage⟩

/-- A range outside the calendar is asked for only at its very end. -/
theorem rangeOf_eq_outsideCalendar_iff (hzones : zones.Regular) :
    s.rangeOf zones argument today = .error (.range .outsideCalendar) ↔
      s.PastTheEnd zones argument := by
  cases hvalid : s.fault? zones with
  | some fault =>
    rw [rangeOf, PastTheEnd, hvalid]
    simp
  | none =>
    obtain ⟨zone, hzone⟩ := exists_zone hvalid
    have hargument : Range.ofArgument ⟨zone, today, s.style.firstDay⟩ argument s.calendarType =
          .error .outsideCalendar ↔
        (s.calendarType = .day ∧ Argument.day? (Text.trim (argument.getD "")) = some Date.last) ∧
          zone.lastOffset < 0 :=
      Range.ofArgument_eq_outsideCalendar_iff (regular_zone hzones hzone)
        (firstDay_le hvalid)
    have hend : s.PastTheEnd zones argument ↔
        (s.calendarType = .day ∧ Argument.day? (Text.trim (argument.getD "")) = some Date.last) ∧
          zone.lastOffset < 0 := by
      rw [PastTheEnd, and_iff_right hvalid, hzone]
      simp
    rw [rangeOf_eq hvalid hzone, hend, ← hargument, mapError_eq_error_iff]
    simp

/-- **A render ends** unless a record or the argument reaches past the calendar. -/
theorem renderFits_iff (hzones : zones.Regular)
    (h : s.Places zones expander argument today records) :
    s.renderFits zones expander records argument today = true ↔ ¬s.PastTheEnd zones argument := by
  have hpast : s.rangeOf zones argument today = .error (.range .outsideCalendar) ↔
      s.PastTheEnd zones argument :=
    rangeOf_eq_outsideCalendar_iff hzones
  rw [← hpast]
  cases hrange : s.rangeOf zones argument today with
  | ok range =>
    rw [renderFits_eq hzones expander records hrange, List.all_eq_true]
    simpa using h range hrange
  | error error =>
    rw [renderFits, hrange]
    split <;> simp_all

/-! ## What the outcome shows -/

theorem isCalendar_render (expander : Expander) (records : List Record)
    (h : s.rangeOf zones argument today = .ok range) :
    (s.render zones expander records argument today).IsCalendar s.calendarType range := by
  obtain ⟨hvalid, zone, hzone, hmade⟩ := ofArgument_of_rangeOf h
  rw [render_eq hvalid hzone hmade]
  refine ⟨rfl, rfl, rfl, ?_⟩
  rw [← Range.granularity_of_ofArgument (firstDay_le hvalid) hmade]
  exact Layout.granularity?_assemble (s.layout zones expander records range) s.style.firstDay

theorem isMessage_render (expander : Expander) (records : List Record) {error : RenderError}
    {message : String} (h : s.rangeOf zones argument today = .error error)
    (hmessage : error.message? = some message) :
    (s.render zones expander records argument today).IsMessage message := by
  rw [render, h]
  refine ⟨rfl, ?_, rfl, rfl⟩
  rw [Rendering.messages, hmessage]
  rfl

/-- **The outcome of a render is decided without the records.**  If they and the argument stay
within the calendar, the render ends; its stage, messages and range are those of any other such
records; and it is the calendar of an accepted argument, or the message for a refused one. -/
theorem render_outcomes {zones : Zones} (hzones : zones.Regular) (s : Settings)
    (expander : Expander) (argument : Option String) (today : Date) {records records' : List Record}
    (h : s.Places zones expander argument today records)
    (h' : s.Places zones expander argument today records') :
    (s.renderFits zones expander records argument today = true ↔ ¬s.PastTheEnd zones argument) ∧
      (¬s.PastTheEnd zones argument →
        s.renderFits zones expander records' argument today = true ∧
        ((s.render zones expander records argument today).stage =
            (s.render zones expander records' argument today).stage ∧
          (s.render zones expander records argument today).messages =
            (s.render zones expander records' argument today).messages ∧
          (s.render zones expander records argument today).range? =
            (s.render zones expander records' argument today).range?) ∧
        ((∃ range, s.Accepts zones argument today range ∧
            (s.render zones expander records argument today).IsCalendar s.calendarType range) ∨
          ∃ message, s.Refuses zones argument today message ∧
            (s.render zones expander records argument today).IsMessage message)) := by
  refine ⟨renderFits_iff hzones h, fun hend => ⟨(renderFits_iff hzones h').mpr hend, ?_⟩⟩
  cases hrange : s.rangeOf zones argument today with
  | ok range =>
    have hone := isCalendar_render expander records hrange
    have hother := isCalendar_render expander records' hrange
    refine ⟨⟨?_, ?_, ?_⟩, .inl ⟨range, accepts_iff.mpr hrange, hone⟩⟩
    · rw [hone.stage, hother.stage]
    · rw [hone.messages, hother.messages]
    · rw [hone.range?, hother.range?]
  | error error =>
    have hinside : error ≠ .range .outsideCalendar := by
      rintro rfl
      exact hend ((rangeOf_eq_outsideCalendar_iff hzones).mp hrange)
    obtain ⟨message, hmessage⟩ := RenderError.exists_message hinside
    have hone := isMessage_render expander records hrange hmessage
    have hother := isMessage_render expander records' hrange hmessage
    refine ⟨⟨?_, ?_, ?_⟩, .inr ⟨message, refuses_of_rangeOf hrange hmessage, hone⟩⟩
    · rw [hone.stage, hother.stage]
    · rw [hone.messages, hother.messages]
    · rw [hone.range?, hother.range?]

theorem places_november :
    newYorkMonths.Places .listed (ruleExpander .listed) (some "2024-11") ⟨20042⟩
      novemberRecords := by
  intro range hrange
  have hmade : newYorkMonths.rangeOf .listed (some "2024-11") ⟨20042⟩ =
      .ok Occurrence.november := by
    decide +kernel
  obtain rfl := Except.ok.inj (hmade.symm.trans hrange)
  decide +kernel

/-- November 2024 is shown with and without records. -/
theorem render_outcomes_november :
    (Zones.listed.Regular ∧
        newYorkMonths.Places .listed (ruleExpander .listed) (some "2024-11") ⟨20042⟩
          novemberRecords ∧
        newYorkMonths.Places .listed (ruleExpander .listed) (some "2024-11") ⟨20042⟩ []) ∧
      newYorkMonths.renderFits .listed (ruleExpander .listed) novemberRecords (some "2024-11")
        ⟨20042⟩ = true ∧
      (newYorkMonths.render .listed (ruleExpander .listed) novemberRecords (some "2024-11")
          ⟨20042⟩).range? =
        (newYorkMonths.render .listed (ruleExpander .listed) [] (some "2024-11")
          ⟨20042⟩).range? := by
  have hempty :
      newYorkMonths.Places .listed (ruleExpander .listed) (some "2024-11") ⟨20042⟩ [] :=
    fun _ _ _ hr => absurd hr List.not_mem_nil
  obtain ⟨hends, houtcome⟩ := render_outcomes Zones.regular_listed newYorkMonths
    (ruleExpander .listed) (some "2024-11") ⟨20042⟩ places_november hempty
  have hend : ¬newYorkMonths.PastTheEnd .listed (some "2024-11") := fun hpast => by
    cases hpast.2.1.1
  exact ⟨⟨Zones.regular_listed, places_november, hempty⟩, hends.mpr hend,
    (houtcome hend).2.1.2.2⟩

/-- A calendar of days on the clocks of New York. -/
def newYorkDays : Settings where
  calendarType := .day
  zoneName := "America/New_York"

/-- The last date of the calendar has no end on the clocks of New York: the render has neither
outcome, though the settings are valid and there is no record. -/
theorem not_renderFits_lastDate :
    newYorkDays.validate .listed = .ok () ∧
      newYorkDays.Places .listed (ruleExpander .listed) (some "+262142-12-31") ⟨20193⟩ [] ∧
      newYorkDays.renderFits .listed (ruleExpander .listed) [] (some "+262142-12-31") ⟨20193⟩ =
        false :=
  ⟨by decide +kernel, fun _ _ _ hr => absurd hr List.not_mem_nil, by decide +kernel⟩

end Settings
end Almanac
