import Almanac.Grid.View
import Almanac.Range.Argument
import Almanac.Settings

/-! # Rendering

A render turns records into the calendar of a date argument, as the settings say.
Settings with a fault and arguments that name no period end in an empty calendar and one
message; a bad value of a record only loses that value.
-/
namespace Almanac

/-- Why nothing is rendered. -/
inductive RenderError where
  | settings (fault : SettingsError)
  | range (fault : RangeError)
  deriving DecidableEq, Repr

/-- The message of an error, if it has one. -/
def RenderError.message? : RenderError → Option String
  | settings fault => some fault.message
  | range fault => fault.message?

/-- A rendered calendar with its range, or the error in its place. -/
inductive Rendering where
  | rendered (grid : Grid) (range : Range)
  | idle (error : RenderError)
  deriving DecidableEq, Repr

namespace Rendering

/-- Whether a calendar was rendered. -/
def isRendered : Rendering → Bool
  | rendered _ _ => true
  | idle _ => false

/-- The stage a render ends in. -/
def stage : Rendering → String
  | rendered _ _ => "rendered"
  | idle _ => "idle"

/-- The calendar; nothing is shown in place of an error. -/
def grid : Rendering → Grid
  | rendered grid _ => grid
  | idle _ => .empty

/-- The messages to the user. -/
def messages : Rendering → List String
  | rendered _ _ => []
  | idle error => error.message?.toList

/-- The range of the calendar. -/
def range? : Rendering → Option Range
  | rendered _ range => some range
  | idle _ => none

end Rendering

namespace Settings

variable (zones : Zones) (s : Settings)

/-- The range of a date argument. -/
def rangeOf (argument : Option String) (today : Date) : Except RenderError Range :=
  match s.fault? zones, s.zone zones with
  | some fault, _ => .error (.settings fault)
  | none, .error fault => .error (.settings fault)
  | none, .ok zone =>
    match Range.ofArgument ⟨zone, today, s.style.firstDay⟩ argument s.calendarType with
    | .error fault => .error (.range fault)
    | .ok range => .ok range

/-- The collector of a render. -/
def collector (expander : Expander) : Collector :=
  ⟨zones, expander, s.style.precision, s.legend⟩

/-- What the calendar of a range is laid out from. -/
def layout (expander : Expander) (records : List Record) (range : Range) : Layout :=
  ⟨s.style, range, ((s.collector zones expander).collect range [] records).1, s.viewId⟩

/-- Renders records for the period a date argument names. -/
def render (expander : Expander) (records : List Record) (argument : Option String)
    (today : Date) : Rendering :=
  match s.rangeOf zones argument today with
  | .error error => .idle error
  | .ok range =>
    let layout := s.layout zones expander records range
    .rendered (layout.assemble (layout.packWeeks s.style.firstDay)) range

/-- Whether the calendar has all the dates and times that a render reads. -/
def renderFits (expander : Expander) (records : List Record) (argument : Option String)
    (today : Date) : Bool :=
  match s.rangeOf zones argument today with
  | .error (.range .outsideCalendar) => false
  | .error _ => true
  | .ok range =>
    let layout := s.layout zones expander records range
    (s.collector zones expander).fits range [] records &&
      layout.weeksFit s.style.firstDay && layout.viewFits

end Settings
end Almanac
