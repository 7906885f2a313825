import Almanac.Legend
import Almanac.Range
import Almanac.Zone

/-! # Calendar settings

What a site configures: which calendar is shown, in which zone and style and with which
legend.
-/
namespace Almanac

/-- The settings of a calendar. -/
structure Settings where
  calendarType : Granularity := .month
  /-- The name of the display zone. -/
  zoneName : String := "UTC"
  /-- The beginning of every cell's identifier. -/
  viewId : String := "calendar"
  style : Style := {}
  legend : Legend := {}
  deriving DecidableEq, Repr

namespace Settings

variable (zones : Zones) (s : Settings)

/-- The display zone. -/
def zone : Except SettingsError Zone :=
  match zones s.zoneName with
  | some z => .ok z
  | none => .error (.unknownZone s.zoneName)

/-- The first fault of the settings, if there is one: of the zone, the view identifier,
the style, the legend, in this order. -/
def fault? : Option SettingsError :=
  if (zones s.zoneName).isNone then some (.unknownZone s.zoneName)
  else if Text.trim s.viewId = "" then some .emptyViewId
  else s.style.fault?.or s.legend.fault?

/-- Refuses settings with a fault. -/
def validate : Except SettingsError Unit :=
  match s.fault? zones with
  | some e => .error e
  | none => .ok ()

theorem validate_eq_ok_iff {zones : Zones} {s : Settings} :
    s.validate zones = .ok () ↔ s.fault? zones = none := by
  rw [validate]
  cases s.fault? zones <;> simp

end Settings
end Almanac
