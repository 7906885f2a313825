import Almanac.Form.Style
import Almanac.Settings
import Almanac.Toml.Writer

/-! # Settings in documents

The fields of a settings document, and the document in TOML.  In TOML the plain values of
a table come before the tables inside it, and a link template that is missing is left out.
-/
namespace Almanac

/-- The granularity of a name, letter for letter. -/
def Granularity.named? : String → Option Granularity
  | "year" => some year
  | "month" => some month
  | "week" => some week
  | "day" => some day
  | _ => none

namespace LegendMode

/-- The name in documents. -/
def name : LegendMode → String
  | none => "none"
  | type => "type"
  | taxonomy => "taxonomy"

/-- The mode of a name. -/
def named? : String → Option LegendMode
  | "none" => some none
  | "type" => some type
  | "taxonomy" => some taxonomy
  | _ => Option.none

end LegendMode

namespace Legend

/-- The fields of a legend. -/
def fieldNames : List String := ["mode", "type_colors", "type_labels", "taxonomy_colors"]

/-- A legend. -/
def ofValue? (dialect : Dialect) (v : Value) : Option Legend := do
  let f ← RecordFields.read? dialect fieldNames v
  return {
    mode := ← f.default? "mode" (Value.named? dialect LegendMode.named?) .none
    typeColors := ← f.default? "type_colors" Value.dictionary? ∅
    typeLabels := ← f.default? "type_labels" Value.dictionary? ∅
    taxonomyColors := ← f.default? "taxonomy_colors" Value.dictionary? ∅ }

/-- A legend in a document. -/
def toValue (l : Legend) : Value :=
  .table [
    ("mode", .string l.mode.name),
    ("type_colors", .ofDictionary l.typeColors),
    ("type_labels", .ofDictionary l.typeLabels),
    ("taxonomy_colors", .ofDictionary l.taxonomyColors)]

end Legend

namespace Settings

/-- The fields of settings. -/
def fieldNames : List String := ["calendar_type", "timezone", "view_id", "style", "legend"]

/-- Settings, whether or not they are valid. -/
def ofValue? (dialect : Dialect) (v : Value) : Option Settings := do
  let f ← RecordFields.read? dialect fieldNames v
  let standard : Settings := {}
  return {
    calendarType :=
      ← f.default? "calendar_type" (Value.named? dialect Granularity.named?) standard.calendarType
    zoneName := ← f.default? "timezone" Value.string? standard.zoneName
    viewId := ← f.default? "view_id" Value.string? standard.viewId
    style := ← f.default? "style" (Style.ofValue? dialect) standard.style
    legend := ← f.default? "legend" (Legend.ofValue? dialect) standard.legend }

/-- Settings in a document. -/
def toValue (s : Settings) : Value :=
  .table [
    ("calendar_type", .string s.calendarType.name),
    ("timezone", .string s.zoneName),
    ("view_id", .string s.viewId),
    ("style", s.style.toValue),
    ("legend", s.legend.toValue)]

/-! ## The settings document in TOML -/

open Toml (assignLine headerLine textChars boolChars listChars)

/-- A line that gives a text to a key. -/
def textLine (key value : String) : List Char :=
  assignLine key (textChars value.toList)

/-- A line that gives a truth value to a key. -/
def flagLine (key : String) (value : Bool) : List Char :=
  assignLine key (boolChars value)

/-- A line that gives a number to a key. -/
def countLine (key : String) (value : Nat) : List Char :=
  assignLine key (Text.natChars value)

/-- A line for a text that may be missing. -/
def optionLine (key : String) : Option String → List Char
  | some value => textLine key value
  | none => []

/-- The line of a grouping that is no list. -/
def groupingLine : Grouping → List Char
  | .none => textLine "group_by_times" "none"
  | .hour => textLine "group_by_times" "hour"
  | .half => textLine "group_by_times" "half"
  | .custom _ => []

/-- The table of a grouping that is a list. -/
def groupingTable : Grouping → List Char
  | .custom times =>
    headerLine ["style", "group_by_times"] ++ assignLine "custom" (listChars times)
  | _ => []

/-- The tables of the display options. -/
def styleTables (s : Style) : List Char :=
  headerLine ["style"] ++
    flagLine "mini" s.mini ++
    flagLine "show_week_numbers" s.showWeekNumbers ++
    countLine "max_items" s.maxItems ++
    textLine "max_items_behavior" s.overflow.name ++
    groupingLine s.grouping ++
    flagLine "multi_day_theme" s.multiDayTheme ++
    countLine "first_day_of_week" s.firstDay ++
    countLine "name_size" s.nameSize ++
    flagLine "link_to_date" s.linkToDate ++
    textLine "time_granularity" s.precision.granularity.name ++
    countLine "time_increment" s.precision.increment ++
    groupingTable s.grouping ++
    headerLine ["style", "granularity_links"] ++
    optionLine "day" s.links.day ++
    optionLine "week" s.links.week ++
    optionLine "month" s.links.month

/-- The table of a dictionary. -/
def dictionaryTable (names : List String) (d : Dictionary) : List Char :=
  headerLine names ++ d.entries.flatMap fun (key, value) => textLine key value

/-- The tables of a legend. -/
def legendTables (l : Legend) : List Char :=
  headerLine ["legend"] ++
    textLine "mode" l.mode.name ++
    dictionaryTable ["legend", "type_colors"] l.typeColors ++
    dictionaryTable ["legend", "type_labels"] l.typeLabels ++
    dictionaryTable ["legend", "taxonomy_colors"] l.taxonomyColors

/-- The settings document in TOML. -/
def toToml (s : Settings) : String :=
  String.ofList <|
    textLine "calendar_type" s.calendarType.name ++
      textLine "timezone" s.zoneName ++
      textLine "view_id" s.viewId ++
      styleTables s.style ++
      legendTables s.legend

end Settings

/-- Why a settings document cannot be used. -/
inductive DocumentError where
  /-- It is not TOML, or not of the form of settings. -/
  | malformed
  /-- Its settings have a fault. -/
  | invalid (fault : SettingsError)
  deriving DecidableEq, Repr

/-- The message of settings with a fault. -/
def SettingsError.invalidMessage (fault : SettingsError) : String :=
  "Invalid settings: " ++ fault.message

/-- The valid settings of a TOML document. -/
def Settings.ofToml (zones : Zones) (text : String) : Except DocumentError Settings :=
  match (Toml.read? text).bind (Settings.ofValue? Toml.dialect) with
  | none => .error .malformed
  | some s =>
    match s.fault? zones with
    | some fault => .error (.invalid fault)
    | none => .ok s

end Almanac
