import Almanac.Document
import Almanac.Style

/-! # Display options in documents

The fields of the display options, with the value each has when it is not given.
-/
namespace Almanac

/-- The largest 8-bit number. -/
def maxByte : Nat := 255

/-- The largest 32-bit number. -/
def maxWord : Nat := 4294967295

namespace TimeGranularity

/-- The name in documents. -/
def name : TimeGranularity → String
  | second => "second"
  | minute => "minute"
  | hour => "hour"

/-- The unit of a name. -/
def named? : String → Option TimeGranularity
  | "second" => some second
  | "minute" => some minute
  | "hour" => some hour
  | _ => none

end TimeGranularity

/-- The behavior of a name. -/
def Overflow.named? : String → Option Overflow
  | "more" => some more
  | "hide" => some hide
  | _ => none

namespace Grouping

/-- The grouping of a name. -/
def named? : String → Option Grouping
  | "none" => some none
  | "hour" => some hour
  | "half" => some half
  | _ => Option.none

/-- A grouping: a name, or a table with the list of times under `custom`. -/
def ofValue? (dialect : Dialect) (v : Value) : Option Grouping :=
  match v.choice? with
  | some ("custom", some times) => (times.list? Value.string?).map custom
  | _ => v.named? dialect named?

/-- A grouping in a document. -/
def toValue : Grouping → Value
  | none => .string "none"
  | hour => .string "hour"
  | half => .string "half"
  | custom times => .table [("custom", .ofStrings times)]

end Grouping

namespace Links

/-- The fields of the link templates. -/
def fieldNames : List String := ["day", "week", "month"]

/-- Link templates. -/
def ofValue? (dialect : Dialect) (v : Value) : Option Links := do
  let f ← RecordFields.read? dialect fieldNames v
  return {
    day := ← f.default? "day" (Value.optional? Value.string?) none
    week := ← f.default? "week" (Value.optional? Value.string?) none
    month := ← f.default? "month" (Value.optional? Value.string?) none }

/-- Link templates in a document. -/
def toValue (l : Links) : Value :=
  .table [("day", .ofString? l.day), ("week", .ofString? l.week), ("month", .ofString? l.month)]

end Links

namespace Style

/-- The fields of the display options. -/
def fieldNames : List String :=
  ["mini", "show_week_numbers", "max_items", "max_items_behavior", "group_by_times",
    "multi_day_theme", "first_day_of_week", "name_size", "link_to_date", "granularity_links",
    "time_granularity", "time_increment"]

/-- Display options. -/
def ofValue? (dialect : Dialect) (v : Value) : Option Style := do
  let f ← RecordFields.read? dialect fieldNames v
  let standard : Style := {}
  return {
    mini := ← f.default? "mini" Value.bool? standard.mini
    showWeekNumbers := ← f.default? "show_week_numbers" Value.bool? standard.showWeekNumbers
    maxItems := ← f.default? "max_items" (Value.nat? maxWord) standard.maxItems
    overflow :=
      ← f.default? "max_items_behavior" (Value.named? dialect Overflow.named?) standard.overflow
    grouping := ← f.default? "group_by_times" (Grouping.ofValue? dialect) standard.grouping
    multiDayTheme := ← f.default? "multi_day_theme" Value.bool? standard.multiDayTheme
    firstDay := ← f.default? "first_day_of_week" (Value.nat? maxByte) standard.firstDay
    nameSize := ← f.default? "name_size" (Value.nat? maxByte) standard.nameSize
    linkToDate := ← f.default? "link_to_date" Value.bool? standard.linkToDate
    links := ← f.default? "granularity_links" (Links.ofValue? dialect) standard.links
    precision := {
      granularity :=
        ← f.default? "time_granularity" (Value.named? dialect TimeGranularity.named?)
          standard.precision.granularity
      increment := ←
        f.default? "time_increment" (Value.nat? maxWord) standard.precision.increment } }

/-- Display options in a document. -/
def toValue (s : Style) : Value :=
  .table [
    ("mini", .bool s.mini),
    ("show_week_numbers", .bool s.showWeekNumbers),
    ("max_items", .nat s.maxItems),
    ("max_items_behavior", .string s.overflow.name),
    ("group_by_times", s.grouping.toValue),
    ("multi_day_theme", .bool s.multiDayTheme),
    ("first_day_of_week", .nat s.firstDay),
    ("name_size", .nat s.nameSize),
    ("link_to_date", .bool s.linkToDate),
    ("granularity_links", s.links.toValue),
    ("time_granularity", .string s.precision.granularity.name),
    ("time_increment", .nat s.precision.increment)]

end Style
end Almanac
