import Almanac.AllDay
import Almanac.Text.Blank
import Almanac.Text.Pieces

/-! # Display options

How a calendar is laid out: which rows and links it has, how many items a day shows, and
how the items of a day are grouped by time.
-/
namespace Almanac

/-- What happens to a day with too many items. -/
inductive Overflow where
  /-- The first items are shown, with a link to the rest. -/
  | more
  /-- No item is shown, only a link to the day. -/
  | hide
  deriving DecidableEq, Repr

/-- The name of a behavior in output. -/
def Overflow.name : Overflow → String
  | more => "more"
  | hide => "hide"

/-- How the items of a day are grouped by time. -/
inductive Grouping where
  /-- Every item under its own time. -/
  | none
  /-- By the hour. -/
  | hour
  /-- By the half hour. -/
  | half
  /-- By a list of times. -/
  | custom (times : List String)
  deriving DecidableEq, Repr

namespace Grouping

/-- The custom grouping of a text of times between commas. -/
def ofList (s : String) : Grouping :=
  .custom <| (Text.splitAt ',' s.toList).map (fun cs => Text.trim (String.ofList cs))
    |>.filter (· ≠ "")

/-- The boundary texts of a grouping. -/
def boundaries : Grouping → List String
  | none => []
  | hour => (List.range 24).map fun h => Text.pad 2 h ++ ":00:00"
  | half => (List.range 48).map fun n =>
      Text.pad 2 (n / 2) ++ ":" ++ Text.pad 2 (n % 2 * 30) ++ ":00"
  | custom times => times

/-- Whether empty buckets are shown too: only for times that are given. -/
def showsEmptyTimes : Grouping → Bool
  | custom times => times ≠ []
  | _ => false

end Grouping

/-- Templates for the links to other calendars. -/
structure Links where
  day : Option String := none
  week : Option String := none
  month : Option String := none
  deriving DecidableEq, Repr

/-- The place in a template where the date argument goes. -/
def linkMark : List Char := "\x7barg\x7d".toList

/-- A template with the argument put in; a blank template gives no link. -/
def expandLink (template : Option String) (argument : String) : Option String :=
  match template with
  | none => none
  | some text =>
    let text := Text.trim text
    if text = "" then none
    else some (String.ofList (Text.replaceAll linkMark argument.toList text.toList))

namespace Links

variable (l : Links) (argument : String)

/-- The link to a day. -/
def dayUrl : Option String := expandLink l.day argument

/-- The link to a week. -/
def weekUrl : Option String := expandLink l.week argument

/-- The link to a month. -/
def monthUrl : Option String := expandLink l.month argument

end Links

/-- The display options of a calendar. -/
structure Style where
  /-- A compact calendar that only marks the days with events. -/
  mini : Bool := false
  showWeekNumbers : Bool := false
  /-- The most items of a day that are shown; 0 shows all. -/
  maxItems : Nat := 0
  overflow : Overflow := .more
  grouping : Grouping := .hour
  /-- Whether long and all-day items are laid out as bands. -/
  multiDayTheme : Bool := true
  /-- The weekday on which a week row starts, counted from Sunday. -/
  firstDay : Nat := 0
  /-- The number of letters of a day name; 99 for the whole name. -/
  nameSize : Nat := 3
  linkToDate : Bool := true
  links : Links := {}
  precision : Precision := {}
  deriving DecidableEq, Repr

/-- Why settings cannot be used. -/
inductive SettingsError where
  | unknownZone (name : String)
  | emptyViewId
  | firstDay (n : Nat)
  | nameSize (n : Nat)
  | timeIncrement (n : Nat)
  | emptyGrouping
  | badColor (text : String)
  deriving DecidableEq, Repr

/-- The message of an error. -/
def SettingsError.message : SettingsError → String
  | unknownZone name => "Unknown time zone: " ++ name
  | emptyViewId => "View id cannot be empty"
  | firstDay n => "First day of week must be between 0 and 6, got " ++ Text.pad 0 n
  | nameSize n => "Day name size must be 1, 2, 3 or 99, got " ++ Text.pad 0 n
  | timeIncrement n => "Time increment must be between 1 and 59, got " ++ Text.pad 0 n
  | emptyGrouping => "Custom groupby times cannot be empty"
  | badColor text => "'" ++ text ++ "' is not a valid hex color"

namespace Style

variable (s : Style)

/-- The first fault of the options, if there is one. -/
def fault? : Option SettingsError :=
  if 6 < s.firstDay then some (.firstDay s.firstDay)
  else if s.nameSize ∉ [1, 2, 3, 99] then some (.nameSize s.nameSize)
  else if s.precision.increment = 0 ∨ 59 < s.precision.increment then
    some (.timeIncrement s.precision.increment)
  else if s.grouping = .custom [] then some .emptyGrouping
  else none

/-- Whether a day with `count` items shows too many. -/
def truncates (count : Nat) : Bool :=
  0 < s.maxItems && s.maxItems < count

end Style
end Almanac
