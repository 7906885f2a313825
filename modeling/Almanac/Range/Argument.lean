import Almanac.Civil.Fields
import Almanac.Range

/-! # Date arguments

A calendar is asked for a year, a month, a week or a day by a short text: `YYYY`;
`YYYY-MM` or `YYYYMM`; `YYYY-Www` or `YYYYWW`; a date with hyphens or of eight digits.
Blanks around the text do not count.
-/
namespace Almanac

open Text (readNat?)

/-- The granularity of a name, in letters of any case. -/
def Granularity.read? (s : String) : Option Granularity :=
  match String.ofList ((Text.trim s).toList.map Char.toLower) with
  | "year" => some year
  | "month" => some month
  | "week" => some week
  | "day" => some day
  | _ => none

/-- The message for a text that names no granularity. -/
def Granularity.unknownMessage (s : String) : String :=
  "Unknown calendar granularity: " ++
    String.ofList ((Text.trim s).toList.map Char.toLower)

namespace Argument

/-- A year: four digits. -/
def year? (cs : List Char) : Option Int :=
  if cs.length = 4 then (readNat? cs).map fun n => (n : Int) else none

/-- A number of two digits from 1 to `max`. -/
def numberUpTo? (max : Nat) (cs : List Char) : Option Nat :=
  if cs.length = 2 then
    match readNat? cs with
    | some n => if 1 ≤ n ∧ n ≤ max then some n else none
    | none => none
  else none

/-- A year and a month. -/
def yearMonth? (cs : List Char) : Option (Int × Nat) := do
  let month := match cs.drop 4 with
    | '-' :: month => month
    | month => month
  return (← year? (cs.take 4), ← numberUpTo? 12 month)

/-- A year and an ISO week. -/
def yearWeek? (cs : List Char) : Option (Int × Nat) := do
  let week := match cs.drop 4 with
    | '-' :: 'W' :: week => week
    | '-' :: 'w' :: week => week
    | week => week
  return (← year? (cs.take 4), ← numberUpTo? 53 week)

/-- A date: year, month and day with hyphens, or eight digits. -/
def day? (s : String) : Option Date :=
  match Date.read? s with
  | some d => some d
  | none =>
    if s.toList.length = 8 ∧ (readNat? s.toList).isSome then Date.readCompact? s else none

end Argument

/-- What an argument is read as, or the error that it is not of the form. -/
def Argument.require {α : Type} (text : String) (granularity : Granularity) :
    Option α → Except RangeError α
  | some a => .ok a
  | none => .error (.invalidArgument text granularity)

/-- The range an argument asks for. -/
def Range.ofArgument (context : Context) (argument : Option String) (granularity : Granularity) :
    Except RangeError Range := do
  let text := Text.trim (argument.getD "")
  if text = "" then .error .missingArgument
  else
    match granularity with
    | .year => ofYear context (← Argument.require text .year (Argument.year? text.toList))
    | .month =>
      let (y, m) ← Argument.require text .month (Argument.yearMonth? text.toList)
      ofMonth context y m
    | .week =>
      let (y, w) ← Argument.require text .week (Argument.yearWeek? text.toList)
      match ofWeek context y w with
      | .error .outsideCalendar => .error .outsideCalendar
      | .error _ => .error (.invalidArgument text .week)
      | .ok range => .ok range
    | .day => ofDay context (← Argument.require text .day (Argument.day? text))

end Almanac
