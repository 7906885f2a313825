import Almanac.Civil.Fields
import Almanac.Recurrence.Rule
import Almanac.Text.Pieces
import Almanac.Zone

/-! # Rules in text

A rule is written as parts `NAME=value` between semicolons.  A text may hold further
lines: each has a property name, optional parameters and a value, and adds a rule, extra
instants or excluded instants; a line without a name is a rule.
-/
namespace Almanac

open Text (splitAt splitFirst? splitBytes? byteCount capitals readNatUpTo? readIntIn?)

namespace Frequency

/-- The frequency of a name in capitals. -/
def named? : String → Option Frequency
  | "YEARLY" => some yearly
  | "MONTHLY" => some monthly
  | "WEEKLY" => some weekly
  | "DAILY" => some daily
  | "HOURLY" => some hourly
  | "MINUTELY" => some minutely
  | "SECONDLY" => some secondly
  | _ => none

end Frequency

/-- The weekday of a code in capitals. -/
def Weekday.coded? : String → Option Weekday
  | "SU" => some sunday
  | "MO" => some monday
  | "TU" => some tuesday
  | "WE" => some wednesday
  | "TH" => some thursday
  | "FR" => some friday
  | "SA" => some saturday
  | _ => none

/-- The property of a name in capitals. -/
def Property.named? : String → Option Property
  | "FREQ" => some frequency
  | "UNTIL" => some lastInstant
  | "COUNT" => some count
  | "INTERVAL" => some interval
  | "BYSECOND" => some bySecond
  | "BYMINUTE" => some byMinute
  | "BYHOUR" => some byHour
  | "BYDAY" => some byDay
  | "BYWEEKDAY" => some byDay
  | "BYMONTHDAY" => some byMonthDay
  | "BYYEARDAY" => some byYearDay
  | "BYWEEKNO" => some byWeekNumber
  | "BYMONTH" => some byMonth
  | "BYSETPOS" => some bySetPosition
  | "WKST" => some weekStart
  | _ => none

namespace RuleText

/-- A date of eight digits, with `T` and a time of six digits and a closing `Z`
optionally behind it; the flag says whether the `Z` is there. -/
def stamp? (cs : List Char) : Option (WallTime × Bool) := do
  let (y, cs) ← Fields.exactly? 4 cs
  let (m, cs) ← Fields.exactly? 2 cs
  let (d, cs) ← Fields.exactly? 2 cs
  let date ← Date.ofYMD? y m d
  match cs with
  | [] => return (.dayStart date, false)
  | 'T' :: cs =>
    let (h, cs) ← Fields.exactly? 2 cs
    let (mi, cs) ← Fields.exactly? 2 cs
    let (s, cs) ← Fields.exactly? 2 cs
    if 24 ≤ h ∨ 60 ≤ mi ∨ 60 ≤ s then none
    else
      let w := WallTime.ofTime date (.ofHMS h mi s)
      match cs with
      | [] => return (w, false)
      | ['Z'] => return (w, true)
      | _ => none
  | _ => none

/-- The instant of a date text on the clocks of a zone, or of universal time if it ends
in `Z`. -/
def instant (zone : Zone) (cs : List Char) : Except RuleError Instant :=
  match stamp? cs with
  | none => .error (.invalidDate (String.ofList cs))
  | some (w, true) => .ok (.ofUtc w)
  | some (w, false) =>
    match zone.single? w with
    | some t => .ok t
    | none => .error (.invalidDate (String.ofList cs))

/-- A weekday with an optional number before it; a number that cannot be read, or 0, is
as good as none.  The code of the weekday is the last two bytes. -/
def weekdayChoice (cs : List Char) : Except RuleError WeekdayChoice :=
  let text := String.ofList cs
  if byteCount cs < 2 then .error (.invalidValue .byDay text)
  else
    match splitBytes? (byteCount cs - 2) cs with
    | none => .error (.cutWeekday text)
    | some (number, code) =>
      match Weekday.coded? (String.ofList (capitals code)) with
      | none => .error (.invalidValue .byDay text)
      | some day =>
        match readIntIn? (-32768) 32767 number with
        | none | some 0 => .ok (.every day)
        | some n => .ok (.nth n day)

/-- A part `NAME=value`. -/
def part (cs : List Char) : Except RuleError (Property × List Char) :=
  match splitFirst? '=' cs with
  | none => .error (.malformedPart (String.ofList cs))
  | some (name, value) =>
    match Property.named? (String.ofList (capitals name)) with
    | none => .error (.unknownProperty (String.ofList name))
    | some p => .ok (p, value)

/-- The parts of a rule, empty ones left out, none of them twice. -/
def parts (cs : List Char) : Except RuleError (List (Property × List Char)) :=
  (splitAt ';' cs).filter (· ≠ []) |>.foldlM
    (fun found piece => do
      let (p, value) ← part piece
      if found.any (·.1 = p) then .error (.repeatedProperty (String.ofList piece))
      else return found ++ [(p, value)])
    []

section Values

variable (found : List (Property × List Char))

/-- The value of a property, if it is given. -/
def value? (p : Property) : Option (List Char) :=
  (found.find? (·.1 = p)).map (·.2)

/-- The value of a property as `read` takes it; the given default where it is missing. -/
def field {α : Type} (p : Property) (default : α) (read : List Char → Option α) :
    Except RuleError α :=
  match value? found p with
  | none => .ok default
  | some text =>
    match read text with
    | some a => .ok a
    | none => .error (.invalidValue p (String.ofList text))

/-- The value of a property as numbers between commas; none of them where it is missing,
and empty pieces are left out. -/
def numbers {α : Type} (p : Property) (read : List Char → Option α) :
    Except RuleError (List α) :=
  field found p [] fun text => ((splitAt ',' text).filter (· ≠ [])).mapM read

/-- The weekdays of a rule, between commas. -/
def weekdays : Except RuleError (List WeekdayChoice) :=
  match value? found .byDay with
  | none => .ok []
  | some text => (splitAt ',' text).mapM weekdayChoice

/-- The last instant of a rule, which has to be given in universal time. -/
def lastInstant : Except RuleError (Option Instant) :=
  match value? found .lastInstant with
  | none => .ok none
  | some text =>
    match stamp? text with
    | none => .error (.invalidDate (String.ofList text))
    | some (_, false) => .error .lastNotUniversal
    | some (w, true) => .ok (some (.ofUtc w))

end Values

/-- A rule as it is written, before anything is filled in. -/
def rule (cs : List Char) : Except RuleError Rule := do
  let found ← parts cs
  if value? found .frequency = none then .error .missingFrequency
  else
    let frequency ← field found .frequency .daily fun text =>
      Frequency.named? (String.ofList (capitals text))
    return {
      frequency := frequency
      interval := ← field found .interval 1 (readNatUpTo? 65535)
      count := ← field found .count none fun text => (readNatUpTo? 4294967295 text).map some
      lastInstant := ← lastInstant found
      weekStart := ← field found .weekStart .monday fun text =>
        Weekday.coded? (String.ofList (capitals text))
      setPositions := ← numbers found .bySetPosition (readIntIn? (-2147483648) 2147483647)
      months := ← numbers found .byMonth (readNatUpTo? 255)
      monthDays := ← numbers found .byMonthDay (readIntIn? (-128) 127)
      yearDays := ← numbers found .byYearDay (readIntIn? (-32768) 32767)
      weekNumbers := ← numbers found .byWeekNumber (readIntIn? (-128) 127)
      weekdays := ← weekdays found
      hours := ← numbers found .byHour (readNatUpTo? 255)
      minutes := ← numbers found .byMinute (readNatUpTo? 255)
      seconds := ← numbers found .bySecond (readNatUpTo? 255) }

end RuleText

/-- What the name of a line says about its value. -/
inductive LineName where
  | rule | exceptionRule | extra | excluded | start
  deriving DecidableEq, Repr

/-- The meaning of a line's name. -/
def LineName.named? : String → Option LineName
  | "RRULE" => some rule
  | "EXRULE" => some exceptionRule
  | "RDATE" => some extra
  | "EXDATE" => some excluded
  | "DTSTART" => some start
  | _ => none

/-- A line taken apart: its name, its parameters and its value. -/
structure RuleLine where
  name : LineName
  parameters : List Char := []
  value : List Char := []

/-- What a line says. -/
inductive LineContent where
  | rule (r : Rule)
  | extra (ts : List Instant)
  | excluded (ts : List Instant)
  /-- Nothing that counts: a rule that takes instants away, or a second start. -/
  | ignored

namespace RuleLine

/-- A line taken apart.  Its name is a run of capital letters in front of it with a colon
or a semicolon behind; parameters stand between a semicolon and the first colon, and the
value behind that colon.  A named line without a colon has neither.  A line without a
name is a rule, with its value behind the first colon if there is one. -/
def read (cs : List Char) : Except RuleError RuleLine :=
  let named := fun (name parameters value : List Char) =>
    match LineName.named? (String.ofList name) with
    | some n => .ok ⟨n, parameters, value⟩
    | none => .error (.unknownLine (String.ofList cs))
  match cs.takeWhile Char.isUpper, cs.dropWhile Char.isUpper with
  | c :: name, ':' :: value => named (c :: name) [] value
  | c :: name, ';' :: rest =>
    match splitFirst? ':' rest with
    | some (parameters, value) => named (c :: name) parameters value
    | none => named (c :: name) [] []
  | _, _ =>
    match splitFirst? ':' cs with
    | some (_, value) => .ok ⟨.rule, [], value⟩
    | none => .ok ⟨.rule, [], cs⟩

variable (l : RuleLine)

/-- A line that its parameters make unusable. -/
def unusable : RuleError :=
  .unknownLine (String.ofList l.parameters)

/-- The parameters of a line by their names in capitals, none of them twice. -/
def parameterList : Except RuleError (List (String × String)) :=
  ((splitAt ';' l.parameters).filter (· ≠ [])).foldlM
    (fun found piece =>
      match splitFirst? '=' piece with
      | none => .error l.unusable
      | some (name, value) =>
        let name := String.ofList (capitals name)
        if found.any (·.1 = name) then .error l.unusable
        else .ok (found ++ [(name, String.ofList value)]))
    []

/-- The zone that the parameters of a line name; universal time if they name none. -/
def zone (zones : Zones) : Except RuleError Zone := do
  (← l.parameterList).foldlM
    (fun zone (name, value) =>
      match name with
      | "TZID" =>
        match zones value with
        | some z => .ok z
        | none => .error l.unusable
      | "VALUE" => if value = "DATE" ∨ value = "DATE-TIME" then .ok zone else .error l.unusable
      | _ => .error l.unusable)
    Zone.utc

/-- The instants of a line, between commas; empty pieces are left out. -/
def instants (zones : Zones) : Except RuleError (List Instant) := do
  let zone ← l.zone zones
  ((splitAt ',' l.value).filter (· ≠ [])).mapM (RuleText.instant zone)

/-- The rule of a line, which takes no parameters. -/
def rule : Except RuleError Rule :=
  if l.parameters = [] then RuleText.rule l.value else .error l.unusable

/-- What a line says.  The rule of an ignored line still has to be one. -/
def content (zones : Zones) : Except RuleError LineContent := do
  match l.name with
  | .rule => return .rule (← l.rule)
  | .exceptionRule =>
    let _ ← l.rule
    return .ignored
  | .extra => return .extra (← l.instants zones)
  | .excluded => return .excluded (← l.instants zones)
  | .start => return .ignored

end RuleLine

namespace RuleSet

/-- A set of rules with what a line says.  A rule is completed from the start and has to
be sound. -/
def add (start : WallTime) (set : RuleSet) : LineContent → Except RuleError RuleSet
  | .rule r => do
    let r := r.fillFrom start
    r.check set.start
    return { set with rules := set.rules ++ [r] }
  | .extra ts => .ok { set with extra := set.extra ++ ts }
  | .excluded ts => .ok { set with excluded := set.excluded ++ ts }
  | .ignored => .ok set

/-- A text without the marks `RRULE:` in front of it. -/
def withoutMarks (cs : List Char) : List Char :=
  go cs.length cs
where
  /-- Each mark makes the text shorter, so its length is enough steps. -/
  go : Nat → List Char → List Char
    | 0, cs => cs
    | steps + 1, cs =>
      match Text.strip? "RRULE:".toList cs with
      | some rest => go steps rest
      | none => cs

/-- The lines of a text of rules; the first one is a rule. -/
def ruleLines (text : String) : List (List Char) :=
  let mark := "RRULE:".toList
  match Text.lines (withoutMarks (Text.trim text).toList) with
  | [] => [mark]
  | first :: rest => (mark ++ first) :: rest

/-- The rules that a text writes for an event that starts at an instant, on the clocks
of a zone.  The start counts in whole seconds and has to be the only instant with its
wall-clock time.  All lines are taken apart before any is read, and all are read before
any rule is completed. -/
def read (zones : Zones) (zone : Zone) (start : Instant) (text : String) :
    Except RuleError RuleSet := do
  let wall := zone.wall start
  let year := wall.date.year
  if year < 0 ∨ 9999 < year ∨ start.inLeapSecond then .error .unusableStart
  else
    let wall : WallTime := ⟨wall.seconds, 0⟩
    let some first := zone.single? wall | .error .unusableStart
    let lines ← (ruleLines text).mapM RuleLine.read
    let contents ← lines.mapM (RuleLine.content · zones)
    contents.foldlM (add wall) ⟨zone, first, [], [], []⟩

end RuleSet
end Almanac
