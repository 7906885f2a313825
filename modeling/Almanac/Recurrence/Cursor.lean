import Almanac.Recurrence.Days

/-! # The walk through the periods of a rule

Time is cut into periods by the frequency and the interval of a rule, counted from the
start of the event.  A cursor stands in one of them, and `Rule.advance?` moves it to the
next.  Periods shorter than a day are sought rather than counted: the cursor goes on in
steps until it reaches a unit of time that the rule chooses, and it leaves a day that the
rule does not choose in one go.
-/
namespace Almanac

/-- Where a walk through the periods of a rule stands.  The day may lie behind the end of
the month: a monthly walk keeps the day of its start as long as it stays in one year. -/
structure Cursor where
  year : Int
  month : Nat
  day : Nat
  hour : Nat
  minute : Nat
  second : Nat
  deriving DecidableEq, Repr

namespace Cursor

/-- The cursor at a reading. -/
def ofWall (w : WallTime) : Cursor :=
  let d := w.date
  let t := w.time
  ⟨d.year, d.month, d.day, t.hour, t.minute, t.secondOfMinute⟩

variable (c : Cursor)

/-- The date of a cursor.  Days behind the end of the month count on into the months
after it. -/
def date : Date :=
  Date.ofYMD c.year c.month c.day

/-- The cursor at the same time on another date. -/
def onDate (d : Date) : Cursor :=
  { c with year := d.year, month := d.month, day := d.day }

/-- The cursor a number of days later. -/
def addDays (n : Nat) : Cursor :=
  if n = 0 then c else c.onDate (c.date.addDays n)

/-- The cursor a number of hours later. -/
def addHours (n : Nat) : Cursor :=
  { c.addDays ((c.hour + n) / 24) with hour := (c.hour + n) % 24 }

/-- The largest number of months that a cursor counts. -/
def maxMonth : Nat := 65535

/-- The cursor a number of months later.  In another year it stands on a date again, so a
day that its month does not have moves it into the month after. -/
def addMonths? (n : Nat) : Option Cursor :=
  let month := c.month + n
  if month ≤ 12 then some { c with month := month }
  else if month ≤ maxMonth then
    let later := month - 1
    some (c.onDate (Date.ofYMD (c.year + (later / 12 : Nat)) (later % 12 + 1) c.day))
  else none

/-- The first chosen cursor within `n` steps. -/
def seek? (chosen : Cursor → Bool) (step : Cursor → Option Cursor) : Nat → Cursor → Option Cursor
  | 0, _ => none
  | n + 1, c =>
    match step c with
    | none => none
    | some c => if chosen c then some c else seek? chosen step n c

end Cursor

namespace Rule

/-- Whether a list of a rule admits a number; an empty list admits all. -/
def admits (chosen : List Nat) (n : Nat) : Bool :=
  chosen.isEmpty || chosen.contains n

variable (r : Rule) (skip : Bool) (step : Nat)

/-- The next chosen hour in steps of some hours.  With `skip` the walk starts from the
last of these steps on the day. -/
def nextHour? (c : Cursor) : Option Cursor :=
  let c := if skip then { c with hour := c.hour + (23 - c.hour) / step * step } else c
  c.seek? (fun c => admits r.hours c.hour) (fun c => some (c.addHours step)) 24

/-- The next chosen minute in steps of some minutes.  A step into another hour goes on to
the next chosen hour, in steps of the hours it takes. -/
def nextMinute? (c : Cursor) : Option Cursor :=
  let c :=
    if skip then
      { c with minute := c.minute + (1439 - (60 * c.hour + c.minute)) / step * step }
    else c
  c.seek? (fun c => admits r.hours c.hour && admits r.minutes c.minute)
    (fun c =>
      let minute := c.minute + step
      let c := { c with minute := minute % 60 }
      if minute < 60 then some c else r.nextHour? skip (minute / 60) c)
    1440

/-- The next chosen second in steps of some seconds.  A step into another minute goes on
to the next chosen minute, in steps of the minutes it takes. -/
def nextSecond? (c : Cursor) : Option Cursor :=
  let c :=
    if skip then
      let second := 3600 * c.hour + 60 * c.minute + c.second
      { c with second := c.second + (86399 - second) / step * step }
    else c
  c.seek?
    (fun c => admits r.hours c.hour && admits r.minutes c.minute && admits r.seconds c.second)
    (fun c =>
      let second := c.second + step
      let c := { c with second := second % 60 }
      if second < 60 then some c else r.nextMinute? skip (second / 60) c)
    86400

/-- The cursor in the next period of a rule, if the walk gets to one. -/
def advance? (c : Cursor) : Option Cursor :=
  let n := r.interval
  match r.frequency with
  | .yearly => some { c with year := c.year + n }
  | .monthly => c.addMonths? n
  | .weekly => some (c.onDate ((c.date.weekStart r.weekStart.fromSunday).addDays (7 * n)))
  | .daily => some (c.addDays n)
  | .hourly => r.nextHour? (!r.allowsDay c.date) n c
  | .minutely => r.nextMinute? (!r.allowsDay c.date) n c
  | .secondly => r.nextSecond? (!r.allowsDay c.date) n c

end Rule
end Almanac
