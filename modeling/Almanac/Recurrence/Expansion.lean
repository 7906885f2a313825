import Almanac.Recurrence.Cursor

/-! # Instances of a rule

`Rule.days` and `Rule.times` list what the period of a cursor offers, `Rule.places`
what a rule takes of it, placed on the clocks of a zone, and `Rule.between` walks the
periods in order until the instances of a window are all found.
-/
namespace Almanac

/-- Where a time of a date falls on the clocks of a zone. -/
inductive ClockPlace where
  /-- At an instant. -/
  | placed (t : Instant)
  /-- Nowhere: neither the time nor the midnight before it is shown just once. -/
  | missing
  /-- Nowhere: the clocks skip the whole date. -/
  | skipped (date : Date)
  deriving DecidableEq, Repr

/-- Where a time of a date falls.  A time that the clocks show twice or not at all is
counted in elapsed time from midnight. -/
def Zone.place (zone : Zone) (d : Date) (t : TimeOfDay) : ClockPlace :=
  match zone.single? (.ofTime d t) with
  | some i => .placed i
  | none =>
    if zone.skips d then .skipped d
    else
      match zone.single? (.dayStart d) with
      | some midnight => .placed (midnight.addSeconds t.second)
      | none => .missing

/-- The instant of a place, if it has one. -/
def ClockPlace.instant? : ClockPlace → Option Instant
  | .placed t => some t
  | _ => none

/-- The element at a position of a list, counted from 1, or back from the end for a
negative position. -/
def atPosition? {α : Type} (xs : List α) (position : Int) : Option α :=
  if 0 < position then xs[(position - 1).toNat]?
  else if (xs.length : Int) + position < 0 then none
  else xs[((xs.length : Int) + position).toNat]?

/-- Instants in ascending order, each once. -/
def inOrder (ts : List Instant) : List Instant :=
  (ts.mergeSort (· ≤ ·)).eraseReps

namespace Rule

section Periods

variable (r : Rule) (c : Cursor)

/-- The first day of the period of a cursor. -/
def firstDay : Date :=
  match r.frequency with
  | .yearly => Date.ofYMD c.year 1 1
  | .monthly => Date.ofYMD c.year c.month 1
  | _ => c.date

/-- The days of the period of a cursor.  A week goes on up to the day before the next
start of a week, so the first week of a rule begins on the day of the start. -/
def days : List Date :=
  let first := r.firstDay c
  match r.frequency with
  | .yearly => first.upTo (Date.ofYMD c.year 12 31)
  | .monthly => first.upTo (Date.ofYMD c.year c.month (daysInMonth c.year c.month))
  | .weekly => first.upTo ((first.weekStart r.weekStart.fromSunday).addDays 6)
  | _ => [first]

/-- A unit of time that is either fixed by the period or chosen by a list. -/
def unitChoice (fixed : Option Nat) (chosen : List Nat) : List Nat :=
  match fixed with
  | none => chosen
  | some n => if admits chosen n then [n] else []

/-- The times of day of the period of a cursor, in order. -/
def times : List TimeOfDay :=
  let fixed := fun (unit : Frequency) (n : Nat) =>
    if unit.rank ≤ r.frequency.rank then some n else none
  (unitChoice (fixed .hourly c.hour) r.hours).flatMap fun h =>
    (unitChoice (fixed .minutely c.minute) r.minutes).flatMap fun m =>
      (unitChoice (fixed .secondly c.second) r.seconds).map fun s => .ofHMS h m s

/-- The pairs of a chosen day and a time of the period of a cursor, in order. -/
def pairs : List (Date × TimeOfDay) :=
  ((r.days c).filter r.allowsDay).flatMap fun d => (r.times c).map fun t => (d, t)

/-- The places of a rule in the period of a cursor, in order.  Set positions choose
among all pairs of a day and a time before these are placed on the clock; a skipped date
among the chosen ones takes the place of all. -/
def places (zone : Zone) : List ClockPlace :=
  let place := fun (pair : Date × TimeOfDay) => zone.place pair.1 pair.2
  if r.setPositions = [] then (r.pairs c).map place
  else
    let chosen := (r.setPositions.filterMap (atPosition? (r.pairs c))).map place
    let isSkipped := fun
      | .skipped _ => true
      | _ => false
    match chosen.find? isSkipped with
    | some skipped => [skipped]
    | none => (inOrder (chosen.filterMap ClockPlace.instant?)).map .placed

end Periods

/-- The instances among places, given how many may still come, and how many may come
after them: none once the last instant is passed.  Instants before the start are no
instances.  A skipped date is a fault, unless nothing may come any more. -/
def accept (r : Rule) (start : Instant) :
    Option Nat → List ClockPlace → Except RuleError (List Instant × Option Nat)
  | some 0, _ => .ok ([], some 0)
  | left, [] => .ok ([], left)
  | left, p :: rest =>
    match p with
    | .skipped d => .error (.skippedDate d)
    | .missing => accept r start left rest
    | .placed t =>
      if r.lastInstant.any (· < t) then .ok ([], some 0)
      else if t < start then accept r start left rest
      else (accept r start (left.map (· - 1)) rest).map fun (later, left) => (t :: later, left)

end Rule

/-- The instances asked for: those of a closed stretch of time, at most `limit` of them,
without the excluded ones. -/
structure Window where
  since : Instant
  upTo : Instant
  limit : Nat
  excluded : List Instant := []

/-- The state of a walk over the instances of a rule. -/
structure Walk where
  /-- The number of instances that may still come, if it is bounded. -/
  left : Option Nat
  /-- The number of instants still wanted. -/
  wanted : Nat
  /-- The instants found, latest first. -/
  found : List Instant := []
  /-- The number of periods without an instance since the last one with any. -/
  idle : Nat := 0
  /-- Whether the window is left behind or full. -/
  closed : Bool := false

namespace Walk

/-- The number of periods without an instance after which a walk is given up. -/
def patience : Nat := 99999

/-- Whether a walk goes no further. -/
def hasEnded (w : Walk) : Bool :=
  w.closed || w.left == some 0 || patience ≤ w.idle

/-- One more instance.  An excluded one is passed over, one after the window closes the
walk, and one before it is not kept. -/
def step (window : Window) (w : Walk) (t : Instant) : Walk :=
  if w.closed || t ∈ window.excluded || t < window.since && t ≤ window.upTo then w
  else if window.upTo < t then { w with closed := true }
  else { w with found := t :: w.found, wanted := w.wanted - 1, closed := w.wanted ≤ 1 }

/-- The instances of one more period, and how many may come after them. -/
def addPeriod (window : Window) (w : Walk) (instances : List Instant) (left : Option Nat) :
    Walk :=
  instances.foldl (step window)
    { w with left := left, idle := if instances = [] then w.idle + 1 else 0 }

/-- The walk over the periods from that of a cursor on, at most `periods` of them, up to a
last day. -/
def run (r : Rule) (zone : Zone) (start : Instant) (window : Window) (lastDay : Date) :
    Nat → Cursor → Walk → Except RuleError Walk
  | 0, _, w => .ok w
  | periods + 1, c, w =>
    if w.hasEnded || lastDay < r.firstDay c then .ok w
    else do
      let (instances, left) ← r.accept start w.left (r.places c zone)
      let w := w.addPeriod window instances left
      match r.advance? c with
      | none => return w
      | some c => run r zone start window lastDay periods c w

end Walk

/-- The last year in which a rule comes back. -/
def Rule.lastYear : Int := 10000

/-- The last day on which a period can begin that matters for a window.  Periods that
begin more than a day after the window add nothing to it, but up to the last skipped date
of the zone they may be at fault. -/
def Window.lastDay (window : Window) (zone : Zone) : Date :=
  let behind := (zone.dateAt window.upTo).addDays 1
  min (max behind (zone.lastSkipped?.getD behind)) (Date.ofYMD Rule.lastYear 12 31)

/-- The instances of a rule within a window, in order. -/
def Rule.between (r : Rule) (zone : Zone) (start : Instant) (window : Window) :
    Except RuleError (List Instant) :=
  if r.interval = 0 ∨ r.count = some 0 ∨ window.limit = 0 then .ok []
  else
    let wall := zone.wall start
    let lastDay := window.lastDay zone
    let days := (wall.date.daysUntil lastDay).toNat + 2
    let periods := days * r.frequency.perDay / r.interval + 2
    let first : Walk := { left := r.count, wanted := window.limit }
    (Walk.run r zone start window lastDay periods (.ofWall wall) first).map (·.found.reverse)

namespace RuleSet

/-- Two lists of instants merged in order; of equal heads the second list's comes
first. -/
def merge (as bs : List Instant) : List Instant :=
  List.merge bs as (· ≤ ·)

/-- The instances of a rule set from one instant to another, both included, in order and
at most `limit` of them. -/
def between (s : RuleSet) (since upTo : Instant) (limit : Nat) :
    Except RuleError (List Instant) := do
  let window : Window := ⟨since, upTo, limit, s.excluded⟩
  let ofRules ← s.rules.mapM fun r => r.between s.zone s.start window
  let extra := (s.extra.mergeSort (· ≤ ·)).filter fun t =>
    since ≤ t && t ≤ upTo && !(t ∈ s.excluded)
  return (merge (ofRules.foldl merge []) extra).take limit

end RuleSet
end Almanac
