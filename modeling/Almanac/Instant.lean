import Almanac.Civil.WallTime

/-! # Instants

Points of absolute time, counted on the clock of universal time, and the durations
between them in nanoseconds.  Durations are exact integers; only a reading inside a leap
second makes the arithmetic more than a difference of two counts.
-/
namespace Almanac

/-- A point of time: seconds since 1970-01-01T00:00:00 universal time and nanoseconds,
`10^9` or more of them inside a leap second. -/
structure Instant where
  seconds : Int
  nanos : Nat := 0
  deriving DecidableEq, Repr, Inhabited

namespace Instant

instance : LE Instant :=
  ⟨fun a b => a.seconds < b.seconds ∨ a.seconds = b.seconds ∧ a.nanos ≤ b.nanos⟩
instance : LT Instant :=
  ⟨fun a b => a.seconds < b.seconds ∨ a.seconds = b.seconds ∧ a.nanos < b.nanos⟩

instance (a b : Instant) : Decidable (a ≤ b) :=
  inferInstanceAs (Decidable (_ ∨ _))
instance (a b : Instant) : Decidable (a < b) :=
  inferInstanceAs (Decidable (_ ∨ _))

instance : Max Instant := ⟨fun a b => if a ≤ b then b else a⟩
instance : Min Instant := ⟨fun a b => if a ≤ b then a else b⟩

theorem le_def {a b : Instant} :
    a ≤ b ↔ a.seconds < b.seconds ∨ a.seconds = b.seconds ∧ a.nanos ≤ b.nanos := Iff.rfl
theorem lt_def {a b : Instant} :
    a < b ↔ a.seconds < b.seconds ∨ a.seconds = b.seconds ∧ a.nanos < b.nanos := Iff.rfl

@[ext] theorem ext {a b : Instant} (hs : a.seconds = b.seconds) (hn : a.nanos = b.nanos) :
    a = b := by
  cases a; cases b; simp_all

/-- What a clock of universal time shows. -/
def utc (t : Instant) : WallTime :=
  ⟨t.seconds, t.nanos⟩

/-- The instant at which a clock of universal time shows a reading. -/
def ofUtc (w : WallTime) : Instant :=
  ⟨w.seconds, w.nanos⟩

@[simp] theorem ofUtc_utc (t : Instant) : ofUtc t.utc = t := rfl
@[simp] theorem utc_ofUtc (w : WallTime) : (ofUtc w).utc = w := rfl

/-- Whether an instant lies within the bounds of the calendar. -/
def inCalendar (t : Instant) : Bool :=
  t.utc.inCalendar

/-- The instant a number of seconds after 1970-01-01T00:00:00 universal time, if the
calendar has it. -/
def ofUnix? (seconds : Int) : Option Instant :=
  let t : Instant := ⟨seconds, 0⟩
  if t.inCalendar then some t else none

/-- The instant in text: the reading of universal time and a `Z`. -/
def text (t : Instant) : String :=
  t.utc.text ++ "Z"

/-- Whether an instant lies inside a leap second. -/
def inLeapSecond (t : Instant) : Bool :=
  nanosPerSecond ≤ t.nanos

/-- The nanoseconds from `a` to `b`.  A leap second that the later time of day has left
behind counts as one second more. -/
def nanosUntil (a b : Instant) : Int :=
  let extra : Int :=
    if a.utc.time.second < b.utc.time.second then (if a.inLeapSecond then 1 else 0)
    else if b.utc.time.second < a.utc.time.second then (if b.inLeapSecond then -1 else 0)
    else 0
  nanosPerSecond * (b.seconds - a.seconds + extra) + (b.nanos - a.nanos)

/-- The instant a number of nanoseconds later.  Inside a leap second the sum stays in
it as long as it does not pass either end of that second. -/
def addNanos (t : Instant) (n : Int) : Instant :=
  let whole := n.tdiv nanosPerSecond
  let part := n.tmod nanosPerSecond
  if t.inLeapSecond && whole == 0 && !(0 < part && 2 * nanosPerSecond ≤ (t.nanos : Int) + part) then
    ⟨t.seconds, ((t.nanos : Int) + part).toNat⟩
  else
    let seconds := if t.inLeapSecond && whole < 0 then t.seconds + 1 else t.seconds
    let nanos : Int := if t.inLeapSecond then (t.nanos : Int) - nanosPerSecond else t.nanos
    let total := nanos + part
    ⟨seconds + whole + total / nanosPerSecond, (total % nanosPerSecond).toNat⟩

/-- The instant a number of whole seconds later. -/
def addSeconds (t : Instant) (n : Int) : Instant :=
  t.addNanos (nanosPerSecond * n)

end Instant
end Almanac
