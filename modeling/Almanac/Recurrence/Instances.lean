import Almanac.Occurrence
import Almanac.Recurrence.Expansion
import Almanac.Recurrence.Grammar

/-! # Instances of recurring occurrences

An expander lists the intervals of an occurrence that reach into a stretch of time.
`expandWith` does so by the occurrence's rule: it asks for the starts in a stretch
widened by the length of the occurrence, since an instance may begin before the stretch
and still reach into it, drops the exceptions and keeps what overlaps.  What a rule means
is left to a reader; `ruleExpander` takes the rules of this library.
-/
namespace Almanac

/-- Why an occurrence has no instances. -/
inductive ExpansionError where
  /-- The rule cannot be expanded. -/
  | rule (fault : RuleError)
  /-- An instant on the way lies outside the calendar. -/
  | outsideCalendar
  deriving DecidableEq, Repr

/-- Whether a failure ends the whole run.  Any other only leaves out the occurrence. -/
def ExpansionError.isFatal : ExpansionError → Bool
  | .rule fault => fault.isFatal
  | .outsideCalendar => true

/-- Lists the intervals of an occurrence that meet a closed stretch of time. -/
abbrev Expander :=
  Occurrence → Instant → Instant → Except ExpansionError (List (Instant × Instant))

/-- The most instances of one rule in one stretch of time. -/
def instanceLimit : Nat := 1000

namespace Occurrence

variable (o : Occurrence)

/-- The text of the rule, unless it is blank or the word for no rule. -/
def ruleText? : Option String :=
  match o.rule with
  | none => none
  | some text => if Text.trim text = "" ∨ text = "None" then none else some text

/-- The intervals of a list of starts: exceptions left out, each start with the length
of the occurrence. -/
def intervalsOf (starts : List Instant) : List (Instant × Instant) :=
  (starts.filter fun t => !(t ∈ o.exceptions)).map fun t => (t, t.addNanos o.duration)

end Occurrence

/-- Whether an interval meets the closed stretch from `since` to `upTo`. -/
def reaches (since upTo : Instant) (interval : Instant × Instant) : Bool :=
  since ≤ interval.2 && interval.1 ≤ upTo

/-- Lists the starts from one instant through another, the first ones up to a number of
them. -/
abbrev Starts :=
  Instant → Instant → Nat → Except RuleError (List Instant)

/-- Tells what a rule text means for an event that starts at an instant, on the clocks of
a zone. -/
abbrev RuleReader :=
  Zone → Instant → String → Except RuleError Starts

/-- Expands occurrences by what a reader makes of their rules.  An occurrence without a
rule is its own only interval. -/
def expandWith (read : RuleReader) : Expander := fun o since upTo =>
  match o.ruleText? with
  | none => .ok [(o.start, o.finish)]
  | some text =>
    let shifted := since.addNanos (-o.duration)
    let windowStart := shifted.addSeconds (-1)
    let windowEnd := upTo.addSeconds 1
    if shifted.inCalendar && windowStart.inCalendar && windowEnd.inCalendar &&
        o.zone.shows o.start then
      match (read o.zone o.start text).bind fun starts =>
          starts windowStart windowEnd instanceLimit with
      | .error fault => .error (.rule fault)
      | .ok starts =>
        let intervals := o.intervalsOf starts
        if intervals.all fun i => i.2.inCalendar then
          .ok (intervals.filter (reaches since upTo))
        else .error .outsideCalendar
    else .error .outsideCalendar

/-- Reads rules as this library does; lines that name a zone are read on its clocks. -/
def ruleReader (zones : Zones) : RuleReader := fun zone start text =>
  (RuleSet.read zones zone start text).map RuleSet.between

/-- Expands occurrences by their rules. -/
def ruleExpander (zones : Zones) : Expander :=
  expandWith (ruleReader zones)

end Almanac
