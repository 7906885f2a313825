/-! # Days of the week

The seven weekdays, numbered from Sunday.  A week row of the calendar starts on any
chosen weekday, so the names are also listed in every rotation.
-/
namespace Almanac

/-- A day of the week. -/
inductive Weekday where
  | sunday | monday | tuesday | wednesday | thursday | friday | saturday
  deriving DecidableEq, Repr, Inhabited

namespace Weekday

/-- Days since Sunday. -/
def fromSunday : Weekday → Nat
  | sunday => 0
  | monday => 1
  | tuesday => 2
  | wednesday => 3
  | thursday => 4
  | friday => 5
  | saturday => 6

/-- Days since Monday. -/
def fromMonday (d : Weekday) : Nat :=
  (d.fromSunday + 6) % 7

/-- The weekday `n` days after a Sunday. -/
def ofSunday (n : Nat) : Weekday :=
  match n % 7 with
  | 0 => sunday
  | 1 => monday
  | 2 => tuesday
  | 3 => wednesday
  | 4 => thursday
  | 5 => friday
  | _ => saturday

@[simp] theorem ofSunday_fromSunday (d : Weekday) : ofSunday d.fromSunday = d := by
  cases d <;> rfl

theorem fromSunday_lt (d : Weekday) : d.fromSunday < 7 := by
  cases d <;> decide

/-- The English name. -/
def name : Weekday → String
  | sunday => "Sunday"
  | monday => "Monday"
  | tuesday => "Tuesday"
  | wednesday => "Wednesday"
  | thursday => "Thursday"
  | friday => "Friday"
  | saturday => "Saturday"

/-- The English name in lower case. -/
def lowerName : Weekday → String
  | sunday => "sunday"
  | monday => "monday"
  | tuesday => "tuesday"
  | wednesday => "wednesday"
  | thursday => "thursday"
  | friday => "friday"
  | saturday => "saturday"

/-- The seven weekdays in the order of a week row that starts `firstDay` days after a
Sunday. -/
def ordered (firstDay : Nat) : List Weekday :=
  (List.range 7).map fun column => ofSunday (firstDay + column)

@[simp] theorem length_ordered (firstDay : Nat) : (ordered firstDay).length = 7 := by
  simp [ordered]

/-- A weekday name cut to its first `size` letters, at least one; the size 99 keeps the
whole name. -/
def abbreviate (name : String) (size : Nat) : String :=
  if size = 99 then name else String.ofList (name.toList.take (max size 1))

end Weekday
end Almanac
