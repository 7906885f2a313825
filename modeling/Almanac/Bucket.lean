import Almanac.Civil.Fields
import Almanac.Zone

/-! # Time buckets

Items of one day are listed under times of day.  The boundaries of the buckets are read
from texts, put in order, each once; a time belongs to the last boundary before it.
-/
namespace Almanac

/-- The boundaries of time buckets: times of day in ascending order, each once. -/
structure Boundaries where
  times : List TimeOfDay
  deriving DecidableEq, Repr

namespace Boundaries

/-- A boundary in the form `HH:MM`, if the trimmed text has five bytes, or `HH:MM:SS`.
A leap second counts as the second before. -/
def readTime? (s : String) : Option TimeOfDay :=
  let s := Text.trim s
  if s = "" then none
  else (if s.utf8ByteSize = 5 then TimeOfDay.readShort? s else TimeOfDay.read? s).map
    fun t => ⟨t.second, 0⟩

/-- The boundaries of a list of texts; texts that are no times are left out. -/
def read (groups : List String) : Boundaries :=
  ⟨((groups.filterMap readTime?).mergeSort fun a b => a.second ≤ b.second).eraseReps⟩

variable (b : Boundaries)

/-- The labels of the buckets. -/
def labels : List String :=
  b.times.map TimeOfDay.clockText

/-- The label of the bucket a time belongs to: the last boundary not after it, or the
first one.  Without boundaries it is the time itself. -/
def floorLabel (t : TimeOfDay) : String :=
  match b.times with
  | [] => t.clockText
  | first :: _ => (((b.times.takeWhile fun u => u.second ≤ t.second).getLast?).getD first).clockText

/-- The label of the bucket of an instant on the clocks of a zone. -/
def floorAt (zone : Zone) (t : Instant) : String :=
  b.floorLabel (zone.wall t).time

end Boundaries
end Almanac
