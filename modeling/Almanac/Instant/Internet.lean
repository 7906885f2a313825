import Almanac.Civil.Fields
import Almanac.Instant

/-! # Internet timestamps

The profile of date and time text used on the Internet: a full date, a full time with an
optional fraction, and the offset of the clock from universal time.  Every field has its
exact number of digits.  `Instant.readLoose?` takes the loose fields of dates and times,
blanks around the parts, and the name of universal time besides.
-/
namespace Almanac
namespace Instant

open Fields

/-- Two digits, as hours or minutes of an offset. -/
def offsetField? (cs : List Char) : Option (Nat × List Char) :=
  exactly? 2 cs

/-- The offset of a clock in seconds: `Z`, or a sign with hours and minutes.  The long
minus sign is a minus too. -/
def offset? : List Char → Option (Int × List Char)
  | [] => none
  | c :: cs =>
    if c = 'Z' ∨ c = 'z' then some (0, cs)
    else if c = '+' ∨ c = '-' ∨ c = '\u2212' then do
      let (h, cs) ← offsetField? cs
      let cs ← char? ':' cs
      let (m, cs) ← offsetField? cs
      if h < 24 ∧ m < 60 then
        let seconds : Int := 3600 * h + 60 * m
        return (if c = '+' then seconds else -seconds, cs)
      else none
    else none

/-- The character between date and time. -/
def dateTimeSeparator? : List Char → Option (List Char)
  | [] => none
  | c :: cs => if c = 'T' ∨ c = 't' ∨ c = ' ' then some cs else none

/-- A timestamp in front of a text. -/
def timestamp? (cs : List Char) : Option (Instant × List Char) := do
  let (y, cs) ← exactly? 4 cs
  let cs ← char? '-' cs
  let (mo, cs) ← exactly? 2 cs
  let cs ← char? '-' cs
  let (d, cs) ← exactly? 2 cs
  let cs ← dateTimeSeparator? cs
  let (h, cs) ← exactly? 2 cs
  let cs ← char? ':' cs
  let (mi, cs) ← exactly? 2 cs
  let cs ← char? ':' cs
  let (s, cs) ← exactly? 2 cs
  let (nanos, cs) ← fraction? cs
  let (offset, cs) ← offset? cs
  let date ← Date.ofYMD? y mo d
  let time ← timeOfDay? h mi s nanos
  return (.ofUtc ((WallTime.ofTime date time).shift (-offset)), cs)

/-- The instant of an Internet timestamp. -/
def read? (s : String) : Option Instant :=
  whole? timestamp? s.toList

/-- A loose offset: the name of universal time in any case, `Z`, or a sign with two digits
each of hours and minutes, with colons and blanks between. -/
def offsetLoose? (cs : List Char) : Option (Int × List Char) :=
  match cs with
  | [] => none
  | c :: rest =>
    if (cs.take 3).map Char.toUpper = ['U', 'T', 'C'] then some (0, cs.drop 3)
    else if c = 'Z' ∨ c = 'z' then some (0, rest)
    else if c = '+' ∨ c = '-' ∨ c = '\u2212' then do
      let (h, rest) ← offsetField? rest
      let (m, rest) ← offsetField? (rest.dropWhile fun d => d = ':' || Text.isBlank d)
      if h < 24 ∧ m < 60 then
        let seconds : Int := 3600 * h + 60 * m
        return (if c = '+' then seconds else -seconds, rest)
      else none
    else none

/-- A loose timestamp in front of a text. -/
def timestampLoose? (cs : List Char) : Option (Instant × List Char) := do
  let (date, cs) ← date? true cs
  let cs ← dateTimeSeparator? cs
  let (time, cs) ← time? true cs
  let (offset, cs) ← offsetLoose? (Text.skipBlanks cs)
  let t := Instant.ofUtc ((WallTime.ofTime date time).shift (-offset))
  if t.inCalendar then some (t, cs) else none

/-- The instant of a loose timestamp, with blanks allowed around its parts. -/
def readLoose? (s : String) : Option Instant :=
  wholeLoose? timestampLoose? s.toList

end Instant
end Almanac
