import Almanac.Civil.WallTime
import Almanac.Text.Blank

/-! # Dates and times in text

Readers of calendar text, field by field.  A number field skips blanks and then takes
as many digits as its width allows, one at least; a year may carry a sign, and then has
no width.  The `loose` readers also allow blanks before a separator and at the end.
-/
namespace Almanac
namespace Fields

open Text (skipBlanks digitRun digitsValue)

/-- A number of at most `width` digits, after blanks. -/
def number? (width : Nat) (cs : List Char) : Option (Nat × List Char) :=
  match digitRun width (skipBlanks cs) with
  | ([], _) => none
  | (ds, rest) => some (digitsValue ds, rest)

/-- A number of exactly `width` digits, with no blanks before it. -/
def exactly? (width : Nat) (cs : List Char) : Option (Nat × List Char) :=
  let (ds, rest) := digitRun width cs
  if ds.length = width then some (digitsValue ds, rest) else none

/-- All the digits in front, one at least. -/
def digits? (cs : List Char) : Option (Nat × List Char) :=
  match digitRun cs.length cs with
  | ([], _) => none
  | (ds, rest) => some (digitsValue ds, rest)

/-- A year of at most four digits, or of any number of digits behind a sign. -/
def year? (cs : List Char) : Option (Int × List Char) :=
  match skipBlanks cs with
  | '-' :: rest => (digits? rest).map fun (n, rest) => (-(n : Int), rest)
  | '+' :: rest => (digits? rest).map fun (n, rest) => ((n : Int), rest)
  | rest => (number? 4 rest).map fun (n, rest) => ((n : Int), rest)

/-- One given character. -/
def char? (c : Char) : List Char → Option (List Char)
  | [] => none
  | d :: rest => if d = c then some rest else none

/-- One given character, after blanks if the form is loose. -/
def separator? (loose : Bool) (c : Char) (cs : List Char) : Option (List Char) :=
  char? c (if loose then skipBlanks cs else cs)

/-- The digits after a decimal point as nanoseconds: the first nine count. -/
def nanos? (cs : List Char) : Option (Nat × List Char) :=
  match digitRun 9 cs with
  | ([], _) => none
  | (ds, rest) => some (digitsValue ds * Nat.pow 10 (9 - ds.length), rest.dropWhile Char.isDigit)

/-- A decimal point and a fraction of a second, if a point follows. -/
def fraction? : List Char → Option (Nat × List Char)
  | '.' :: rest => nanos? rest
  | rest => some (0, rest)

/-- The time of day of an hour, a minute and a second, if a clock shows it.  Second 60
is the leap second after second 59. -/
def timeOfDay? (h m s nanos : Nat) : Option TimeOfDay :=
  if 24 ≤ h ∨ 60 ≤ m ∨ 61 ≤ s then none
  else if s = 60 then some (.ofHMS h m 59 (nanosPerSecond + nanos))
  else some (.ofHMS h m s nanos)

/-- Year, month and day with hyphens between. -/
def date? (loose : Bool) (cs : List Char) : Option (Date × List Char) := do
  let (y, cs) ← year? cs
  let cs ← separator? loose '-' cs
  let (m, cs) ← number? 2 cs
  let cs ← separator? loose '-' cs
  let (d, cs) ← number? 2 cs
  return (← Date.ofYMD? y m d, cs)

/-- Year, month and day with nothing between. -/
def compactDate? (cs : List Char) : Option (Date × List Char) := do
  let (y, cs) ← year? cs
  let (m, cs) ← number? 2 cs
  let (d, cs) ← number? 2 cs
  return (← Date.ofYMD? y m d, cs)

/-- Hour and minute with a colon between. -/
def hourMinute? (cs : List Char) : Option (TimeOfDay × List Char) := do
  let (h, cs) ← number? 2 cs
  let cs ← char? ':' cs
  let (m, cs) ← number? 2 cs
  return (← timeOfDay? h m 0 0, cs)

/-- Hour, minute and second with colons between; the loose form takes a fraction of a
second too. -/
def time? (loose : Bool) (cs : List Char) : Option (TimeOfDay × List Char) := do
  let (h, cs) ← number? 2 cs
  let cs ← separator? loose ':' cs
  let (m, cs) ← number? 2 cs
  let cs ← separator? loose ':' cs
  let (s, cs) ← number? 2 cs
  let (nanos, cs) ← if loose then fraction? cs else some (0, cs)
  return (← timeOfDay? h m s nanos, cs)

/-- Hour and minute, then second and fraction if they follow, blanks allowed around the
colons. -/
def shortTime? (cs : List Char) : Option (TimeOfDay × List Char) :=
  match time? true cs with
  | some found => some found
  | none => do
    let (h, cs) ← number? 2 cs
    let cs ← separator? true ':' cs
    let (m, cs) ← number? 2 cs
    return (← timeOfDay? h m 0 0, cs)

/-- What a reader takes of a whole text, if it leaves nothing. -/
def whole? {α : Type} (read : List Char → Option (α × List Char)) (cs : List Char) : Option α :=
  match read cs with
  | some (a, []) => some a
  | _ => none

/-- What a reader takes of a whole text, if it leaves nothing but blanks. -/
def wholeLoose? {α : Type} (read : List Char → Option (α × List Char)) (cs : List Char) :
    Option α :=
  match read cs with
  | some (a, rest) => if skipBlanks rest = [] then some a else none
  | none => none

end Fields

/-- A date in the form year-month-day. -/
def Date.read? (s : String) : Option Date :=
  Fields.whole? (Fields.date? false) s.toList

/-- A date in the form of eight digits; a signed year makes it longer. -/
def Date.readCompact? (s : String) : Option Date :=
  Fields.whole? Fields.compactDate? s.toList

/-- A date in the form year-month-day, with blanks allowed around its parts. -/
def Date.readLoose? (s : String) : Option Date :=
  Fields.wholeLoose? (Fields.date? true) s.toList

/-- A time of day in the form hour:minute. -/
def TimeOfDay.readShort? (s : String) : Option TimeOfDay :=
  Fields.whole? Fields.hourMinute? s.toList

/-- A time of day in the form hour:minute:second. -/
def TimeOfDay.read? (s : String) : Option TimeOfDay :=
  Fields.whole? (Fields.time? false) s.toList

/-- A time of day with or without a second and a fraction of it, blanks allowed around its
parts. -/
def TimeOfDay.readLoose? (s : String) : Option TimeOfDay :=
  Fields.wholeLoose? Fields.shortTime? s.toList

/-- A date and a time of day with `sep` between; a blank stands for any run of blanks,
the empty run included. -/
def WallTime.read? (sep : Char) (s : String) : Option WallTime :=
  Fields.whole? (fun cs => do
    let (d, cs) ← Fields.date? false cs
    let cs ← if Text.isBlank sep then some (Text.skipBlanks cs) else Fields.char? sep cs
    let (t, cs) ← Fields.time? false cs
    return (WallTime.ofTime d t, cs)) s.toList

/-- A date, a `T` and a time of day with an optional fraction, blanks allowed around
their parts. -/
def WallTime.readLoose? (s : String) : Option WallTime :=
  Fields.wholeLoose? (fun cs => do
    let (d, cs) ← Fields.date? true cs
    let cs ← Fields.separator? true 'T' cs
    let (t, cs) ← Fields.time? true cs
    return (WallTime.ofTime d t, cs)) s.toList

end Almanac
