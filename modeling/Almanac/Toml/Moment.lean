import Almanac.Civil.Date
import Almanac.Document
import Almanac.Text.Digits

/-! # Dates and times in TOML

A date, a time of day, or both with an optional offset from universal time.  They are
kept in their usual spelling.
-/
namespace Almanac.Toml

open Text (digitRun digitsValue pad)

/-- A number of exactly `width` digits from `min` to `max`. -/
def fixed? (width min max : Nat) (cs : List Char) : Option (Nat × List Char) :=
  let (ds, rest) := digitRun width cs
  let n := digitsValue ds
  if ds.length = width ∧ min ≤ n ∧ n ≤ max then some (n, rest) else none

/-- One given character. -/
def mark? (c : Char) : List Char → Option (List Char)
  | d :: rest => if d = c then some rest else none
  | [] => none

/-- A date. -/
def readDate? (cs : List Char) : Option (String × List Char) := do
  let (y, cs) ← fixed? 4 0 9999 cs
  let cs ← mark? '-' cs
  let (m, cs) ← fixed? 2 1 12 cs
  let cs ← mark? '-' cs
  let (d, cs) ← fixed? 2 1 (daysInMonth y m) cs
  return (pad 4 y ++ "-" ++ pad 2 m ++ "-" ++ pad 2 d, cs)

/-- The digits of a fraction of a second: nine at most, without the zeros at the end. -/
def fractionDigits (ds : List Char) : List Char :=
  ((ds.take 9).reverse.dropWhile (· == '0')).reverse

/-- A fraction of a second, if a point follows. -/
def readSecondFraction? : List Char → Option (String × List Char)
  | '.' :: cs =>
    match digitRun cs.length cs with
    | ([], _) => none
    | (ds, rest) =>
      match fractionDigits ds with
      | [] => some ("", rest)
      | kept => some ("." ++ String.ofList kept, rest)
  | cs => some ("", cs)

/-- A time of day. -/
def readTime? (cs : List Char) : Option (String × List Char) := do
  let (h, cs) ← fixed? 2 0 23 cs
  let cs ← mark? ':' cs
  let (m, cs) ← fixed? 2 0 59 cs
  let cs ← mark? ':' cs
  let (s, cs) ← fixed? 2 0 60 cs
  let (fraction, cs) ← readSecondFraction? cs
  return (pad 2 h ++ ":" ++ pad 2 m ++ ":" ++ pad 2 s ++ fraction, cs)

/-- Hours and minutes of an offset. -/
def readOffsetTime? (cs : List Char) : Option ((Nat × Nat) × List Char) := do
  let (h, cs) ← fixed? 2 0 23 cs
  let cs ← mark? ':' cs
  let (m, cs) ← fixed? 2 0 59 cs
  return ((h, m), cs)

/-- An offset from universal time, if one follows. -/
def readOffset? : List Char → Option (String × List Char)
  | 'Z' :: cs => some ("Z", cs)
  | 'z' :: cs => some ("Z", cs)
  | '+' :: cs => (readOffsetTime? cs).map fun ((h, m), cs) => ("+" ++ pad 2 h ++ ":" ++ pad 2 m, cs)
  | '-' :: cs => (readOffsetTime? cs).map fun ((h, m), cs) =>
      ((if h = 0 ∧ m = 0 then "+" else "-") ++ pad 2 h ++ ":" ++ pad 2 m, cs)
  | cs => some ("", cs)

/-- The time of day behind a date, with its offset. -/
def readDayTime? : List Char → Option (String × List Char)
  | c :: cs =>
    if c = 'T' ∨ c = 't' ∨ c = ' ' then do
      let (time, cs) ← readTime? cs
      let (offset, cs) ← readOffset? cs
      return ("T" ++ time ++ offset, cs)
    else none
  | [] => none

/-- A date, a time of day, or both. -/
def readMoment? (cs : List Char) : Option (Value × List Char) :=
  match readDate? cs with
  | some (date, rest) =>
    match readDayTime? rest with
    | some (time, rest) => some (.dateTime (date ++ time), rest)
    | none => some (.dateTime date, rest)
  | none => (readTime? cs).map fun (time, rest) => (.dateTime time, rest)

end Almanac.Toml
