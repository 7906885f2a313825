import Almanac.Document
import Almanac.Toml.Quoted

/-! # Numbers in TOML

Integers in four bases and numbers with a fraction or an exponent.  An underscore may
stand between two digits.
-/
namespace Almanac.Toml

open Text (digitsValue)

/-- Digits with an underscore allowed between two of them, behind a first digit. -/
def moreDigits (isDigit : Char → Bool) : List Char → Option (List Char × List Char)
  | '_' :: c :: rest =>
    if isDigit c then (moreDigits isDigit rest).map fun (ds, rest) => (c :: ds, rest) else none
  | c :: rest =>
    if isDigit c then (moreDigits isDigit rest).map fun (ds, rest) => (c :: ds, rest)
    else if c = '_' then none
    else some ([], c :: rest)
  | [] => some ([], [])

/-- A run of digits, one at least, with underscores allowed between them. -/
def digits? (isDigit : Char → Bool) : List Char → Option (List Char × List Char)
  | c :: rest =>
    if isDigit c then (moreDigits isDigit rest).map fun (ds, rest) => (c :: ds, rest) else none
  | [] => none

/-- The sign in front of a number; the flag says whether it is a minus. -/
def sign : List Char → Bool × List Char
  | '+' :: rest => (false, rest)
  | '-' :: rest => (true, rest)
  | rest => (false, rest)

/-- The digits of a decimal integer: no zero in front of others. -/
def decimal? : List Char → Option (List Char × List Char)
  | '0' :: rest => some (['0'], rest)
  | rest => digits? Char.isDigit rest

/-- The integers a document can hold are those of 64 bits. -/
def integer? (i : Int) : Option Value :=
  if Int64.minValue.toInt ≤ i ∧ i ≤ Int64.maxValue.toInt then some (.int i) else none

/-- The number of a run of digits in a base. -/
def baseNumber (base : Nat) (ds : List Char) : Nat :=
  ds.foldl (fun n c => base * n + (Text.hexValue? c).getD 0) 0

/-- An unsigned integer in a base other than ten, behind its mark. -/
def based? (base : Nat) (cs : List Char) : Option (Value × List Char) := do
  let isDigit := fun c => (Text.hexValue? c).any (· < base)
  let (ds, rest) ← digits? isDigit cs
  return (← integer? (baseNumber base ds), rest)

/-- An integer. -/
def readInteger? : List Char → Option (Value × List Char)
  | '0' :: 'x' :: rest => based? 16 rest
  | '0' :: 'o' :: rest => based? 8 rest
  | '0' :: 'b' :: rest => based? 2 rest
  | cs => do
    let (negative, rest) := sign cs
    let (ds, rest) ← decimal? rest
    let n := digitsValue ds
    return (← integer? (if negative then -(n : Int) else n), rest)

/-- The digits behind a decimal point, if there is one. -/
def point? : List Char → Option (List Char × List Char)
  | '.' :: rest => digits? Char.isDigit rest
  | _ => none

/-- An exponent, if there is one. -/
def exponent? : List Char → Option (Int × List Char)
  | c :: rest =>
    if c = 'e' ∨ c = 'E' then do
      let (negative, rest) := sign rest
      let (ds, rest) ← digits? Char.isDigit rest
      return (if negative then -(digitsValue ds : Int) else digitsValue ds, rest)
    else none
  | [] => none

/-- Half a unit above the largest number a fraction can be: numbers from here on are too
large. -/
def fractionLimit : Nat := Nat.pow 2 1024 - Nat.pow 2 970

/-- Whether `m · 10^k` is too large.  The number of digits decides it for all but numbers
of 309 digits before the point. -/
def tooLarge (m : Nat) (k : Int) : Bool :=
  let size := k + (Text.natChars m).length
  if m = 0 ∨ size < 309 then false
  else if 309 < size then true
  else if 0 ≤ k then fractionLimit ≤ m * Nat.pow 10 k.toNat
  else fractionLimit * Nat.pow 10 k.natAbs ≤ m

/-- The fraction and the exponent of a number, one of them at least: the digits behind
the point and the power of ten. -/
def scale? (cs : List Char) : Option ((List Char × Int) × List Char) :=
  match point? cs with
  | some (ds, rest) =>
    match exponent? rest with
    | some (e, rest) => some ((ds, e), rest)
    | none => if startsExponent rest then none else some ((ds, 0), rest)
  | none => (exponent? cs).map fun (e, rest) => (([], e), rest)
where
  /-- An exponent that is begun has to be complete. -/
  startsExponent : List Char → Bool
    | c :: _ => c == 'e' || c == 'E'
    | [] => false

/-- A number with a fraction or an exponent. -/
def readFraction? (cs : List Char) : Option (Value × List Char) := do
  let (negative, rest) := sign cs
  match Text.strip? "inf".toList rest, Text.strip? "nan".toList rest with
  | some rest, _ => return (.foreign, rest)
  | none, some rest => return (.foreign, rest)
  | none, none =>
    let (whole, rest) ← decimal? rest
    let ((part, power), rest) ← scale? rest
    let size := digitsValue (whole ++ part)
    if !negative && tooLarge size (power - part.length) then none
    else return (.foreign, rest)

end Almanac.Toml
