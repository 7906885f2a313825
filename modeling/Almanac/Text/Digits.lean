/-! # Decimal digits

Runs of the ten ASCII digits, read as natural numbers and written with leading zeros.
-/
namespace Almanac.Text

/-- The value of a digit character. -/
def digitValue (c : Char) : Nat :=
  c.toNat - '0'.toNat

/-- The number a run of digits writes, most significant digit first. -/
def digitsValue (ds : List Char) : Nat :=
  ds.foldl (fun n c => 10 * n + digitValue c) 0

/-- A text that is one non-empty run of digits, as a number. -/
def readNat? (cs : List Char) : Option Nat :=
  if cs ≠ [] ∧ cs.all Char.isDigit then some (digitsValue cs) else none

/-- The longest run of digits in front of a text, cut at `width` digits, with the rest. -/
def digitRun : Nat → List Char → List Char × List Char
  | 0, cs => ([], cs)
  | _ + 1, [] => ([], [])
  | width + 1, c :: cs =>
    if c.isDigit then
      let (ds, rest) := digitRun width cs
      (c :: ds, rest)
    else
      ([], c :: cs)

/-- The decimal digits of `n`. -/
def natChars (n : Nat) : List Char :=
  Nat.toDigits 10 n

/-- The digits of `n`, with zeros in front up to `width` characters. -/
def padChars (width n : Nat) : List Char :=
  List.replicate (width - (natChars n).length) '0' ++ natChars n

/-- The digits of `n`, with zeros in front up to `width` characters. -/
def pad (width n : Nat) : String :=
  String.ofList (padChars width n)

/-- An integer in decimal, with a minus sign when negative. -/
def intText (i : Int) : String :=
  if i < 0 then "-" ++ pad 0 i.natAbs else pad 0 i.natAbs

/-- A year: four digits at least, with a sign outside `0 ≤ y ≤ 9999`. -/
def yearText (y : Int) : String :=
  if 0 ≤ y ∧ y ≤ 9999 then pad 4 y.natAbs
  else (if y < 0 then "-" else "+") ++ pad 4 y.natAbs

end Almanac.Text
