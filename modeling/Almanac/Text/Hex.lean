import Almanac.Text.Digits

/-! # Hexadecimal digits

Numbers in base sixteen, in letters of either case.
-/
namespace Almanac.Text

/-- The value of a hexadecimal digit. -/
def hexValue? (c : Char) : Option Nat :=
  if c.isDigit then some (digitValue c)
  else if 'a' ≤ c ∧ c ≤ 'f' then some (c.toNat - 'a'.toNat + 10)
  else if 'A' ≤ c ∧ c ≤ 'F' then some (c.toNat - 'A'.toNat + 10)
  else none

/-- The number of a run of hexadecimal digits. -/
def hexNumber? (cs : List Char) : Option Nat :=
  cs.foldlM (fun n c => (hexValue? c).map (16 * n + ·)) 0

/-- A digit in lower case. -/
def hexDigit (n : Nat) : Char :=
  Nat.digitChar n

/-- The digits of `n` in capitals, with zeros in front up to `width` characters. -/
def hexChars (width n : Nat) : List Char :=
  let ds := (Nat.toDigits 16 n).map Char.toUpper
  List.replicate (width - ds.length) '0' ++ ds

end Almanac.Text
