/-! # Blank characters

White space in the sense of the Unicode property, and the trimming of both ends of
a text.  Every reader of the library trims through this module, so a text and the same
text in blanks are read alike.
-/
namespace Almanac.Text

/-- The characters of the Unicode property `White_Space`. -/
def isBlank (c : Char) : Bool :=
  let n := c.toNat
  (9 ≤ n && n ≤ 13) || n == 0x20 || n == 0x85 || n == 0xA0 || n == 0x1680 ||
    (0x2000 ≤ n && n ≤ 0x200A) || n == 0x2028 || n == 0x2029 || n == 0x202F ||
    n == 0x205F || n == 0x3000

/-- A text without the blanks in front. -/
def skipBlanks (cs : List Char) : List Char :=
  cs.dropWhile isBlank

/-- A text without the blanks at its two ends. -/
def trimChars (cs : List Char) : List Char :=
  (skipBlanks (skipBlanks cs).reverse).reverse

/-- A string without the blanks at its two ends. -/
def trim (s : String) : String :=
  String.ofList (trimChars s.toList)

end Almanac.Text
