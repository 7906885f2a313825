import Almanac.Text.Digits

/-! # Pieces of text

Cutting a text at a separator, and the signed numbers of bounded size that stand between
separators.
-/
namespace Almanac.Text

/-- The pieces of a text between the characters `sep`, empty pieces included. -/
def splitAt (sep : Char) : List Char → List (List Char)
  | [] => [[]]
  | c :: cs =>
    match splitAt sep cs with
    | [] => [[c]]
    | piece :: pieces => if c = sep then [] :: piece :: pieces else (c :: piece) :: pieces

/-- The text before and after the first character `sep`, if it has one. -/
def splitFirst? (sep : Char) : List Char → Option (List Char × List Char)
  | [] => none
  | c :: cs =>
    if c = sep then some ([], cs)
    else (splitFirst? sep cs).map fun (before, after) => (c :: before, after)

/-- The text before the last character `sep`, if it has one. -/
def beforeLast? (sep : Char) : List Char → Option (List Char)
  | [] => none
  | c :: cs =>
    match beforeLast? sep cs with
    | some before => some (c :: before)
    | none => if c = sep then some [] else none

/-- The text behind a given beginning, if it has that beginning. -/
def strip? : List Char → List Char → Option (List Char)
  | [], cs => some cs
  | _ :: _, [] => none
  | h :: head, c :: cs => if h = c then strip? head cs else none

/-- The lines of a text; a line ends at a line feed, with or without a carriage return
before it, and no line follows the last line feed. -/
def lines (cs : List Char) : List (List Char) :=
  let pieces := splitAt '\n' cs
  match pieces.getLast? with
  | none => []
  | some tail => pieces.dropLast.map bare ++ (if tail = [] then [] else [tail])
where
  /-- A line without the carriage return at its end. -/
  bare (line : List Char) : List Char :=
    if line.getLast? = some '\r' then line.dropLast else line

/-- A text in which every occurrence of `old`, taken from the left, is replaced; `old` is
not empty. -/
def replaceAll (old new cs : List Char) : List Char :=
  go cs.length cs
where
  /-- Each step takes at least one character, so the length is enough steps. -/
  go : Nat → List Char → List Char
    | 0, cs => cs
    | _ + 1, [] => []
    | steps + 1, c :: cs =>
      match strip? old (c :: cs) with
      | some rest => new ++ go steps rest
      | none => c :: go steps cs

/-- A character in capitals, as far as these are letters `A … Z`: the letters `a … z`,
the dotless i, the long s, the sharp s and the joined letters of print. -/
def capitalsOf (c : Char) : List Char :=
  match c with
  | 'ı' => ['I']
  | 'ſ' => ['S']
  | 'ß' => ['S', 'S']
  | 'ﬀ' => ['F', 'F']
  | 'ﬁ' => ['F', 'I']
  | 'ﬂ' => ['F', 'L']
  | 'ﬃ' => ['F', 'F', 'I']
  | 'ﬄ' => ['F', 'F', 'L']
  | 'ﬅ' | 'ﬆ' => ['S', 'T']
  | c => [c.toUpper]

/-- A text in capitals, as far as these are letters `A … Z`. -/
def capitals (cs : List Char) : List Char :=
  cs.flatMap capitalsOf

/-- The number of bytes of a text in UTF-8. -/
def byteCount (cs : List Char) : Nat :=
  (cs.map Char.utf8Size).foldr (· + ·) 0

/-- A text cut behind its first `n` bytes in UTF-8, unless the cut lies inside a
character. -/
def splitBytes? : Nat → List Char → Option (List Char × List Char)
  | 0, cs => some ([], cs)
  | _ + 1, [] => none
  | n + 1, c :: cs =>
    if c.utf8Size ≤ n + 1 then
      (splitBytes? (n + 1 - c.utf8Size) cs).map fun (before, after) => (c :: before, after)
    else none

/-- A natural number of at most `max`, with an optional plus sign. -/
def readNatUpTo? (max : Nat) (cs : List Char) : Option Nat :=
  let digits := match cs with
    | '+' :: rest => rest
    | rest => rest
  match readNat? digits with
  | some n => if n ≤ max then some n else none
  | none => none

/-- An integer from `min` to `max`, with an optional sign. -/
def readIntIn? (min max : Int) (cs : List Char) : Option Int :=
  let value := match cs with
    | '+' :: rest => (readNat? rest).map fun n => (n : Int)
    | '-' :: rest => (readNat? rest).map fun n => -(n : Int)
    | rest => (readNat? rest).map fun n => (n : Int)
  match value with
  | some i => if min ≤ i ∧ i ≤ max then some i else none
  | none => none

end Almanac.Text
