import Almanac.Document
import Almanac.Text.Hex
import Almanac.Text.Pieces

/-! # Reading JSON

The value of a JSON text.  Every reader takes what it needs from the front of a list of
characters and returns the rest.  A nested value is shorter than the text it stands in, so
the length of the text bounds the number of steps.
-/
namespace Almanac.Json

open Text (digitRun digitsValue)

/-- The dialect of JSON: a choice without content holds null, and arrays are exact. -/
def dialect : Dialect where
  isNothing
    | .null => true
    | _ => false
  allowsSurplus := false

/-- A text without the white space in front. -/
def skip (cs : List Char) : List Char :=
  cs.dropWhile fun c => c == ' ' || c == '\n' || c == '\t' || c == '\r'

/-- Four hexadecimal digits. -/
def codeUnit? (cs : List Char) : Option (Nat × List Char) :=
  if 4 ≤ cs.length then (Text.hexNumber? (cs.take 4)).map fun n => (n, cs.drop 4) else none

/-- The second half of a pair of code units, escaped. -/
def lowSurrogate? : List Char → Option (Nat × List Char)
  | '\\' :: 'u' :: rest =>
    match codeUnit? rest with
    | some (n, rest) => if 0xDC00 ≤ n ∧ n < 0xE000 then some (n, rest) else none
    | none => none
  | _ => none

/-- The character of an escape with a code, behind its `u`.  Half of a pair alone is a code
without a character. -/
def codeEscape? (cs : List Char) : Option (Option Char × List Char) := do
  let (high, rest) ← codeUnit? cs
  if 0xD800 ≤ high ∧ high < 0xDC00 then
    match lowSurrogate? rest with
    | some (low, rest) =>
      return (some (Char.ofNat (0x10000 + (high - 0xD800) * 0x400 + (low - 0xDC00))), rest)
    | none => return (none, rest)
  else if 0xDC00 ≤ high ∧ high < 0xE000 then return (none, rest)
  else return (some (Char.ofNat high), rest)

/-- The character of an escape, behind its backslash. -/
def escape? : List Char → Option (Option Char × List Char)
  | '"' :: rest => some (some '"', rest)
  | '\\' :: rest => some (some '\\', rest)
  | '/' :: rest => some (some '/', rest)
  | 'b' :: rest => some (some '\x08', rest)
  | 'f' :: rest => some (some '\x0c', rest)
  | 'n' :: rest => some (some '\n', rest)
  | 'r' :: rest => some (some '\r', rest)
  | 't' :: rest => some (some '\t', rest)
  | 'u' :: rest => codeEscape? rest
  | _ => none

/-- A character in front of a text; without it there is no text. -/
def before (c : Option Char) (text : Option (List Char)) : Option (List Char) :=
  match c, text with
  | some c, some cs => some (c :: cs)
  | _, _ => none

/-- What stands between quotes, behind the opening one: a text, unless half of a pair is
in it.  Control characters have to be escaped. -/
def quoted? : Nat → List Char → Option (Option (List Char) × List Char)
  | 0, _ => none
  | _ + 1, [] => none
  | _ + 1, '"' :: rest => some (some [], rest)
  | steps + 1, '\\' :: rest =>
    match escape? rest with
    | some (c, rest) => (quoted? steps rest).map fun (text, rest) => (before c text, rest)
    | none => none
  | steps + 1, c :: rest =>
    if c.toNat < 32 then none
    else (quoted? steps rest).map fun (text, rest) => (before c text, rest)

/-- A text in quotes, or what stands in its place. -/
def string? : List Char → Option (Option String × List Char)
  | '"' :: rest =>
    (quoted? (rest.length + 1) rest).map fun (text, rest) => (text.map String.ofList, rest)
  | _ => none

/-- The value of a text in quotes. -/
def textValue : Option String → Value
  | some s => .string s
  | none => .foreign

/-- The table of members, if all their names are texts. -/
def tableValue (members : List (Option String × Value)) : Value :=
  match members.mapM fun (name, v) => name.map fun name => (name, v) with
  | some members => .table members
  | none => .foreign

/-- The digits in front, one at least. -/
def digits? (cs : List Char) : Option (List Char × List Char) :=
  match digitRun cs.length cs with
  | ([], _) => none
  | (ds, rest) => some (ds, rest)

/-- The text behind the fraction of a number, if it has one; the flag says whether it
has. -/
def afterFraction? : List Char → Option (Bool × List Char)
  | '.' :: rest => (digits? rest).map fun (_, rest) => (true, rest)
  | rest => some (false, rest)

/-- The text behind the exponent of a number, if it has one; the flag says whether it
has. -/
def afterExponent? : List Char → Option (Bool × List Char)
  | c :: rest =>
    if c = 'e' ∨ c = 'E' then
      let unsigned := match rest with
        | '+' :: rest => rest
        | '-' :: rest => rest
        | rest => rest
      (digits? unsigned).map fun (_, rest) => (true, rest)
    else some (false, c :: rest)
  | [] => some (false, [])

/-- A number without its sign.  Integers have no superfluous zeros in front; minus zero
counts as a number with a fraction, for no integer has that form. -/
def number? (negative : Bool) (cs : List Char) : Option (Value × List Char) := do
  let (ds, rest) ← digits? cs
  if 1 < ds.length ∧ ds.head? = some '0' then none
  else
    let (hasFraction, rest) ← afterFraction? rest
    let (hasExponent, rest) ← afterExponent? rest
    let n := digitsValue ds
    let value : Value :=
      if hasFraction || hasExponent || negative && n == 0 then .foreign
      else .int (if negative then -(n : Int) else n)
    return (value, rest)

/-- A value whose first character is no bracket and no quote. -/
def bare? (cs : List Char) : Option (Value × List Char) :=
  match Text.strip? "true".toList cs, Text.strip? "false".toList cs,
      Text.strip? "null".toList cs, cs with
  | some rest, _, _, _ => some (.bool true, rest)
  | _, some rest, _, _ => some (.bool false, rest)
  | _, _, some rest, _ => some (.null, rest)
  | _, _, _, '-' :: rest => number? true rest
  | _, _, _, rest => number? false rest

mutual

/-- A value, with white space allowed in front. -/
def value? : Nat → List Char → Option (Value × List Char)
  | 0, _ => none
  | steps + 1, cs =>
    match skip cs with
    | '"' :: rest => (string? ('"' :: rest)).map fun (text, rest) => (textValue text, rest)
    | '[' :: rest =>
      match skip rest with
      | ']' :: rest => some (.array [], rest)
      | rest => (items? steps rest).map fun (vs, rest) => (.array vs, rest)
    | '\x7b' :: rest =>
      match skip rest with
      | '\x7d' :: rest => some (.table [], rest)
      | rest => (members? steps rest).map fun (ms, rest) => (tableValue ms, rest)
    | rest => bare? rest

/-- The items of an array from one item on, up to the closing bracket. -/
def items? : Nat → List Char → Option (List Value × List Char)
  | 0, _ => none
  | steps + 1, cs =>
    match value? steps cs with
    | none => none
    | some (v, rest) =>
      match skip rest with
      | ']' :: rest => some ([v], rest)
      | ',' :: rest => (items? steps rest).map fun (vs, rest) => (v :: vs, rest)
      | _ => none

/-- The members of a table from one member on, up to the closing brace. -/
def members? : Nat → List Char → Option (List (Option String × Value) × List Char)
  | 0, _ => none
  | steps + 1, cs =>
    match string? (skip cs) with
    | none => none
    | some (name, rest) =>
      match skip rest with
      | ':' :: rest =>
        match value? steps rest with
        | none => none
        | some (v, rest) =>
          match skip rest with
          | '\x7d' :: rest => some ([(name, v)], rest)
          | ',' :: rest => (members? steps rest).map fun (ms, rest) => ((name, v) :: ms, rest)
          | _ => none
      | _ => none

end

/-- The value of a whole JSON text. -/
def read? (s : String) : Option Value :=
  let cs := s.toList
  match value? (2 * cs.length + 1) cs with
  | some (v, rest) => if skip rest = [] then some v else none
  | none => none

end Almanac.Json
