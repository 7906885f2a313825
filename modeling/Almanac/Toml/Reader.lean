import Almanac.Toml.Moment
import Almanac.Toml.Number
import Almanac.Toml.Tree

/-! # Reading TOML

A TOML document is a list of statements, one a line: values given to keys, and headers
that name the table for the lines below.  Reading goes line by line; the tree puts the
statements together.
-/
namespace Almanac.Toml

/-- The most names of a key and the most values inside each other. -/
def depthLimit : Nat := 79

/-! ## Blanks and comments -/

/-- A character a comment may hold: a tab or any that is not a control character of
ASCII. -/
def isCommentChar (c : Char) : Bool :=
  c == '\t' || 32 ≤ c.toNat && c.toNat ≠ 127

/-- The text behind the rest of a line that holds nothing but blanks and a comment. -/
def lineEnd? (cs : List Char) : Option (List Char) :=
  let behind := match skipSpace cs with
    | '#' :: rest => rest.dropWhile isCommentChar
    | rest => rest
  if behind = [] then some [] else newline? behind

/-- A text without the blanks, line ends and comments in front.  A comment goes up to the
end of its line, which has to be there. -/
def skipFiller? (inComment : Bool) : List Char → Option (List Char)
  | [] => if inComment then none else some []
  | '\n' :: rest => skipFiller? false rest
  | '\r' :: '\n' :: rest => skipFiller? false rest
  | c :: rest =>
    if inComment then (if isCommentChar c then skipFiller? true rest else none)
    else if isSpace c then skipFiller? false rest
    else if c = '#' then skipFiller? true rest
    else some (c :: rest)

/-! ## Keys -/

/-- A character of a key that is not quoted. -/
def isBareKeyChar (c : Char) : Bool :=
  c.isAlphanum || c == '_' || c == '-'

/-- One name of a key. -/
def name? : List Char → Option (String × List Char)
  | '"' :: rest => (basic? rest).map fun (cs, rest) => (String.ofList cs, rest)
  | '\'' :: rest => (literal? rest).map fun (cs, rest) => (String.ofList cs, rest)
  | cs =>
    match cs.takeWhile isBareKeyChar with
    | [] => none
    | name => some (String.ofList name, cs.dropWhile isBareKeyChar)

/-- The names of a key, between points, with blanks allowed around each. -/
def names? : Nat → List Char → Option (List String × List Char)
  | 0, _ => none
  | limit + 1, cs =>
    match name? (skipSpace cs) with
    | none => none
    | some (name, rest) =>
      match skipSpace rest with
      | '.' :: rest => (names? limit rest).map fun (names, rest) => (name :: names, rest)
      | rest => some ([name], rest)

/-- A key. -/
def path? (cs : List Char) : Option (Path × List Char) :=
  match names? depthLimit cs with
  | some (names, rest) => names.getLast?.map fun name => (⟨names.dropLast, name⟩, rest)
  | none => none

/-! ## Values -/

/-- A value that starts like a number. -/
def numeric? (cs : List Char) : Option (Value × List Char) :=
  (readMoment? cs).or ((readFraction? cs).or (readInteger? cs))

/-- A value without parts. -/
def scalar? (cs : List Char) : Option (Value × List Char) :=
  match Text.strip? "true".toList cs, Text.strip? "false".toList cs with
  | some rest, _ => some (.bool true, rest)
  | none, some rest => some (.bool false, rest)
  | none, none =>
    match cs with
    | '"' :: _ => (string? cs).map fun (text, rest) => (.string (String.ofList text), rest)
    | '\'' :: _ => (string? cs).map fun (text, rest) => (.string (String.ofList text), rest)
    | _ => numeric? cs

mutual

/-- A value with at most `depth` values around its innermost one. -/
def value? :
    Nat → Nat → List Char → Option (Value × List Char)
  | 0, _, _ => none
  | steps + 1, depth, '[' :: rest =>
    match depth, skipFiller? false rest with
    | _ + 1, some (']' :: rest) => some (.array [], rest)
    | depth + 1, some rest =>
      (items? steps depth rest).map fun (vs, rest) => (.array vs, rest)
    | _, _ => none
  | steps + 1, depth, '\x7b' :: rest =>
    match depth, skipSpace rest with
    | _ + 1, '\x7d' :: rest => some (.table [], rest)
    | depth + 1, rest =>
      match members? steps depth rest with
      | some (ms, rest) => (inlineTable? ms).map fun v => (v, rest)
      | none => none
    | _, _ => none
  | _ + 1, _, cs => scalar? cs

/-- The items of an array from one item on, up to the closing bracket.  A comma may stand
behind the last item. -/
def items? :
    Nat → Nat → List Char → Option (List Value × List Char)
  | 0, _, _ => none
  | steps + 1, depth, cs =>
    match value? steps depth cs with
    | none => none
    | some (v, rest) =>
      match skipFiller? false rest with
      | some (']' :: rest) => some ([v], rest)
      | some (',' :: rest) =>
        match skipFiller? false rest with
        | some (']' :: rest) => some ([v], rest)
        | some rest => (items? steps depth rest).map fun (vs, rest) => (v :: vs, rest)
        | none => none
      | _ => none

/-- The members of an inline table from one member on, up to the closing brace. -/
def members? :
    Nat → Nat → List Char → Option (List (Path × Value) × List Char)
  | 0, _, _ => none
  | steps + 1, depth, cs =>
    match path? cs with
    | some (path, '=' :: rest) =>
      match value? steps depth (skipSpace rest) with
      | none => none
      | some (v, rest) =>
        match skipSpace rest with
        | '\x7d' :: rest => some ([(path, v)], rest)
        | ',' :: rest =>
          (members? steps depth rest).map fun (ms, rest) => ((path, v) :: ms, rest)
        | _ => none
    | _ => none

end

/-! ## Lines -/

/-- A value given to a key. -/
def assignment? (cs : List Char) : Option (Statement × List Char) :=
  match path? cs with
  | some (path, '=' :: rest) =>
    (value? (2 * rest.length + 1) depthLimit (skipSpace rest)).map
      fun (v, rest) => (.assign path v, rest)
  | _ => none

/-- The statement in front of a text, if its first line has one. -/
def statement? : List Char → Option (Option Statement × List Char)
  | '[' :: '[' :: rest =>
    match path? rest with
    | some (path, ']' :: ']' :: rest) => some (some (.arrayHeader path), rest)
    | _ => none
  | '[' :: rest =>
    match path? rest with
    | some (path, ']' :: rest) => some (some (.header path), rest)
    | _ => none
  | cs =>
    if (lineEnd? cs).isSome then some (none, cs)
    else (assignment? cs).map fun (s, rest) => (some s, rest)

/-- The statements of a text, line by line. -/
def statements? : Nat → List Char → Option (List Statement)
  | 0, _ => none
  | _ + 1, [] => some []
  | steps + 1, cs => do
    let (s, rest) ← statement? (skipSpace cs)
    let rest ← lineEnd? rest
    let statements ← statements? steps rest
    return s.toList ++ statements

/-- The statements of a document.  A byte order mark in front does not count. -/
def documentStatements? (cs : List Char) : Option (List Statement) :=
  let cs := match cs with
    | '\uFEFF' :: rest => rest
    | cs => cs
  statements? (cs.length + 1) cs

/-- The dialect of TOML: a choice without content holds an empty array or table, and a
record in array form may have items too many. -/
def dialect : Dialect where
  isNothing
    | .array [] => true
    | .table [] => true
    | _ => false
  allowsSurplus := true

/-- The table of a TOML document. -/
def read? (s : String) : Option Value :=
  (documentStatements? s.toList).bind Tree.ofStatements?

end Almanac.Toml
