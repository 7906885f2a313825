import Almanac.Document
import Almanac.Text.Hex

/-! # Writing JSON

A value as JSON text, on one line or with one member a line, indented by two blanks.
-/
namespace Almanac.Json

/-- A character inside a quoted text: quotes, backslashes and control characters are
escaped. -/
def escaped (c : Char) : List Char :=
  match c with
  | '"' => ['\\', '"']
  | '\\' => ['\\', '\\']
  | '\x08' => ['\\', 'b']
  | '\x0c' => ['\\', 'f']
  | '\n' => ['\\', 'n']
  | '\r' => ['\\', 'r']
  | '\t' => ['\\', 't']
  | c =>
    if c.toNat < 32 then
      ['\\', 'u', '0', '0', Text.hexDigit (c.toNat / 16), Text.hexDigit (c.toNat % 16)]
    else [c]

/-- A text in quotes. -/
def quoted (s : String) : String :=
  String.ofList ('"' :: s.toList.flatMap escaped ++ ['"'])

/-- A value that has no parts. -/
def scalar : Value → String
  | .bool true => "true"
  | .bool false => "false"
  | .int i => Text.intText i
  | .string s => quoted s
  | .dateTime text => quoted text
  | _ => "null"

mutual

/-- A value on one line. -/
def line : Value → String
  | .array items => "[" ++ ",".intercalate (lineItems items) ++ "]"
  | .table members => "\x7b" ++ ",".intercalate (lineMembers members) ++ "\x7d"
  | v => scalar v

/-- The items of an array, each on one line. -/
def lineItems : List Value → List String
  | [] => []
  | v :: rest => line v :: lineItems rest

/-- The members of a table, each on one line. -/
def lineMembers : List (String × Value) → List String
  | [] => []
  | (name, v) :: rest => (quoted name ++ ":" ++ line v) :: lineMembers rest

end

/-- A line break and the indentation of a depth. -/
def newLine (depth : Nat) : String :=
  "\n" ++ String.ofList (List.replicate (2 * depth) ' ')

/-- Parts between brackets, one a line; without parts the brackets stand together. -/
def block (opening closing : String) (depth : Nat) (parts : List String) : String :=
  if parts = [] then opening ++ closing
  else
    opening ++ newLine (depth + 1) ++ ("," ++ newLine (depth + 1)).intercalate parts ++
      newLine depth ++ closing

mutual

/-- A value with one part a line, at an indentation. -/
def indented (depth : Nat) : Value → String
  | .array items => block "[" "]" depth (indentedItems (depth + 1) items)
  | .table members => block "\x7b" "\x7d" depth (indentedMembers (depth + 1) members)
  | v => scalar v

/-- The items of an array at an indentation. -/
def indentedItems (depth : Nat) : List Value → List String
  | [] => []
  | v :: rest => indented depth v :: indentedItems depth rest

/-- The members of a table at an indentation. -/
def indentedMembers (depth : Nat) : List (String × Value) → List String
  | [] => []
  | (name, v) :: rest =>
    (quoted name ++ ": " ++ indented depth v) :: indentedMembers depth rest

end

/-- A value as JSON text with one part a line. -/
def pretty (v : Value) : String :=
  indented 0 v

end Almanac.Json
