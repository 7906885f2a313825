import Almanac.Text.Dictionary

/-! # Documents

The values that documents in text are made of, and the readers that take numbers, texts,
lists and records out of them.  A value that does not have the form a reader asks for is
refused as a whole; the form of a document is one thing and what it says another.
-/
namespace Almanac

/-- A value of a document. -/
inductive Value where
  | null
  | bool (b : Bool)
  | int (i : Int)
  /-- A value that nothing here is made of: a number with a fraction or an exponent, or a
  text of code units that are no characters.  Only that it stands there is kept. -/
  | foreign
  | string (s : String)
  /-- A date or time that is not a text, in its usual spelling. -/
  | dateTime (text : String)
  | array (items : List Value)
  /-- Members by name, in the order of the document. -/
  | table (members : List (String × Value))
  deriving Inhabited

/-- What document formats do not agree on. -/
structure Dialect where
  /-- Whether a value may stand where a choice has no content. -/
  isNothing : Value → Bool
  /-- Whether a record in array form may have more items than fields. -/
  allowsSurplus : Bool

namespace Value

/-- The one name in a date that stands where a table is asked for. -/
def dateTimeKey : String := "$__toml_private_datetime"

/-- A truth value. -/
def bool? : Value → Option Bool
  | bool b => some b
  | _ => none

/-- A text. -/
def string? : Value → Option String
  | string s => some s
  | _ => none

/-- An integer from `min` to `max`. -/
def int? (min max : Int) : Value → Option Int
  | int i => if min ≤ i ∧ i ≤ max then some i else none
  | _ => none

/-- A natural number of at most `max`. -/
def nat? (max : Nat) (v : Value) : Option Nat :=
  (v.int? 0 max).map Int.toNat

/-- A list of values of one form. -/
def list? {α : Type} (read : Value → Option α) : Value → Option (List α)
  | array items => items.mapM read
  | _ => none

/-- A value that may be missing. -/
def optional? {α : Type} (read : Value → Option α) : Value → Option (Option α)
  | null => some none
  | v => (read v).map some

/-- The members of a table.  A date in place of a table has its text under one name. -/
def members? : Value → Option (List (String × Value))
  | table members => some members
  | dateTime text => some [(dateTimeKey, string text)]
  | _ => none

/-- A table of texts. -/
def dictionary? (v : Value) : Option Dictionary := do
  let members ← v.members?
  let entries ← members.mapM fun (name, v) => v.string?.map fun s => (name, s)
  return .ofList entries

/-- The choice a value names: a name alone, or a table with one name and its content. -/
def choice? : Value → Option (String × Option Value)
  | string name => some (name, none)
  | table [(name, content)] => some (name, some content)
  | _ => none

/-- A choice without content, by its name. -/
def named? {α : Type} (dialect : Dialect) (read : String → Option α) (v : Value) : Option α :=
  match v.choice? with
  | some (name, none) => read name
  | some (name, some content) => if dialect.isNothing content then read name else none
  | none => none

/-- A list of texts. -/
def ofStrings (items : List String) : Value :=
  array (items.map string)

/-- A text, or null. -/
def ofString? : Option String → Value
  | some s => string s
  | none => null

/-- A natural number. -/
def nat (n : Nat) : Value :=
  int n

/-- The table of a dictionary. -/
def ofDictionary (d : Dictionary) : Value :=
  table (d.entries.map fun (key, value) => (key, string value))

/-- The member of a table under a name; the first one, if it is repeated. -/
def get? (v : Value) (name : String) : Option Value :=
  match v with
  | table members => (members.find? (·.1 == name)).map (·.2)
  | _ => none

end Value

/-- The fields of a record that a value gives, each at most once. -/
structure RecordFields where
  fields : List (String × Value)

namespace RecordFields

/-- The fields of a record: members of a table by name, or items of an array in the order
of the names.  Other names in a table do not count; a field given twice is refused. -/
def read? (dialect : Dialect) (names : List String) : Value → Option RecordFields
  | .array items =>
    if items.length ≤ names.length || dialect.allowsSurplus then some ⟨names.zip items⟩ else none
  | v => do
    let fields := (← v.members?).filter fun m => names.contains m.1
    if (fields.map (·.1)).Nodup then some ⟨fields⟩ else none

/-- The value of a field. -/
def get? (f : RecordFields) (name : String) : Option Value :=
  (f.fields.find? (·.1 == name)).map (·.2)

/-- A field that has to be given. -/
def required? {α : Type} (f : RecordFields) (name : String) (read : Value → Option α) : Option α :=
  (f.get? name).bind read

/-- A field with the value it has when it is not given. -/
def default? {α : Type} (f : RecordFields) (name : String) (read : Value → Option α) (value : α) :
    Option α :=
  match f.get? name with
  | some v => read v
  | none => some value

end RecordFields
end Almanac
