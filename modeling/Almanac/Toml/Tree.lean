import Almanac.Document

/-! # The tree of a TOML document

Statements are put together to one table.  A table may be named by a header, implied by
the header of a table inside it, or by a key of several names; a header may complete a table
that was only implied, and a key may add to a table that only keys have named.  Everything
else that gives one name twice is refused.
-/
namespace Almanac.Toml

/-- A name that the tree of a document gives a place to: names of tables, and a last
name. -/
structure Path where
  parents : List String
  name : String
  deriving DecidableEq

/-- A statement of a document. -/
inductive Statement where
  /-- A value for a key of the current table. -/
  | assign (path : Path) (value : Value)
  /-- The current table from here on. -/
  | header (path : Path)
  /-- A new last table of an array of tables, current from here on. -/
  | arrayHeader (path : Path)

/-- How a table came to be. -/
inductive Origin where
  /-- By a header of its own. -/
  | header
  /-- By the header of a table inside it. -/
  | implied
  /-- By a key of several names. -/
  | key
  deriving DecidableEq

/-- What a name stands for. -/
inductive Item where
  | value (v : Value)
  | table (origin : Origin) (members : List (String × Item))
  /-- An array of tables; statements reach the last one. -/
  | tables (earlier : List (List (String × Item))) (last : List (String × Item))

/-- The members of a table under construction. -/
abbrev Members := List (String × Item)

namespace Members

/-- The members with the item of one name changed; a new name comes last. -/
def update? (name : String) (change : Option Item → Option Item) : Members → Option Members
  | [] => (change none).map fun item => [(name, item)]
  | (other, item) :: rest =>
    if other = name then (change (some item)).map fun item => (name, item) :: rest
    else (update? name change rest).map ((other, item) :: ·)

/-- Changes the table that names lead to.  A missing table is made with an origin, and a
table is entered if its origin allows it; of an array of tables the last is entered. -/
def within? (made : Origin) (enters : Origin → Bool) (change : Origin → Members → Option Members) :
    List String → Origin → Members → Option Members
  | [], origin, members => change origin members
  | name :: names, _, members =>
    members.update? name fun
      | none => (within? made enters change names made []).map (.table made)
      | some (.table origin inner) =>
        if enters origin then
          (within? made enters change names origin inner).map (.table origin)
        else none
      | some (.tables earlier last) =>
        (within? made enters change names .header last).map (.tables earlier)
      | some (.value _) => none

/-- Changes the table that the names of a header lead to. -/
def underHeader? (names : List String) (change : Members → Option Members) (members : Members) :
    Option Members :=
  within? .implied (fun _ => true) (fun _ => change) names .header members

/-- Gives a value to a key.  The names before the last lead through tables that have no
header, and to one that only keys have named. -/
def assign? (path : Path) (v : Value) (members : Members) : Option Members :=
  within? .key (· != .header)
    (fun origin inner =>
      if path.parents ≠ [] ∧ origin ≠ .key then none
      else inner.update? path.name fun
        | none => some (.value v)
        | some _ => none)
    path.parents .header members

/-- Makes the table of a header.  It may complete a table that another header implied. -/
def open? (path : Path) : Members → Option Members :=
  underHeader? path.parents fun inner =>
    inner.update? path.name fun
      | none => some (.table .header [])
      | some (.table .implied members) => some (.table .header members)
      | some _ => none

/-- Adds a table to an array of tables. -/
def append? (path : Path) : Members → Option Members :=
  underHeader? path.parents fun inner =>
    inner.update? path.name fun
      | none => some (.tables [] [])
      | some (.tables earlier last) => some (.tables (earlier ++ [last]) [])
      | some _ => none

end Members

mutual

/-- The value of an item. -/
def Item.toValue : Item → Value
  | .value v => v
  | .table _ members => .table (membersValue members)
  | .tables earlier last => .array (tablesValue earlier ++ [.table (membersValue last)])

/-- The values of the members of a table. -/
def membersValue : List (String × Item) → List (String × Value)
  | [] => []
  | (name, item) :: rest => (name, item.toValue) :: membersValue rest

/-- The values of the tables of an array. -/
def tablesValue : List (List (String × Item)) → List Value
  | [] => []
  | members :: rest => .table (membersValue members) :: tablesValue rest

end

/-- A document under construction: its members and the names of the current table. -/
structure Tree where
  members : Members := []
  current : List String := []

namespace Tree

/-- The document after one more statement. -/
def add? (t : Tree) : Statement → Option Tree
  | .assign path v =>
    (t.members.underHeader? t.current (Members.assign? path v)).map fun members =>
      { t with members := members }
  | .header path =>
    (t.members.open? path).map fun members => ⟨members, path.parents ++ [path.name]⟩
  | .arrayHeader path =>
    (t.members.append? path).map fun members => ⟨members, path.parents ++ [path.name]⟩

/-- The table of a list of statements. -/
def ofStatements? (statements : List Statement) : Option Value :=
  (statements.foldlM add? {}).map fun t => .table (membersValue t.members)

end Tree

/-- The value of an inline table. -/
def inlineTable? (members : List (Path × Value)) : Option Value :=
  Tree.ofStatements? (members.map fun (path, v) => .assign path v)

end Almanac.Toml
