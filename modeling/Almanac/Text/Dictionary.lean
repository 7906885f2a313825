/-! # Dictionaries

Finite maps from strings to strings, as pairs in ascending order of their keys, each key
once.
-/
namespace Almanac

/-- A finite map from strings to strings: its entries in ascending order of the keys. -/
structure Dictionary where
  entries : List (String × String) := []
  deriving DecidableEq, Repr, Inhabited

namespace Dictionary

/-- The map without entries. -/
def empty : Dictionary := ⟨[]⟩

instance : EmptyCollection Dictionary := ⟨empty⟩

/-- The entries with one key set. -/
def insertEntry (key value : String) : List (String × String) → List (String × String)
  | [] => [(key, value)]
  | (k, v) :: rest =>
    if key < k then (key, value) :: (k, v) :: rest
    else if k = key then (key, value) :: rest
    else (k, v) :: insertEntry key value rest

/-- The map with one key set; a value the key had before is lost. -/
def insert (d : Dictionary) (key value : String) : Dictionary :=
  ⟨insertEntry key value d.entries⟩

/-- The map of a list of entries; of two entries with one key the later holds. -/
def ofList (entries : List (String × String)) : Dictionary :=
  entries.foldl (fun d (k, v) => d.insert k v) empty

/-- The value of a key. -/
def get? (d : Dictionary) (key : String) : Option String :=
  (d.entries.find? (·.1 = key)).map (·.2)

/-- The values, in the order of their keys. -/
def values (d : Dictionary) : List String :=
  d.entries.map (·.2)

end Dictionary
end Almanac
