/-!
Tables from texts to values, as lists in ascending order of their keys. Inserting keeps the order,
and the value inserted last is the one that is found.
-/

namespace Remediation

/-- A table whose keys are texts. -/
abbrev Table (α : Type) := List (String × α)

namespace Table

variable {α : Type}

/-- The value of a key. -/
def get? (table : Table α) (key : String) : Option α :=
  table.lookup key

def contains (table : Table α) (key : String) : Bool :=
  (get? table key).isSome

/-- Sets the value of a key. -/
def insert (key : String) (value : α) : Table α → Table α
  | [] => [(key, value)]
  | (k, v) :: rest =>
      if key < k then (key, value) :: (k, v) :: rest
      else if key = k then (key, value) :: rest
      else (k, v) :: insert key value rest

/-- Sets values one after the other, so that of equal keys the last one wins. -/
def insertAll (table : Table α) (added : List (String × α)) : Table α :=
  added.foldl (fun table (key, value) => insert key value table) table

/-- The table of a list of keys and values. -/
def ofList (entries : List (String × α)) : Table α :=
  insertAll [] entries

/-- The table without a key. -/
def erase (table : Table α) (key : String) : Table α :=
  table.filter (fun entry => entry.1 ≠ key)

def keys (table : Table α) : List String :=
  table.map Prod.fst

end Table

end Remediation
