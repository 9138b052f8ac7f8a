/-!
# Tables

Small finite maps. `Table` is in the order in which keys were last assigned, and equality of keys is
all it needs. `insertFirst` builds lists that are sorted by a text and keep, for each text, the first
value it was given.
-/

namespace Strata

/-- A finite map. -/
abbrev Table (κ β : Type) := List (κ × β)

namespace Table

variable {κ β : Type} [BEq κ]

/-- The value of a key. -/
def find? (table : Table κ β) (key : κ) : Option β := List.lookup key table

/-- Gives a key a value, in place of the one it may have. -/
def assign (table : Table κ β) (key : κ) (value : β) : Table κ β :=
  (key, value) :: table.filter fun entry => !(entry.1 == key)

end Table

/-- Puts a value under a key into a list sorted by keys, unless the key is there already. -/
def insertFirst (key : String) (value : β) : List (String × β) → List (String × β)
  | [] => [(key, value)]
  | entry :: rest =>
    if key < entry.1 then (key, value) :: entry :: rest
    else if key = entry.1 then entry :: rest
    else entry :: insertFirst key value rest

/-- Puts a text into a sorted list without repeats. -/
def insertName (name : String) : List String → List String
  | [] => [name]
  | other :: rest =>
    if name < other then name :: other :: rest
    else if name = other then other :: rest
    else other :: insertName name rest

end Strata
