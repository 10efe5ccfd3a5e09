namespace Monitor8080

/-!
# Maps from names

A map from names keeps its entries in increasing order of the names, compared
character by character, so that listing it needs no sorting and two maps with
the same entries are equal.
-/

/-- Entries in increasing order of their names. -/
abbrev NameMap (α : Type) := List (String × α)

namespace NameMap

/-- The value under a name. -/
def find? (map : NameMap α) (name : String) : Option α :=
  (List.find? (·.1 == name) map).map (·.2)

/-- The map with a value under a name, in place of the one before if there was one. -/
def insert (map : NameMap α) (name : String) (value : α) : NameMap α :=
  match map with
  | [] => [(name, value)]
  | (other, present) :: rest =>
      if name < other then
        (name, value) :: (other, present) :: rest
      else if name = other then
        (name, value) :: rest
      else
        (other, present) :: insert rest name value

/-- The map without the value under a name. -/
def erase (map : NameMap α) (name : String) : NameMap α :=
  List.filter (·.1 != name) map

/-- The map of entries in any order, of which the last one under a name counts. -/
def ofEntries (entries : List (String × α)) : NameMap α :=
  entries.foldl (fun map entry => insert map entry.1 entry.2) []

end NameMap

end Monitor8080
