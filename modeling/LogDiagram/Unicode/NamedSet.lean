import LogDiagram.Unicode.Ranges

/-!
# Sets of characters with names

A `NamedSet` is a set of characters that the standard defines, such as a script, with the names under which it is looked
up. Its members are worked out when they are asked for first.
-/

namespace LogDiagram.Unicode

/-- A set of characters with its names, in small letters and without separators. -/
structure NamedSet where
  names : List String
  members : Thunk Ranges

namespace NamedSet

def ranges (set : NamedSet) : Ranges := set.members.get

def isNamed (name : String) (set : NamedSet) : Bool := set.names.contains name

/-- The first of some sets that has the given name. -/
def find? (sets : List NamedSet) (name : String) : Option NamedSet := sets.find? (isNamed name)

/-- The sets up to the first one with the given name, that one included. -/
def upTo? (sets : List NamedSet) (name : String) : Option (List NamedSet) :=
  match sets with
  | [] => none
  | set :: rest => if set.isNamed name then some [set] else (upTo? rest name).map fun found => set :: found

end NamedSet

end LogDiagram.Unicode
