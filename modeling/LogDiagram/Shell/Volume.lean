import LogDiagram.Storage.FileTree

/-!
# The tree of files as a shell sees it

A shell knows links, which lead from one place to another path, and files that may be run. Outside of a shell a link is
a copy of what it leads to.

* `FileTree.openLinks` makes a tree with links of one with copies, and `FileTree.closeLinks` does the reverse;
* `FileTree.follow` follows a path through links;
* `FileTree.withoutBranch`, `FileTree.withBranch` and `FileTree.makeLink` change a tree.
-/

namespace LogDiagram.FileTree

/-! ## Attributes -/

def linkAt? (tree : FileTree) (place : Place) : Option Path :=
  tree.attributes.findSome? fun (other, mark) =>
    match mark with
    | .link target => if other = place then some target else none
    | .executable => none

def isExecutable (tree : FileTree) (place : Place) : Bool := tree.attributes.contains (place, .executable)

def setExecutable (tree : FileTree) (place : Place) (value : Bool) : FileTree :=
  let others := tree.attributes.filter (· != (place, .executable))
  { tree with attributes := if value then (place, .executable) :: others else others }

/-! ## Following paths -/

/-- How many steps a path may take. -/
def stepLimit : Nat := 8192

/-- The place that names lead to from a place. The link at the end is followed only if that is asked for. -/
def followNames (tree : FileTree) (followsLast : Bool) : (fuel : Nat) → Place → List Text → Except OsError Place
  | 0, _, _ => .error .tooManyLinks
  | _, place, [] => .ok place
  | fuel + 1, place, name :: rest => do
    let next ← tree.step place name
    match tree.linkAt? next with
    | some target =>
      if rest.isEmpty && !followsLast then return next
      else followNames tree followsLast fuel (if target.isAbsolute then [] else place) (target.names ++ rest)
    | none => followNames tree followsLast fuel next rest

/-- The place that a path leads to through links. -/
def follow (tree : FileTree) (path : Path) (followsLast : Bool) : Except OsError Place :=
  if path.isEmpty then .error .notFound
  else if path.utf8Size > Path.sizeLimit then .error .nameTooLong
  else tree.followNames (followsLast || path.hasEndSlash) stepLimit (tree.start path) path.names

/-- What stands at the end of a path through links. -/
def find (tree : FileTree) (path : Path) : Except OsError Node := do
  match tree.node? (← tree.follow path true) with
  | none => throw .notFound
  | some .directory => return .directory
  | some node => if path.hasEndSlash then throw .notDirectory else return node

def leadsToDirectory (tree : FileTree) (path : Path) : Bool := (tree.find path).toOption == some .directory

def linkAtPath? (tree : FileTree) (path : Path) : Option Path :=
  (tree.follow path false).toOption.bind tree.linkAt?

/-- Something stands at the end of a path, a link that leads nowhere included. -/
def hasEntry (tree : FileTree) (path : Path) : Bool :=
  match tree.follow path false with
  | .ok place => (tree.node? place).isSome
  | .error _ => false

/-- The place where a file can be written through links. -/
def followOutput (tree : FileTree) (path : Path) : Except OsError Place := do
  let place ← tree.follow path true
  if path.hasEndSlash || tree.node? place == some .directory then throw .isDirectory
  match tree.node? place.tail with
  | some .directory => return place
  | some _ => throw .notDirectory
  | none => throw .notFound

/-! ## Branches -/

def withoutBranch (tree : FileTree) (place : Place) : FileTree :=
  { tree with
    entries := tree.entries.filter fun entry => !place.isSuffixOf entry.1
    attributes := tree.attributes.filter fun entry => !place.isSuffixOf entry.1 }

/-- A place below one place as it is below another one. -/
def movedPlace (source target place : Place) : Place := place.take (place.length - source.length) ++ target

/-- The tree with everything at and below one place also at and below another one. -/
def withBranch (tree : FileTree) (source target : Place) : FileTree :=
  let branch := tree.entries.filter fun entry => source.isSuffixOf entry.1
  let attributes := tree.attributes.filter fun entry => source.isSuffixOf entry.1
  let tree := branch.reverse.foldl (fun tree (place, node) => tree.set (movedPlace source target place) node) tree
  { tree with
    attributes := (attributes.map fun (place, mark) => (movedPlace source target place, mark)) ++
      tree.attributes.filter fun entry => !(branch.any fun copied => movedPlace source target copied.1 == entry.1) }

def makeLink (tree : FileTree) (place : Place) (target : Path) : FileTree :=
  let tree := (tree.withoutBranch place).set place (.file [])
  { tree with attributes := (place, .link target) :: tree.attributes }

/-! ## Links and copies -/

def links (tree : FileTree) : List (Place × Path) :=
  tree.attributes.filterMap fun (place, mark) =>
    match mark with
    | .link target => some (place, target)
    | .executable => none

def openLinks (tree : FileTree) : FileTree :=
  tree.links.foldl (fun tree (place, target) => tree.makeLink place target) tree

/-- The tree with a copy of what a link leads to in the place of the link; nothing stands there if it leads nowhere. -/
def closeLink (whole tree : FileTree) (place : Place) (target : Path) : FileTree :=
  let start : Place := if target.isAbsolute then [] else place.tail
  match whole.followNames true stepLimit start target.names with
  | .error _ => tree.erase place
  | .ok source =>
    match whole.node? source with
    | none => tree.erase place
    | some .directory =>
      if source.isSuffixOf place then tree.set place .directory else (tree.erase place).withBranch source place
    | some node => tree.set place node

/-- The tree with copies in the place of links; the links are remembered. -/
def closeLinks (tree : FileTree) : FileTree :=
  let closed := tree.links.foldl (fun closed (place, target) => tree.closeLink closed place target) tree
  { closed with attributes := tree.attributes }

end LogDiagram.FileTree
