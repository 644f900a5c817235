import LogDiagram.Bytes.Utf8
import LogDiagram.Path.Basic
import LogDiagram.Storage.OsError

/-!
# Trees of files and directories

A `FileTree` says what stands at which `Place`. A path is followed from the working directory, or from the root if it
starts with a slash, and every place on the way has to be a directory.

* `FileTree.locate` follows a path to a place;
* `FileTree.node`, `FileTree.read`, `FileTree.write`, `FileTree.makeDirectory`, `FileTree.remove`, `FileTree.rename` and
  `FileTree.copy` are what can be done with a path; what changes the tree gives the new one.
-/

namespace LogDiagram

/-- A place: the names on the way to it from the root, the last one first. -/
abbrev Place := List Text

/-- What stands at a place. -/
inductive Node where
  | file (content : Bytes)
  | directory
  /-- Something that is always empty and to which everything may be written. -/
  | device
  deriving DecidableEq, Repr

/-- What a shell knows of a place besides what stands there. -/
inductive Attribute where
  /-- The file may be run. -/
  | executable
  /-- What stands there is a copy of what a path leads to. -/
  | link (target : Path)
  deriving DecidableEq, Repr

/--
What stands where, and the place from which paths are followed. The attributes are of use to shells only: nothing else
looks at them.
-/
structure FileTree where
  entries : List (Place × Node)
  workingPlace : Place
  attributes : List (Place × Attribute)
  deriving DecidableEq, Repr

namespace Path

def names (path : Path) : List Text := (Text.splitAtChar '/' path).filter fun name => !name.isEmpty

def hasEndSlash (path : Path) : Bool := path.getLast? == some '/'

/-- The name of the directory itself and the name of the directory around. -/
def isDots (name : Text) : Bool := name == ['.'] || name == ['.', '.']

def endsInDots (path : Path) : Bool :=
  match path.names.getLast? with
  | some name => isDots name
  | none => true

def nameLimit : Nat := 255

/-- How many bytes a path may have. -/
def sizeLimit : Nat := 4095

end Path

namespace FileTree

/-- The place of the device that is always empty. -/
def devicePlace : Place := ["null".toList, "dev".toList]

def systemPlaces : List Place :=
  [["dev"], ["tmp"], ["bin", "usr"], ["usr"], ["bin"], ["etc"], ["home"], ["root"], ["var"]].map (·.map String.toList)

/-- A tree with nothing in it but the device and the directories of the system, in which paths are followed from a place. -/
def withDevice (workingPlace : Place) : FileTree where
  entries := (devicePlace, .device) :: systemPlaces.map fun place => (place, .directory)
  workingPlace
  attributes := []

/-- What stands at a place; the root is always a directory. -/
def node? (tree : FileTree) (place : Place) : Option Node :=
  if place.isEmpty then some .directory else tree.entries.lookup place

def erase (tree : FileTree) (place : Place) : FileTree :=
  { tree with entries := tree.entries.filter fun entry => entry.1 != place }

def set (tree : FileTree) (place : Place) (node : Node) : FileTree :=
  { tree with entries := (place, node) :: (tree.erase place).entries }

def children (tree : FileTree) (place : Place) : List Text :=
  tree.entries.filterMap fun (entry, _) =>
    match entry with
    | name :: above => if above = place then some name else none
    | [] => none

/-! ## Following paths -/

/-- From a place to the one that a name leads to. -/
def step (tree : FileTree) (place : Place) (name : Text) : Except OsError Place :=
  match tree.node? place with
  | some .directory =>
    if name = ['.'] then .ok place
    else if name = ['.', '.'] then .ok place.tail
    else if name.utf8Size > Path.nameLimit then .error .nameTooLong
    else .ok (name :: place)
  | some (.file _) | some .device => .error .notDirectory
  | none => .error .notFound

def start (tree : FileTree) (path : Path) : Place := if path.isAbsolute then [] else tree.workingPlace

/-- The place that a path leads to. Something stands at each place on the way, but maybe not at the end. -/
def locate (tree : FileTree) (path : Path) : Except OsError Place :=
  if path.isEmpty then .error .notFound
  else if path.contains '\x00' then .error .nulInPath
  else if path.utf8Size > Path.sizeLimit then .error .nameTooLong
  else path.names.foldlM tree.step (tree.start path)

/-- What stands at the end of a path. -/
def node (tree : FileTree) (path : Path) : Except OsError Node := do
  match tree.node? (← tree.locate path) with
  | none => throw .notFound
  | some .directory => return .directory
  | some node => if path.hasEndSlash then throw .notDirectory else return node

/-- A path leads to something. -/
def contains (tree : FileTree) (path : Path) : Bool := (tree.node path).toOption.isSome

def hasDirectory (tree : FileTree) (path : Path) : Bool := (tree.node path).toOption == some .directory

/-- The content of a file. -/
def read (tree : FileTree) (path : Path) : Except OsError Bytes := do
  match ← tree.node path with
  | .file content => return content
  | .directory => throw .isDirectory
  | .device => return []

/-! ## Changes -/

/-- The place of a file that is to be written. -/
def locateOutput (tree : FileTree) (path : Path) : Except OsError Place := do
  let place ← tree.locate path
  if path.endsInDots || path.hasEndSlash || tree.node? place == some .directory then throw .isDirectory
  return place

/-- The tree with a file of the given content; a device keeps nothing of it. -/
def write (tree : FileTree) (path : Path) (content : Bytes) : Except OsError FileTree :=
  (tree.locateOutput path).map fun place =>
    if tree.node? place = some .device then tree else tree.set place (.file content)

def makeDirectory (tree : FileTree) (path : Path) : Except OsError FileTree := do
  let place ← tree.locate path
  if path.endsInDots || (tree.node? place).isSome then throw .exists
  return tree.set place .directory

def remove (tree : FileTree) (path : Path) : Except OsError FileTree := do
  let place ← tree.locate path
  if path.endsInDots then throw .isDirectory
  match tree.node? place with
  | none => throw .notFound
  | some .directory => throw .isDirectory
  | some _ => if path.hasEndSlash then throw .notDirectory else return tree.erase place

/-- The tree in which a file stands at another path, in the place of a file that stood there. -/
def rename (tree : FileTree) (source target : Path) : Except OsError FileTree := do
  let sourcePlace ← tree.locate source
  let targetPlace ← tree.locate target
  if target.endsInDots then throw .busy
  match tree.node? sourcePlace with
  | none => throw .notFound
  | some .directory => throw .isDirectory
  | some node =>
    if target.hasEndSlash then throw .notDirectory
    else if tree.node? targetPlace == some .directory then throw .isDirectory
    else return (tree.erase sourcePlace).set targetPlace node

def readRegular (tree : FileTree) (path : Path) : Except OsError Bytes := do
  match ← tree.node path with
  | .file content => return content
  | .directory | .device => throw .notRegular

/-- The directories above a path, the innermost first, without the root and the working directory. -/
def ancestors : (fuel : Nat) → Path → List Path
  | 0, _ => []
  | fuel + 1, path =>
    match path.parent? with
    | none | some [] => []
    | some parent => if parent.parent?.isNone then [] else parent :: ancestors fuel parent

/-- The tree with a directory, which may be there already. -/
def makeDirectoryUnlessThere (tree : FileTree) (path : Path) : Except OsError FileTree :=
  match tree.makeDirectory path with
  | .ok tree => .ok tree
  | .error e => if e = .exists ∧ tree.hasDirectory path then .ok tree else .error e

/--
The tree with a directory and all directories above it. `paths` is the directory with those above it, innermost first;
the answer has the tree as far as it was made.
-/
def makeChain (tree : FileTree) : (paths : List Path) → FileTree × Option OsError
  | [] => (tree, none)
  | path :: above =>
    match tree.makeDirectoryUnlessThere path with
    | .ok tree => (tree, none)
    | .error .notFound =>
      match makeChain tree above with
      | (tree, some e) => (tree, some e)
      | (tree, none) =>
        match tree.makeDirectoryUnlessThere path with
        | .ok tree => (tree, none)
        | .error e => (tree, some e)
    | .error e => (tree, some e)

/-- The tree with a directory and all directories above it, as far as they can be made. -/
def makeDirectories (tree : FileTree) (path : Path) : FileTree × Option OsError :=
  tree.makeChain (path :: ancestors path.length path)

end FileTree

end LogDiagram
