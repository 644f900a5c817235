import LogDiagram.Storage.FileTree

/-!
# Writing files that a job leaves behind

* `FileTree.writeOutput` writes a file and makes the directory around it;
* `FileTree.backup` copies a log unless something stands at the place of the copy;
* `FileTree.replaceContent` replaces the content of a log: the new content is gathered in a file beside it, which then
  takes its place.

Each gives the tree that it leaves, also when it fails. `Faults` are failures that do not come from the tree itself.
-/

namespace LogDiagram

/-- Why a file cannot be written. -/
inductive OutputError where
  | createDirectory (path : Text) (cause : OsError)
  | write (path : Text) (cause : OsError)
  | backup (log copy : Text) (cause : OsError)
  | replace (path : Text) (cause : OsError)
  deriving DecidableEq, Repr

namespace OutputError

def cause : OutputError → OsError
  | createDirectory _ cause | write _ cause | backup _ _ cause | replace _ cause => cause

def message : OutputError → Text
  | createDirectory path cause => "Cannot create directory '".toList ++ path ++ "': ".toList ++ cause.message
  | write path cause => "Cannot write '".toList ++ path ++ "': ".toList ++ cause.message
  | backup log copy cause =>
    "Cannot back up '".toList ++ log ++ "' to '".toList ++ copy ++ "': ".toList ++ cause.message
  | replace path cause => "Cannot rewrite '".toList ++ path ++ "' in place: ".toList ++ cause.message

end OutputError

/-- Failures of the storage that may strike at any time, such as a full disk. -/
structure Faults where
  /-- The copy of a log fails when so many of its bytes are written. -/
  copy : Option (Nat × OsError)
  /-- The file that gathers the new content of a log cannot be created. -/
  create : Option OsError
  /-- Writing the new content of a log fails when so many of its bytes are written. -/
  write : Option (Nat × OsError)
  /-- The file with the new content of a log cannot take its place. -/
  rename : Option OsError
  /-- Writing the document fails when so many of its bytes are written. -/
  document : Option (Nat × OsError)
  deriving DecidableEq, Repr

/-- A storage without failures of its own. -/
def Faults.none : Faults := ⟨.none, .none, .none, .none, .none⟩

namespace FileTree

/-- The tree with the directory around a path. -/
def makeParent (tree : FileTree) (path : Path) : FileTree × Option OutputError :=
  match path.parent? with
  | none | some [] => (tree, none)
  | some parent =>
    if tree.contains parent then (tree, none)
    else
      match tree.makeDirectories parent with
      | (tree, some cause) => (tree, some (.createDirectory parent cause))
      | (tree, none) => (tree, none)

/-- What is written of a content before the storage fails. -/
def writtenUntil (fault : Option (Nat × OsError)) (content : Bytes) : Bytes :=
  match fault with
  | none => content
  | some (size, _) => content.take size

/-- The tree with a file, or with its first bytes only if the storage fails when so many are written. -/
def writeUntil (fault : Option (Nat × OsError)) (tree : FileTree) (path : Path) (content : Bytes) :
    FileTree × Option OsError :=
  match tree.write path (writtenUntil fault content) with
  | .error cause => (tree, some cause)
  | .ok tree => (tree, fault.map (·.2))

/-- The tree with a file and the directory around it. -/
def writeOutput (faults : Faults) (tree : FileTree) (path : Path) (content : Bytes) :
    FileTree × Option OutputError :=
  match tree.makeParent path with
  | (tree, some error) => (tree, some error)
  | (tree, none) =>
    match tree.writeUntil faults.document path content with
    | (tree, some cause) => (tree, some (.write path cause))
    | (tree, none) => (tree, none)

/--
The tree with a copy of a file. The copy is emptied before the file is read, so a file copied onto itself is lost; a
copy that fails leaves what it has written.
-/
def copy (faults : Faults) (tree : FileTree) (source target : Path) : FileTree × Option OsError :=
  match tree.readRegular source with
  | .error cause => (tree, some cause)
  | .ok _ =>
    match tree.write target [] with
    | .error cause => (tree, some cause)
    | .ok opened =>
      match opened.readRegular source with
      | .error cause => (opened, some cause)
      | .ok content => opened.writeUntil faults.copy target content

/-- The tree with a copy of a log, unless something stands at the place of the copy. -/
def backup (faults : Faults) (tree : FileTree) (log copy : Path) : FileTree × Option OutputError :=
  if tree.contains copy then (tree, none)
  else
    match tree.makeParent copy with
    | (tree, some error) => (tree, some error)
    | (tree, none) =>
      match tree.copy faults log copy with
      | (tree, some cause) => (tree, some (.backup log copy cause))
      | (tree, none) => (tree, none)

/-- The tree in which new content took the place of a file, by way of a file beside it. -/
def replaceThrough (faults : Faults) (tree : FileTree) (scratch path : Path) (content : Bytes) :
    FileTree × Option OsError :=
  match faults.create with
  | some cause => (tree, some cause)
  | none =>
    match tree.writeUntil faults.write scratch content with
    | (tree, some cause) => (tree, some cause)
    | (tree, none) =>
      match faults.rename with
      | some cause => (tree, some cause)
      | none =>
        match tree.rename scratch path with
        | .ok tree => (tree, none)
        | .error cause => (tree, some cause)

/-- The tree with new content at a path. After a failure the file beside it is removed. -/
def replaceContent (faults : Faults) (tree : FileTree) (path : Path) (content : Bytes) :
    FileTree × Option OutputError :=
  match tree.replaceThrough faults path.trimPath path content with
  | (tree, none) => (tree, none)
  | (tree, some cause) => ((tree.remove path.trimPath).toOption.getD tree, some (.replace path cause))

end FileTree

end LogDiagram
