import LogDiagram.Program
import LogDiagram.Shell.Run

/-!
# The program on a real machine

Everything here only moves data: the files below the working directory and those that the arguments name are read into
a tree, the program runs on the tree, and what differs afterwards is written back.
-/

namespace LogDiagram

/-- The place of an absolute path without dots. -/
def Place.ofPath (path : String) : Place := (Path.names path.toList).reverse

def Place.toPath (place : Place) : String := String.ofList ('/' :: Text.joined ['/'] place.reverse)

/-- The tree with the directories above a place, as far as nothing stands there yet. -/
def FileTree.withAncestors (tree : FileTree) : Place → FileTree
  | [] => tree
  | _ :: above =>
    let tree := tree.withAncestors above
    if (tree.node? above).isSome then tree else tree.set above .directory

/-- The tree with everything that stands at a place and below it. -/
partial def FileTree.readFrom (tree : FileTree) (place : Place) : IO FileTree := do
  let path ← IO.FS.realPath place.toPath
  if ← path.isDir then
    let entries ← path.readDir
    entries.foldlM (fun tree entry => tree.readFrom (entry.fileName.toList :: place)) (tree.set place .directory)
  else
    return tree.set place (.file (← IO.FS.readBinFile path).toList)

def FileTree.readFileAt (tree : FileTree) (path : String) : IO FileTree := do
  try
    let path ← IO.FS.realPath path
    if !(← path.pathExists) || (← path.isDir) then return tree
    let place := Place.ofPath path.toString
    return (tree.withAncestors place).set place (.file (← IO.FS.readBinFile path).toList)
  catch _ => return tree

/-- What differs in a tree is written: first what is gone is removed, then directories are made and files written. -/
def FileTree.writeChanges (before after : FileTree) : IO Unit := do
  for (place, node) in before.entries do
    if (after.node? place).isNone then
      if node = .directory then IO.FS.removeDirAll place.toPath else IO.FS.removeFile place.toPath
  for (place, node) in after.entries do
    if node = .directory ∧ before.node? place ≠ some .directory then IO.FS.createDirAll place.toPath
  for (place, node) in after.entries do
    match node with
    | .file content => if before.node? place ≠ some node then IO.FS.writeBinFile place.toPath ⟨content.toArray⟩
    | .directory | .device => pure ()

/-- The directory in which programs look for the settings of the user. -/
def settingsDirectory : IO Path := do
  match ← IO.getEnv "XDG_CONFIG_HOME" with
  | some path => if Path.isAbsolute path.toList then return path.toList
  | none => pure ()
  let home := (← IO.getEnv "HOME").getD "."
  return Path.join home.toList ".config".toList

def runOnMachine (arguments : List String) : IO UInt32 := do
  let bindings := ((← IO.getEnv "HOME").map fun home => ("HOME".toList, home.toList)).toList
  let environment : Environment := ⟨← settingsDirectory, Shell.machine bindings⟩
  let place := Place.ofPath (← IO.currentDir).toString
  let tree ← ((FileTree.withDevice place).withAncestors place).readFrom place
  let named := String.ofList (Program.defaultSettingsFile environment) :: arguments
  let tree ← named.foldlM FileTree.readFileAt tree
  let run := Program.run environment (arguments.map String.toList) tree
  tree.writeChanges run.tree
  let output ← IO.getStdout
  output.write ⟨run.printed.toArray⟩
  output.flush
  match run.outcome.complaint? with
  | some complaint => IO.eprintln (String.ofList complaint)
  | none => pure ()
  return UInt32.ofNat run.outcome.exitByte

end LogDiagram

/-- Runs the program with the arguments of the command line. -/
def main (arguments : List String) : IO UInt32 := LogDiagram.runOnMachine arguments
