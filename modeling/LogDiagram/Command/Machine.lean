import LogDiagram.Storage.FileTree

/-!
# Running commands

A `Machine` is what runs commands: each command takes a tree of files to the one that it leaves, prints something and
ends with an exit code or by a signal.

* `Machine.runAll` runs commands one after the other up to the first one that fails;
* `Machine.drawPicture` runs the program that draws the picture of a diagram.
-/

namespace LogDiagram

inductive Ending where
  | exited (code : Nat)
  /-- By a signal. -/
  | killed
  deriving DecidableEq, Repr

/-- What a command leaves. -/
structure CommandRun where
  tree : FileTree
  ending : Ending
  printed : Bytes
  deriving DecidableEq, Repr

/-- What runs commands. A command that cannot even be started is refused. -/
structure Machine where
  /-- Runs a command line. -/
  shell : (line : Text) → FileTree → Except OsError CommandRun
  /-- Runs a program with arguments. -/
  launch : (program : Text) → (arguments : List Text) → FileTree → Except OsError CommandRun

/-- Why a command was of no use. -/
inductive CommandError where
  /-- It cannot be started. -/
  | start (command : Text) (cause : OsError)
  /-- It failed with an exit code, or by a signal. -/
  | failed (command : Text) (code : Option Int)
  deriving DecidableEq, Repr

namespace CommandError

def message : CommandError → Text
  | start command cause => "Cannot start '".toList ++ command ++ "': ".toList ++ cause.message
  | failed command (some code) => '\'' :: (command ++ "' failed with exit code ".toList ++ Text.ofInt code)
  | failed command none => '\'' :: (command ++ "' was terminated by a signal".toList)

end CommandError

/-- What several commands leave: the tree, what they printed, and how many ran or why one failed. -/
structure ChainRun (α : Type) where
  tree : FileTree
  printed : Bytes
  result : Except CommandError α

/-- What a command leaves if only its success counts. -/
def finished (label : Text) (tree : FileTree) : Except OsError CommandRun → ChainRun Unit
  | .error cause => ⟨tree, [], .error (.start label cause)⟩
  | .ok ⟨tree, .exited 0, printed⟩ => ⟨tree, printed, .ok ()⟩
  | .ok ⟨tree, .exited code, printed⟩ => ⟨tree, printed, .error (.failed label (some code))⟩
  | .ok ⟨tree, .killed, printed⟩ => ⟨tree, printed, .error (.failed label none)⟩

namespace Machine

/-- Runs a command line. -/
def run (machine : Machine) (line : Text) (tree : FileTree) : ChainRun Unit :=
  finished line tree (machine.shell line tree)

/-- Runs command lines in order up to the first one that fails; `printed` comes before what they print. -/
def runFrom (machine : Machine) (tree : FileTree) (printed : Bytes) (count : Nat) : List Text → ChainRun Nat
  | [] => ⟨tree, printed, .ok count⟩
  | line :: lines =>
    match machine.run line tree with
    | ⟨tree, more, .ok ()⟩ => runFrom machine tree (printed ++ more) (count + 1) lines
    | ⟨tree, more, .error error⟩ => ⟨tree, printed ++ more, .error error⟩

/-- Runs command lines in order up to the first one that fails, and counts them. -/
def runAll (machine : Machine) (lines : List Text) (tree : FileTree) : ChainRun Nat :=
  machine.runFrom tree [] 0 lines

/-- The greatest width and height of the picture of a document of so many lines. -/
def pictureLimit (lineCount : Nat) : Nat := if lineCount < 100 then 32768 else 65536

/-- What the program that draws the picture of a document is told. -/
def pictureArguments (jar document : Path) (lineCount : Nat) : List Text :=
  ["-DPLANTUML_LIMIT_SIZE=".toList ++ Text.ofNat (pictureLimit lineCount), "-jar".toList, jar, "-tpng".toList, document]

/-- Draws the picture of a document of so many lines. -/
def drawPicture (machine : Machine) (java : Text) (jar document : Path) (lineCount : Nat) (tree : FileTree) :
    ChainRun Unit :=
  let arguments := pictureArguments jar document lineCount
  finished (Text.joined [' '] (java :: arguments)) tree (machine.launch java arguments tree)

end Machine

end LogDiagram
